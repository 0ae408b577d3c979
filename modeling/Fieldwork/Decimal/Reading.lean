import Fieldwork.Json.Value

/-!
# Reading decimals

A number is read in two rounded steps: its digits to the nearest double, then one product or
quotient with a power of ten. Digits are taken up as long as they stay below `2 ^ 64`; what comes
after them counts only as places.
-/

namespace Fieldwork.Decimal

/-- A number as it is written: the digits before and behind the point and the exponent. -/
structure Numeral where
  negative : Bool
  whole : List Nat
  fraction : Option (List Nat)
  exponent : Option Int
  deriving Repr

/-- Takes up digits while the result stays below `2 ^ 64`, and counts those taken. -/
def takeDigits (start : Nat) : List Nat → Nat × Nat
  | [] => (start, 0)
  | d :: rest =>
    if start * 10 + d < UInt64.size then
      let (n, taken) := takeDigits (start * 10 + d) rest
      (n, taken + 1)
    else (start, 0)

/-- `significand · 10 ^ exponent`, unless it is out of range. Two quotients by `10 ^ 308` bring any
significand to zero, so no more than two are taken. -/
def scale? (significand : Nat) (exponent : Int) : Option Float :=
  let f := Float.ofNat significand
  if 0 ≤ exponent then
    if exponent ≤ 308 then
      let product := f * tenTo exponent.toNat
      if product.isInf then none else some product
    else if significand = 0 then some f
    else none
  else
    let places := exponent.natAbs
    if places ≤ 308 then some (f / tenTo places)
    else
      let lowered := Nat.repeat (· / tenTo 308) (min (places / 308) 2) f
      some (lowered / tenTo (places % 308))

/-- The value of a numeral: an integer when it is written as one and fits, else a double. Minus zero
is a double. -/
def Numeral.number? (n : Numeral) : Option Number :=
  let (whole, taken) := takeDigits 0 n.whole
  let beyond := n.whole.length - taken
  let signed (x : Float) : Number := .real (if n.negative then -x else x)
  match n.fraction, n.exponent, beyond with
  | none, none, 0 =>
    if n.negative then
      if 0 < whole ∧ whole ≤ Nat.pow 2 63 then some (.integer (-whole))
      else some (signed (.ofNat whole))
    else some (.integer whole)
  | fraction, exponent, _ =>
    let (significand, places) := takeDigits whole (fraction.getD [])
    (scale? significand ((beyond : Int) - places + exponent.getD 0)).map signed

end Fieldwork.Decimal
