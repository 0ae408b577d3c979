/-!
# Doubles as exact numbers

A finite double is a signed integer multiple of a power of two. Comparison and decimal text go
through that exact value, so they need no rounding of their own.
-/

namespace Fieldwork.Decimal

/-- A finite double is `± significand · 2 ^ exponent`. -/
structure Binary where
  negative : Bool
  significand : Nat
  exponent : Int
  deriving DecidableEq, Repr

/-- The fields of the interchange format: below the least exponent no leading bit is implied. -/
def binary (x : Float) : Binary :=
  let bits : Nat := x.toBits.toNat
  let exponent : Nat := bits / Nat.pow 2 52 % Nat.pow 2 11
  let fraction : Nat := bits % Nat.pow 2 52
  { negative := Nat.pow 2 63 ≤ bits
    significand := if exponent = 0 then fraction else fraction + Nat.pow 2 52
    exponent := if exponent = 0 then -1074 else (exponent : Int) - 1075 }

/-- The value of a finite double as a multiple of the least positive one, `2 ^ (-1074)`. -/
def ulps (x : Float) : Int :=
  let b := binary x
  let size : Int := (b.significand * Nat.pow 2 (b.exponent + 1074).toNat : Nat)
  if b.negative then -size else size

/-- The power of ten nearest to `10 ^ n`. -/
def tenTo (n : Nat) : Float :=
  Float.ofScientific 1 false n

end Fieldwork.Decimal
