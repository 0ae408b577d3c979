import Fieldwork.Decimal.Double

/-!
# The shortest decimal of a double

A double stands for every real number that rounds to it: an interval around its value, closed when
its significand is even. Of all decimals in that interval the shortest is wanted, and of those of
equal length the nearest to the value. On the grid of decimals with a given last place only the two
neighbours of the value can be nearest, so it is enough to try them, place by place.
-/

namespace Fieldwork.Decimal

/-- What becomes of a value halfway between two neighbours. -/
inductive Tie where
  | even
  | up
  deriving DecidableEq, Repr

/-- The decimal `digits · 10 ^ exponent`. -/
structure Scaled where
  digits : Nat
  exponent : Int
  deriving DecidableEq, Repr

/-- A positive value and the bounds of what rounds to it, in units of `num / den`. -/
structure Interval where
  num : Nat
  den : Nat
  low : Nat
  value : Nat
  high : Nat
  closed : Bool

/-- Quarters of the gap above serve as the unit: the gap below a power of two is half as wide. -/
def Interval.of (b : Binary) : Interval :=
  let unit := b.exponent - 2
  { num := Nat.pow 2 unit.toNat
    den := Nat.pow 2 (-unit).toNat
    low := 4 * b.significand - (if b.significand = Nat.pow 2 52 ∧ -1074 < b.exponent then 1 else 2)
    value := 4 * b.significand
    high := 4 * b.significand + 2
    closed := b.significand % 2 = 0 }

/-- The `k` with `10 ^ (k - 1) ≤ num / den < 10 ^ k`, for values a double can have. -/
def leadingPlace (num den : Nat) : Int :=
  if den ≤ num then (Nat.toDigits 10 (num / den)).length
  else match (List.range 330).find? fun j => decide (den ≤ num * Nat.pow 10 (j + 1)) with
    | some j => -(j : Int)
    | none => 0

namespace Interval

/-- The multiple of `10 ^ place` in the interval that is nearest to the value, if there is one. -/
def nearest? (i : Interval) (tie : Tie) (place : Int) : Option Nat :=
  let scale := i.num * Nat.pow 10 (-place).toNat
  let step := i.den * Nat.pow 10 place.toNat
  let below := i.value * scale / step
  let inside (c : Nat) : Bool :=
    if i.closed then i.low * scale ≤ c * step ∧ c * step ≤ i.high * scale
    else i.low * scale < c * step ∧ c * step < i.high * scale
  let down := i.value * scale - below * step
  let up := (below + 1) * step - i.value * scale
  let preferUp := up < down ∨ (up = down ∧ (tie = .up ∨ below % 2 = 1))
  match inside below, inside (below + 1) with
  | true, true => some (if preferUp then below + 1 else below)
  | true, false => some below
  | false, true => some (below + 1)
  | false, false => none

end Interval

/-- Moves trailing zeros of the digits into the exponent, `fuel` of them at most. -/
def Scaled.trim (d : Scaled) : Nat → Scaled
  | 0 => d
  | fuel + 1 =>
    if d.digits ≠ 0 ∧ d.digits % 10 = 0 then
      Scaled.trim ⟨d.digits / 10, d.exponent + 1⟩ fuel
    else d

/-- Seventeen digits always suffice; the value itself is the answer of last resort. -/
def shortest (tie : Tie) (b : Binary) : Scaled :=
  if b.significand = 0 then ⟨0, 0⟩
  else
    let i := Interval.of b
    let top := leadingPlace (i.value * i.num) i.den
    let found := (List.range 17).findSome? fun (n : Nat) =>
      let place := top - (n + 1)
      (i.nearest? tie place).map fun digits => Scaled.mk digits place
    (found.getD ⟨i.value * i.num / i.den, 0⟩).trim 20

end Fieldwork.Decimal
