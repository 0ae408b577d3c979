import Fieldwork.Decimal.Shortest

/-!
# Writing decimals

A layout says how the digits of a number are set: where positional notation ends, whether a whole
number shows a point, and how an exponent is written.
-/

namespace Fieldwork.Decimal

structure Layout where
  tie : Tie
  /-- The exponents of the leading digit that are written out in places; all of them when absent. -/
  positional : Option (Int × Int)
  /-- A whole number ends in `.0`. -/
  pointZero : Bool
  deriving Repr

def digitsText (n : Nat) : List Char :=
  Nat.toDigits 10 n

def integerText (n : Int) : List Char :=
  if n < 0 then '-' :: digitsText n.natAbs else digitsText n.natAbs

/-- The digits in their places, with a point only where there are places behind it. -/
def placed (digits : List Char) (exponent : Int) : List Char :=
  if 0 ≤ exponent then digits ++ List.replicate exponent.toNat '0'
  else
    let behind := (-exponent).toNat
    if behind < digits.length then
      digits.take (digits.length - behind) ++ '.' :: digits.drop (digits.length - behind)
    else
      ['0', '.'] ++ List.replicate (behind - digits.length) '0' ++ digits

/-- One digit before the point and a signed exponent behind the letter. -/
def scientific (digits : List Char) (leading : Int) : List Char :=
  let mantissa := match digits with
    | [] => []
    | [d] => [d]
    | d :: rest => d :: '.' :: rest
  let sign := if 0 ≤ leading then '+' else '-'
  mantissa ++ 'e' :: sign :: digitsText leading.natAbs

namespace Layout

def magnitude (l : Layout) (d : Scaled) : List Char :=
  let digits := digitsText d.digits
  let leading := d.exponent + digits.length - 1
  let inPlaces := match l.positional with
    | none => true
    | some (least, greatest) => decide (least ≤ leading ∧ leading ≤ greatest)
  if inPlaces then
    placed digits d.exponent ++ (if l.pointZero ∧ 0 ≤ d.exponent then ['.', '0'] else [])
  else scientific digits leading

/-- A sign is kept on zero; what is not a number has none. -/
def text (l : Layout) (x : Float) : List Char :=
  let b := binary x
  let sign := if b.negative then ['-'] else []
  if x.isNaN then "NaN".toList
  else if x.isInf then sign ++ "inf".toList
  else sign ++ l.magnitude (shortest l.tie b)

end Layout

/-- JSON writes the shortest digits, in places from `10 ^ (-5)` up to below `10 ^ 16`, and always
so that the number reads as a real one. -/
def jsonLayout : Layout :=
  { tie := .even, positional := some (-5, 15), pointZero := true }

/-- A plain number has no exponent and no idle point. -/
def plainLayout : Layout :=
  { tie := .up, positional := none, pointZero := false }

end Fieldwork.Decimal
