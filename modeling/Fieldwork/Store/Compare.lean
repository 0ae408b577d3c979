import Fieldwork.Json.Printer
import Fieldwork.Text.Lowercase

/-!
# Comparing stored values

Two numbers are compared as doubles; any other pair is compared as text, strings in lower case and
other values as JSON. A missing value and null come first in an order.
-/

namespace Fieldwork

namespace Json

/-- The text that a value is compared by. -/
def comparable : Json → String
  | .string s => Text.lowercase s
  | v => v.text

/-- Equality as a filter sees it: regardless of letter case and of how a number is written. -/
def looselyEqual (a b : Json) : Bool :=
  match a, b with
  | .number x, .number y => x.size == y.size
  | a, b => a.comparable == b.comparable

def order (a b : Json) : Ordering :=
  match a, b with
  | .number x, .number y => compare x.size y.size
  | a, b => compare a.comparable b.comparable

/-- What is there, if it is not null. -/
def present? : Option Json → Option Json
  | some .null | none => none
  | some v => some v

/-- The order of two values of a column, either of which may be missing. -/
def columnOrder (a b : Option Json) : Ordering :=
  match present? a, present? b with
  | none, none => .eq
  | none, some _ => .lt
  | some _, none => .gt
  | some x, some y => x.order y

end Json

namespace Text

def beginsWith (s part : String) : Bool :=
  part.toList.isPrefixOf s.toList

def endsWith (s part : String) : Bool :=
  part.toList.isSuffixOf s.toList

def containsList (cs part : List Char) : Bool :=
  part.isPrefixOf cs || match cs with
    | [] => false
    | _ :: rest => containsList rest part

def contains (s part : String) : Bool :=
  containsList s.toList part.toList

end Text

end Fieldwork
