import Fieldwork.Record
import Fieldwork.Decimal.Double

/-!
# JSON values

Values are compared by kind as well as by content: the integer `1` is not the real `1.0`, while the
two real zeros are equal. Objects are records, so the order and repetition of names in a text are
not part of the value.
-/

namespace Fieldwork

/-- A number is an integer or a double, as it was written. -/
inductive Number where
  | integer (n : Int)
  | real (x : Float)
  deriving DecidableEq

namespace Number

/-- Equal kind and equal value; the zeros of either sign are one value. -/
def same : Number → Number → Bool
  | .integer a, .integer b => a == b
  | .real a, .real b => Decimal.ulps a == Decimal.ulps b
  | _, _ => false

def toFloat : Number → Float
  | .integer n => Float.ofInt n
  | .real x => x

/-- The number as a double, exactly: integers beyond the precision of a double are rounded first. -/
def size (n : Number) : Int :=
  Decimal.ulps n.toFloat

def toNat? : Number → Option Nat
  | .integer n => n.toNat?
  | .real _ => none

end Number

inductive Json where
  | null
  | bool (b : Bool)
  | number (n : Number)
  | string (s : String)
  | array (items : List Json)
  | object (members : List (String × Json))

/-- A fetched or written row: values by column name. -/
abbrev Row := Record Json

namespace Json

instance : Inhabited Json := ⟨.null⟩

mutual

def same : Json → Json → Bool
  | .null, .null => true
  | .bool a, .bool b => a == b
  | .number a, .number b => a.same b
  | .string a, .string b => a == b
  | .array a, .array b => sameItems a b
  | .object a, .object b => sameMembers a b
  | _, _ => false

def sameItems : List Json → List Json → Bool
  | [], [] => true
  | a :: as, b :: bs => same a b && sameItems as bs
  | _, _ => false

def sameMembers : List (String × Json) → List (String × Json) → Bool
  | [], [] => true
  | (n, a) :: as, (m, b) :: bs => n == m && same a b && sameMembers as bs
  | _, _ => false

end

instance : BEq Json := ⟨same⟩

def ofNat (n : Nat) : Json := .number (.integer n)

def isNull : Json → Bool
  | .null => true
  | _ => false

/-- The member of that name, when the value is an object that has one. -/
def get? : Json → String → Option Json
  | .object members, name => Record.get? members name
  | _, _ => none

def string? : Json → Option String
  | .string s => some s
  | _ => none

def array? : Json → Option (List Json)
  | .array items => some items
  | _ => none

def number? : Json → Option Number
  | .number n => some n
  | _ => none

end Json

end Fieldwork
