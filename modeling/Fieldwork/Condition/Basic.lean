import Fieldwork.Json.Value

/-!
# Conditions

A condition is what a caller filters by: a rule on one key, or a group of conditions joined by one
glue. A key is the id of a field or a column reference as it stands.
-/

namespace Fieldwork

inductive Glue where
  | and
  | or
  deriving DecidableEq, Repr

inductive Operator where
  | equals
  | notEqual
  | contains
  | notContains
  | beginsWith
  | endsWith
  | less
  | greater
  | lessOrEqual
  | greaterOrEqual
  | isEmpty
  | isNotEmpty
  | isNull
  | isNotNull
  | isIn
  | isNotIn
  | haveNoRelation
  deriving DecidableEq, Repr

structure Rule where
  key : String
  operator : Operator
  value : Json

inductive Condition where
  | rule (r : Rule)
  | group (glue : Glue) (members : List Condition)

namespace Condition

instance : Inhabited Condition := ⟨.group .and []⟩

/-- A group without members places no constraint. -/
def isEmpty : Condition → Bool
  | .group _ [] => true
  | _ => false

/-- Both conditions where both constrain, and otherwise the one that does. -/
def merge (base caller : Option Condition) : Option Condition :=
  match base.filter (!·.isEmpty), caller.filter (!·.isEmpty) with
  | some b, some c => some (.group .and [b, c])
  | some only, none | none, some only => some only
  | none, none => none

/-- The rule that the key is one of the values. -/
def oneOf (key : String) (values : List String) : Condition :=
  .rule ⟨key, .isIn, .array (values.map .string)⟩

end Condition

end Fieldwork
