import Fieldwork.Condition.Basic

/-!
# Query options

What a caller asks of a query, and the user on whose behalf it runs.
-/

namespace Fieldwork

inductive Direction where
  | ascending
  | descending
  deriving DecidableEq, Repr

/-- One sort entry: a field by id and a direction. -/
structure SortEntry where
  field : String
  direction : Direction
  deriving DecidableEq, Repr

structure Options where
  condition : Option Condition := none
  sort : List SortEntry := []
  offset : Option UInt64 := none
  limit : Option UInt64 := none
  columnNames : Option (List String) := none
  includeRowNumber : Bool := true
  includeColumns : Bool := true
  mergeTranslations : Bool := true
  /-- Leave out the condition the object is defined with. -/
  skipExistingConditions : Bool := false

/-- The options of the count that goes with a query: the same condition and nothing else. -/
def Options.forCount (o : Options) : Options :=
  { condition := o.condition
    includeRowNumber := false
    includeColumns := false
    mergeTranslations := false
    skipExistingConditions := o.skipExistingConditions }

structure User where
  username : Option String := none
  languageCode : Option String := none
  deriving DecidableEq, Repr

end Fieldwork
