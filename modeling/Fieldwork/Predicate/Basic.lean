import Fieldwork.Column
import Fieldwork.Object.Basic
import Fieldwork.Options.Basic
import Fieldwork.Text.Uuid

/-!
# Predicates

A predicate is a condition with every key resolved to a column. Compiling drops the parts of a
condition that hold no rule, keeps the order of all others, and fails with the first rule that
cannot be compiled.
-/

namespace Fieldwork

inductive Predicate where
  | rule (column : Column) (operator : Operator) (value : Json)
  /-- The column points at nothing in the target. -/
  | noRelation (column : String) (target : Relation)
  | group (glue : Glue) (members : List Predicate)

/-- The id of the first choice that a text is the id or the text of; other values stand. -/
def Choice.idOf (choices : List Choice) (value : Json) : Json :=
  match value with
  | .string s =>
    match choices.find? fun c => c.id = s ∨ c.text = s with
    | some c => .string c.id
    | none => .string s
  | v => v

/-- The values of a list are taken one by one. -/
def Choice.normalise (choices : List Choice) : Json → Json
  | .array items => .array (items.map (Choice.idOf choices))
  | v => Choice.idOf choices v

namespace Located

/-- The entry of the user's language among the translations of the field's table. -/
def translated (f : Located) (o : Object) (u : User) : Except Fault Column :=
  match u.languageCode with
  | none => .error (.condition (.noLanguage f.id))
  | some language =>
    let payload := if o.isView then .flattened f.table else .qualified f.table
    .ok (.translated payload language f.column)

/-- What stands for the field in a comparison or a sort. -/
def columnOf (f : Located) (o : Object) (u : User) : Except Fault Column :=
  if f.multilingual then f.translated o u
  else .ok (.physical (some f.schema) (some f.table) f.column)

end Located

namespace Rule

/-- A key that is no field id is a column reference as it stands. -/
def compile (o : Object) (u : User) (r : Rule) : Except Fault Predicate :=
  if Text.isUuid r.key then do
    let f ← o.field r.key
    if r.operator = .haveNoRelation then
      match f.relation with
      | some target => return .noRelation f.column target
      | none => throw (.condition (.notRelation f.id))
    else
      let column ← f.columnOf o u
      let value := if f.choices.isEmpty then r.value else Choice.normalise f.choices r.value
      return .rule column r.operator value
  else return .rule (.ofPath r.key) r.operator r.value

end Rule

namespace Condition

mutual

/-- Nothing is left of a condition without rules. -/
def compile (o : Object) (u : User) : Condition → Except Fault (Option Predicate)
  | .rule r => do return some (← r.compile o u)
  | .group glue members => do
    match ← compileAll o u members with
    | [] => return none
    | kept => return some (.group glue kept)

def compileAll (o : Object) (u : User) : List Condition → Except Fault (List Predicate)
  | [] => return []
  | c :: cs => do
    let p ← compile o u c
    let ps ← compileAll o u cs
    return p.toList ++ ps

end

end Condition

end Fieldwork
