import Fieldwork.Chain.Basic
import Fieldwork.Model

/-!
# Row updates

The operation that writes configured values to the current row, repeating the write where it fails
for a while, and then announces it and waits for the reply. The reply is the row of the next
context. The write stands even if the announcement fails.
-/

namespace Fieldwork

/-- The value to store in a field. -/
structure Assignment where
  field : String
  value : Json

structure RowUpdate where
  assignments : List Assignment

namespace RowUpdate

def label : String := "row_update"

/-- The columns that the fields resolve to; of several values for a column the last one counts. -/
def columnValues (o : Object) : List Assignment → Row → Except Fault Row
  | [], values => .ok values
  | a :: rest, values => do
    let f ← o.field a.field
    columnValues o rest (Record.insert f.column a.value values)

/-- The primary key of the current row. -/
def keyOf (o : Object) (data : Row) : Except Fault Json :=
  match Record.get? data o.primaryKey with
  | some .null | none =>
    .error (.failed ("current row of \x60" ++ o.id ++ "\x60 has no \x60" ++ o.primaryKey
      ++ "\x60 value"))
  | some id => .ok id

def announcement (o : Object) (id : Json) (values : Row) : Json :=
  .object (Record.ofList
    [("objectID", .string o.id), ("ID", id), ("values", .object values)])

variable {σ β : Type}

def perform (u : RowUpdate) (current : Active) (env : Surroundings σ β) :
    Program σ β Context := do
  let next := current.context.successor label
  if u.assignments.isEmpty then return next
  let o := current.object
  let values ← Program.ofExcept (columnValues o u.assignments [])
  let id ← Program.ofExcept (keyOf o current.data)
  let values := o.normalise values
  let r := env.request
  let _ ← r.policy.run label (o.updateRow r.storage id values env.scope)
  match ← r.send r.topic (announcement o id values) with
  | .object updated => return next.withData updated
  | reply => throw (.notification r.topic ("expected the updated row, got " ++ reply.text))

def operation (u : RowUpdate) : Operation σ β :=
  { label, perform := u.perform }

/-! ## As a document -/

open Document

def assignmentOf? (d : Document) : Option Assignment := do
  match ← d.members? [["fieldId"], ["value"]] with
  | [field, value] =>
    let field ← required string? field
    let value ← required json? value
    return { field, value }
  | _ => none

def ofDocument? (d : Document) : Option RowUpdate := do
  match ← d.members? [["values"]] with
  | [assignments] =>
    let assignments ← orElse [] (list? assignmentOf?) assignments
    return { assignments }
  | _ => none

def document (u : RowUpdate) : Document :=
  .object
    [("values", .array (u.assignments.map fun a =>
      .object [("fieldId", .string a.field), ("value", a.value.document)]))]

end RowUpdate

end Fieldwork
