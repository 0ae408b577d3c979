import Fieldwork.Store.Select

/-!
# Updates of rows in memory

An update overlays its values onto the first row that has its id under the primary key, and gives
that row as written.
-/

namespace Fieldwork.Update

/-- The row has the id of the update. -/
def targets (u : Update) (r : Row) : Bool :=
  match Record.get? r u.primaryKey with
  | some v => v == u.id
  | none => false

/-- The rows after the update together with the row it wrote, if it found one. -/
def writeFirst? (u : Update) : List Row → Option (Row × List Row)
  | [] => none
  | r :: rows =>
    if u.targets r then
      let written := Record.overlay r u.values
      some (written, written :: rows)
    else (u.writeFirst? rows).map fun (written, rows) => (written, r :: rows)

/-- The row as written and the tables after the update. -/
def run (u : Update) (tables : Tables) : Except Fault (Row × Tables) :=
  match Record.get? tables u.table with
  | none => .error (.failed ("Table '" ++ u.table ++ "' doesn't exist"))
  | some rows =>
    match u.writeFirst? rows with
    | none => .error (.failed ("no row " ++ u.id.text ++ " in " ++ u.table))
    | some (written, rows) => .ok (written, Record.insert u.table rows tables)

end Fieldwork.Update
