import Fieldwork.Session
import Fieldwork.Store.Update

/-!
# Storage in memory

Tables kept in memory answer plans and take updates. A number of updates may be set to fail first,
as they do on a table that others have locked.
-/

namespace Fieldwork

/-- Tables in memory. -/
structure Memory where
  tables : Tables
  /-- So many updates will fail before one is tried. -/
  failing : Nat := 0

namespace Memory

def ofTable (name : String) (rows : List Row) : Memory :=
  { tables := [(name, rows)] }

/-- The first row of a table with that uuid. -/
def row? (m : Memory) (table uuid : String) : Option Row := do
  let rows ← Record.get? m.tables table
  rows.find? fun r => (Record.get? r "uuid").bind Json.string? = some uuid

/-- While updates are made to fail, none is tried. -/
def update (u : Update) (m : Memory) : Except Fault Row × Memory :=
  match m.failing with
  | n + 1 =>
    (.error (.transient "Deadlock found when trying to get lock"), { m with failing := n })
  | 0 =>
    match u.run m.tables with
    | .ok (r, tables) => (.ok r, { m with tables })
    | .error fault => (.error fault, m)

/-- A query reads the tables; the scope of a call makes no difference here. -/
def storage : Storage Memory :=
  { select := fun p _ m => (p.run m.tables, m)
    update := fun u _ m => m.update u }

end Memory

end Fieldwork
