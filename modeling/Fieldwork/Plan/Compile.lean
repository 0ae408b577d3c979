import Fieldwork.Condition.Document
import Fieldwork.Event
import Fieldwork.Json.Printer
import Fieldwork.Plan.Basic

/-!
# Compiling queries

Compiling resolves a caller's options against an object. It fails with the first part that cannot
be resolved, condition before sort, and the fault carries the query as far as it had come.
-/

namespace Fieldwork

namespace Options

/-- The condition of the object and that of the caller, or the latter alone. -/
def mergedCondition (options : Options) (o : Object) : Option Condition :=
  Condition.merge (if options.skipExistingConditions then none else o.condition) options.condition

/-- An empty list of columns asks for none in particular. -/
def projection (options : Options) (o : Object) : Projection :=
  match options.columnNames with
  | some (name :: names) =>
    .columns ((name :: names).map fun name =>
      String.ofList (name.toList.filter (· ≠ '\x60')))
  | _ => if options.includeColumns then .all else .columns [o.primaryKey]

end Options

namespace Plan

/-- The condition of the plan, with the bare query as its context. -/
def compileCondition (o : Object) (options : Options) (u : User) :
    Except Fault (Option Predicate) :=
  match options.mergedCondition o with
  | none => .ok none
  | some c =>
    (c.compile o u).mapError (Fault.withSql (Plan.sql { source := o.source }))

def compileTerm (o : Object) (u : User) (entry : SortEntry) : Except Fault SortTerm := do
  let f ← o.field entry.field
  let column ← f.columnOf o u
  return { column, direction := entry.direction }

/-- Adds the sort entries one after another, each with the query so far as its context. -/
def compileSort (o : Object) (u : User) : List SortEntry → Plan → Except Fault Plan
  | [], p => .ok p
  | entry :: rest, p => do
    let term ← (compileTerm o u entry).mapError (Fault.withSql p.sql)
    compileSort o u rest { p with sort := p.sort ++ [term] }

/-- The rows that a query selects and their order. -/
def compileRows (o : Object) (options : Options) (u : User) : Except Fault Plan := do
  let condition ← compileCondition o options u
  compileSort o u options.sort { source := o.source, condition }

/-- The plan of a find. -/
def compile (o : Object) (options : Options) (u : User) : Except Fault Plan := do
  let rows ← compileRows o options u
  return { rows with
    offset := options.offset
    limit := options.limit
    rowNumberSeed := if options.includeRowNumber then some (options.offset.getD 0) else none
    projection := options.projection o }

/-- The plan of the count that goes with a find. -/
def compileCount (o : Object) (options : Options) (u : User) : Except Fault Plan := do
  let rows ← compileRows o options.forCount u
  return { rows with projection := .count }

end Plan

/-! ## Reports -/

/-- A condition that does not compile is reported with the whole of it. -/
def Condition.report (c : Condition) (o : Object) (u : User) : List Event :=
  match c.compile o u with
  | .ok _ => []
  | .error fault =>
    [.conditionFailed fault.message o.id c.document.text (u.username.getD "")
      (u.languageCode.getD "")]

/-- What is reported while a query is compiled. -/
def Options.report (options : Options) (o : Object) (u : User) : List Event :=
  match options.mergedCondition o with
  | none => []
  | some c => c.report o u

end Fieldwork
