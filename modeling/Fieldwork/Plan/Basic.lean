import Fieldwork.Predicate.Sql
import Fieldwork.Sql.Statement

/-!
# Query plans

A plan says what a query returns, without saying how; it determines both the SQL text of the query
and its answer on rows kept in memory. An update names the one row to write and the values for it.
-/

namespace Fieldwork

inductive Projection where
  | all
  | columns (names : List String)
  | count
  deriving DecidableEq, Repr

structure SortTerm where
  column : Column
  direction : Direction
  deriving DecidableEq, Repr

structure Plan where
  source : String
  condition : Option Predicate := none
  sort : List SortTerm := []
  offset : Option UInt64 := none
  limit : Option UInt64 := none
  /-- Rows are numbered from the value after this one, when it is given. -/
  rowNumberSeed : Option UInt64 := none
  projection : Projection := .all

/-- The column that holds the answer of a count. -/
def countColumn : String := "count"

/-- The update of one row, found by its primary key. -/
structure Update where
  table : String
  primaryKey : String
  id : Json
  values : Row

/-! ## SQL -/

namespace Plan

/-- The greatest number of rows. It stands for a missing limit where the order or the offset of a
derived table would be lost without one. -/
def unbounded : UInt64 := UInt64.ofNat (UInt64.size - 1)

def limitClause (p : Plan) : Option UInt64 :=
  match p.limit with
  | some limit => some limit
  | none =>
    if p.rowNumberSeed.isSome ∧ (!p.sort.isEmpty ∨ p.offset.isSome) then some unbounded else none

def items (p : Plan) : List Sql.Item :=
  match p.projection with
  | .all =>
    if p.rowNumberSeed.isSome then [.advance "@rownum" "id", .allOf "result"] else [.all]
  | .columns names => names.map .column
  | .count => [.count countColumn]

/-- The selection of the rows, with the given items. -/
def selection (p : Plan) (items : List Sql.Item) : Sql.Select Sql.Table :=
  { items
    sources := [[p.source]]
    filter := p.condition.map Predicate.test
    order := p.sort.map fun term => (term.column.scalar, term.direction)
    limit := p.limitClause
    offset := p.offset }

/-- Numbered rows are selected from the rows of the query and a counter. -/
def query (p : Plan) : Sql.Query :=
  match p.rowNumberSeed with
  | none => .plain (p.selection p.items)
  | some seed =>
    .derived
      { items := p.items
        sources := [.rows (p.selection [.all]) "result", .counter "@rownum" seed "rownum"] }

def sql (p : Plan) : String :=
  p.query.text

end Plan

namespace Update

def statement (u : Update) : Sql.Update :=
  { table := u.table
    assignments := u.values.map fun (column, value) => (column, .ofJson value)
    key := u.primaryKey
    id := .ofJson u.id }

def sql (u : Update) : String :=
  u.statement.text

end Update

def Object.update (o : Object) (id : Json) (values : Row) : Update :=
  { table := o.table, primaryKey := o.primaryKey, id, values }

end Fieldwork
