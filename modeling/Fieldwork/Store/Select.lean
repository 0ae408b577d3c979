import Fieldwork.Json.Reader
import Fieldwork.Plan.Basic
import Fieldwork.Store.Compare

/-!
# Plans over rows in memory

The answer of a plan on tables of rows: the rows that satisfy its predicate, in its order, cut to
its page, numbered and reduced to its columns.
-/

namespace Fieldwork

/-- The rows of each table by its name. -/
abbrev Tables := Record (List Row)

/-! ## Columns of a row -/

/-- The translations in a row, where they are a list or the JSON text of one. -/
def Payload.records? (payload : Payload) (r : Row) : Option (List Json) :=
  match Record.get? r payload.rowKey with
  | some (.string raw) => (Json.ofText? raw).bind Json.array?
  | some v => v.array?
  | none => none

/-- A flattened column may be named after its table. -/
def Column.value? (c : Column) (r : Row) : Option Json :=
  match c with
  | .physical _ table name =>
    match Record.get? r name, table with
    | some v, _ => some v
    | none, some t => Record.get? r (t ++ "." ++ name)
    | none, none => none
  | .translated payload language name => do
    let records ← payload.records? r
    let record ← records.find? fun t => (t.get? "language_code").bind Json.string? = some language
    record.get? name

/-! ## Predicates on a row -/

/-- The values that a rule lists; any other value is a list of one. -/
def Json.listed : Json → List Json
  | .array items => items
  | v => [v]

/-- Whether a value that is there satisfies a rule with the given operator and operand. -/
def Operator.accepts (operator : Operator) (v operand : Json) : Bool :=
  match operator with
  | .isNull | .haveNoRelation => false
  | .isNotNull => true
  | .isEmpty => v == .string ""
  | .isNotEmpty => !(v == .string "")
  | .equals => v.looselyEqual operand
  | .notEqual => !v.looselyEqual operand
  | .contains => Text.contains v.comparable operand.comparable
  | .notContains => !Text.contains v.comparable operand.comparable
  | .beginsWith => Text.beginsWith v.comparable operand.comparable
  | .endsWith => Text.endsWith v.comparable operand.comparable
  | .less => Json.columnOrder (some v) (some operand) == .lt
  | .greater => Json.columnOrder (some v) (some operand) == .gt
  | .lessOrEqual => Json.columnOrder (some v) (some operand) != .gt
  | .greaterOrEqual => Json.columnOrder (some v) (some operand) != .lt
  | .isIn => operand.listed.any v.looselyEqual
  | .isNotIn => !operand.listed.any v.looselyEqual

/-- Whether a value that is missing or null satisfies a rule. -/
def Operator.acceptsAbsence : Operator → Bool
  | .isNull | .haveNoRelation | .isEmpty => true
  | _ => false

/-- The value is the primary key of no row of the target. -/
def Relation.misses (target : Relation) (tables : Tables) (v : Json) : Bool :=
  match Record.get? tables target.table with
  | none => true
  | some rows => !rows.any fun r =>
    match Record.get? r target.primaryKey with
    | some key => key == v
    | none => false

namespace Predicate

mutual

def holds (tables : Tables) (r : Row) : Predicate → Bool
  | .rule column operator operand =>
    match Json.present? (column.value? r) with
    | some v => operator.accepts v operand
    | none => operator.acceptsAbsence
  | .noRelation column target =>
    match Json.present? (Record.get? r column) with
    | some v => target.misses tables v
    | none => true
  | .group .and members => holdsAll tables r members
  | .group .or members => holdsAny tables r members

def holdsAll (tables : Tables) (r : Row) : List Predicate → Bool
  | [] => true
  | p :: ps => holds tables r p && holdsAll tables r ps

def holdsAny (tables : Tables) (r : Row) : List Predicate → Bool
  | [] => false
  | p :: ps => holds tables r p || holdsAny tables r ps

end

end Predicate

/-! ## Order -/

def SortTerm.order (term : SortTerm) (a b : Row) : Ordering :=
  let o := Json.columnOrder (term.column.value? a) (term.column.value? b)
  match term.direction with
  | .ascending => o
  | .descending => o.swap

/-- The first term that tells the rows apart decides. -/
def rowOrder (terms : List SortTerm) (a b : Row) : Ordering :=
  match terms with
  | [] => .eq
  | term :: rest => (term.order a b).then (rowOrder rest a b)

section Sorting

variable {α : Type} (order : α → α → Ordering)

/-- Puts a value behind the last one that it is not less than; `sorted` starts with the greatest. -/
def insertFromEnd (a : α) : List α → List α
  | [] => [a]
  | b :: sorted => if order a b = .lt then b :: insertFromEnd a sorted else a :: b :: sorted

/-- Sorts by insertion from the left; equal values keep their order. -/
def sortByInsertion (as : List α) : List α :=
  (as.foldl (fun sorted a => insertFromEnd order a sorted) []).reverse

end Sorting

/-! ## Pages and columns -/

namespace Projection

/-- The columns of a row that a projection keeps. -/
def apply (p : Projection) (r : Row) : Row :=
  match p with
  | .columns names =>
    Record.ofList (names.filterMap fun name => (Record.get? r name).map fun v => (name, v))
  | .all | .count => r

end Projection

namespace Plan

def matched (p : Plan) (tables : Tables) (rows : List Row) : List Row :=
  rows.filter fun r => p.condition.all (Predicate.holds tables r)

def sorted (p : Plan) (rows : List Row) : List Row :=
  sortByInsertion (rowOrder p.sort) rows

def page (p : Plan) (rows : List Row) : List Row :=
  let rest := rows.drop (p.offset.getD 0).toNat
  match p.limit with
  | some limit => rest.take limit.toNat
  | none => rest

/-- The number of the row at that place of the page, counted in words from the seed. -/
def rowNumber (seed : UInt64) (i : Nat) : UInt64 :=
  seed + UInt64.ofNat i + 1

/-- The row at that place of the page, numbered from the seed. -/
def numbered (p : Plan) (i : Nat) (r : Row) : Row :=
  match p.rowNumberSeed with
  | some seed => Record.insert "id" (.ofNat (rowNumber seed i).toNat) r
  | none => r

def answer (p : Plan) (tables : Tables) (rows : List Row) : List Row :=
  let found := p.sorted (p.matched tables rows)
  if p.projection = .count then [[(countColumn, .ofNat found.length)]]
  else (p.page found).mapIdx fun i r => p.projection.apply (p.numbered i r)

def run (p : Plan) (tables : Tables) : Except Fault (List Row) :=
  match Record.get? tables p.source with
  | some rows => .ok (p.answer tables rows)
  | none => .error (.failed ("Table '" ++ p.source ++ "' doesn't exist"))

end Plan

end Fieldwork
