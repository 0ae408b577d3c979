import Fieldwork.Options.Basic
import Fieldwork.Sql.Expression

/-!
# SQL statements

A query selects from tables, or from derived tables: the rows of an inner query and a counter to
number them by.
-/

namespace Fieldwork.Sql

/-- What a query selects. -/
inductive Item where
  | all
  | allOf (source : String)
  | column (name : String)
  | scalar (e : Scalar)
  /-- The number of rows, under a name. -/
  | count (label : String)
  /-- A variable raised by one for each row, under a name. -/
  | advance (counter label : String)

/-- A query over sources of one kind; clauses that are absent are not written. -/
structure Select (source : Type) where
  items : List Item
  sources : List source := []
  filter : Option Test := none
  order : List (Scalar × Direction) := []
  limit : Option UInt64 := none
  offset : Option UInt64 := none

/-- A table under its qualified name. -/
abbrev Table := List String

/-- A table that is computed, under a name. -/
inductive Derived where
  | rows (inner : Select Table) (label : String)
  /-- A variable set to the number that counting goes on from. -/
  | counter (name : String) (seed : UInt64) (label : String)

/-- A query on stored tables, or on computed ones. -/
inductive Query where
  | plain (s : Select Table)
  | derived (s : Select Derived)

/-- A write to the row with a key. -/
structure Update where
  table : String
  assignments : List (String × Literal)
  key : String
  id : Literal

/-! ## Tokens -/

/-- A number of rows. -/
def natToken (n : Nat) : Token :=
  .number (.integer n)

def labelled (label : String) : List Token :=
  [.blank, .word "AS", .blank, .name label]

def Item.tokens : Item → List Token
  | .all => [.mark "*"]
  | .allOf source => [.name source, .mark ".", .mark "*"]
  | .column name => [.name name]
  | .scalar e => e.tokens
  | .count label => .word "COUNT" :: parenthesised [.mark "*"] ++ labelled label
  | .advance counter label =>
    [.word counter, .blank, .mark ":=", .blank, .word counter, .blank, .mark "+", .blank,
     natToken 1] ++ labelled label

def directionWord : Direction → String
  | .ascending => "ASC"
  | .descending => "DESC"

/-- A clause behind its keywords, when it is there. -/
def clause (keywords : List Token) : Option (List Token) → List Token
  | none => []
  | some body => .blank :: keywords ++ .blank :: body

/-- Parts between commas, if there are any. -/
def list? {α : Type} (render : α → List Token) (parts : List α) : Option (List Token) :=
  if parts.isEmpty then none else some (commaSeparated (parts.map render))

def orderTokens (term : Scalar × Direction) : List Token :=
  term.1.tokens ++ [.blank, .word (directionWord term.2)]

/-- The clauses stand in the order that the grammar asks for, each if it is there. -/
def Select.tokens {source : Type} (sourceTokens : source → List Token) (s : Select source) :
    List Token :=
  [.word "SELECT", .blank] ++ commaSeparated (s.items.map Item.tokens) ++
  clause [.word "FROM"] (list? sourceTokens s.sources) ++
  clause [.word "WHERE"] (s.filter.map Test.tokens) ++
  clause [.word "ORDER", .blank, .word "BY"] (list? orderTokens s.order) ++
  clause [.word "LIMIT"] (s.limit.map fun n => [natToken n.toNat]) ++
  clause [.word "OFFSET"] (s.offset.map fun n => [natToken n.toNat])

def Derived.tokens : Derived → List Token
  | .rows inner label => parenthesised (inner.tokens pathTokens) ++ labelled label
  | .counter name seed label =>
    parenthesised [.word "SELECT", .blank, .word name, .blank, .mark ":=", .blank,
      natToken seed.toNat] ++ labelled label

def Query.tokens : Query → List Token
  | .plain s => s.tokens pathTokens
  | .derived s => s.tokens Derived.tokens

/-- **The text of a query.** -/
def Query.text (q : Query) : String :=
  textOf q.tokens

/-- A column and its value, as in an assignment and in the condition on a key. -/
def assignmentTokens (column : String) (value : Literal) : List Token :=
  [.name column, .blank, .mark "=", .blank] ++ value.tokens

def Update.tokens (u : Update) : List Token :=
  [.word "UPDATE", .blank, .name u.table, .blank, .word "SET", .blank] ++
  commaSeparated (u.assignments.map fun (column, value) => assignmentTokens column value) ++
  [.blank, .word "WHERE", .blank] ++ assignmentTokens u.key u.id

/-- **The text of an update.** -/
def Update.text (u : Update) : String :=
  textOf u.tokens

end Fieldwork.Sql
