import Fieldwork.Text.Blank

/-!
# Columns

What a compiled rule compares and a sort orders by: a column under its physical names, or one entry
of the translations that a row carries.
-/

namespace Fieldwork

/-- Where the translations of a row are kept: a view flattens those of each table into a column
named after it, a table has one column of its own. -/
inductive Payload where
  | flattened (table : String)
  | qualified (table : String)
  deriving DecidableEq, Repr

namespace Payload

/-- The name of the flattened translations of a table. -/
def flatName (table : String) : String :=
  table ++ ".translations"

/-- The column of a fetched row that holds the translations. -/
def rowKey : Payload → String
  | .flattened table => flatName table
  | .qualified _ => "translations"

end Payload

inductive Column where
  | physical (schema table : Option String) (name : String)
  | translated (payload : Payload) (language name : String)
  deriving DecidableEq, Repr

namespace Column

/-- One part of a dotted reference, without the blanks and then the backticks around it. -/
def pathPart (cs : List Char) : String :=
  String.ofList (Text.trimWhere (· = '\x60') (Text.trimWhere Text.isBlank cs))

/-- A dotted reference names a column, its table and its schema from the right; what stands further
to the left is dropped. -/
def ofPath (path : String) : Column :=
  match (path.toList.splitOn '.').reverse.map pathPart with
  | [] => .physical none none ""
  | [name] => .physical none none name
  | [name, table] => .physical none (some table) name
  | name :: table :: schema :: _ => .physical (some schema) (some table) name

end Column

end Fieldwork
