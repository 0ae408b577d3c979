import Fieldwork.Condition.Basic
import Fieldwork.Fault

/-!
# Objects

An object is a table, or a view of one, whose fields are known by id. It may be defined with a
condition of its own.
-/

namespace Fieldwork

/-- The object that a field links to. -/
structure Relation where
  table : String
  schema : Option String
  primaryKey : String
  deriving DecidableEq, Repr

/-- One choice of an enumerated field. -/
structure Choice where
  id : String
  text : String
  deriving DecidableEq, Repr

/-- A field; its schema and table are given where it comes from another object. -/
structure Field where
  id : String
  column : String
  schema : Option String
  table : Option String
  multilingual : Bool
  relation : Option Relation
  choices : List Choice
  default : Option Json

/-- A field with its place determined. -/
structure Located where
  id : String
  schema : String
  table : String
  column : String
  multilingual : Bool
  relation : Option Relation
  choices : List Choice
  deriving DecidableEq, Repr

structure Object where
  id : String
  schema : String
  table : String
  view : Option String
  primaryKey : String
  fields : List Field
  condition : Option Condition

namespace Object

/-- The table or view that the object is queried from. -/
def source (o : Object) : String :=
  o.view.getD o.table

def isView (o : Object) : Bool :=
  o.view.isSome

def locate (o : Object) (f : Field) : Located :=
  { id := f.id
    schema := f.schema.getD o.schema
    table := f.table.getD o.table
    column := f.column
    multilingual := f.multilingual
    relation := f.relation
    choices := f.choices }

/-- The first field of that id, in its place. -/
def field? (o : Object) (id : String) : Option Located :=
  (o.fields.find? fun f => f.id = id).map o.locate

def field (o : Object) (id : String) : Except Fault Located :=
  match o.field? id with
  | some f => .ok f
  | none => .error (.unknownField o.id id)

/-- The value to write for a column: null gives way to the default of its field. A column that is
neither a field's nor the primary key is not written. -/
def writtenValue? (o : Object) (column : String) (value : Json) : Option Json :=
  match o.fields.find? fun f => f.column = column with
  | some f => some (if value.isNull then f.default.getD value else value)
  | none => if column = o.primaryKey then some value else none

/-- The values of an update as they are written. -/
def normalise (o : Object) (values : Row) : Row :=
  Record.ofList <| values.filterMap fun (column, value) =>
    (o.writtenValue? column value).map fun value => (column, value)

end Object

end Fieldwork
