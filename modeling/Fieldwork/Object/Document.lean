import Fieldwork.Condition.Document
import Fieldwork.Object.Basic

/-!
# Objects as documents
-/

namespace Fieldwork

open Document

namespace Relation

/-- A relation needs a table and its key; the schema may be missing. -/
def ofDocument? (d : Document) : Option Relation := do
  match ← d.members? [["table"], ["schema"], ["primary_key"]] with
  | [table, schema, primaryKey] =>
    let table ← required string? table
    let schema ← orElse none (nullable string?) schema
    let primaryKey ← required string? primaryKey
    return { table, schema, primaryKey }
  | _ => none

def document (r : Relation) : Document :=
  .object
    [("table", .string r.table), ("schema", ofOption .string r.schema),
     ("primary_key", .string r.primaryKey)]

end Relation

namespace Choice

/-- A choice needs its id and its text. -/
def ofDocument? (d : Document) : Option Choice := do
  match ← d.members? [["id"], ["text"]] with
  | [id, text] =>
    let id ← required string? id
    let text ← required string? text
    return { id, text }
  | _ => none

def document (c : Choice) : Document :=
  .object [("id", .string c.id), ("text", .string c.text)]

end Choice

namespace Field

/-- A field needs its id and its column; the rest may be missing. -/
def ofDocument? (d : Document) : Option Field := do
  match ← d.members? [["id"], ["column_name"], ["schema"], ["table"], ["multilingual"],
      ["relation"], ["options"], ["default"]] with
  | [id, column, schema, table, multilingual, relation, choices, default] =>
    let id ← required string? id
    let column ← required string? column
    let schema ← orElse none (nullable string?) schema
    let table ← orElse none (nullable string?) table
    let multilingual ← orElse false bool? multilingual
    let relation ← orElse none (nullable Relation.ofDocument?) relation
    let choices ← orElse [] (list? Choice.ofDocument?) choices
    let default ← orElse none (nullable json?) default
    return { id, column, schema, table, multilingual, relation, choices, default }
  | _ => none

def document (f : Field) : Document :=
  .object
    [("id", .string f.id), ("column_name", .string f.column),
     ("schema", ofOption .string f.schema), ("table", ofOption .string f.table),
     ("multilingual", .bool f.multilingual), ("relation", ofOption Relation.document f.relation),
     ("options", .array (f.choices.map Choice.document)),
     ("default", ofOption Json.document f.default)]

end Field

namespace Object

/-- An object needs its id, its schema and its table; its key is `uuid` unless it names another. -/
def ofDocument? (d : Document) : Option Object := do
  match ← d.members? [["id"], ["schema"], ["table"], ["view"], ["primary_key"], ["fields"],
      ["where"]] with
  | [id, schema, table, view, primaryKey, fields, condition] =>
    let id ← required string? id
    let schema ← required string? schema
    let table ← required string? table
    let view ← orElse none (nullable string?) view
    let primaryKey ← orElse "uuid" string? primaryKey
    let fields ← orElse [] (list? Field.ofDocument?) fields
    let condition ← orElse none (nullable Condition.ofDocument?) condition
    return { id, schema, table, view, primaryKey, fields, condition }
  | _ => none

def document (o : Object) : Document :=
  .object
    [("id", .string o.id), ("schema", .string o.schema), ("table", .string o.table),
     ("view", ofOption .string o.view), ("primary_key", .string o.primaryKey),
     ("fields", .array (o.fields.map Field.document)),
     ("where", ofOption Condition.document o.condition)]

end Object

end Fieldwork
