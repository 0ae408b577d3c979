import Fieldwork.Chain.Basic
import Fieldwork.Object.Document

/-!
# Configuration

The settings of the engine and the objects it knows, as they are kept in a file. A file is refused
when it is missing, cannot be read, is no configuration, or holds a retry policy without delays.
-/

namespace Fieldwork

/-- What a host is set up with. -/
structure Config where
  retry : RetryPolicy := {}
  topic : String := defaultTopic
  logFilter : String := "info"
  logJson : Bool := false
  objects : List Object := []

namespace Config

/-- The first object with that id. -/
def object? (c : Config) (id : String) : Option Object :=
  c.objects.find? fun o => o.id = id

/-! ## The demonstration -/

def demoField (id column : String) : Field :=
  { id, column, schema := none, table := none, multilingual := false, relation := none,
    choices := [], default := none }

/-- The object of the demonstration: tasks, with a field of each kind. -/
def demoObject : Object :=
  { id := "todo"
    schema := "appbuilder"
    table := "AB_Todo"
    view := none
    primaryKey := "uuid"
    fields :=
      [{ demoField "a3f6c0d2-5e8b-4c1a-9f47-1b2c3d4e5f01" "title" with multilingual := true },
       { demoField "a3f6c0d2-5e8b-4c1a-9f47-1b2c3d4e5f02" "status" with
         choices := [⟨"open", "Open"⟩, ⟨"done", "Done"⟩]
         default := some (.string "open") },
       demoField "a3f6c0d2-5e8b-4c1a-9f47-1b2c3d4e5f03" "priority",
       { demoField "a3f6c0d2-5e8b-4c1a-9f47-1b2c3d4e5f04" "owner" with
         relation := some ⟨"SITE_USER", some "appbuilder", "uuid"⟩ }]
    condition := none }

/-- The built-in settings, with one object to try queries on. -/
def demo : Config :=
  { objects := [demoObject] }

/-! ## As a document -/

open Document

/-- Whatever is missing in a configuration is as in the standard one. -/
def ofDocument? (d : Document) : Option Config := do
  match ← d.members? [["retry"], ["notification_topic"], ["log_filter"], ["log_json"],
      ["objects"]] with
  | [retry, topic, logFilter, logJson, objects] =>
    let standard : Config := {}
    let retry ← orElse standard.retry RetryPolicy.ofDocument? retry
    let topic ← orElse standard.topic string? topic
    let logFilter ← orElse standard.logFilter string? logFilter
    let logJson ← orElse standard.logJson bool? logJson
    let objects ← orElse standard.objects (list? Object.ofDocument?) objects
    return { retry, topic, logFilter, logJson, objects }
  | _ => none

def document (c : Config) : Document :=
  .object
    [("retry", c.retry.document), ("notification_topic", .string c.topic),
     ("log_filter", .string c.logFilter), ("log_json", .bool c.logJson),
     ("objects", .array (c.objects.map Object.document))]

end Config

end Fieldwork
