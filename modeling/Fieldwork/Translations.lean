import Fieldwork.Column
import Fieldwork.Event
import Fieldwork.Json.Reader

/-!
# Translations of fetched rows

A row fetched from a view carries the translations of each table it joins in a column of their own,
named after the table. They are merged into one list with a record per language, in which a field
is named after its table and itself.
-/

namespace Fieldwork.Translations

def languageKey : String := "language_code"

def suffix : String := ".translations"

/-- The table whose translations a column holds: there is a name in front of the suffix. -/
def tableOf? (column : String) : Option String :=
  let cs := column.toList
  let size := cs.length - suffix.toList.length
  if 0 < size ∧ suffix.toList.isSuffixOf cs then some (String.ofList (cs.take size)) else none

/-- The record is of that language. -/
def speaks (language : Json) (record : Json) : Bool :=
  match record.get? languageKey with
  | some l => l == language
  | none => false

/-- The fields of a record under the names they have beside those of other tables. -/
def qualified (table : String) (fields : Row) : Row :=
  (fields.filter fun entry => entry.1 ≠ languageKey).map fun (field, value) =>
    (table ++ "." ++ field, value)

def overlayOn (entries : Row) : Json → Json
  | .object target => .object (Record.overlay target entries)
  | v => v

/-- Adds the entries to the first record of the language, or to a new one at the end. -/
def addEntries (language : Json) (entries : Row) : List Json → List Json
  | [] => [overlayOn entries (.object [(languageKey, language)])]
  | record :: records =>
    if speaks language record then overlayOn entries record :: records
    else record :: addEntries language entries records

/-- What is no record of a language contributes nothing. -/
def addRecord (table : String) (merged : List Json) : Json → List Json
  | .object fields =>
    match Record.get? fields languageKey with
    | some language => addEntries language (qualified table fields) merged
    | none => merged
  | _ => merged

/-- The records of a payload: a list, or the text of one. A text that is none is reported, and any
other value holds no records. -/
def recordsOf (column : String) : Json → List Json × List Event
  | .array records => (records, [])
  | .string raw =>
    match (Json.ofText? raw).bind Json.array? with
    | some records => (records, [])
    | none => ([], [.payloadSkipped column])
  | _ => ([], [])

/-- The records that are there before anything is merged. -/
def existing : Option Json → List Json
  | some (.array records) => records
  | some (.string raw) => ((Json.ofText? raw).bind Json.array?).getD []
  | _ => []

/-- Merges the payload of one column into the records. -/
def mergeColumn (column table : String) (payload : Json) (merged : List Json) :
    List Json × List Event :=
  let (records, events) := recordsOf column payload
  (records.foldl (addRecord table) merged, events)

/-- The columns that hold translations, each with its table and its payload. -/
def payloads (r : Row) : List (String × String × Json) :=
  r.filterMap fun (column, payload) =>
    (tableOf? column).map fun table => (column, table, payload)

def mergeAll : List (String × String × Json) → List Json → List Json × List Event
  | [], merged => (merged, [])
  | (column, table, payload) :: rest, merged =>
    let (merged, events) := mergeColumn column table payload merged
    let (merged, later) := mergeAll rest merged
    (merged, events ++ later)

/-- A row without such columns stays as it is. -/
def reshape (r : Row) : Row × List Event :=
  match payloads r with
  | [] => (r, [])
  | found =>
    let (merged, events) := mergeAll found (existing (Record.get? r "translations"))
    let others := r.filter fun entry => (tableOf? entry.1).isNone
    (Record.insert "translations" (.array merged) others, events)

def reshapeAll : List Row → List Row × List Event
  | [] => ([], [])
  | r :: rows =>
    let (r, events) := reshape r
    let (rows, later) := reshapeAll rows
    (r :: rows, events ++ later)

end Fieldwork.Translations
