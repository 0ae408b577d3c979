import Fieldwork.Json.Value

/-!
# Documents

A document is the syntax tree of a JSON text: members keep the order and the repetitions they were
written in. Decoders work on documents, so that a repeated member can be refused; free values inside
a document are made into `Json`, where the last of a repeated member counts.
-/

namespace Fieldwork

inductive Document where
  | null
  | bool (b : Bool)
  | number (n : Number)
  | string (s : String)
  | array (items : List Document)
  | object (members : List (String × Document))
  /-- Well-formed text without a value: a number out of range, a text with half a surrogate pair, or
  a container nested too deeply. -/
  | unreadable

namespace Document

instance : Inhabited Document := ⟨.null⟩

mutual

/-- The value of a document that is readable throughout. -/
def json? : Document → Option Json
  | .null => some .null
  | .bool b => some (.bool b)
  | .number n => some (.number n)
  | .string s => some (.string s)
  | .array items => (jsonItems? items).map .array
  | .object members => (jsonMembers? members).map fun entries => .object (Record.ofList entries)
  | .unreadable => none

def jsonItems? : List Document → Option (List Json)
  | [] => some []
  | d :: ds => do
    let v ← json? d
    let vs ← jsonItems? ds
    return v :: vs

def jsonMembers? : List (String × Document) → Option (List (String × Json))
  | [] => some []
  | (n, d) :: ds => do
    let v ← json? d
    let vs ← jsonMembers? ds
    return (n, v) :: vs

end

/-- The member of that name, of several the last. -/
def get? : Document → String → Option Document
  | .object members, name => (members.filter (·.1 = name)).getLast?.map Prod.snd
  | _, _ => none

end Document

namespace Json

mutual

def document : Json → Document
  | .null => .null
  | .bool b => .bool b
  | .number n => .number n
  | .string s => .string s
  | .array items => .array (documentItems items)
  | .object members => .object (documentMembers members)

def documentItems : List Json → List Document
  | [] => []
  | v :: vs => document v :: documentItems vs

def documentMembers : List (String × Json) → List (String × Document)
  | [] => []
  | (n, v) :: vs => (n, document v) :: documentMembers vs

end

end Json

end Fieldwork
