import Fieldwork.Json.Document

/-!
# Decoding documents

A decoder gives the value a document stands for, or nothing. A structure is written as an object, in
which unknown members are passed over and a known one may stand once under any of its spellings, or
as an array of its members in their order.
-/

namespace Fieldwork.Document

/-- The values given to the members of a structure; each member is a list of spellings. -/
def members? (spellings : List (List String)) : Document → Option (List (Option Document))
  | .object members =>
    spellings.mapM fun names =>
      match members.filter fun member => names.contains member.1 with
      | [] => some none
      | [(_, d)] => some (some d)
      | _ => none
  | .array items =>
    if items.length ≤ spellings.length then
      some (items.map some ++ List.replicate (spellings.length - items.length) none)
    else none
  | _ => none

variable {α : Type}

/-- A member that has to be there. -/
def required (decode : Document → Option α) (member : Option Document) : Option α :=
  member.bind decode

/-- A member with a value for its absence. -/
def orElse (absent : α) (decode : Document → Option α) : Option Document → Option α
  | none => some absent
  | some d => decode d

/-- Null is the absent value. -/
def nullable (decode : Document → Option α) : Document → Option (Option α)
  | .null => some none
  | d => (decode d).map some

def string? : Document → Option String
  | .string s => some s
  | _ => none

def bool? : Document → Option Bool
  | .bool b => some b
  | _ => none

def list? (decode : Document → Option α) : Document → Option (List α)
  | .array items => items.mapM decode
  | _ => none

/-- An integer of that many values from zero up. -/
def below? (bound : Nat) : Document → Option Nat
  | .number (.integer n) => if 0 ≤ n ∧ n < bound then some n.toNat else none
  | _ => none

def uint32? (d : Document) : Option UInt32 :=
  (below? UInt32.size d).map UInt32.ofNat

def uint64? (d : Document) : Option UInt64 :=
  (below? UInt64.size d).map UInt64.ofNat

def float? : Document → Option Float
  | .number n => some n.toFloat
  | _ => none

def row? (d : Document) : Option Row :=
  match d.json? with
  | some (.object members) => some members
  | _ => none

/-- The word of an enumeration: a string, or an object whose one member is null. -/
def word? : Document → Option String
  | .string s => some s
  | .object [(s, .null)] => some s
  | _ => none

/-! ## Encoding -/

def ofNat (n : Nat) : Document :=
  .number (.integer n)

def ofStrings (items : List String) : Document :=
  .array (items.map .string)

def ofOption (encode : α → Document) : Option α → Document
  | none => .null
  | some a => encode a

def ofRow (r : Row) : Document :=
  (Json.object r).document

end Fieldwork.Document
