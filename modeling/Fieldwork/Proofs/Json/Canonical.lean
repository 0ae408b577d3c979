import Fieldwork.Json.Document
import Fieldwork.Proofs.Record

/-!
# Values that documents stand for

The value of a document has the members of each object in the order of their names, with no name
twice. Written as a document and read again such a value is the same.

* `canonical_of_json?`: the value of a document is canonical.
* `json?_document`: **a canonical value is the value of its own document.**
-/

namespace Fieldwork

namespace Json

mutual

/-- The names in every object of the value increase. -/
def Canonical : Json → Prop
  | .array items => CanonicalItems items
  | .object members => Record.Ordered members ∧ CanonicalMembers members
  | _ => True

def CanonicalItems : List Json → Prop
  | [] => True
  | v :: vs => Canonical v ∧ CanonicalItems vs

def CanonicalMembers : List (String × Json) → Prop
  | [] => True
  | (_, v) :: vs => Canonical v ∧ CanonicalMembers vs

end

/-- The members of an object are canonical when the value of each is. -/
theorem canonicalMembers_iff (members : List (String × Json)) :
    CanonicalMembers members ↔ ∀ member ∈ members, member.2.Canonical := by
  induction members with
  | nil => simp [CanonicalMembers]
  | cons member members ih => rw [CanonicalMembers, ih, List.forall_mem_cons]

mutual

/-- **The value of a document is canonical.** -/
theorem canonical_of_json? : (d : Document) → {v : Json} → d.json? = some v → v.Canonical
  | .null, v, h | .bool _, v, h | .number _, v, h | .string _, v, h => by
    cases h
    trivial
  | .array items, v, h => by
    obtain ⟨values, hvalues, rfl⟩ := Option.map_eq_some_iff.mp h
    exact canonicalItems_of_jsonItems? items hvalues
  | .object members, v, h => by
    obtain ⟨entries, hentries, rfl⟩ := Option.map_eq_some_iff.mp h
    have hall := (canonicalMembers_iff entries).mp
      (canonicalMembers_of_jsonMembers? members hentries)
    exact ⟨Record.ordered_ofList entries, (canonicalMembers_iff _).mpr fun member hmem =>
      hall member (Record.mem_ofList hmem)⟩
  | .unreadable, v, h => by cases h

/-- The values of a list's items are canonical. -/
theorem canonicalItems_of_jsonItems? :
    (ds : List Document) → {vs : List Json} → Document.jsonItems? ds = some vs → CanonicalItems vs
  | [], vs, h => by
    cases h
    trivial
  | d :: ds, vs, h => by
    obtain ⟨v, hv, h⟩ := Option.bind_eq_some_iff.mp h
    obtain ⟨rest, hrest, h⟩ := Option.bind_eq_some_iff.mp h
    cases h
    exact ⟨canonical_of_json? d hv, canonicalItems_of_jsonItems? ds hrest⟩

/-- The values of an object's members are canonical, whatever order they were read in. -/
theorem canonicalMembers_of_jsonMembers? :
    (ds : List (String × Document)) → {vs : List (String × Json)} →
      Document.jsonMembers? ds = some vs → CanonicalMembers vs
  | [], vs, h => by
    cases h
    trivial
  | (n, d) :: ds, vs, h => by
    obtain ⟨v, hv, h⟩ := Option.bind_eq_some_iff.mp h
    obtain ⟨rest, hrest, h⟩ := Option.bind_eq_some_iff.mp h
    cases h
    exact ⟨canonical_of_json? d hv, canonicalMembers_of_jsonMembers? ds hrest⟩

end

mutual

/-- **A canonical value is the value of its own document.** -/
theorem json?_document : (v : Json) → v.Canonical → v.document.json? = some v
  | .null, _ | .bool _, _ | .number _, _ | .string _, _ => rfl
  | .array items, h => by
    rw [document, Document.json?, jsonItems?_documentItems items h, Option.map_some]
  | .object members, h => by
    rw [document, Document.json?, jsonMembers?_documentMembers members h.2, Option.map_some,
      Record.ofList_of_ordered h.1]

/-- Canonical items are the values of their own documents. -/
theorem jsonItems?_documentItems :
    (vs : List Json) → CanonicalItems vs → Document.jsonItems? (documentItems vs) = some vs
  | [], _ => rfl
  | v :: vs, h => by
    rw [documentItems, Document.jsonItems?, json?_document v h.1, jsonItems?_documentItems vs h.2]
    rfl

/-- Canonical members are the values of their own documents. -/
theorem jsonMembers?_documentMembers :
    (vs : List (String × Json)) → CanonicalMembers vs →
      Document.jsonMembers? (documentMembers vs) = some vs
  | [], _ => rfl
  | (n, v) :: vs, h => by
    rw [documentMembers, Document.jsonMembers?, json?_document v h.1,
      jsonMembers?_documentMembers vs h.2]
    rfl

end

end Json

end Fieldwork
