import Fieldwork.Json.Decode
import Fieldwork.Proofs.Json.Canonical
import Fieldwork.Proofs.Json.Text

/-!
# Decoders that undo an encoder

What is said of a decoder and an encoder of a type is that each value the decoder gives is decoded
again from its own document (`Recovers`). It is proved of a structure from its members, with the
combinators that the decoders are built from.

* `Recovers.undone`: **what is recovered from its document is recovered from its text, when the
  document survives, and decoding what was encoded changes nothing anymore.**
-/

namespace Fieldwork

open Document

/-! ## Decoders of parts -/

/-- Only null is written as null. -/
theorem Json.eq_null_of_document (d : Document) (v : Json) (hv : d.json? = some v)
    (h : v.document = .null) : d = .null := by
  cases v with
  | null =>
    cases d with
    | array | object =>
      obtain ⟨_, -, ⟨⟩⟩ := Option.map_eq_some_iff.mp hv
    | null => rfl
    | _ => cases hv
  | _ => cases h

namespace Document

variable {α : Type} {decode : Document → Option α} {encode : α → Document}

/-- A value that was decoded is decoded again from its own document. -/
def Recovers (decode : Document → Option α) (encode : α → Document) : Prop :=
  ∀ a, (∃ d, decode d = some a) → decode (encode a) = some a

/-- The same for a member of a structure, which may be absent where it is decoded. -/
def MemberRecovers (decode : Option Document → Option α) (encode : α → Document) : Prop :=
  ∀ a, (∃ member, decode member = some a) → decode (some (encode a)) = some a

/-- What an encoder writes is read back by a decoder, for all values that the decoder gives. -/
structure Undone (decode : Document → Option α) (encode : α → Document) : Prop where
  recovers : Recovers decode encode
  /-- Decoded and encoded once more, a document that was encoded stays as it is. -/
  settled : ∀ d e, (decode d).map encode = some e → (decode e).map encode = some e
  /-- The value is decoded from the text too, when the text is read as the document it is of. -/
  text : ∀ a, (∃ d, decode d = some a) → (encode a).Survives 0 →
    (ofText? (encode a).text).bind decode = some a

namespace Recovers

/-- **Whatever is recovered from its document is decoded from its text too**, as far as the text is
read as the document. -/
theorem undone (h : Recovers decode encode) : Undone decode encode where
  recovers := h
  settled := by
    intro d e he
    obtain ⟨a, ha, rfl⟩ := Option.map_eq_some_iff.mp he
    rw [h a ⟨d, ha⟩, Option.map_some]
  text := by
    intro a ha hsurvives
    rw [ofText?_text hsurvives, Option.bind_some, h a ha]

/-- A string is recovered as it is. -/
theorem string : Recovers string? .string := fun _ _ => rfl

theorem bool : Recovers bool? .bool := fun _ _ => rfl

/-- A real number is recovered bit by bit, since it stays a number in the document. -/
theorem float : Recovers float? fun x => .number (.real x) := fun _ _ => rfl

/-- A free value is recovered, its members being in order once it was read. -/
theorem json : Recovers json? Json.document := by
  rintro v ⟨d, h⟩
  exact Json.json?_document v (Json.canonical_of_json? d h)

/-- A word is below the number of its values. -/
theorem below?_ofNat {bound n : ℕ} (h : n < bound) : below? bound (.ofNat n) = some n := by
  have hrange : 0 ≤ (n : Int) ∧ (n : Int) < bound := ⟨Int.natCast_nonneg n, by exact_mod_cast h⟩
  exact (if_pos hrange).trans rfl

/-- A word of 32 bits is read back from its number. -/
theorem uint32?_ofNat (n : UInt32) : uint32? (.ofNat n.toNat) = some n := by
  rw [uint32?, below?_ofNat n.toNat_lt, Option.map_some, UInt32.ofNat_toNat]

/-- A word of 64 bits is read back from its number. -/
theorem uint64?_ofNat (n : UInt64) : uint64? (.ofNat n.toNat) = some n := by
  rw [uint64?, below?_ofNat n.toNat_lt, Option.map_some, UInt64.ofNat_toNat]

theorem uint32 : Recovers uint32? fun n => .ofNat n.toNat := fun n _ => uint32?_ofNat n

theorem uint64 : Recovers uint64? fun n => .ofNat n.toNat := fun n _ => uint64?_ofNat n

/-- A list is recovered when its items are. -/
theorem list (h : Recovers decode encode) :
    Recovers (list? decode) fun as => .array (as.map encode) := by
  -- each of the values comes from an item
  have hitem : ∀ (items : List Document) (as : List α), items.mapM decode = some as →
      (as.map encode).mapM decode = some as := by
    intro items
    induction items with
    | nil =>
      intro as has
      cases has
      rfl
    | cons d items ih =>
      intro as has
      rw [List.mapM_cons] at has
      obtain ⟨a, ha, has⟩ := Option.bind_eq_some_iff.mp has
      obtain ⟨rest, hrest, has⟩ := Option.bind_eq_some_iff.mp has
      cases has
      rw [List.map_cons, List.mapM_cons, h a ⟨d, ha⟩, ih rest hrest]
      rfl
  rintro as ⟨d, hd⟩
  cases d with
  | array items => exact hitem items as hd
  | _ => cases hd

/-- What may be null is recovered when nothing else is written as null. -/
theorem nullable (h : Recovers decode encode)
    (hnull : ∀ d a, decode d = some a → encode a = .null → d = .null) :
    Recovers (nullable decode) (ofOption encode) := by
  have hother : ∀ d, d ≠ .null → Document.nullable decode d = (decode d).map some := by
    intro d hd
    cases d with
    | null => exact absurd rfl hd
    | _ => rfl
  rintro a ⟨d, hd⟩
  by_cases hdnull : d = .null
  · subst hdnull
    cases hd
    rfl
  · rw [hother d hdnull] at hd
    obtain ⟨b, hb, rfl⟩ := Option.map_eq_some_iff.mp hd
    rw [ofOption, hother _ (mt (hnull d b hb) hdnull), h b ⟨d, hb⟩, Option.map_some]

/-- A member that must be there is recovered when its value is. -/
theorem required (h : Recovers decode encode) : MemberRecovers (required decode) encode := by
  rintro a ⟨member, hmember⟩
  obtain ⟨d, -, hd⟩ := Option.bind_eq_some_iff.mp hmember
  exact h a ⟨d, hd⟩

/-- So is one that may be absent, when what stands in for it is recovered too. -/
theorem orElse (h : Recovers decode encode) {absent : α}
    (habsent : decode (encode absent) = some absent) :
    MemberRecovers (orElse absent decode) encode := by
  rintro a ⟨member, hmember⟩
  cases member with
  | none =>
    cases hmember
    exact habsent
  | some d => exact h a ⟨d, hmember⟩

/-- A member that is null where there is no value. -/
theorem optional (h : Recovers decode encode)
    (hnull : ∀ d a, decode d = some a → encode a = .null → d = .null) :
    MemberRecovers (Document.orElse none (Document.nullable decode)) (ofOption encode) :=
  (h.nullable hnull).orElse rfl

/-- A string that may be missing or null is recovered. -/
theorem optionalString :
    MemberRecovers (Document.orElse none (Document.nullable string?)) (ofOption .string) :=
  string.optional (by simp)

/-- A member that is empty where there is no list. -/
theorem listed (h : Recovers decode encode) :
    MemberRecovers (Document.orElse [] (list? decode)) fun as => .array (as.map encode) :=
  h.list.orElse rfl

/-- A structure is recovered when all of its members are. -/
theorem ofMembers (parts : α → List Document) {spellings : List (List String)}
    {build : List (Option Document) → Option α}
    (hdecode : ∀ d, decode d = (d.members? spellings).bind build)
    (hencode : ∀ a, (encode a).members? spellings = some ((parts a).map some))
    (hparts : ∀ members a, build members = some a → build ((parts a).map some) = some a) :
    Recovers decode encode := by
  rintro a ⟨d, h⟩
  rw [hdecode] at h ⊢
  obtain ⟨members, -, h⟩ := Option.bind_eq_some_iff.mp h
  rw [hencode, Option.bind_some]
  exact hparts members a h

end Recovers

end Document

end Fieldwork
