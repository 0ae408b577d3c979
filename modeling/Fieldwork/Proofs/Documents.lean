import Fieldwork.Config.Basic
import Fieldwork.Lane.Document
import Fieldwork.Options.Document
import Fieldwork.Chain.RowUpdate
import Fieldwork.Proofs.Json.Decode

/-!
# Decoding undoes encoding

Each type of stored documents is recovered: a value that some document was decoded to is decoded
again from the document it is encoded as. A condition is recovered by induction on its tree. A group
is never taken for a rule nor a rule for a group, since each is written with members that the other
has not.

* `decoding_undoes_encoding`: **every stored type is recovered from its documents, and from their
  texts as far as these are read as they were written.**
* `rule_text_drifts`: a real number may be read from its text as another one.
-/

namespace Fieldwork

open Document

/-! ## Conditions -/

namespace Operator

/-- An operator is read back from its word. -/
theorem ofWord?_word (op : Operator) : ofWord? op.word = some op := by
  cases op <;> rfl

end Operator

namespace Glue

/-- AND and OR are read back from their words. -/
theorem ofWord?_word (g : Glue) : ofWord? g.word = some g := by
  cases g <;> rfl

end Glue

namespace Rule

/-- The value of a rule is that of a member of its document, or null where there is none. -/
theorem canonical_of_ofDocument? {d : Document} {r : Rule} (h : ofDocument? d = some r) :
    r.value.Canonical := by
  obtain ⟨members, -, h⟩ := Option.bind_eq_some_iff.mp h
  split at h
  case h_2 => cases h
  case h_1 member =>
    simp only [bind, Option.bind_eq_some_iff] at h
    obtain ⟨key, -, word, -, operator, -, value, hvalue, ⟨⟩⟩ := h
    cases member with
    | none =>
      cases hvalue
      trivial
    | some d => exact Json.canonical_of_json? d hvalue

/-- **A rule is read back from its document** when its value is. -/
theorem ofDocument?_document {r : Rule} (h : r.value.Canonical) :
    ofDocument? r.document = some r := by
  have hkey : required string? (some (.string r.key)) = some r.key := rfl
  have hword : required word? (some (.string r.operator.word)) = some r.operator.word := rfl
  have hvalue : orElse .null json? (some r.value.document) = some r.value :=
    Json.json?_document r.value h
  have hmembers : r.document.members? [["key"], ["rule"], ["value"]] =
      some [some (.string r.key), some (.string r.operator.word), some r.value.document] := rfl
  rw [ofDocument?, hmembers]
  simp [hkey, hword, r.operator.ofWord?_word, hvalue]

end Rule

namespace Condition

mutual

/-- The values of all rules are canonical. -/
def Canonical : Condition → Prop
  | .rule r => r.value.Canonical
  | .group _ members => CanonicalAll members

def CanonicalAll : List Condition → Prop
  | [] => True
  | c :: cs => Canonical c ∧ CanonicalAll cs

end

/-- A condition that is read as a group or else as a rule has canonical values if a group has. -/
theorem canonical_of_orElse {group : Option Condition} {d : Document} {c : Condition}
    (hgroup : group = some c → c.Canonical)
    (h : (group <|> (Rule.ofDocument? d).map .rule) = some c) : c.Canonical := by
  cases hg : group with
  | some g =>
    rw [hg] at h
    exact hgroup (hg.trans h)
  | none =>
    rw [hg] at h
    obtain ⟨r, hr, rfl⟩ := Option.map_eq_some_iff.mp h
    exact Rule.canonical_of_ofDocument? hr

mutual

/-- **The values of a condition that was read are canonical**, by recursion on the document. -/
theorem canonical_of_read? : (d : Document) → {c : Condition} → read? d = some c → c.Canonical
  | .object members, c, h => by
    unfold read? at h
    refine canonical_of_orElse (fun hgroup => ?_) h
    split at hgroup
    · obtain ⟨g, -, hgroup⟩ := Option.bind_eq_some_iff.mp hgroup
      cases hgroup
      trivial
    case h_2 hfilter hrules =>
      obtain ⟨g, -, hgroup⟩ := Option.bind_eq_some_iff.mp hgroup
      obtain ⟨cs, hcs, hgroup⟩ := Option.bind_eq_some_iff.mp hgroup
      cases hgroup
      exact canonicalAll_of_readRules members (by rw [hrules, hcs]; simp)
    · cases hgroup
  | .array items, c, h => by
    unfold read? at h
    refine canonical_of_orElse (fun hgroup => ?_) h
    split at hgroup
    · obtain ⟨g, -, hgroup⟩ := Option.bind_eq_some_iff.mp hgroup
      cases hgroup
      trivial
    case h_2 g rules =>
      obtain ⟨g, -, hgroup⟩ := Option.bind_eq_some_iff.mp hgroup
      obtain ⟨cs, hcs, hgroup⟩ := Option.bind_eq_some_iff.mp hgroup
      cases hgroup
      exact canonicalAll_of_readList rules hcs
    · cases hgroup
  | .null, c, h | .bool _, c, h | .number _, c, h | .string _, c, h
  | .unreadable, c, h => by cases h

/-- Each list of members that a document of an object holds is read item by item. -/
theorem canonicalAll_of_readRules :
    (members : List (String × Document)) → {cs : List Condition} →
      some cs ∈ readRules members → CanonicalAll cs
  | [], cs, h => by cases h
  | (n, d) :: rest, cs, h => by
    rw [readRules] at h
    split at h
    · rcases List.mem_cons.mp h with h | h
      · exact canonicalAll_of_readList d h.symm
      · exact canonicalAll_of_readRules rest h
    · exact canonicalAll_of_readRules rest h

theorem canonicalAll_of_readList :
    (d : Document) → {cs : List Condition} → readList d = some cs → CanonicalAll cs
  | .array items, cs, h => canonicalAll_of_readItems items h
  | .object _, cs, h | .null, cs, h | .bool _, cs, h | .number _, cs, h | .string _, cs, h
  | .unreadable, cs, h => by cases h

theorem canonicalAll_of_readItems :
    (ds : List Document) → {cs : List Condition} → readItems ds = some cs → CanonicalAll cs
  | [], cs, h => by
    cases h
    trivial
  | d :: ds, cs, h => by
    obtain ⟨c, hc, h⟩ := Option.bind_eq_some_iff.mp h
    obtain ⟨rest, hrest, h⟩ := Option.bind_eq_some_iff.mp h
    cases h
    exact ⟨canonical_of_read? d hc, canonicalAll_of_readItems ds hrest⟩

end

mutual

/-- **A condition is read back from its document**, by recursion on its tree: a group has members
that no rule is written with. -/
theorem read?_document : (c : Condition) → c.Canonical → read? c.document = some c
  | .rule r, h => by
    have hread : read? (document (.rule r)) = (Rule.ofDocument? r.document).map .rule := rfl
    rw [hread, Rule.ofDocument?_document h, Option.map_some]
  | .group glue members, h => by
    have hglue : glueOf? (.string glue.word) = some glue := glue.ofWord?_word
    have hmembers : readItems (documents members) = some members := readItems_documents members h
    have hread : read? (document (.group glue members)) =
        ((do return .group (← glueOf? (.string glue.word)) (← readItems (documents members))) <|>
          (Rule.ofDocument? (document (.group glue members))).map .rule) := rfl
    rw [hread, hglue, hmembers]
    rfl

/-- The members of a group are read back one by one. -/
theorem readItems_documents :
    (cs : List Condition) → CanonicalAll cs → readItems (documents cs) = some cs
  | [], _ => rfl
  | c :: cs, h => by
    rw [documents, readItems, read?_document c h.1, readItems_documents cs h.2]
    rfl

end

mutual

/-- A condition is written with nothing in it that cannot be read. -/
theorem isSome_json?_document : (c : Condition) → c.Canonical → c.document.json?.isSome
  | .rule r, h => by
    have hvalue : r.value.document.json? = some r.value := Json.json?_document r.value h
    simp [document, Rule.document, Document.json?, Document.jsonMembers?, hvalue]
  | .group glue members, h => by
    obtain ⟨values, hvalues⟩ := Option.isSome_iff_exists.mp (isSome_jsonItems?_documents members h)
    simp [document, Document.json?, Document.jsonMembers?, hvalues]

theorem isSome_jsonItems?_documents :
    (cs : List Condition) → CanonicalAll cs → (Document.jsonItems? (documents cs)).isSome
  | [], _ => rfl
  | c :: cs, h => by
    obtain ⟨v, hv⟩ := Option.isSome_iff_exists.mp (isSome_json?_document c h.1)
    obtain ⟨vs, hvs⟩ := Option.isSome_iff_exists.mp (isSome_jsonItems?_documents cs h.2)
    simp [documents, Document.jsonItems?, hv, hvs]

end

/-- **Conditions are recovered from their documents.** -/
theorem recovers : Recovers ofDocument? document := by
  rintro c ⟨d, h⟩
  obtain ⟨-, hread⟩ := Option.ite_none_right_eq_some.mp h
  have hc := canonical_of_read? d hread
  rw [ofDocument?, if_pos (isSome_json?_document c hc), read?_document c hc]

/-- No condition is written as null, so that one that may be missing is told from none. -/
theorem document_ne_null (c : Condition) : c.document ≠ .null := by
  cases c <;> simp [document, Rule.document]

/-- A condition that may be missing is recovered where it is a member. -/
theorem optional : MemberRecovers (orElse none (nullable ofDocument?)) (ofOption document) :=
  recovers.optional fun _ c _ hnull => absurd hnull c.document_ne_null

end Condition

/-! ## Structures -/

/-- Directions are recovered from their words. -/
theorem Direction.recovers : Recovers ofDocument? fun direction => .string direction.word := by
  rintro direction -
  cases direction <;> rfl

/-- Sort entries are recovered; an entry without a direction is read as ascending. -/
theorem SortEntry.recovers : Recovers ofDocument? document := by
  refine .ofMembers (fun s => [.string s.field, .string s.direction.word]) (fun _ => rfl)
    (fun _ => rfl) fun members s h => ?_
  split at h
  case h_2 => cases h
  simp only [bind, Option.bind_eq_some_iff] at h
  obtain ⟨field, hfield, direction, hdirection, ⟨⟩⟩ := h
  have hfield := Recovers.string.required _ ⟨_, hfield⟩
  have hdirection := Direction.recovers.orElse rfl _ ⟨_, hdirection⟩
  simp [hfield, hdirection]

/-- **Options are recovered**, whichever members were left out. -/
theorem Options.recovers : Recovers ofDocument? document := by
  refine .ofMembers
    (fun o => [ofOption Condition.document o.condition, .array (o.sort.map SortEntry.document),
      ofOption (fun n => ofNat n.toNat) o.offset, ofOption (fun n => ofNat n.toNat) o.limit,
      ofOption ofStrings o.columnNames, .bool o.includeRowNumber, .bool o.includeColumns,
      .bool o.mergeTranslations, .bool o.skipExistingConditions])
    (fun _ => rfl) (fun _ => rfl) fun members o h => ?_
  split at h
  case h_2 => cases h
  simp only [bind, Option.bind_eq_some_iff] at h
  obtain ⟨condition, hcondition, sort, hsort, offset, hoffset, limit, hlimit, columnNames,
    hcolumnNames, includeRowNumber, hincludeRowNumber, includeColumns, hincludeColumns,
    mergeTranslations, hmergeTranslations, skipExistingConditions, hskip, ⟨⟩⟩ := h
  have hcondition := Condition.optional _ ⟨_, hcondition⟩
  have hsort := SortEntry.recovers.listed _ ⟨_, hsort⟩
  have hoffset := Recovers.uint64.optional (by simp [ofNat]) _ ⟨_, hoffset⟩
  have hlimit := Recovers.uint64.optional (by simp [ofNat]) _ ⟨_, hlimit⟩
  have hcolumnNames :
      orElse none (nullable (list? string?)) (some (ofOption ofStrings columnNames)) =
        some columnNames := Recovers.string.list.optional (by simp) _ ⟨_, hcolumnNames⟩
  have hincludeRowNumber := Recovers.bool.orElse rfl _ ⟨_, hincludeRowNumber⟩
  have hincludeColumns := Recovers.bool.orElse rfl _ ⟨_, hincludeColumns⟩
  have hmergeTranslations := Recovers.bool.orElse rfl _ ⟨_, hmergeTranslations⟩
  have hskip := Recovers.bool.orElse rfl _ ⟨_, hskip⟩
  simp [hcondition, hsort, hoffset, hlimit, hcolumnNames, hincludeRowNumber, hincludeColumns,
    hmergeTranslations, hskip]

/-- Relations are recovered from their documents. -/
theorem Relation.recovers : Recovers ofDocument? document := by
  refine .ofMembers (fun r => [.string r.table, ofOption .string r.schema, .string r.primaryKey])
    (fun _ => rfl) (fun _ => rfl) fun members r h => ?_
  split at h
  case h_2 => cases h
  simp only [bind, Option.bind_eq_some_iff] at h
  obtain ⟨table, htable, schema, hschema, primaryKey, hprimaryKey, ⟨⟩⟩ := h
  have htable := Recovers.string.required _ ⟨_, htable⟩
  have hschema := Recovers.optionalString _ ⟨_, hschema⟩
  have hprimaryKey := Recovers.string.required _ ⟨_, hprimaryKey⟩
  simp [htable, hschema, hprimaryKey]

/-- Choices are recovered from their documents. -/
theorem Choice.recovers : Recovers ofDocument? document := by
  refine .ofMembers (fun c => [.string c.id, .string c.text]) (fun _ => rfl) (fun _ => rfl)
    fun members c h => ?_
  split at h
  case h_2 => cases h
  simp only [bind, Option.bind_eq_some_iff] at h
  obtain ⟨id, hid, text, htext, ⟨⟩⟩ := h
  have hid := Recovers.string.required _ ⟨_, hid⟩
  have htext := Recovers.string.required _ ⟨_, htext⟩
  simp [hid, htext]

/-- **Fields are recovered**, with their choices, their relation and a default of any shape. -/
theorem Field.recovers : Recovers ofDocument? document := by
  refine .ofMembers
    (fun f => [.string f.id, .string f.column, ofOption .string f.schema, ofOption .string f.table,
      .bool f.multilingual, ofOption Relation.document f.relation,
      .array (f.choices.map Choice.document), ofOption Json.document f.default])
    (fun _ => rfl) (fun _ => rfl) fun members f h => ?_
  split at h
  case h_2 => cases h
  simp only [bind, Option.bind_eq_some_iff] at h
  obtain ⟨id, hid, column, hcolumn, schema, hschema, table, htable, multilingual, hmultilingual,
    relation, hrelation, choices, hchoices, default, hdefault, ⟨⟩⟩ := h
  have hid := Recovers.string.required _ ⟨_, hid⟩
  have hcolumn := Recovers.string.required _ ⟨_, hcolumn⟩
  have hschema := Recovers.optionalString _ ⟨_, hschema⟩
  have htable := Recovers.optionalString _ ⟨_, htable⟩
  have hmultilingual := Recovers.bool.orElse rfl _ ⟨_, hmultilingual⟩
  have hrelation := Relation.recovers.optional (by simp [Relation.document]) _ ⟨_, hrelation⟩
  have hchoices := Choice.recovers.listed _ ⟨_, hchoices⟩
  have hdefault := Recovers.json.optional Json.eq_null_of_document _ ⟨_, hdefault⟩
  simp [hid, hcolumn, hschema, htable, hmultilingual, hrelation, hchoices, hdefault]

/-- **Objects are recovered** from their documents, as their fields and their condition are. -/
theorem Object.recovers : Recovers ofDocument? document := by
  refine .ofMembers
    (fun o => [.string o.id, .string o.schema, .string o.table, ofOption .string o.view,
      .string o.primaryKey, .array (o.fields.map Field.document),
      ofOption Condition.document o.condition])
    (fun _ => rfl) (fun _ => rfl) fun members o h => ?_
  split at h
  case h_2 => cases h
  simp only [bind, Option.bind_eq_some_iff] at h
  obtain ⟨id, hid, schema, hschema, table, htable, view, hview, primaryKey, hprimaryKey, fields,
    hfields, condition, hcondition, ⟨⟩⟩ := h
  have hid := Recovers.string.required _ ⟨_, hid⟩
  have hschema := Recovers.string.required _ ⟨_, hschema⟩
  have htable := Recovers.string.required _ ⟨_, htable⟩
  have hview := Recovers.optionalString _ ⟨_, hview⟩
  have hprimaryKey := Recovers.string.orElse rfl _ ⟨_, hprimaryKey⟩
  have hfields := Field.recovers.listed _ ⟨_, hfields⟩
  have hcondition := Condition.optional _ ⟨_, hcondition⟩
  simp [hid, hschema, htable, hview, hprimaryKey, hfields, hcondition]

/-! ### Users

What a user is written with besides the two named members is a record without these names. -/

/-- Reading the members of an object keeps their names. -/
theorem Document.names_of_jsonMembers? (ds : List (String × Document))
    {vs : List (String × Json)} (h : jsonMembers? ds = some vs) :
    vs.map Prod.fst = ds.map Prod.fst := by
  induction ds generalizing vs with
  | nil =>
    cases h
    rfl
  | cons entry ds ih =>
    obtain ⟨n, d⟩ := entry
    obtain ⟨v, -, h⟩ := Option.bind_eq_some_iff.mp h
    obtain ⟨rest, hrest, h⟩ := Option.bind_eq_some_iff.mp h
    cases h
    rw [List.map_cons, List.map_cons, ih hrest]

/-- Writing the members of an object keeps their names. -/
theorem Json.names_documentMembers (vs : List (String × Json)) :
    (documentMembers vs).map Prod.fst = vs.map Prod.fst := by
  induction vs with
  | nil => rfl
  | cons entry vs ih => rw [documentMembers, List.map_cons, List.map_cons, ih]

namespace SiteUser

/-- The names of the members that are kept beside the named ones. -/
def isExtra (name : String) : Prop :=
  name ≠ "uuid" ∧ name ≠ "username"

/-- What is kept of a user is a canonical record of such names. -/
theorem extra_of_row? {members : List (String × Document)} {extra : Row}
    (h : row? (.object (members.filter fun member =>
      member.1 ≠ "uuid" ∧ member.1 ≠ "username")) = some extra) :
    (Json.object extra).Canonical ∧ ∀ name ∈ extra.map Prod.fst, isExtra name := by
  have hjson : (Document.object (members.filter fun member =>
      member.1 ≠ "uuid" ∧ member.1 ≠ "username")).json? = some (.object extra) := by
    unfold row? at h
    split at h
    · rename_i hjson
      cases h
      exact hjson
    · cases h
  refine ⟨Json.canonical_of_json? _ hjson, fun name hname => ?_⟩
  obtain ⟨entries, hentries, hobject⟩ := Option.map_eq_some_iff.mp hjson
  obtain rfl : Record.ofList entries = extra := Json.object.inj hobject
  obtain ⟨entry, hentry, rfl⟩ := List.mem_map.mp hname
  have hwritten : entry.1 ∈ entries.map Prod.fst := List.mem_map_of_mem (Record.mem_ofList hentry)
  rw [names_of_jsonMembers? _ hentries] at hwritten
  obtain ⟨member, hmember, heq⟩ := List.mem_map.mp hwritten
  have hkept := of_decide_eq_true (List.mem_filter.mp hmember).2
  exact heq ▸ hkept

/-- The named members of a written user stand in front of the others, which are kept as they are. -/
theorem ofDocument?_document {u : SiteUser} (hcanonical : (Json.object u.extra).Canonical)
    (hnames : ∀ name ∈ u.extra.map Prod.fst, isExtra name) :
    ofDocument? u.document = some u := by
  have hextra : ∀ member ∈ Json.documentMembers u.extra, isExtra member.1 := by
    intro member hmember
    refine hnames member.1 ?_
    rw [← Json.names_documentMembers]
    exact List.mem_map_of_mem hmember
  have huuid : (Json.documentMembers u.extra).filter (fun member => member.1 = "uuid") = [] :=
    List.filter_eq_nil_iff.mpr fun member hmember => by simp [(hextra member hmember).1]
  have husername : (Json.documentMembers u.extra).filter (fun member => member.1 = "username") =
      [] := List.filter_eq_nil_iff.mpr fun member hmember => by simp [(hextra member hmember).2]
  have hrest : (("uuid", Document.string u.uuid) :: ("username", .string u.username) ::
      Json.documentMembers u.extra).filter (fun member =>
        member.1 ≠ "uuid" ∧ member.1 ≠ "username") = Json.documentMembers u.extra := by
    rw [List.filter_cons_of_neg (by simp), List.filter_cons_of_neg (by simp)]
    exact List.filter_eq_self.mpr fun member hmember => decide_eq_true (hextra member hmember)
  have hrow : row? (.object (Json.documentMembers u.extra)) = some u.extra := by
    have hjson : (Json.object u.extra).document.json? = some (.object u.extra) :=
      Json.json?_document _ hcanonical
    rw [Json.document] at hjson
    rw [row?, hjson]
  have hmembers : u.document.members? [["uuid"], ["username"]] =
      some [some (.string u.uuid), some (.string u.username)] := by
    simp [document, members?, huuid, husername]
  rw [document] at hmembers ⊢
  rw [ofDocument?, hmembers]
  simp only [bind, Option.bind_some, required, string?, hrest, hrow]
  rfl

/-- What a decoded user has besides is a canonical record of other names. -/
theorem extra_of_ofDocument? {d : Document} {u : SiteUser} (h : ofDocument? d = some u) :
    (Json.object u.extra).Canonical ∧ ∀ name ∈ u.extra.map Prod.fst, isExtra name := by
  cases d with
  | object members =>
    obtain ⟨parts, -, h⟩ := Option.bind_eq_some_iff.mp h
    split at h
    case h_2 => cases h
    simp only [bind, Option.bind_eq_some_iff] at h
    obtain ⟨uuid, -, username, -, extra, hextra, ⟨⟩⟩ := h
    exact extra_of_row? hextra
  | _ => cases h

/-- **Users are recovered**, with whatever they were given besides their two names. -/
theorem recovers : Recovers ofDocument? document := by
  rintro u ⟨d, h⟩
  obtain ⟨hcanonical, hnames⟩ := extra_of_ofDocument? h
  exact ofDocument?_document hcanonical hnames

end SiteUser

/-- Members of a role are recovered, whether they were given by name or as a record. -/
theorem Member.recovers : Recovers ofDocument? document := by
  rintro m -
  cases m <;> rfl

/-- Roles are recovered with their members. -/
theorem Role.recovers : Recovers ofDocument? document := by
  refine .ofMembers (fun r => [.string r.uuid, .array (r.members.map Member.document)])
    (fun _ => rfl) (fun _ => rfl) fun members r h => ?_
  split at h
  case h_2 => cases h
  simp only [bind, Option.bind_eq_some_iff] at h
  obtain ⟨uuid, huuid, users, husers, ⟨⟩⟩ := h
  have huuid := Recovers.string.required _ ⟨_, huuid⟩
  have husers := Member.recovers.listed _ ⟨_, husers⟩
  simp [huuid, husers]

/-- IDs are recovered as a list, also if there was only one, or null. -/
theorem Lane.recovers_ids : Recovers idsOf? ofStrings := by
  rintro ids ⟨d, h⟩
  cases d with
  | null | string =>
    cases h
    rfl
  | array items => exact Recovers.string.list _ ⟨.array items, h⟩
  | _ => cases h

/-- **Lanes are recovered** from their documents. -/
theorem Lane.recovers : Recovers ofDocument? document := by
  refine .ofMembers
    (fun l => [.string l.id, .bool l.useRole, ofStrings l.roles, .bool l.useAccount,
      ofStrings l.accounts])
    (fun _ => rfl) (fun _ => rfl) fun members l h => ?_
  split at h
  case h_2 => cases h
  simp only [bind, Option.bind_eq_some_iff] at h
  obtain ⟨id, hid, useRole, huseRole, roles, hroles, useAccount, huseAccount, accounts, haccounts,
    ⟨⟩⟩ := h
  have hid := Recovers.string.orElse rfl _ ⟨_, hid⟩
  have huseRole := Recovers.bool.orElse rfl _ ⟨_, huseRole⟩
  have hroles := recovers_ids.orElse rfl _ ⟨_, hroles⟩
  have huseAccount := Recovers.bool.orElse rfl _ ⟨_, huseAccount⟩
  have haccounts := recovers_ids.orElse rfl _ ⟨_, haccounts⟩
  simp [hid, huseRole, hroles, huseAccount, haccounts]

namespace RowUpdate

/-- An assignment as it is written: its field and its value. -/
def assignmentDocument (a : Assignment) : Document :=
  .object [("fieldId", .string a.field), ("value", a.value.document)]

/-- Assignments are recovered, whatever value they assign. -/
theorem recovers_assignment : Recovers assignmentOf? assignmentDocument := by
  refine .ofMembers (fun a => [.string a.field, a.value.document]) (fun _ => rfl) (fun _ => rfl)
    fun members a h => ?_
  split at h
  case h_2 => cases h
  simp only [bind, Option.bind_eq_some_iff] at h
  obtain ⟨field, hfield, value, hvalue, ⟨⟩⟩ := h
  have hfield := Recovers.string.required _ ⟨_, hfield⟩
  have hvalue := Recovers.json.required _ ⟨_, hvalue⟩
  simp [hfield, hvalue]

/-- **Row updates are recovered** from their assignments. -/
theorem recovers : Recovers ofDocument? document := by
  refine .ofMembers (fun u => [.array (u.assignments.map assignmentDocument)]) (fun _ => rfl)
    (fun _ => rfl) fun members u h => ?_
  split at h
  case h_2 => cases h
  simp only [bind, Option.bind_eq_some_iff] at h
  obtain ⟨assignments, hassignments, ⟨⟩⟩ := h
  have hassignments := recovers_assignment.listed _ ⟨_, hassignments⟩
  simp [hassignments]

end RowUpdate

/-- **Policies are recovered**; their numbers fit the words they are read into. -/
theorem RetryPolicy.recovers : Recovers ofDocument? document := by
  refine .ofMembers
    (fun p => [ofNat p.maxAttempts.toNat, ofNat p.baseDelayMs.toNat,
      .number (.real p.backoffMultiplier), ofNat p.maxDelayMs.toNat])
    (fun _ => rfl) (fun _ => rfl) fun members p h => ?_
  split at h
  case h_2 => cases h
  simp only [bind, Option.bind_eq_some_iff] at h
  obtain ⟨maxAttempts, hmaxAttempts, baseDelayMs, hbaseDelayMs, backoffMultiplier, hbackoff,
    maxDelayMs, hmaxDelayMs, ⟨⟩⟩ := h
  have hmaxAttempts := Recovers.uint32.orElse (Recovers.uint32?_ofNat _) _ ⟨_, hmaxAttempts⟩
  have hbaseDelayMs := Recovers.uint64.orElse (Recovers.uint64?_ofNat _) _ ⟨_, hbaseDelayMs⟩
  have hbackoff := Recovers.float.orElse rfl _ ⟨_, hbackoff⟩
  have hmaxDelayMs := Recovers.uint64.orElse (Recovers.uint64?_ofNat _) _ ⟨_, hmaxDelayMs⟩
  simp [hmaxAttempts, hbaseDelayMs, hbackoff, hmaxDelayMs]

/-- **Configurations are recovered**, as their policy and their objects are. -/
theorem Config.recovers : Recovers ofDocument? document := by
  refine .ofMembers
    (fun c => [c.retry.document, .string c.topic, .string c.logFilter, .bool c.logJson,
      .array (c.objects.map Object.document)])
    (fun _ => rfl) (fun _ => rfl) fun members c h => ?_
  split at h
  case h_2 => cases h
  simp only [bind, Option.bind_eq_some_iff] at h
  obtain ⟨retry, hretry, topic, htopic, logFilter, hlogFilter, logJson, hlogJson, objects, hobjects,
    ⟨⟩⟩ := h
  have hretry := RetryPolicy.recovers.orElse (RetryPolicy.recovers _ ⟨.object [], rfl⟩) _
    ⟨_, hretry⟩
  have htopic := Recovers.string.orElse rfl _ ⟨_, htopic⟩
  have hlogFilter := Recovers.string.orElse rfl _ ⟨_, hlogFilter⟩
  have hlogJson := Recovers.bool.orElse rfl _ ⟨_, hlogJson⟩
  have hobjects := Object.recovers.listed _ ⟨_, hobjects⟩
  simp [hretry, htopic, hlogFilter, hlogJson, hobjects]

/-! ## All stored types -/

/-- **Decoding undoes encoding.** Of each stored type three things are said (`Undone`). A value that
any document was decoded to is decoded again from its own document. So encoding what was decoded
settles a document: it is encoded as itself from then on. And the value is decoded from the text of
its document, when every number in that is read back from its own text and no container in it is
nested too deeply for the reader. An integer is no obstacle, if only some text is read as it. -/
theorem decoding_undoes_encoding :
    Undone Condition.ofDocument? Condition.document ∧
    Undone Options.ofDocument? Options.document ∧
    Undone Object.ofDocument? Object.document ∧
    Undone Relation.ofDocument? Relation.document ∧
    Undone Lane.ofDocument? Lane.document ∧
    Undone SiteUser.ofDocument? SiteUser.document ∧
    Undone Role.ofDocument? Role.document ∧
    Undone RowUpdate.ofDocument? RowUpdate.document ∧
    Undone RetryPolicy.ofDocument? RetryPolicy.document ∧
    Undone Config.ofDocument? Config.document ∧
    ∀ n : Int, (Number.integer n).Survives ↔
      ∃ cs numeral, readNumeral cs = some (numeral, []) ∧ numeral.number? = some (.integer n) :=
  ⟨Condition.recovers.undone, Options.recovers.undone, Object.recovers.undone,
    Relation.recovers.undone, Lane.recovers.undone, SiteUser.recovers.undone, Role.recovers.undone,
    RowUpdate.recovers.undone, RetryPolicy.recovers.undone, Config.recovers.undone,
    Number.survives_integer_iff⟩

/-- A rule with a list, from its document and its text. -/
theorem decoding_undoes_encoding_sizes :
    let c : Condition := .rule ⟨"size", .isIn, .array [.number (.integer 5), .null, .string "\n"]⟩
    Condition.ofDocument? c.document = some c ∧
      (ofText? c.document.text).bind Condition.ofDocument? = some c := by
  intro c
  obtain ⟨hundone, -⟩ := decoding_undoes_encoding
  have hc : ∃ d, Condition.ofDocument? d = some c := ⟨c.document, by rfl⟩
  have hsurvives : c.document.Survives 0 := by
    simp [c, Condition.document, Rule.document, Json.document, Json.documentItems, Survives,
      SurvivesItems, SurvivesMembers, Number.Survives, depthLimit]
  exact ⟨hundone.recovers c hc, hundone.text c hc hsurvives⟩

/-- The text that the condition in a text is written as. -/
def Condition.rewritten (text : String) : Option String :=
  ((ofText? text).bind ofDocument?).map fun c => c.document.text

/-- **A rule may be read from its text as another rule.** A real number is read in two steps that
each round, and the text of the result does not always lead back to it. -/
theorem rule_text_drifts :
    ∃ c, (ofText? "\x7b\"key\":\"k\",\"rule\":\"equals\",\"value\":94.245028377705025946\x7d").bind
        Condition.ofDocument? = some c ∧
      (ofText? c.document.text).bind Condition.ofDocument? ≠ some c := by
  have hfirst : Condition.rewritten
      "\x7b\"key\":\"k\",\"rule\":\"equals\",\"value\":94.245028377705025946\x7d" =
        some "\x7b\"key\":\"k\",\"rule\":\"equals\",\"value\":94.24502837770503\x7d" := by
    decide +kernel
  have hsecond : Condition.rewritten
      "\x7b\"key\":\"k\",\"rule\":\"equals\",\"value\":94.24502837770503\x7d" =
        some "\x7b\"key\":\"k\",\"rule\":\"equals\",\"value\":94.24502837770504\x7d" := by
    decide +kernel
  obtain ⟨c, hc, htext⟩ := Option.map_eq_some_iff.mp hfirst
  refine ⟨c, hc, fun hagain => ?_⟩
  have hsame : Condition.rewritten c.document.text = some c.document.text := by
    rw [Condition.rewritten, hagain, Option.map_some]
  rw [htext, hsecond] at hsame
  exact absurd hsame (by decide)

end Fieldwork
