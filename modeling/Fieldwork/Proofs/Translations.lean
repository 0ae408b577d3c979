import Fieldwork.Proofs.Find
import Fieldwork.Proofs.Json
import Fieldwork.Proofs.Json.Text
import Mathlib.Data.List.Forall2

/-!
# Merging the translations of a row

The payloads of a row are read column by column and record by record. Each record that has a
language says something in it, and what is said is put into the first record of that language, one
after the other. All of that comes to one step: a record is added for each language that is new, and
then each record is given what is said in the languages whose place it is (`merged`). From this form
it is read off which records there are and what they hold.

* `foldl_addEntries`: adding one after the other is the one step.
* `Merges`: the languages, the entries and the other records of the outcome.
* `reshape_text`: a payload may come as a list or as the text of one.
* `reshapeAll_merges`: rows are kept, each with its records merged, and a second merge does nothing.
-/

namespace Fieldwork

/-- The records of a payload that can be read: a list, or the text of one. -/
def Json.records? : Json → Option (List Json)
  | .array records => some records
  | .string raw => (Json.ofText? raw).bind Json.array?
  | _ => none

/-- The text of a list is read as that list. -/
theorem Json.records?_text {records : List Json} (hcanonical : (Json.array records).Canonical)
    (h : (Json.array records).document.Survives 0) :
    (Json.string (Json.array records).text).records? = some records := by
  rw [records?, Json.ofText?_text hcanonical h]
  rfl

namespace Translations

/-! ## Columns of translations -/

/-- A column of translations is named after its table, with the word behind it. -/
theorem tableOf?_eq_some_iff {column table : String} :
    tableOf? column = some table ↔ table ≠ "" ∧ column = table ++ suffix := by
  unfold tableOf?
  constructor
  · intro h
    dsimp only at h
    split at h
    next hholds =>
      obtain ⟨hpos, hsuffix⟩ := hholds
      obtain ⟨front, hfront⟩ := List.isSuffixOf_iff_suffix.mp hsuffix
      rw [← hfront, List.length_append, Nat.add_sub_cancel] at hpos
      rw [← hfront, List.length_append, Nat.add_sub_cancel, List.take_left] at h
      cases h
      refine ⟨fun hempty => ?_, String.toList_inj.mp ?_⟩
      · rw [String.ofList_eq_empty_iff] at hempty
        simp [hempty] at hpos
      · rw [String.toList_append, String.toList_ofList, hfront]
    next => cases h
  · rintro ⟨hne, rfl⟩
    dsimp only
    have hpos : 0 < table.toList.length :=
      List.length_pos_of_ne_nil fun hnil => hne (String.toList_eq_nil_iff.mp hnil)
    rw [String.toList_append, List.length_append, Nat.add_sub_cancel, List.take_left,
      String.ofList_toList]
    exact if_pos ⟨hpos, List.isSuffixOf_iff_suffix.mpr (List.suffix_append ..)⟩

theorem tableOf?_eq_none_iff {column : String} :
    tableOf? column = none ↔ ∀ table ≠ "", column ≠ table ++ suffix := by
  constructor
  · intro h table hne heq
    rw [tableOf?_eq_some_iff.mpr ⟨hne, heq⟩] at h
    cases h
  · intro h
    rw [Option.eq_none_iff_forall_ne_some]
    intro table htable
    obtain ⟨hne, heq⟩ := tableOf?_eq_some_iff.mp htable
    exact h table hne heq

/-- The table in the name of a column of translations, in front of the word that it ends in. -/
def source? (column : String) : Option String :=
  ((column.toList.dropSuffix? ".translations".toList).filter (· ≠ [])).map String.ofList

theorem source?_eq_some_iff {column table : String} :
    source? column = some table ↔ table ≠ "" ∧ column = table ++ suffix := by
  unfold source?
  simp only [Option.map_eq_some_iff, Option.filter_eq_some_iff, List.dropSuffix?_eq_some_iff,
    beq_iff_eq, exists_eq_right, decide_eq_true_eq]
  constructor
  · rintro ⟨front, ⟨hcolumn, hne⟩, rfl⟩
    refine ⟨fun hempty => hne (String.ofList_eq_empty_iff.mp hempty), String.toList_inj.mp ?_⟩
    rw [String.toList_append, String.toList_ofList, hcolumn]
    rfl
  · rintro ⟨hne, rfl⟩
    refine ⟨table.toList, ⟨String.toList_append, fun hnil => ?_⟩, String.ofList_toList⟩
    exact hne (String.toList_eq_nil_iff.mp hnil)

/-- The program cuts the name as `source?` reads it. -/
theorem tableOf?_eq_source? (column : String) : tableOf? column = source? column :=
  Option.ext fun _ => tableOf?_eq_some_iff.trans source?_eq_some_iff.symm

/-- A row has no payloads when no column is one of translations. -/
theorem payloads_eq_nil_iff {r : Row} :
    payloads r = [] ↔ ∀ column ∈ r.names, tableOf? column = none := by
  unfold payloads Record.names
  simp only [List.filterMap_eq_nil_iff, List.forall_mem_map, Option.map_eq_none_iff]

/-! ## What the payloads say -/

/-- The language of a record and its other fields, each named after its table and itself. What is no
object, or has no language, says nothing. -/
def speech? (table : String) : Json → Option (Json × Row)
  | .object fields => (Record.get? fields "language_code").map fun language =>
      (language, (fields.filter fun field => field.1 ≠ "language_code").map fun field =>
        (table ++ "." ++ field.1, field.2))
  | _ => none

/-- What the readable payloads of a row say, column by column in the order of their names and record
by record. -/
def said (r : Row) : List (Json × Row) :=
  r.flatMap fun entry =>
    match source? entry.1 with
    | some table => (entry.2.records?.getD []).filterMap (speech? table)
    | none => []

/-! ## Records by language -/

/-- The language of a record, if it has one. -/
def code? (record : Json) : Option Json :=
  record.get? languageKey

/-- A record of which only the language is known. -/
def bare (language : Json) : Json :=
  .object [(languageKey, language)]

/-- A record is of a language when its own is the same. -/
theorem speaks_eq (l record : Json) : speaks l record = (code? record).any (· == l) := by
  unfold speaks code?
  cases record.get? languageKey <;> rfl

theorem speaks_congr {l l' : Json} (h : (l == l') = true) : speaks l = speaks l' := by
  funext record
  rw [speaks_eq, speaks_eq]
  cases code? record with
  | none => rfl
  | some c => exact BEq.congr_right h

/-- The place of the first record of a language. -/
def place? (records : List Json) (l : Json) : Option ℕ :=
  records.findIdx? (speaks l)

/-- Only the languages of the records count. -/
theorem place?_eq (records : List Json) (l : Json) :
    place? records l = (records.map code?).findIdx? fun c => c.any (· == l) := by
  rw [place?, List.findIdx?_map]
  congr 1
  funext record
  exact speaks_eq l record

/-- A language has a place when one of the known languages is the same. -/
theorem isSome_place?_iff {records : List Json} {l : Json} :
    (place? records l).isSome = (records.filterMap code?).any (· == l) := by
  rw [place?, List.findIdx?_isSome, List.any_filterMap]
  congr 1
  funext record
  exact (speaks_eq l record).trans (by cases code? record <;> rfl)

/-- The record of a place has the language, if only in other words. -/
theorem exists_code?_of_place? {records : List Json} {l : Json} {i : ℕ}
    (h : place? records l = some i) :
    ∃ c, records[i]?.bind code? = some c ∧ (c == l) = true := by
  obtain ⟨hlt, hspeaks, -⟩ := List.findIdx?_eq_some_iff_getElem.mp h
  rw [speaks_eq, Option.any_eq_true] at hspeaks
  rwa [List.getElem?_eq_getElem hlt]

/-- What a record says of its language is kept where nothing is written over it. -/
theorem code?_overlayOn {entries : Row} (h : ∀ entry ∈ entries, entry.1 ≠ languageKey)
    (record : Json) : code? (overlayOn entries record) = code? record := by
  cases record with
  | object fields =>
    have hnone : Record.last? languageKey entries = none := by
      rw [← Option.not_isSome_iff_eq_none, Record.isSome_last?_iff]
      rintro hmem
      obtain ⟨entry, hentry, hname⟩ := List.mem_map.mp hmem
      exact h entry hentry hname
    refine (Record.get?_overlay fields entries languageKey).trans ?_
    rw [hnone, Option.none_or]
    rfl
  | _ => rfl

theorem overlayOn_append (a b : Row) (record : Json) :
    overlayOn (a ++ b) record = overlayOn b (overlayOn a record) := by
  cases record with
  | object fields => exact congrArg Json.object (List.foldl_append ..)
  | _ => rfl

theorem overlayOn_nil : overlayOn [] = id := by
  funext record
  cases record <;> rfl

/-- **Entries go to the first record of their language**, or to a new one. -/
theorem addEntries_eq (l : Json) (entries : Row) (records : List Json) :
    addEntries l entries records =
      match place? records l with
      | some i => records.modify i (overlayOn entries)
      | none => records ++ [overlayOn entries (bare l)] := by
  induction records with
  | nil => rfl
  | cons record records ih =>
    rw [addEntries, place?, List.findIdx?_cons]
    by_cases hspeaks : speaks l record = true
    · rw [if_pos hspeaks, if_pos hspeaks]
      rfl
    · rw [if_neg hspeaks, if_neg hspeaks, ih, place?]
      cases records.findIdx? (speaks l) <;> rfl

/-! ### New languages -/

/-- The languages that are not known yet, each where it occurs first. -/
def newCodes : List Json → List Json → List Json
  | _, [] => []
  | known, l :: ls =>
    if known.any (· == l) then newCodes known ls else l :: newCodes (known ++ [l]) ls

/-- One more language is new if it is not known by then. -/
theorem newCodes_concat (known ls : List Json) (l : Json) :
    newCodes known (ls ++ [l]) =
      newCodes known ls ++ if (known ++ newCodes known ls).any (· == l) then [] else [l] := by
  induction ls generalizing known with
  | nil => simp [newCodes]
  | cons first ls ih =>
    rw [List.cons_append, newCodes, newCodes]
    split
    · exact ih known
    · rw [ih, List.append_assoc]
      rfl

/-- Every language is known in the end. -/
theorem any_newCodes {l : Json} {ls : List Json} (h : l ∈ ls) (known : List Json) :
    (known ++ newCodes known ls).any (· == l) = true := by
  induction ls generalizing known with
  | nil => cases h
  | cons first ls ih =>
    rw [newCodes]
    rcases List.mem_cons.mp h with rfl | hmem
    -- the first one is known already or becomes the first that is new
    · split
      next hknown => rw [List.any_append, hknown, Bool.true_or]
      next => simp
    · split
      · exact ih hmem known
      · have hrest := ih hmem (known ++ [first])
        rwa [List.append_assoc] at hrest

/-- A new language was not known before. -/
theorem not_any_of_mem_newCodes {l : Json} {known ls : List Json} (h : l ∈ newCodes known ls) :
    known.any (· == l) = false := by
  induction ls generalizing known with
  | nil => cases h
  | cons first ls ih =>
    rw [newCodes] at h
    split at h
    next => exact ih h
    next hnew =>
      rcases List.mem_cons.mp h with rfl | hmem
      · exact Bool.eq_false_iff.mpr hnew
      · have hrest := ih hmem
        rw [List.any_append, Bool.or_eq_false_iff] at hrest
        exact hrest.1

/-- No two new languages are the same. -/
theorem pairwise_newCodes (known ls : List Json) :
    (newCodes known ls).Pairwise fun a b => (a == b) = false := by
  induction ls generalizing known with
  | nil => exact List.Pairwise.nil
  | cons first ls ih =>
    rw [newCodes]
    split
    · exact ih known
    · refine List.pairwise_cons.mpr ⟨fun l hl => ?_, ih _⟩
      have hnot := not_any_of_mem_newCodes hl
      simp only [List.any_append, List.any_cons, Bool.or_eq_false_iff] at hnot
      exact hnot.2.1

/-! ### All that is said, in one place -/

/-- What is said in the languages whose place is the given one. -/
def entriesAt (place : Json → Option ℕ) (said : List (Json × Row)) (i : ℕ) : Row :=
  (said.filter fun s => place s.1 = some i).flatMap Prod.snd

section

variable (place : Json → Option ℕ) (said : List (Json × Row)) (s : Json × Row) (i : ℕ)

/-- What is said last comes last at its place. -/
theorem entriesAt_concat :
    entriesAt place (said ++ [s]) i =
      entriesAt place said i ++ if place s.1 = some i then s.2 else [] := by
  unfold entriesAt
  rw [List.filter_append, List.flatMap_append]
  congr 1
  by_cases hplace : place s.1 = some i
  · simp [hplace]
  · simp [hplace]

variable {place said i}

theorem entriesAt_congr {place' : Json → Option ℕ} (h : ∀ s ∈ said, place s.1 = place' s.1) :
    entriesAt place said i = entriesAt place' said i := by
  unfold entriesAt
  congr 1
  exact List.filter_congr fun s hs => by rw [h s hs]

theorem entriesAt_eq_nil (h : ∀ s ∈ said, place s.1 ≠ some i) : entriesAt place said i = [] := by
  unfold entriesAt
  rw [List.filter_eq_nil_iff.mpr fun s hs => by simpa using h s hs, List.flatMap_nil]

end

section Merge

variable (existing : List Json) (said : List (Json × Row))

/-- The languages that are heard of first from the payloads. -/
def added : List Json :=
  newCodes (existing.filterMap code?) (said.map Prod.fst)

/-- The records before anything is written to them. -/
def base : List Json :=
  existing ++ (added existing said).map bare

/-- The existing records and one for each new language, with all that is said. -/
def merged : List Json :=
  (base existing said).mapIdx fun i record =>
    overlayOn (entriesAt (place? (base existing said)) said i) record

variable {existing said}

/-- Each record is the one it was, with all that is said at its place. -/
theorem getElem?_merged (i : ℕ) :
    (merged existing said)[i]? =
      ((base existing said)[i]?).map
        (overlayOn (entriesAt (place? (base existing said)) said i)) :=
  List.getElem?_mapIdx ..

theorem filterMap_code?_base :
    (base existing said).filterMap code? = existing.filterMap code? ++ added existing said := by
  have hbare : code? ∘ bare = some := rfl
  unfold base
  rw [List.filterMap_append, List.filterMap_map, hbare, List.filterMap_some]

variable (existing) in
/-- Every language that is spoken has a place. -/
theorem exists_place?_base {s : Json × Row} (h : s ∈ said) :
    ∃ i, place? (base existing said) s.1 = some i := by
  rw [← Option.isSome_iff_exists, isSome_place?_iff, filterMap_code?_base]
  exact any_newCodes (List.mem_map_of_mem h) _

/-- A record is put at the end for what is said in a language that no record has. -/
theorem base_concat (s : Json × Row) :
    base existing (said ++ [s]) =
      base existing said ++
        if (place? (base existing said) s.1).isSome then [] else [bare s.1] := by
  have hadded : added existing (said ++ [s]) = added existing said ++
      if (place? (base existing said) s.1).isSome then [] else [s.1] := by
    rw [isSome_place?_iff, filterMap_code?_base, added, List.map_append, List.map_singleton,
      newCodes_concat]
    rfl
  rw [base, hadded, List.map_append, ← List.append_assoc]
  congr 1
  cases (place? (base existing said) s.1).isSome <;> rfl

/-- Nothing that is said is about the language of a record. -/
def Wordless (said : List (Json × Row)) : Prop :=
  ∀ s ∈ said, ∀ entry ∈ s.2, entry.1 ≠ languageKey

theorem Wordless.entriesAt (h : Wordless said) (place : Json → Option ℕ) (i : ℕ) :
    ∀ entry ∈ entriesAt place said i, entry.1 ≠ languageKey := by
  intro entry hentry
  obtain ⟨s, hs, hmem⟩ := List.mem_flatMap.mp hentry
  exact h s (List.mem_filter.mp hs).1 entry hmem

/-- Writing entries that are not about the language keeps the languages. -/
theorem map_code?_merged (h : Wordless said) :
    (merged existing said).map code? = (base existing said).map code? := by
  refine List.ext_getElem? fun i => ?_
  rw [List.getElem?_map, List.getElem?_map, getElem?_merged]
  cases (base existing said)[i]? with
  | none => rfl
  | some record => exact congrArg some (code?_overlayOn (h.entriesAt _ i) record)

/-- So the places stay where they are. -/
theorem place?_merged (h : Wordless said) :
    place? (merged existing said) = place? (base existing said) := by
  funext l
  rw [place?_eq, place?_eq, map_code?_merged h]

/-- What is said in a language that has a record is added to the first such record. -/
theorem merged_concat_of_some {s : Json × Row} {i : ℕ}
    (hplace : place? (base existing said) s.1 = some i) :
    merged existing (said ++ [s]) = (merged existing said).modify i (overlayOn s.2) := by
  have hbase : base existing (said ++ [s]) = base existing said := by
    rw [base_concat, hplace]
    exact List.append_nil _
  refine List.ext_getElem? fun j => ?_
  rw [List.getElem?_modify, getElem?_merged, getElem?_merged, hbase, entriesAt_concat, hplace]
  cases (base existing said)[j]? with
  | none => rfl
  | some record =>
    by_cases hij : i = j
    · simp [hij, overlayOn_append]
    · simp [hij]

/-- What is said in a new language goes to a record at the end. -/
theorem merged_concat_of_none {s : Json × Row}
    (hplace : place? (base existing said) s.1 = none) :
    merged existing (said ++ [s]) = merged existing said ++ [overlayOn s.2 (bare s.1)] := by
  have hbase : base existing (said ++ [s]) = base existing said ++ [bare s.1] := by
    rw [base_concat, hplace]
    rfl
  -- the places of what was said before stay as they are
  have hkept : ∀ s' ∈ said, place? (base existing said ++ [bare s.1]) s'.1 =
      place? (base existing said) s'.1 := by
    intro s' hs'
    obtain ⟨i, hi⟩ := exists_place?_base existing hs'
    rw [hi, place?, List.findIdx?_append, ← place?, hi]
    rfl
  have hlast : place? (base existing said ++ [bare s.1]) s.1 =
      some (base existing said).length := by
    have hspeaks : speaks s.1 (bare s.1) = true := beq_self_eq_true s.1
    rw [place?, List.findIdx?_append, ← place?, hplace, List.findIdx?_singleton, if_pos hspeaks]
    simp
  have hentries : ∀ i, entriesAt (place? (base existing said ++ [bare s.1])) (said ++ [s]) i =
      entriesAt (place? (base existing said)) said i ++
        if (base existing said).length = i then s.2 else [] := by
    intro i
    rw [entriesAt_concat, entriesAt_congr hkept, hlast]
    simp only [Option.some_inj]
  -- nothing was said before about the record that is new
  have hnone : entriesAt (place? (base existing said)) said (base existing said).length = [] := by
    refine entriesAt_eq_nil fun s' _ hlength => ?_
    obtain ⟨hlt, -⟩ := List.findIdx?_eq_some_iff_getElem.mp hlength
    exact absurd hlt (Nat.lt_irrefl _)
  unfold merged
  rw [hbase, List.mapIdx_concat, hentries, hnone, List.nil_append, if_pos rfl]
  congr 1
  refine List.mapIdx_eq_mapIdx_iff.mpr fun i hi => ?_
  rw [hentries, if_neg (Nat.ne_of_gt hi), List.append_nil]

/-- **What is said goes to the existing records and the new ones**, one after another. -/
theorem foldl_addEntries (h : Wordless said) :
    said.foldl (fun records s => addEntries s.1 s.2 records) existing = merged existing said := by
  -- on the last that is said: the places of all before it are then known
  induction said using List.reverseRecOn with
  | nil =>
    refine List.ext_getElem? fun i => ?_
    have hnone : entriesAt (place? (base existing [])) [] i = [] := rfl
    rw [getElem?_merged, hnone, overlayOn_nil, Option.map_id, id, base, added, List.map_nil,
      newCodes, List.map_nil, List.append_nil, List.foldl_nil]
  | append_singleton said s ih =>
    have hsaid : Wordless said := fun s' hs' => h s' (List.mem_append_left _ hs')
    rw [List.foldl_concat, ih hsaid, addEntries_eq, place?_merged hsaid]
    cases hplace : place? (base existing said) s.1 with
    | some i => exact (merged_concat_of_some hplace).symm
    | none => exact (merged_concat_of_none hplace).symm

end Merge

/-! ## The merged records -/

/-- The records that come of what is said in several languages and of those that are there. -/
structure Merges (existing : List Json) (said : List (Json × Row)) (merged : List Json) :
    Prop where
  /-- The records keep their places and languages, and each new language has a record after them. -/
  codes : merged.map code? =
    existing.map code? ++ (newCodes (existing.filterMap code?) (said.map Prod.fst)).map some
  /-- The record that is the first of its language has what is said in it, and under a name that is
  said several times the value that is said last. -/
  entries : ∀ {l : Json} {i : ℕ}, place? merged l = some i →
    ∃ fields, merged[i]? = some (.object fields) ∧ ∀ name ≠ "language_code",
      Record.get? fields name =
        (Record.last? name ((said.filter fun s => s.1 == l).flatMap Prod.snd)).or
          (existing[i]?.bind fun record => record.get? name)
  /-- A record that is not the first of a language that is spoken stays as it is. -/
  others : ∀ i < existing.length, (∀ s ∈ said, place? merged s.1 ≠ some i) →
    merged[i]? = existing[i]?
  /-- A new record is the first of its language. -/
  fresh : ∀ {l : Json} {i : ℕ}, existing.length ≤ i → merged[i]?.bind code? = some l →
    place? merged l = some i
  /-- No language has two records unless it had. -/
  distinct : (existing.filterMap code?).Pairwise (fun a b => (a == b) = false) →
    (merged.filterMap code?).Pairwise fun a b => (a == b) = false

section

variable {existing : List Json} {said : List (Json × Row)}

theorem getElem?_base_of_lt {i : ℕ} (h : i < existing.length) :
    (base existing said)[i]? = existing[i]? :=
  List.getElem?_append_left h

/-- The records are of the languages there are and of the new ones. -/
theorem map_code?_base : (base existing said).map code? =
    existing.map code? ++ (added existing said).map some := by
  rw [base, List.map_append, List.map_map]
  rfl

theorem filterMap_code?_merged (h : Wordless said) :
    (merged existing said).filterMap code? = existing.filterMap code? ++ added existing said := by
  have hid : ∀ records : List Json, records.filterMap code? = (records.map code?).filterMap id :=
    fun records => by rw [List.filterMap_map, Function.id_comp]
  rw [← filterMap_code?_base, hid, hid, map_code?_merged h]

/-- What is said in the languages of a place is what is said in the language whose place it is. -/
theorem entriesAt_base {l : Json} {i : ℕ} (hplace : place? (base existing said) l = some i) :
    entriesAt (place? (base existing said)) said i =
      (said.filter fun s => s.1 == l).flatMap Prod.snd := by
  obtain ⟨c, hc, hcl⟩ := exists_code?_of_place? hplace
  unfold entriesAt
  congr 1
  refine List.filter_congr fun s _ => ?_
  rw [Bool.eq_iff_iff, decide_eq_true_iff]
  -- two languages of one place are the same, since both are that of the record there
  constructor
  · intro hs
    obtain ⟨c', hc', hcs⟩ := exists_code?_of_place? hs
    cases hc.symm.trans hc'
    exact BEq.trans (BEq.symm hcs) hcl
  · intro hs
    rw [← hplace, place?, place?, speaks_congr hs]

/-- A record that has a language is an object. A new one has nothing besides. -/
theorem exists_fields_base {i : ℕ} {c : Json}
    (hcode : ((base existing said)[i]?.bind code?) = some c) :
    ∃ fields, (base existing said)[i]? = some (.object fields) ∧ ∀ name ≠ "language_code",
      Record.get? fields name = existing[i]?.bind fun record => record.get? name := by
  by_cases hi : i < existing.length
  · rw [getElem?_base_of_lt hi] at hcode ⊢
    obtain ⟨record, hrecord, hc⟩ := Option.bind_eq_some_iff.mp hcode
    rw [hrecord]
    cases record with
    | object fields => exact ⟨fields, rfl, fun name _ => rfl⟩
    | _ => cases hc
  · have hnone : existing[i]? = none := List.getElem?_eq_none (Nat.le_of_not_lt hi)
    rw [base, List.getElem?_append_right (Nat.le_of_not_lt hi), List.getElem?_map] at hcode ⊢
    obtain ⟨record, hrecord, -⟩ := Option.bind_eq_some_iff.mp hcode
    obtain ⟨language, hlanguage, rfl⟩ := Option.map_eq_some_iff.mp hrecord
    refine ⟨[(languageKey, language)], by rw [hlanguage]; rfl, fun name hname => ?_⟩
    rw [hnone]
    exact if_neg hname.symm

/-- A new language is where it was put, since no record had it. -/
theorem place?_base_of_added {k : ℕ} {l : Json} (hl : (added existing said)[k]? = some l) :
    place? (base existing said) l = some (existing.length + k) := by
  obtain ⟨hk, hget⟩ := List.getElem?_eq_some_iff.mp hl
  have hold : (existing.map code?).findIdx? (fun c => c.any (· == l)) = none := by
    rw [← place?_eq, ← Option.not_isSome_iff_eq_none, isSome_place?_iff, Bool.not_eq_true]
    exact not_any_of_mem_newCodes (List.mem_of_getElem? hl)
  have hnew : ((added existing said).map some).findIdx? (fun c => c.any (· == l)) = some k := by
    refine List.findIdx?_eq_some_iff_getElem.mpr ⟨by rwa [List.length_map], ?_, fun j hjk => ?_⟩
    · rw [List.getElem_map, hget]
      exact beq_self_eq_true l
    · have hdistinct := List.pairwise_iff_getElem.mp
        (pairwise_newCodes (existing.filterMap code?) (said.map Prod.fst)) j k (hjk.trans hk) hk hjk
      rw [List.getElem_map, ← hget]
      exact Bool.eq_false_iff.mp hdistinct
  rw [place?_eq, map_code?_base, List.findIdx?_append, hold, hnew, List.length_map, Nat.add_comm]
  rfl

/-- **The one step merges what is said into the records.** -/
theorem merges_merged (h : Wordless said) : Merges existing said (merged existing said) where
  codes := (map_code?_merged h).trans map_code?_base
  entries := by
    intro l i hplace
    rw [place?_merged h] at hplace
    obtain ⟨c, hc, -⟩ := exists_code?_of_place? hplace
    obtain ⟨fields, hfields, hget⟩ := exists_fields_base hc
    refine ⟨Record.overlay fields ((said.filter fun s => s.1 == l).flatMap Prod.snd), ?_,
      fun name hname => ?_⟩
    · rw [getElem?_merged, hfields, entriesAt_base hplace]
      rfl
    · rw [Record.get?_overlay, hget name hname]
  others := by
    intro i hi hother
    rw [place?_merged h] at hother
    rw [getElem?_merged, getElem?_base_of_lt hi, entriesAt_eq_nil hother, overlayOn_nil,
      Option.map_id, id]
  fresh := by
    intro l i hi hcode
    have hcodes : (existing.map code? ++ (added existing said).map some)[i]? = some (some l) := by
      rw [← map_code?_base, ← map_code?_merged h, List.getElem?_map]
      obtain ⟨record, hrecord, hl⟩ := Option.bind_eq_some_iff.mp hcode
      rw [hrecord, Option.map_some, hl]
    have hlength : (existing.map code?).length ≤ i := (List.length_map _).trans_le hi
    rw [List.getElem?_append_right hlength, List.length_map, List.getElem?_map] at hcodes
    obtain ⟨l', hl', heq⟩ := Option.map_eq_some_iff.mp hcodes
    cases heq
    -- the record behind the existing ones is that of a new language
    rw [place?_merged h, place?_base_of_added hl', Nat.add_sub_cancel' hi]
  distinct := by
    intro hexisting
    rw [filterMap_code?_merged h]
    refine List.pairwise_append.mpr ⟨hexisting, pairwise_newCodes _ _, fun a ha b hb => ?_⟩
    have hnot := List.any_eq_false.mp (not_any_of_mem_newCodes hb)
    exact Bool.eq_false_iff.mpr (hnot a ha)

end

/-! ## Rows -/

/-- No entry is about the language, since its name has a point in it. -/
theorem wordless_said (r : Row) : Wordless (said r) := by
  intro s hs entry hentry
  obtain ⟨⟨column, payload⟩, -, hcolumn⟩ := List.mem_flatMap.mp hs
  cases htable : source? column with
  | none => rw [htable] at hcolumn; cases hcolumn
  | some table =>
    rw [htable] at hcolumn
    obtain ⟨record, -, hspeech⟩ := List.mem_filterMap.mp hcolumn
    cases record with
    | object fields =>
      obtain ⟨language, -, rfl⟩ := Option.map_eq_some_iff.mp hspeech
      obtain ⟨field, -, rfl⟩ := List.mem_map.mp hentry
      -- a name made of two has a dot in it, and the name of the language has none
      intro hname
      have hdot : '.' ∈ languageKey.toList := by
        rw [← hname, String.toList_append, String.toList_append]
        simp
      exact absurd hdot (by decide)
    | _ => cases hspeech

/-- A record adds what it says, if it says anything. -/
theorem addRecord_eq (table : String) (record : Json) (records : List Json) :
    addRecord table records record =
      (speech? table record).elim records fun s => addEntries s.1 s.2 records := by
  cases record with
  | object fields =>
    have hspeech : speech? table (.object fields) = (Record.get? fields languageKey).map
        fun language => (language, qualified table fields) := rfl
    rw [hspeech, addRecord]
    cases Record.get? fields languageKey <;> rfl
  | _ => rfl

/-- The program takes the records of a payload that can be read. -/
theorem recordsOf_fst (column : String) (payload : Json) :
    (recordsOf column payload).1 = payload.records?.getD [] := by
  cases payload with
  | string raw =>
    unfold recordsOf Json.records?
    dsimp only
    cases (Json.ofText? raw).bind Json.array? <;> rfl
  | _ => rfl

/-- A column adds what its records say, one after another. -/
theorem mergeColumn_fst (column table : String) (payload : Json) (records : List Json) :
    (mergeColumn column table payload records).1 =
      ((payload.records?.getD []).filterMap (speech? table)).foldl
        (fun records s => addEntries s.1 s.2 records) records := by
  change (recordsOf column payload).1.foldl (addRecord table) records = _
  rw [recordsOf_fst, List.foldl_filterMap]
  congr 1
  funext records record
  rw [addRecord_eq]
  cases speech? table record <;> rfl

/-- **The loops of the program add what is said**, one after the other. -/
theorem mergeAll_payloads (r : Row) (records : List Json) :
    (mergeAll (payloads r) records).1 =
      (said r).foldl (fun records s => addEntries s.1 s.2 records) records := by
  induction r generalizing records with
  | nil => rfl
  | cons entry r ih =>
    obtain ⟨column, payload⟩ := entry
    unfold payloads said
    rw [List.filterMap_cons, List.flatMap_cons]
    dsimp only
    rw [tableOf?_eq_source?]
    cases source? column with
    | none => exact ih records
    | some table =>
      rw [List.foldl_append, ← mergeColumn_fst column]
      exact ih _

/-- The records that are there before are read like those of a payload. -/
theorem existing_eq (e : Option Json) : existing e = (e.bind Json.records?).getD [] := by
  cases e with
  | none => rfl
  | some v => cases v <;> rfl

/-- What a row becomes when its translations are merged. -/
structure Reshaped (r r' : Row) : Prop where
  /-- A row without columns of translations stays as it is. -/
  same : (∀ table ≠ "", table ++ ".translations" ∉ r.names) → r' = r
  /-- What the payloads say is merged into the records that the row has already. -/
  merges : (∃ table ≠ "", table ++ ".translations" ∈ r.names) →
    ∃ merged, Record.get? r' "translations" = some (.array merged) ∧
      Merges (((Record.get? r "translations").bind Json.records?).getD []) (said r) merged
  /-- No column of translations is left. -/
  gone : ∀ table ≠ "", table ++ ".translations" ∉ r'.names
  /-- The other columns stay. -/
  others : ∀ name ≠ "translations", (∀ table ≠ "", name ≠ table ++ ".translations") →
    Record.get? r' name = Record.get? r name

theorem payloads_eq_nil {r : Row} (h : ∀ table ≠ "", table ++ ".translations" ∉ r.names) :
    payloads r = [] := by
  refine payloads_eq_nil_iff.mpr fun column hcolumn => tableOf?_eq_none_iff.mpr ?_
  rintro table hne rfl
  exact h table hne hcolumn

theorem reshape_of_nil {r : Row} (h : payloads r = []) : reshape r = (r, []) := by
  unfold reshape
  rw [h]

/-- **A row with payloads gets the records of the one step**, and loses its payloads. -/
theorem reshape_of_ne_nil {r : Row} (h : payloads r ≠ []) :
    (reshape r).1 = Record.insert "translations"
      (.array (merged (((Record.get? r "translations").bind Json.records?).getD []) (said r)))
      (r.filter fun entry => (tableOf? entry.1).isNone) := by
  rw [← foldl_addEntries (wordless_said r), ← mergeAll_payloads, ← existing_eq]
  unfold reshape
  split
  next hnil => exact absurd hnil h
  next => rfl

/-- **What becomes of one row.** -/
theorem reshaped_reshape (r : Row) : Reshaped r (reshape r).1 where
  same := fun h => congrArg Prod.fst (reshape_of_nil (payloads_eq_nil h))
  merges := by
    rintro ⟨table, hne, hmem⟩
    have hpayloads : payloads r ≠ [] := by
      intro hnil
      exact tableOf?_eq_none_iff.mp (payloads_eq_nil_iff.mp hnil _ hmem) table hne rfl
    refine ⟨_, ?_, merges_merged (wordless_said r)⟩
    rw [reshape_of_ne_nil hpayloads, Record.get?_insert_self]
  gone := by
    intro table hne hmem
    have hsome : tableOf? (table ++ ".translations") = some table :=
      tableOf?_eq_some_iff.mpr ⟨hne, rfl⟩
    by_cases hpayloads : payloads r = []
    · rw [reshape_of_nil hpayloads] at hmem
      have hnone := payloads_eq_nil_iff.mp hpayloads _ hmem
      cases hsome.symm.trans hnone
    · rw [reshape_of_ne_nil hpayloads] at hmem
      obtain ⟨entry, hentry, hname⟩ := List.mem_map.mp hmem
      have hnone : tableOf? entry.1 = none := by
        rcases Record.mem_insert hentry with rfl | hkept
        · exact (by decide : tableOf? "translations" = none)
        · exact Option.isNone_iff_eq_none.mp (List.mem_filter.mp hkept).2
      rw [hname] at hnone
      cases hsome.symm.trans hnone
  others := fun name hname hother => get?_reshape (tableOf?_eq_none_iff.mpr hother) hname r

/-! ### Payloads as text -/

/-- **A payload may come as a list or as the text of one**: the row becomes the same. -/
theorem reshape_text {column table : String} (hcolumn : source? column = some table)
    {records : List Json} (hcanonical : (Json.array records).Canonical)
    (h : (Json.array records).document.Survives 0) (a b : Row) :
    (reshape (a ++ (column, .string (Json.array records).text) :: b)).1 =
      (reshape (a ++ (column, .array records) :: b)).1 := by
  have htable : tableOf? column = some table := (tableOf?_eq_source? column).trans hcolumn
  have hmerged : column ≠ "translations" := by
    rintro rfl
    cases htable
  have hpayloads : ∀ v, payloads (a ++ (column, v) :: b) ≠ [] := by
    intro v hnil
    have hnone := payloads_eq_nil_iff.mp hnil column (by simp [Record.names])
    cases htable.symm.trans hnone
  have hsaid : said (a ++ (column, .string (Json.array records).text) :: b) =
      said (a ++ (column, .array records) :: b) := by
    simp only [said, List.flatMap_append, List.flatMap_cons, hcolumn,
      Json.records?_text hcanonical h]
    rfl
  rw [reshape_of_ne_nil (hpayloads _), reshape_of_ne_nil (hpayloads _), hsaid,
    Record.get?_append_cons hmerged, Record.get?_append_cons hmerged]
  simp [htable]

/-- **Merging the translations of rows keeps the rows**, in their order, and merges in each what its
payloads say, one record per language, and nothing else. Merging a second time changes nothing. -/
theorem reshapeAll_merges (rows : List Row) :
    List.Forall₂ Reshaped rows (reshapeAll rows).1 ∧
      reshapeAll (reshapeAll rows).1 = ((reshapeAll rows).1, []) := by
  constructor
  · rw [reshapeAll_fst, List.forall₂_map_right_iff]
    exact List.forall₂_same.mpr fun r _ => reshaped_reshape r
  · induction rows with
    | nil => rfl
    | cons r rows ih =>
      have hr : reshape (reshape r).1 = ((reshape r).1, []) :=
        reshape_of_nil (payloads_eq_nil (reshaped_reshape r).gone)
      simp only [reshapeAll, hr, ih, List.append_nil]

/-! ### Titles of two tables -/

def titled (language title : String) : Json :=
  .object [("language_code", .string language), ("title", .string title)]

/-- A title among what is no record of a language. -/
def furtherTitles : List Json :=
  [titled "de" "Lo", .null, .object [("title", .string "?")]]

/-- Two titles of one table beside the payload of another. -/
def titles (payload : Json) : Row :=
  [("A.translations", .array [titled "en" "Hi", titled "de" "Ho"]), ("B.translations", payload)]

theorem furtherTitles_canonical : (Json.array furtherTitles).Canonical :=
  Json.canonical_of_json? (Json.array furtherTitles).document rfl

theorem furtherTitles_survives : (Json.array furtherTitles).document.Survives 0 := by
  simp [furtherTitles, titled, Json.document, Json.documentItems, Json.documentMembers,
    Document.Survives, Document.SurvivesItems, Document.SurvivesMembers, Document.depthLimit]

/-- The further titles are merged although they come as a text. -/
theorem reshapeAll_merges_titles :
    let text := "[\x7b\"language_code\":\"de\",\"title\":\"Lo\"\x7d,null,\x7b\"title\":\"?\"\x7d]"
    let r : Row := [("translations", .array [
      .object [("A.title", .string "Hi"), ("language_code", .string "en")],
      .object [("A.title", .string "Ho"), ("B.title", .string "Lo"),
        ("language_code", .string "de")]])]
    (reshapeAll [titles (.string text)]).1 = [r] ∧
      List.Forall₂ Reshaped [titles (.string text)] [r] ∧ reshapeAll [r] = ([r], []) := by
  intro text r
  have htext : text = (Json.array furtherTitles).text := by decide +kernel
  have hcolumn : source? "B.translations" = some "B" := by decide +kernel
  have hrow : (reshape (titles (.string text))).1 = r :=
    calc (reshape (titles (.string text))).1
        = (reshape (titles (.string (Json.array furtherTitles).text))).1 := by rw [htext]
      _ = (reshape (titles (.array furtherTitles))).1 :=
          reshape_text hcolumn furtherTitles_canonical furtherTitles_survives [_] []
      _ = r := rfl
  have hrows : (reshapeAll [titles (.string text)]).1 = [r] := congrArg (· :: []) hrow
  obtain ⟨hreshaped, hagain⟩ := reshapeAll_merges [titles (.string text)]
  rw [hrows] at hreshaped hagain
  exact ⟨hrows, hreshaped, hagain⟩

end Translations
end Fieldwork
