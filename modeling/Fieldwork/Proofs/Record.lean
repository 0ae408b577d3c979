import Fieldwork.Record
import Mathlib.Data.String.Basic

/-!
# Entries of records

What a look-up finds after several entries are written or some are left out.

* `get?_overlay`: what is found after writing entries is what was written last, or else what was
  there before.
* `get?_filter_name`: leaving out entries by their names.
* `ofList_of_ordered`: a record whose names increase is made from its own entries.
-/

namespace Fieldwork.Record

variable {α : Type}

theorem overlay_cons (r : Record α) (entry : String × α) (entries : List (String × α)) :
    overlay r (entry :: entries) = overlay (insert entry.1 entry.2 r) entries := rfl

/-- What is found is an entry of the record. -/
theorem mem_of_get? {name : String} {v : α} {r : Record α} (h : get? r name = some v) :
    (name, v) ∈ r := by
  induction r with
  | nil => cases h
  | cons entry r ih =>
    by_cases hname : entry.1 = name
    · rw [get?, if_pos hname] at h
      cases h
      subst hname
      exact List.mem_cons_self ..
    · rw [get?, if_neg hname] at h
      exact List.mem_cons_of_mem _ (ih h)

/-- A name under which nothing is found does not occur. -/
theorem isSome_get?_iff {name : String} {r : Record α} : (get? r name).isSome ↔ name ∈ r.names := by
  induction r with
  | nil => simp [get?, names]
  | cons entry r ih =>
    rw [get?, names, List.map_cons, List.mem_cons]
    by_cases hname : entry.1 = name
    · simp [hname]
    · rw [if_neg hname, ih, names]
      simp [Ne.symm hname]

/-! ## Last entries -/

/-- The value of the last entry under a name. -/
def last? (name : String) (entries : List (String × α)) : Option α :=
  entries.findSomeRev? fun entry => if entry.1 = name then some entry.2 else none

section Last

variable {name : String} {entries : List (String × α)}

/-- The last entry of a name is found behind the first one, if it is there again. -/
theorem last?_cons (entry : String × α) :
    last? name (entry :: entries) =
      (last? name entries).or (if entry.1 = name then some entry.2 else none) := by
  unfold last?
  rw [List.findSomeRev?_eq_findSome?_reverse, List.findSomeRev?_eq_findSome?_reverse,
    List.reverse_cons, List.findSome?_append, List.findSome?_singleton]

/-- The last entry of a name is one of the entries. -/
theorem mem_of_last? {v : α} (h : last? name entries = some v) : (name, v) ∈ entries := by
  unfold last? at h
  rw [List.findSomeRev?_eq_findSome?_reverse] at h
  obtain ⟨entry, hmem, hentry⟩ := List.exists_of_findSome?_eq_some h
  split at hentry
  next hname =>
    cases hentry
    subst hname
    exact List.mem_reverse.mp hmem
  next => cases hentry

/-- There is a last entry of the names that occur. -/
theorem isSome_last?_iff : (last? name entries).isSome ↔ name ∈ entries.map Prod.fst := by
  induction entries with
  | nil => simp [last?]
  | cons entry entries ih =>
    rw [last?_cons, Option.isSome_or, Bool.or_eq_true, ih, List.map_cons, List.mem_cons]
    by_cases hname : entry.1 = name
    · simp [hname]
    · simp [hname, Ne.symm hname]

/-- Changing the values changes no place. -/
theorem last?_map {γ : Type} (f : α → γ) :
    last? name (entries.map fun entry => (entry.1, f entry.2)) = (last? name entries).map f := by
  induction entries with
  | nil => rfl
  | cons entry entries ih =>
    rw [List.map_cons, last?_cons, last?_cons, ih, Option.map_or]
    split <;> rfl

end Last

/-- **What is found was written last**, or it was there before and nothing was written over it. -/
theorem get?_overlay (r : Record α) (entries : List (String × α)) (name : String) :
    get? (overlay r entries) name = (last? name entries).or (get? r name) := by
  induction entries generalizing r with
  | nil => rfl
  | cons entry entries ih =>
    rw [overlay_cons, ih, last?_cons, Option.or_assoc]
    congr 1
    by_cases hname : entry.1 = name
    · rw [if_pos hname, ← hname, get?_insert_self]
      rfl
    · rw [if_neg hname, get?_insert_of_ne (Ne.symm hname)]
      rfl

/-- What is found was there before or comes from an entry. -/
theorem mem_or_of_get?_overlay {name : String} {v : α} {entries : List (String × α)} {r : Record α}
    (h : get? (overlay r entries) name = some v) : (name, v) ∈ entries ∨ get? r name = some v := by
  rw [get?_overlay, Option.or_eq_some_iff] at h
  exact h.imp mem_of_last? And.right

/-- What is found under a name does not depend on an entry of another name. -/
theorem get?_append_cons {name other : String} (h : other ≠ name) (front back : Record α) (v : α) :
    get? (front ++ (other, v) :: back) name = get? (front ++ back) name := by
  induction front with
  | nil => exact if_neg h
  | cons entry front ih => rw [List.cons_append, List.cons_append, get?, get?, ih]

/-- Leaving out entries by name does not touch the names that are kept. -/
theorem get?_filter_name (keep : String → Bool) {name : String} (h : keep name = true)
    (r : Record α) : get? (r.filter fun entry => keep entry.1) name = get? r name := by
  induction r with
  | nil => rfl
  | cons entry r ih =>
    obtain ⟨n, v⟩ := entry
    by_cases hn : n = name
    · subst hn
      rw [List.filter_cons, if_pos h, get?, get?, if_pos rfl, if_pos rfl]
    · rw [List.filter_cons]
      by_cases hk : keep n = true
      · rw [if_pos hk, get?, get?, if_neg hn, if_neg hn, ih]
      · rw [if_neg hk, get?, if_neg hn, ih]

/-! ## Records in order -/

variable {r : Record α}

/-- The names increase strictly. -/
def Ordered (r : Record α) : Prop :=
  r.Pairwise fun a b => a.1 < b.1

/-- No name occurs twice in an ordered record. -/
theorem Ordered.nodup_names (h : Ordered r) : r.names.Nodup :=
  List.pairwise_map.mpr (h.imp fun hlt => hlt.ne)

/-- What is in a record after an insertion was inserted or was there before. -/
theorem mem_insert {name : String} {v : α} {entry : String × α} (h : entry ∈ insert name v r) :
    entry = (name, v) ∨ entry ∈ r := by
  induction r with
  | nil => simpa [insert] using h
  | cons first r ih =>
    unfold insert at h
    split at h
    · simpa using h
    · split at h
      · rcases List.mem_cons.mp h with rfl | hmem
        · exact Or.inl rfl
        · exact Or.inr (List.mem_cons_of_mem _ hmem)
      · rcases List.mem_cons.mp h with rfl | hmem
        · exact Or.inr (List.mem_cons_self ..)
        · exact (ih hmem).imp_right (List.mem_cons_of_mem _)

/-- **An insertion keeps the order.** -/
theorem Ordered.insert (h : Ordered r) (name : String) (v : α) : Ordered (insert name v r) := by
  induction r with
  | nil => exact List.pairwise_singleton _ _
  | cons first r ih =>
    obtain ⟨hfirst, hrest⟩ := List.pairwise_cons.mp h
    unfold Record.insert
    split
    case isTrue hlt =>
      refine List.pairwise_cons.mpr ⟨fun entry hmem => ?_, h⟩
      rcases List.mem_cons.mp hmem with rfl | hmem
      · exact hlt
      · exact hlt.trans (hfirst entry hmem)
    case isFalse hge =>
      split
      case isTrue heq =>
        subst heq
        exact List.pairwise_cons.mpr ⟨hfirst, hrest⟩
      case isFalse hne =>
        -- the name comes behind the first one
        have hgt : first.1 < name := lt_of_le_of_ne (not_lt.mp hge) hne
        refine List.pairwise_cons.mpr ⟨fun entry hmem => ?_, ih hrest⟩
        rcases mem_insert hmem with rfl | hmem
        · exact hgt
        · exact hfirst entry hmem

/-- Writing entries over an ordered record keeps it ordered. -/
theorem ordered_overlay (h : Ordered r) (entries : List (String × α)) :
    Ordered (overlay r entries) := by
  induction entries generalizing r with
  | nil => exact h
  | cons entry entries ih => exact ih (h.insert entry.1 entry.2)

/-- A record that is made of a list is ordered, whatever the order of the list. -/
theorem ordered_ofList (entries : List (String × α)) : Ordered (ofList entries) :=
  ordered_overlay List.Pairwise.nil entries

/-- What is in a record that was written over comes from the entries or from the record. -/
theorem mem_overlay {entry : String × α} {entries : List (String × α)}
    (h : entry ∈ overlay r entries) : entry ∈ entries ∨ entry ∈ r := by
  induction entries generalizing r with
  | nil => exact Or.inr h
  | cons first entries ih =>
    rcases ih h with hmem | hmem
    · exact Or.inl (List.mem_cons_of_mem _ hmem)
    · rcases mem_insert hmem with rfl | hmem
      · exact Or.inl (List.mem_cons_self ..)
      · exact Or.inr hmem

theorem mem_ofList {entry : String × α} {entries : List (String × α)}
    (h : entry ∈ ofList entries) : entry ∈ entries :=
  (mem_overlay h).resolve_right List.not_mem_nil

/-- A name behind all others is put at the end. -/
theorem insert_of_last {name : String} (h : ∀ entry ∈ r, entry.1 < name) (v : α) :
    insert name v r = r ++ [(name, v)] := by
  induction r with
  | nil => rfl
  | cons first r ih =>
    have hlt : first.1 < name := h first (List.mem_cons_self ..)
    unfold insert
    rw [if_neg hlt.asymm, if_neg hlt.ne, ih fun entry hmem => h entry (List.mem_cons_of_mem _ hmem)]
    rfl

/-- Entries whose names increase behind those of a record are put behind it. -/
theorem overlay_of_ordered {entries : List (String × α)} (h : Ordered (r ++ entries)) :
    overlay r entries = r ++ entries := by
  induction entries generalizing r with
  | nil => exact (List.append_nil r).symm
  | cons entry entries ih =>
    have hsplit : r ++ entry :: entries = (r ++ [entry]) ++ entries := by simp
    have hlast : ∀ other ∈ r, other.1 < entry.1 := by
      intro other hmem
      exact (List.pairwise_append.mp h).2.2 other hmem entry (List.mem_cons_self ..)
    rw [overlay_cons, insert_of_last hlast]
    rw [hsplit] at h ⊢
    exact ih h

/-- A name in front of all others is not in the record. -/
theorem get?_of_lt {name : String} (h : ∀ entry ∈ r, name < entry.1) : get? r name = none := by
  rw [Option.eq_none_iff_forall_ne_some]
  intro v hv
  exact lt_irrefl name (h _ (mem_of_get? hv))

section

variable {γ : Type} (f : String → α → Option γ)

/-- Leaving entries out and changing values keeps the order. -/
theorem Ordered.filterMap (h : Ordered r) :
    Ordered (r.filterMap fun entry => (f entry.1 entry.2).map fun v => (entry.1, v)) := by
  refine List.Pairwise.filterMap _ ?_ h
  intro a b hab c hc d hd
  obtain ⟨v, -, rfl⟩ := Option.map_eq_some_iff.mp hc
  obtain ⟨w, -, rfl⟩ := Option.map_eq_some_iff.mp hd
  exact hab

/-- Values are changed or dropped one by one. -/
theorem get?_filterMap (h : Ordered r) (name : String) :
    get? (r.filterMap fun entry => (f entry.1 entry.2).map fun v => (entry.1, v)) name =
      (get? r name).bind (f name) := by
  induction r with
  | nil => rfl
  | cons entry r ih =>
    obtain ⟨hfirst, hrest⟩ := List.pairwise_cons.mp h
    rw [List.filterMap_cons, get?]
    by_cases hname : entry.1 = name
    · subst hname
      rw [if_pos rfl, Option.bind_some]
      cases hv : f entry.1 entry.2 with
      | some v => exact if_pos rfl
      -- the name occurs only once
      | none =>
        rw [Option.map_none, ih hrest, get?_of_lt hfirst]
        rfl
    · rw [if_neg hname, ← ih hrest]
      cases f entry.1 entry.2 with
      | some v => exact if_neg hname
      | none => rfl

end

/-- A record whose names increase is made from its own entries. -/
theorem ofList_of_ordered (h : Ordered r) : ofList r = r :=
  overlay_of_ordered (r := []) h

end Fieldwork.Record
