import Fieldwork.Proofs.Chain.Replay
import Fieldwork.Proofs.Json
import Fieldwork.Proofs.Pages

/-!
# The row that is found is the row that is written

A row update reads the key of its row and writes the first stored row with that key. A row that was
found carries the key of the stored row it was read from, unless the find puts something else in
that column: row numbers stand under `id`, merged translations under `translations`.

* `overlayFirst_of_keyed`: where keys are distinct, a write changes the one row with its key.
* `written_step`: a row update makes one write at most, under the key of its row.
* `found_row_written`: **a row update on a found row writes the row it was read from** and no other,
  if the find leaves the key column alone.
* `numbered_key_misdirects`: a key under `id` is lost to the row number, and the update writes
  another row.
-/

namespace Fieldwork

open Program

/-! ## Keys -/

/-- Every row has a value under the key, and no two rows have the same. -/
structure Keyed (key : String) (rows : List Row) : Prop where
  present : ∀ r ∈ rows, ∃ v : Json, Record.get? r key = some v ∧ v.isNull = false
  distinct : rows.Pairwise fun a b => ∀ v w : Json,
    Record.get? a key = some v → Record.get? b key = some w → (v == w) = false

section Keys

variable {key : String} {rows : List Row} {place : ℕ} {q : Row} {id : Json}

/-- **A write changes the one row with its key.** -/
theorem overlayFirst_of_keyed (h : Keyed key rows) (hplace : rows[place]? = some q)
    (hid : Record.get? q key = some id) (values : Row) :
    overlayFirst key id values rows = rows.set place (Record.overlay q values) := by
  obtain ⟨hlt, hq⟩ := List.getElem?_eq_some_iff.mp hplace
  have hfirst : rows.findIdx? (fun r => (Record.get? r key).any (· == id)) = some place := by
    rw [List.findIdx?_eq_some_iff_getElem]
    refine ⟨hlt, ?_, ?_⟩
    · rw [hq, hid]
      exact beq_self_eq_true id
    -- an earlier row has another key
    · intro j hj hsame
      have hdistinct := List.pairwise_iff_getElem.mp h.distinct j place (by omega) hlt hj
      rw [hq] at hdistinct
      obtain ⟨v, hv, heq⟩ := Option.any_eq_true _ _ |>.mp hsame
      have hne := hdistinct v id hv hid
      rw [heq] at hne
      cases hne
  unfold overlayFirst
  rw [hfirst]
  simp only
  rw [List.modify_eq_set_getElem?, hplace]
  rfl

/-- A row with a key stands in one place only. -/
theorem Keyed.place_unique (h : Keyed key rows) {other : ℕ} (hplace : rows[place]? = some q)
    (hother : rows[other]? = some q) : other = place := by
  obtain ⟨v, hv, -⟩ := h.present q (List.mem_of_getElem? hplace)
  have hne : ∀ {i j : ℕ}, rows[i]? = some q → rows[j]? = some q → ¬ i < j := by
    intro i j hi hj hlt
    obtain ⟨hi', hqi⟩ := List.getElem?_eq_some_iff.mp hi
    obtain ⟨hj', hqj⟩ := List.getElem?_eq_some_iff.mp hj
    have hdistinct := List.pairwise_iff_getElem.mp h.distinct i j hi' hj' hlt
    rw [hqi, hqj] at hdistinct
    have hsame := hdistinct v v hv hv
    rw [beq_self_eq_true v] at hsame
    cases hsame
  have h₁ := hne hplace hother
  have h₂ := hne hother hplace
  omega

end Keys

/-! ## What a find keeps of a row -/

/-- What is left of a row after names are left out was there before. -/
theorem Record.get?_of_filter_name {α : Type} (keep : String → Bool) {name : String} {v : α}
    {r : Record α} (h : get? (r.filter fun entry => keep entry.1) name = some v) :
    get? r name = some v := by
  by_cases hk : keep name = true
  · rwa [get?_filter_name keep hk] at h
  · exfalso
    induction r with
    | nil => cases h
    | cons entry r ih =>
      rw [List.filter_cons] at h
      split at h
      next hkept =>
        rw [get?] at h
        split at h
        next heq => exact hk (heq ▸ hkept)
        next => exact ih h
      next => exact ih h

/-- What a row shows after its translations are merged was there before, under every name but
that of the merged translations. -/
theorem Translations.get?_of_reshape {name : String} (hmerged : name ≠ "translations") {r : Row}
    {v : Json} (h : Record.get? (reshape r).1 name = some v) : Record.get? r name = some v := by
  unfold reshape at h
  split at h
  · exact h
  · rw [Record.get?_insert_of_ne hmerged] at h
    exact Record.get?_of_filter_name (fun n => (tableOf? n).isNone) h

namespace Options

variable {o : Object} {options : Options}

/-- A find puts a value of its own under that name. -/
def Overwrites (options : Options) (name : String) : Prop :=
  (options.includeRowNumber = true ∧ name = "id") ∨
    (options.mergeTranslations = true ∧ name = "translations")

end Options

namespace Plan

variable {o : Object} {options : Options} {u : User} {p : Plan}

/-- A whole row shows what is stored, where the find puts nothing of its own. -/
theorem get?_of_read (hp : compile o options u = .ok p) (hwhole : options.projection o = .all)
    {name : String} (hkept : ¬ options.Overwrites name) {i : ℕ} {q : Row} {v : Json}
    (h : Record.get? (options.finished (p.projection.apply (p.numbered i q))) name = some v) :
    Record.get? q name = some v := by
  obtain ⟨condition, terms, -, -, rfl⟩ := (compile_eq_ok_iff p).mp hp
  -- what the row shows before its translations are merged
  have hread : Record.get? (numbered
      { source := o.source, condition, sort := terms, offset := options.offset,
        limit := options.limit
        rowNumberSeed := if options.includeRowNumber then some (options.offset.getD 0) else none
        projection := options.projection o } i q) name = some v := by
    simp only [hwhole, Projection.apply, Options.finished] at h ⊢
    split at h
    next hmerge =>
      exact Translations.get?_of_reshape (fun hname => hkept (Or.inr ⟨hmerge, hname⟩)) h
    next => exact h
  unfold numbered at hread
  by_cases hnumber : options.includeRowNumber = true
  · simp only [hnumber, if_true] at hread
    rwa [Record.get?_insert_of_ne fun hname => hkept (Or.inl ⟨hnumber, hname⟩)] at hread
  · simp only [hnumber] at hread
    exact hread

end Plan

/-! ## What a row update writes -/

section Writes

variable {σ β : Type} {c : Context} {o : Object} {data : Row}

/-- Attempts at a write make it once, if one of them succeeds. -/
theorem written_attempts {sc : Option Scope} {w : Update} {out : Except Fault Row}
    {cs : List Entry} (h : Attempts sc w out cs) : written cs = [] ∨ written cs = [w] := by
  obtain ⟨faults, last, rfl, -⟩ := h
  have hfailures : written (faults.map fun f => .updated w sc (.error f)) = [] := by
    simp [written]
  rw [written_append, hfailures]
  cases last with
  | error fault => exact Or.inl rfl
  | ok row => exact Or.inr rfl

theorem written_writeAndAnnounce (current : Active) (env : Surroundings σ β) (id : Json)
    (values : Row) :
    (RowUpdate.writeAndAnnounce current env id values).Logs fun _ added =>
      written added = [] ∨ written added = [current.object.update id values] := by
  have hwrite := attemptFrom_attempts (β := β) env.request.policy RowUpdate.label current.object
    env.request.storage id values env.scope (env.request.policy.maxAttempts.toNat - 1) 1
  have hsend := send_request env.request env.request.topic
    (RowUpdate.announcement current.object id values)
  have hreply : ∀ reply, (ofExcept (σ := σ) (β := β)
      (RowUpdate.replied current env.request.topic reply)).Logs fun _ added => added = [] :=
    fun reply => Logs.of_exec_eq (fun _ => exec_ofExcept _ _) rfl
  refine Logs.mono (hwrite.bind fun _ => hsend.bind hreply) ?_
  rintro out added (⟨fault, -, hattempts⟩ | ⟨row, first, rest, rfl, hattempts, hrest⟩)
  · rw [← written_calls]
    exact written_attempts hattempts
  -- a round trip writes nothing
  · have hnone : written rest = [] := by
      rcases hrest with ⟨fault, -, ⟨reply, rfl⟩, -⟩ | ⟨reply, round, tail, rfl, ⟨⟨_, rfl⟩, -⟩, rfl⟩
      · rfl
      · rfl
    rw [written_append, hnone, List.append_nil, ← written_calls]
    exact written_attempts hattempts

theorem RowUpdate.get?_of_keyOf {id : Json} (h : RowUpdate.keyOf o data = .ok id) :
    Record.get? data o.primaryKey = some id := by
  unfold RowUpdate.keyOf at h
  split at h
  · cases h
  · cases h
  next hget =>
    cases h
    exact hget

/-- **A row update makes one write at most**: that of its values under the key of its row. -/
theorem written_step (update : RowUpdate) (env : Surroundings σ β) (ho : c.object = some o)
    (hd : c.data = some data) :
    (update.operation.step env c).Logs fun _ added =>
      written added = [] ∨
      ∃ values id, RowUpdate.columnValues o update.assignments [] = .ok values ∧
        RowUpdate.keyOf o data = .ok id ∧
        written added = [o.update id (o.normalise values)] := by
  intro s
  have hperform : ∃ added, (exec (update.perform ⟨c, o, data⟩ env) s).2.log = s.log ++ added ∧
      (written added = [] ∨
      ∃ values id, RowUpdate.columnValues o update.assignments [] = .ok values ∧
        RowUpdate.keyOf o data = .ok id ∧
        written added = [o.update id (o.normalise values)]) := by
    have hnothing : ∃ added, s.log = s.log ++ added ∧ written added = [] :=
      ⟨[], (List.append_nil _).symm, rfl⟩
    obtain ⟨added, hlog, hnone⟩ := hnothing
    rw [RowUpdate.exec_perform]
    split
    · exact ⟨added, hlog, Or.inl hnone⟩
    split
    · exact ⟨added, hlog, Or.inl hnone⟩
    next values hvalues =>
      split
      · exact ⟨added, hlog, Or.inl hnone⟩
      next id hid =>
        obtain ⟨added, hlog, hwritten⟩ :=
          written_writeAndAnnounce ⟨c, o, data⟩ env id (o.normalise values) s
        exact ⟨added, hlog, hwritten.imp_right fun h => ⟨values, id, hvalues, hid, h⟩⟩
  obtain ⟨added, hlog, hwritten⟩ := hperform
  have hop : update.operation.perform (σ := σ) (β := β) = update.perform := rfl
  rw [exec_step _ env ho hd, hop]
  rcases hexec : exec (update.perform ⟨c, o, data⟩ env) s with ⟨fault | next, s'⟩
  -- the report of a fault is no write
  · rw [hexec] at hlog
    refine ⟨added ++ [.reported (.stepFailed RowUpdate.label fault.message)], ?_, ?_⟩
    · rw [← List.append_assoc, ← hlog]
      rfl
    · have hreport : written [.reported (.stepFailed RowUpdate.label fault.message)] = [] := rfl
      simp only [written_append, hreport, List.append_nil]
      exact hwritten
  · rw [hexec] at hlog
    exact ⟨added, hlog, hwritten⟩

end Writes

/-! ## From a find to an update -/

section Found

variable {β : Type} {o : Object} {options : Options} {u : User} {scope : Option Scope}
  {s t : Session Memory β}

/-- **A row update on a found row writes the row it was read from** and no other, if its write
succeeds. -/
theorem found_row_written (htable : o.view = none) (hwhole : options.projection o = .all)
    (hkept : ¬ options.Overwrites o.primaryKey) {stored : List Row}
    (hstored : Record.get? s.storage.tables o.table = some stored)
    (hkeyed : Keyed o.primaryKey stored) {rows : List Row}
    (hfound : o.found options u scope s = .ok rows) {i : ℕ} {r : Row} (hr : rows[i]? = some r)
    {env : Surroundings Memory β} (henv : env.request.storage = Memory.storage) {c : Context}
    (hobject : c.object = some o) (hdata : c.data = some r)
    (htables : t.storage.tables = s.storage.tables) (update : RowUpdate) {added : List Entry}
    (hlog : (exec (update.operation.step env c) t).2.log = t.log ++ added)
    (hsuccess : written added ≠ []) :
    ∃ p q place values, Plan.compile o options u = .ok p ∧
      (p.origins s.storage.tables stored)[i]? = some q ∧
      (∀ other, stored[other]? = some q ↔ other = place) ∧
      RowUpdate.columnValues o update.assignments [] = .ok values ∧
      (exec (update.operation.step env c) t).2.storage.tables =
        Record.insert o.table (stored.set place (Record.overlay q (o.normalise values)))
          s.storage.tables := by
  have hsource : o.source = o.table := by
    unfold Object.source
    rw [htable]
    rfl
  -- the row was read from a stored row with the same key
  obtain ⟨p, stored', hp, hstored', rfl⟩ := (Object.found_iff rows).mp hfound
  have hpsource : p.source = o.source := by
    obtain ⟨condition, terms, -, -, rfl⟩ := (Plan.compile_eq_ok_iff p).mp hp
    rfl
  rw [hpsource, hsource, hstored] at hstored'
  obtain rfl : stored = stored' := Option.some.inj hstored'
  have hprojection : p.projection ≠ .count := by
    obtain ⟨condition, terms, -, -, rfl⟩ := (Plan.compile_eq_ok_iff p).mp hp
    exact Options.projection_ne_count
  rw [List.getElem?_map, Plan.answer_eq_origins _ _ hprojection, List.getElem?_mapIdx,
    Option.map_map] at hr
  obtain ⟨q, hq, rfl⟩ := Option.map_eq_some_iff.mp hr
  obtain ⟨place, hplace⟩ :=
    List.mem_iff_getElem?.mp (Plan.mem_of_mem_origins _ _ (List.mem_of_getElem? hq))
  -- the update makes one write, under the key that the row shows
  obtain ⟨added₁, hlog₁, hwrites⟩ := written_step update env hobject hdata t
  obtain rfl : added₁ = added := List.append_cancel_left (hlog₁.symm.trans hlog)
  obtain ⟨added₂, hlog₂, -, hrewritten⟩ := Rewrites.step henv update hobject t
  obtain rfl : added₂ = added₁ := List.append_cancel_left (hlog₂.symm.trans hlog)
  obtain ⟨values, id, hvalues, hid, hwrite⟩ := hwrites.resolve_left hsuccess
  have hkey : Record.get? q o.primaryKey = some id := by
    refine Plan.get?_of_read hp hwhole hkept (i := i) ?_
    exact RowUpdate.get?_of_keyOf hid
  refine ⟨p, q, place, values, hp, hq, fun other => ⟨hkeyed.place_unique hplace, ?_⟩, hvalues, ?_⟩
  · rintro rfl
    exact hplace
  rw [hrewritten, hwrite, List.foldl_cons, List.foldl_nil, htables]
  unfold Tables.write Tables.overlayFirst
  have htable' : (o.update id (o.normalise values)).table = o.table := rfl
  rw [htable', hstored]
  exact congrArg (fun rows => Record.insert o.table rows _)
    (overlayFirst_of_keyed hkeyed hplace hkey _)

end Found

/-! ## A part that is found and resized -/

/-- All parts but the first. -/
def secondPage : Options :=
  { offset := some 1, skipExistingConditions := true }

/-- A context with a part that was found. -/
def foundPart (o : Object) (data : Row) : Context :=
  { label := "find", object := some o, data := some data }

def resize (size : ℕ) : RowUpdate :=
  ⟨[⟨"size", .ofNat size⟩]⟩

theorem keyed_lockedParts : Keyed "uuid" [Object.codedPart "a" 2, Object.codedPart "c" 9] where
  present := by
    intro r hr
    simp only [List.mem_cons, List.not_mem_nil, or_false] at hr
    rcases hr with rfl | rfl <;> exact ⟨_, rfl, rfl⟩
  distinct := by
    refine List.pairwise_pair.mpr fun v w hv hw => ?_
    cases hv
    cases hw
    rfl

/-- The part found shows the number 2 beside its key, and it is written at the second attempt. -/
theorem found_row_written_part :
    Object.coded.view = none ∧ secondPage.projection Object.coded = .all ∧
    ¬ secondPage.Overwrites "uuid" ∧
    Keyed "uuid" [Object.codedPart "a" 2, Object.codedPart "c" 9] ∧
    ∃ rows r added, Object.coded.found secondPage {} none lockedParts = .ok rows ∧
      rows[0]? = some r ∧
      (exec ((resize 10).operation.step shop (foundPart Object.coded r)) lockedParts).2.log =
        added ∧
      written added ≠ [] ∧
      ∃ p q place values, Plan.compile Object.coded secondPage {} = .ok p ∧
        (p.origins lockedParts.storage.tables
          [Object.codedPart "a" 2, Object.codedPart "c" 9])[0]? = some q ∧
        (∀ other, [Object.codedPart "a" 2, Object.codedPart "c" 9][other]? = some q ↔
          other = place) ∧
        RowUpdate.columnValues Object.coded (resize 10).assignments [] = .ok values ∧
        (exec ((resize 10).operation.step shop (foundPart Object.coded r))
            lockedParts).2.storage.tables =
          Record.insert "Parts" ([Object.codedPart "a" 2, Object.codedPart "c" 9].set place
            (Record.overlay q (Object.coded.normalise values))) lockedParts.storage.tables := by
  have hkept : ¬ secondPage.Overwrites "uuid" := by
    rintro (⟨-, hname⟩ | ⟨-, hname⟩) <;> exact absurd hname (by decide)
  have hfound : Object.coded.found secondPage {} none lockedParts =
      .ok [Record.insert "id" (.ofNat 2) (Object.codedPart "c" 9)] := rfl
  have hsuccess : written (exec ((resize 10).operation.step shop (foundPart Object.coded
      (Record.insert "id" (.ofNat 2) (Object.codedPart "c" 9)))) lockedParts).2.log ≠ [] :=
    List.cons_ne_nil _ _
  exact ⟨rfl, rfl, hkept, keyed_lockedParts, _, _, _, hfound, rfl, rfl, hsuccess,
    found_row_written rfl rfl hkept rfl keyed_lockedParts hfound rfl rfl rfl rfl rfl (resize 10) rfl
      hsuccess⟩

/-- Parts whose key is a number, in the column `id`. -/
def Object.tagged : Object :=
  { Object.parts with primaryKey := "id", condition := none }

def taggedParts : Session Memory Responder :=
  { storage := .ofTable "Parts"
      [Object.numberedPart 2 (.ofNat 5), Object.numberedPart 1 (.ofNat 7)]
    bus := .echo }

/-- **A key under `id` is lost to the row number.** The part with key 2 is found first, so it shows
the number 1; the update of what was found then writes the part with key 1. -/
theorem numbered_key_misdirects :
    Object.tagged.view = none ∧ ({} : Options).projection Object.tagged = .all ∧
    Keyed "id" [Object.numberedPart 2 (.ofNat 5), Object.numberedPart 1 (.ofNat 7)] ∧
    Object.tagged.found {} {} none taggedParts =
      .ok [Object.numberedPart 1 (.ofNat 5), Object.numberedPart 2 (.ofNat 7)] ∧
    (∃ p, Plan.compile Object.tagged {} {} = .ok p ∧
      p.origins taggedParts.storage.tables
          [Object.numberedPart 2 (.ofNat 5), Object.numberedPart 1 (.ofNat 7)] =
        [Object.numberedPart 2 (.ofNat 5), Object.numberedPart 1 (.ofNat 7)]) ∧
    (exec ((resize 6).operation.step shop
        (foundPart Object.tagged (Object.numberedPart 1 (.ofNat 5))))
          taggedParts).2.storage.tables =
      [("Parts", [Object.numberedPart 2 (.ofNat 5), Object.numberedPart 1 (.ofNat 6)])] := by
  refine ⟨rfl, rfl, ⟨?_, ?_⟩, rfl, ⟨_, rfl, rfl⟩, rfl⟩
  · intro r hr
    simp only [List.mem_cons, List.not_mem_nil, or_false] at hr
    rcases hr with rfl | rfl <;> exact ⟨_, rfl, rfl⟩
  · refine List.pairwise_pair.mpr fun v w hv hw => ?_
    cases hv
    cases hw
    rfl

end Fieldwork
