import Fieldwork.Proofs.Find
import Mathlib.Algebra.Order.Floor.Div

/-!
# Pages and counts

A query matches and sorts all rows before it cuts its page out of them, and it numbers a row by its
place among all of them. So a page is a part of the whole result, and the count that goes with the
query is the length of the whole.

* `found_iff_shown`: what a find gives, from the stored rows on.
* `found_iff_cut`: a page is cut out of the whole result.
* `count_agrees_with_find`: the count is the length of the whole result, and with the offset and
  the limit it determines the length of the page.
* `pages_tile`: pages of one size, one after another, are the whole result, and no row number
  passes the number of rows that match.
-/

namespace Fieldwork

/-! ## Parts of a list -/

section Cut

variable {α γ : Type}

/-- The part of a list behind an offset, up to a limit. -/
def cut (offset limit : Option UInt64) (rows : List α) : List α :=
  let rest := rows.drop (offset.getD 0).toNat
  match limit with
  | some limit => rest.take limit.toNat
  | none => rest

theorem length_cut (offset limit : Option UInt64) (rows : List α) :
    (cut offset limit rows).length =
      match limit with
      | some limit => min limit.toNat (rows.length - min (offset.getD 0).toNat rows.length)
      | none => rows.length - min (offset.getD 0).toNat rows.length := by
  have hdrop : (rows.drop (offset.getD 0).toNat).length =
      rows.length - min (offset.getD 0).toNat rows.length := by
    rw [List.length_drop]
    omega
  cases limit with
  | none => exact hdrop
  | some limit => exact List.length_take.trans (by rw [hdrop])

theorem getElem?_cut {offset limit : Option UInt64} {rows : List α} {i : ℕ} {r : α}
    (h : (cut offset limit rows)[i]? = some r) : rows[(offset.getD 0).toNat + i]? = some r := by
  cases limit with
  | none => rwa [cut, List.getElem?_drop] at h
  | some limit =>
    rw [cut, List.getElem?_take] at h
    split at h
    · rwa [List.getElem?_drop] at h
    · cases h

theorem map_mapIdx {δ : Type} (f : ℕ → α → γ) (g : γ → δ) (rows : List α) :
    (rows.mapIdx f).map g = rows.mapIdx fun i r => g (f i r) :=
  List.ext_getElem? fun i => by simp [Function.comp_def]

/-- What is done to a row by its place in the part is done by its place in the whole. -/
theorem mapIdx_cut {f g : ℕ → α → γ} {offset limit : Option UInt64}
    (h : ∀ i r, f i r = g ((offset.getD 0).toNat + i) r) (rows : List α) :
    (cut offset limit rows).mapIdx f = cut offset limit (rows.mapIdx g) := by
  have hdrop : (rows.drop (offset.getD 0).toNat).mapIdx f =
      (rows.mapIdx g).drop (offset.getD 0).toNat := by
    refine List.ext_getElem? fun i => ?_
    rw [List.getElem?_mapIdx, List.getElem?_drop, List.getElem?_drop, List.getElem?_mapIdx]
    exact congrArg (fun k => Option.map k _) (funext (h i))
  cases limit with
  | none => exact hdrop
  | some limit =>
    refine List.ext_getElem? fun i => ?_
    simp only [cut]
    rw [List.getElem?_mapIdx, List.getElem?_take, List.getElem?_take, ← hdrop, List.getElem?_mapIdx]
    split <;> rfl

/-- Slices of one length, one after another, are the beginning of the list. -/
theorem flatMap_slices (rows : List α) (k m : ℕ) :
    (List.range m).flatMap (fun i => (rows.drop (i * k)).take k) = rows.take (m * k) := by
  induction m with
  | zero => simp
  | succ m ih =>
    rw [List.range_succ, List.flatMap_append, ih, List.flatMap_singleton, Nat.succ_mul,
      List.take_add]

end Cut

/-! ## Rows as they are handed out -/

namespace Plan

/-- The numbers on a page are those that the rows have in the whole result. -/
theorem rowNumber_eq (seed : UInt64) (i : ℕ) :
    rowNumber seed i = rowNumber 0 (seed.toNat + i) := by
  unfold rowNumber
  rw [UInt64.ofNat_add, UInt64.ofNat_toNat, UInt64.zero_add]

/-- A number that a word can hold is counted without overflow. -/
theorem toNat_rowNumber {seed : UInt64} {i : ℕ} (h : seed.toNat + i + 1 < 2 ^ 64) :
    (rowNumber seed i).toNat = seed.toNat + i + 1 := by
  unfold rowNumber
  rw [UInt64.toNat_add, UInt64.toNat_add, UInt64.toNat_ofNat', UInt64.toNat_one]
  omega

end Plan

namespace Options

variable {o : Object} {options : Options}

/-- The same query for the whole result. -/
def unpaged (options : Options) : Options :=
  { options with offset := none, limit := none }

theorem projection_ne_count : options.projection o ≠ .count := by
  unfold projection
  split
  · simp
  · split <;> simp

/-- A matching row as it is handed out, at that place of the whole result. -/
def shown (options : Options) (o : Object) (place : ℕ) (r : Row) : Row :=
  let numbered :=
    if options.includeRowNumber then Record.insert "id" (.ofNat (Plan.rowNumber 0 place).toNat) r
    else r
  options.finished ((options.projection o).apply numbered)

section Numbers

variable (hnumber : options.includeRowNumber = true) (place : ℕ) (r : Row)

include hnumber

/-- The number that a row shows is that of its place. -/
theorem id_of_shown {v : Json} (h : Record.get? (options.shown o place r) "id" = some v) :
    v = .ofNat (Plan.rowNumber 0 place).toNat := by
  unfold shown at h
  rw [get?_finished rfl (by decide), if_pos hnumber] at h
  have hid := Projection.get?_of_apply h
  rw [Record.get?_insert_self] at hid
  exact (Option.some.inj hid).symm

theorem id_shown (hwhole : options.projection o = .all) :
    Record.get? (options.shown o place r) "id" =
      some (.ofNat (Plan.rowNumber 0 place).toNat) := by
  unfold shown
  rw [get?_finished rfl (by decide), if_pos hnumber, hwhole]
  exact Record.get?_insert_self ..

end Numbers

end Options

section

variable {β : Type} {o : Object} {options : Options} {u : User} {scope : Option Scope}
  {s : Session Memory β}

namespace Object

/-- The page of a plan shows each of its rows by the place in the whole result. -/
theorem answer_eq_cut (condition : Option Predicate) (terms : List SortTerm) (tables : Tables)
    (stored : List Row) :
    (Plan.answer
        { source := o.source
          condition
          sort := terms
          offset := options.offset
          limit := options.limit
          rowNumberSeed := if options.includeRowNumber then some (options.offset.getD 0) else none
          projection := options.projection o } tables stored).map options.finished =
      cut options.offset options.limit
        ((sortByInsertion (rowOrder terms)
          (stored.filter fun r => condition.all (Predicate.holds tables r))).mapIdx
            (options.shown o)) := by
  unfold Plan.answer
  rw [if_neg Options.projection_ne_count, map_mapIdx]
  refine mapIdx_cut (fun i r => ?_) _
  simp only [Options.shown, Plan.numbered]
  by_cases hnumber : options.includeRowNumber = true
  · rw [if_pos hnumber, if_pos hnumber]
    simp only [Plan.rowNumber_eq (options.offset.getD 0) i]
  · rw [if_neg hnumber, if_neg hnumber]

/-- **What a find gives**: the rows that match, sorted, each shown by its place, and of these the
page that is asked for. -/
theorem found_iff_shown (rows : List Row) :
    o.found options u scope s = .ok rows ↔
      ∃ condition terms stored,
        Condition.compileOption o u (options.mergedCondition o) = .ok condition ∧
        options.sortTerms o u = .ok terms ∧
        Record.get? s.storage.tables o.source = some stored ∧
        rows = cut options.offset options.limit
          ((sortByInsertion (rowOrder terms)
            (stored.filter fun r => condition.all (Predicate.holds s.storage.tables r))).mapIdx
              (options.shown o)) := by
  rw [found_iff]
  constructor
  · rintro ⟨p, stored, hp, hstored, rfl⟩
    obtain ⟨condition, terms, hc, hs, rfl⟩ := (Plan.compile_eq_ok_iff p).mp hp
    exact ⟨condition, terms, stored, hc, hs, hstored, answer_eq_cut _ _ _ _⟩
  · rintro ⟨condition, terms, stored, hc, hs, hstored, rfl⟩
    refine ⟨_, stored, (Plan.compile_eq_ok_iff _).mpr ⟨condition, terms, hc, hs, rfl⟩, hstored, ?_⟩
    exact (answer_eq_cut _ _ _ _).symm

/-- **A page is cut out of the whole result.** -/
theorem found_iff_cut (rows : List Row) :
    o.found options u scope s = .ok rows ↔
      ∃ all, o.found options.unpaged u scope s = .ok all ∧
        rows = cut options.offset options.limit all := by
  simp only [found_iff_shown]
  constructor
  · rintro ⟨condition, terms, stored, hc, hs, hstored, rfl⟩
    exact ⟨_, ⟨condition, terms, stored, hc, hs, hstored, rfl⟩, rfl⟩
  · rintro ⟨_, ⟨condition, terms, stored, hc, hs, hstored, rfl⟩, rfl⟩
    exact ⟨condition, terms, stored, hc, hs, hstored, rfl⟩

/-- The whole result has a row for every row that matches. -/
theorem length_found {all : List Row} (h : o.found options.unpaged u scope s = .ok all) :
    ∃ condition stored, Condition.compileOption o u (options.mergedCondition o) = .ok condition ∧
      Record.get? s.storage.tables o.source = some stored ∧
      all.length =
        (stored.filter fun r => condition.all (Predicate.holds s.storage.tables r)).length := by
  obtain ⟨condition, terms, stored, hc, -, hstored, rfl⟩ := (found_iff_shown all).mp h
  refine ⟨condition, stored, hc, hstored, ?_⟩
  calc (cut none none _).length
      = (sortByInsertion (rowOrder terms) (stored.filter _)).length := List.length_mapIdx
    _ = (stored.filter _).length := (sortByInsertion_perm _ _).length_eq

/-- Each row of the whole result is a stored row, shown by its place. -/
theorem shown_of_found {all : List Row} (h : o.found options.unpaged u scope s = .ok all)
    {place : ℕ} {row : Row} (hrow : all[place]? = some row) :
    ∃ r, row = options.shown o place r := by
  obtain ⟨condition, terms, stored, -, -, -, rfl⟩ := (found_iff_shown all).mp h
  have hplace := getElem?_cut hrow
  rw [show (options.unpaged.offset.getD 0).toNat + place = place from Nat.zero_add place,
    List.getElem?_mapIdx] at hplace
  obtain ⟨r, -, rfl⟩ := Option.map_eq_some_iff.mp hplace
  exact ⟨r, rfl⟩

/-- The count that goes with a find is the length of the whole result. -/
theorem counted_of_found {all : List Row} (h : o.found options.unpaged u scope s = .ok all) :
    o.counted options u scope s = .ok all.length := by
  obtain ⟨condition, stored, hc, hstored, hlength⟩ := length_found h
  have hcount : Plan.compileCount o options u =
      .ok { source := o.source, condition, projection := .count } :=
    (Plan.compileCount_eq_ok_iff _).mpr ⟨condition, hc, rfl⟩
  exact (counted_iff _).mpr ⟨_, stored, hcount, hstored, hlength⟩

/-! ## Counts -/

/-- **Count and find agree.** The count compiles with the condition of the find, and it gives the
length of the whole result; offset and limit say how much of it a page holds. -/
theorem count_agrees_with_find (o : Object) (options : Options) (u : User) (scope : Option Scope)
    (s : Session Memory β) :
    (∀ p, Plan.compile o options u = .ok p →
      ∃ q, Plan.compileCount o options u = .ok q ∧ q.condition = p.condition) ∧
    ∀ rows, o.found options u scope s = .ok rows →
      ∃ n all, o.counted options u scope s = .ok n ∧
        o.found options.unpaged u scope s = .ok all ∧ all.length = n ∧
        rows.length =
          match options.limit with
          | some limit => min limit.toNat (n - min (options.offset.getD 0).toNat n)
          | none => n - min (options.offset.getD 0).toNat n := by
  refine ⟨fun p hp => ?_, fun rows hrows => ?_⟩
  · obtain ⟨condition, terms, hc, -, rfl⟩ := (Plan.compile_eq_ok_iff p).mp hp
    exact ⟨_, (Plan.compileCount_eq_ok_iff _).mpr ⟨condition, hc, rfl⟩, rfl⟩
  · obtain ⟨all, hall, rfl⟩ := (found_iff_cut rows).mp hrows
    exact ⟨all.length, all, counted_of_found hall, hall, rfl, length_cut _ _ all⟩

/-- The numbers and the sizes of all parts, whether on sale or not. -/
def numberedSizes : Options :=
  { columnNames := some ["id", "size"], skipExistingConditions := true }

def numberedPart (number : ℕ) (size : Json) : Row :=
  [("id", .ofNat number), ("size", size)]

theorem found_numberedSizes :
    parts.found numberedSizes {} none mixedStock =
      .ok [numberedPart 1 (.ofNat 2), numberedPart 2 (.ofNat 10),
        numberedPart 3 (.string "15")] := by
  rfl

/-- The second page of sizes, with room for more rows than are left. -/
def secondSizes : Options :=
  { numberedSizes with offset := some 1, limit := some 5 }

theorem found_secondSizes :
    parts.found secondSizes {} none mixedStock =
      .ok [numberedPart 2 (.ofNat 10), numberedPart 3 (.string "15")] := by
  rfl

theorem count_agrees_with_find_parts :
    (∃ p q, Plan.compile parts secondSizes {} = .ok p ∧
      Plan.compileCount parts secondSizes {} = .ok q ∧ q.condition = p.condition) ∧
    ∃ n all, parts.counted secondSizes {} none mixedStock = .ok n ∧
      parts.found secondSizes.unpaged {} none mixedStock = .ok all ∧ all.length = n ∧
      2 = min 5 (n - min 1 n) := by
  obtain ⟨compiles, pages⟩ := count_agrees_with_find parts secondSizes {} none mixedStock
  obtain ⟨q, hq, hcondition⟩ := compiles _ rfl
  exact ⟨⟨_, q, rfl, hq, hcondition⟩, pages _ found_secondSizes⟩

/-! ## Pages -/

/-- The pages of length `k` of a query next to its whole result. -/
structure Tiled (o : Object) (options : Options) (u : User) (scope : Option Scope)
    (s : Session Memory β) (k : UInt64) (all : List Row) : Prop where
  /-- The length of the whole result is the number of rows that match. -/
  counted : o.counted options u scope s = .ok all.length
  /-- The pages that start before the end, one after another, are the whole result. -/
  tiles : ∃ page : ℕ → List Row,
    (∀ i, i * k.toNat < all.length → ∃ offset : UInt64, offset.toNat = i * k.toNat ∧
      o.found { options with offset := some offset, limit := some k } u scope s = .ok (page i)) ∧
    (List.range (all.length ⌈/⌉ k.toNat)).flatMap page = all
  /-- Counting the rows of a page never overflows, and no count passes the number of rows that
  match. -/
  counts : ∀ offset limit rows,
    o.found { options with offset, limit } u scope s = .ok rows → ∀ i < rows.length,
      (Plan.rowNumber (offset.getD 0) i).toNat = (offset.getD 0).toNat + i + 1 ∧
        (offset.getD 0).toNat + i + 1 ≤ all.length
  /-- That count is the number that a row shows. -/
  numbers : options.includeRowNumber = true → ∀ offset limit rows,
    o.found { options with offset, limit } u scope s = .ok rows → ∀ i row, rows[i]? = some row →
      (∀ v : Json, Record.get? row "id" = some v → v = .ofNat ((offset.getD 0).toNat + i + 1)) ∧
        (options.projection o = .all →
          Record.get? row "id" = some (.ofNat ((offset.getD 0).toNat + i + 1)))

end Object

/-- No table is longer than a word can count, as holds of every table that fits in memory. -/
def Memory.Addressable (m : Memory) : Prop :=
  ∀ name rows, Record.get? m.tables name = some rows → rows.length < 2 ^ 64

namespace Object

/-- The whole result is no longer than its table. -/
theorem length_found_lt (h : s.storage.Addressable) {all : List Row}
    (hall : o.found options.unpaged u scope s = .ok all) : all.length < 2 ^ 64 := by
  obtain ⟨condition, stored, -, hstored, hlength⟩ := length_found hall
  have hmatched : all.length ≤ stored.length := by
    rw [hlength]
    exact List.length_filter_le _ _
  exact hmatched.trans_lt (h _ _ hstored)

/-- A place on a page is one in the whole result, so a word can hold its number. -/
theorem rowNumber_on_page {all : List Row} (hall : all.length < 2 ^ 64)
    {offset limit : Option UInt64} {i : ℕ} (hi : i < (cut offset limit all).length) :
    (Plan.rowNumber (offset.getD 0) i).toNat = (offset.getD 0).toNat + i + 1 ∧
      (offset.getD 0).toNat + i + 1 ≤ all.length := by
  have hplace := getElem?_cut (List.getElem?_eq_getElem hi)
  have hlt : (offset.getD 0).toNat + i < all.length := (List.getElem?_eq_some_iff.mp hplace).1
  exact ⟨Plan.toNat_rowNumber (by omega), hlt⟩

/-- The pages that start before the end, one after another, are the whole result. -/
theorem tiles_of_found {all : List Row} (hall : o.found options.unpaged u scope s = .ok all)
    (hlength : all.length < 2 ^ 64) {k : UInt64} (hk : 0 < k.toNat) :
    ∃ page : ℕ → List Row,
      (∀ i, i * k.toNat < all.length → ∃ offset : UInt64, offset.toNat = i * k.toNat ∧
        o.found { options with offset := some offset, limit := some k } u scope s =
          .ok (page i)) ∧
      (List.range (all.length ⌈/⌉ k.toNat)).flatMap page = all := by
  refine ⟨fun i => (all.drop (i * k.toNat)).take k.toNat, fun i hi => ?_, ?_⟩
  · have hoffset : (UInt64.ofNat (i * k.toNat)).toNat = i * k.toNat := by
      rw [UInt64.toNat_ofNat']
      exact Nat.mod_eq_of_lt (by omega)
    refine ⟨UInt64.ofNat (i * k.toNat), hoffset, (found_iff_cut _).mpr ⟨all, hall, ?_⟩⟩
    simp only [cut, Option.getD_some, hoffset]
  · -- the last page reaches the end
    have hend : all.length ≤ k.toNat • (all.length ⌈/⌉ k.toNat) := le_smul_ceilDiv hk
    rw [flatMap_slices, List.take_of_length_le]
    rwa [Nat.mul_comm]

/-- **Pages tile the whole result**, whatever is asked for beside them, and rows are counted
without overflow. -/
theorem pages_tile (h : s.storage.Addressable) {k : UInt64} (hk : 0 < k) {rows : List Row}
    (hfound : o.found options u scope s = .ok rows) :
    ∃ all, o.found options.unpaged u scope s = .ok all ∧ Tiled o options u scope s k all := by
  obtain ⟨all, hall, -⟩ := (found_iff_cut rows).mp hfound
  have hlength := length_found_lt h hall
  -- every page of the query is cut out of the same whole result
  have hpage : ∀ {offset limit page},
      o.found { options with offset, limit } u scope s = .ok page →
        page = cut offset limit all := by
    intro offset limit page hok
    obtain ⟨all', hall', rfl⟩ := (found_iff_cut page).mp hok
    obtain rfl : all' = all := Except.ok.inj (hall'.symm.trans hall)
    rfl
  refine ⟨all, hall, counted_of_found hall, tiles_of_found hall hlength hk, ?_, ?_⟩
  · intro offset limit page hok i hi
    rw [hpage hok] at hi
    exact rowNumber_on_page hlength hi
  · intro hnumber offset limit page hok i row hrow
    rw [hpage hok] at hrow
    obtain ⟨hi, -⟩ := List.getElem?_eq_some_iff.mp hrow
    have hnum : (Plan.rowNumber 0 ((offset.getD 0).toNat + i)).toNat =
        (offset.getD 0).toNat + i + 1 := by
      rw [← Plan.rowNumber_eq]
      exact (rowNumber_on_page hlength hi).1
    obtain ⟨r, rfl⟩ := shown_of_found hall (getElem?_cut hrow)
    refine ⟨fun v hv => ?_, fun hwhole => ?_⟩
    · rw [← hnum]
      exact Options.id_of_shown hnumber _ _ hv
    · rw [← hnum]
      exact Options.id_shown hnumber _ _ hwhole

theorem mixedStock_addressable : mixedStock.storage.Addressable := by
  intro name rows h
  simp [mixedStock, Memory.ofTable, Record.get?] at h
  obtain ⟨-, rfl⟩ := h
  decide

theorem pages_tile_parts :
    mixedStock.storage.Addressable ∧ (0 : UInt64) < 2 ∧
      ∃ all, parts.found numberedSizes.unpaged {} none mixedStock = .ok all ∧
        Tiled parts numberedSizes {} none mixedStock 2 all :=
  ⟨mixedStock_addressable, by decide,
    pages_tile mixedStock_addressable (by decide) found_numberedSizes⟩

end Object

end

end Fieldwork
