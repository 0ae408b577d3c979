import Fieldwork.Model
import Fieldwork.Store.Memory
import Fieldwork.Proofs.Plan.Compile
import Fieldwork.Proofs.Record
import Fieldwork.Proofs.Session
import Fieldwork.Proofs.Store.Sorting

/-!
# Finding and counting rows in memory

A query asks the storage once, for the plan it compiles to, and neither finding nor counting
changes what is stored. So on tables in memory the outcome depends on the tables alone.

* `answer_eq_origins`: each row of an answer is read from one stored row.
* `found_iff`: a find succeeds when its query compiles and its table is there, and it gives the
  answer of the plan with the translations of each row merged.
* `counted_iff`: a count succeeds when its condition compiles and its table is there, and it gives
  the number of rows that match.
-/

namespace Fieldwork

open Program

theorem Plan.run_eq_ok_iff (p : Plan) (tables : Tables) (rows : List Row) :
    p.run tables = .ok rows ↔
      ∃ stored, Record.get? tables p.source = some stored ∧ rows = p.answer tables stored := by
  unfold run
  cases Record.get? tables p.source <;> simp [eq_comm]

namespace Plan

/-- The stored rows that the rows of an answer are read from, place by place. -/
def origins (p : Plan) (tables : Tables) (stored : List Row) : List Row :=
  p.page (p.sorted (p.matched tables stored))

variable {p : Plan} (tables : Tables) (stored : List Row)

theorem mem_of_mem_origins {q : Row} (h : q ∈ p.origins tables stored) : q ∈ stored := by
  have hpage : ∀ rows : List Row, q ∈ p.page rows → q ∈ rows := by
    intro rows hmem
    unfold page at hmem
    cases hlimit : p.limit with
    | none =>
      rw [hlimit] at hmem
      exact List.mem_of_mem_drop hmem
    | some limit =>
      rw [hlimit] at hmem
      exact List.mem_of_mem_drop (List.mem_of_mem_take hmem)
  have hmatched : q ∈ p.matched tables stored :=
    (sortByInsertion_perm _ _).mem_iff.mp (hpage _ h)
  exact (List.mem_filter.mp hmatched).1

/-- The rows of an answer are the rows they are read from, numbered and reduced. -/
theorem answer_eq_origins (h : p.projection ≠ .count) :
    p.answer tables stored =
      (p.origins tables stored).mapIdx fun i q => p.projection.apply (p.numbered i q) := by
  unfold answer
  rw [if_neg h]
  rfl

end Plan

theorem Translations.reshapeAll_fst (rows : List Row) :
    (reshapeAll rows).1 = rows.map fun r => (reshape r).1 := by
  induction rows with
  | nil => rfl
  | cons r rows ih =>
    unfold reshapeAll
    rw [List.map_cons, ← ih]

/-- Merging translations leaves the columns alone that hold none. -/
theorem Translations.get?_reshape {name : String} (hname : tableOf? name = none)
    (hmerged : name ≠ "translations") (r : Row) :
    Record.get? (reshape r).1 name = Record.get? r name := by
  unfold reshape
  split
  · rfl
  · rw [Record.get?_insert_of_ne hmerged]
    exact Record.get?_filter_name (fun n => (tableOf? n).isNone) (by simp [hname]) r

/-- What becomes of a fetched row before it is handed out. -/
def Options.finished (options : Options) (r : Row) : Row :=
  if options.mergeTranslations then (Translations.reshape r).1 else r

theorem Options.get?_finished {name : String} (hname : Translations.tableOf? name = none)
    (hmerged : name ≠ "translations") (options : Options) (r : Row) :
    Record.get? (options.finished r) name = Record.get? r name := by
  unfold finished
  split
  · exact Translations.get?_reshape hname hmerged r
  · rfl

/-- A projection drops columns and changes none. -/
theorem Projection.get?_of_apply {p : Projection} {r : Row} {name : String} {v : Json}
    (h : Record.get? (p.apply r) name = some v) : Record.get? r name = some v := by
  cases p with
  | all => exact h
  | count => exact h
  | columns names =>
    rcases Record.mem_or_of_get?_overlay h with hmem | hnil
    · obtain ⟨column, -, hentry⟩ := List.mem_filterMap.mp hmem
      obtain ⟨w, hw, heq⟩ := Option.map_eq_some_iff.mp hentry
      cases heq
      exact hw
    · cases hnil

namespace Object

variable {σ β : Type} {o : Object} {options : Options} {u : User} {scope : Option Scope}

/-- Whatever the log is, a find is one answer of the storage for the plan of its query. -/
theorem exec_find_fst (storage : Storage σ) (s : Session σ β) :
    (exec (o.find storage options u scope) s).1 =
      (Plan.compile o options u).bind fun p =>
        ((storage.select p scope s.storage).1.mapError (Fault.withSql p.sql)).map
          (List.map options.finished) := by
  unfold find
  rw [exec_bind, exec_reportAll]
  simp only [exec_bind, exec_ofExcept]
  cases Plan.compile o options u with
  | error fault => rfl
  | ok p =>
    simp only [exec_withSql, exec_select, Except.bind]
    cases (storage.select p scope s.storage).1 with
    | error fault => rfl
    | ok rows =>
      simp only [mapError_ok, Except.map]
      by_cases hmerge : options.mergeTranslations = true
      · have hfinished : options.finished = fun r => (Translations.reshape r).1 :=
          funext fun r => if_pos hmerge
        rw [if_pos hmerge, exec_bind, exec_reportAll, hfinished, ← Translations.reshapeAll_fst]
        rfl
      · have hfinished : options.finished = fun r => r := funext fun r => if_neg hmerge
        rw [if_neg hmerge, hfinished, List.map_id']
        rfl

/-- The number that the answer of a count holds. -/
def numberIn (rows : List Row) : Except Fault Nat :=
  match countOf? rows with
  | some n => .ok n
  | none => .error (.failed "count query returned no count")

theorem exec_count_fst (storage : Storage σ) (s : Session σ β) :
    (exec (o.count storage options u scope) s).1 =
      (Plan.compileCount o options u).bind fun p =>
        ((storage.select p scope s.storage).1.mapError (Fault.withSql p.sql)).bind numberIn := by
  unfold count
  rw [exec_bind, exec_reportAll]
  simp only [exec_bind, exec_ofExcept]
  cases Plan.compileCount o options u with
  | error fault => rfl
  | ok p =>
    simp only [exec_withSql, exec_select, Except.bind]
    cases (storage.select p scope s.storage).1 with
    | error fault => rfl
    | ok rows =>
      unfold numberIn
      simp only [mapError_ok]
      cases countOf? rows <;> rfl

variable {s : Session Memory β}

/-- The rows of a query on tables in memory, or why there are none. -/
def found (o : Object) (options : Options) (u : User) (scope : Option Scope)
    (s : Session Memory β) : Except Fault (List Row) :=
  (exec (o.find Memory.storage options u scope) s).1

/-- The count of a query on tables in memory, or why there is none. -/
def counted (o : Object) (options : Options) (u : User) (scope : Option Scope)
    (s : Session Memory β) : Except Fault Nat :=
  (exec (o.count Memory.storage options u scope) s).1

/-- Whatever the log and the scope are, a find is its plan run on the tables. -/
theorem found_eq :
    o.found options u scope s =
      (Plan.compile o options u).bind fun p =>
        ((p.run s.storage.tables).mapError (Fault.withSql p.sql)).map
          (List.map options.finished) :=
  exec_find_fst Memory.storage s

/-- **What a find gives**: the answer of its plan, each row finished. -/
theorem found_iff (rows : List Row) :
    o.found options u scope s = .ok rows ↔
      ∃ p stored, Plan.compile o options u = .ok p ∧
        Record.get? s.storage.tables p.source = some stored ∧
        rows = (p.answer s.storage.tables stored).map options.finished := by
  rw [found_eq]
  constructor
  · intro hok
    obtain ⟨p, hp, hrows⟩ := bind_eq_ok_iff.mp hok
    obtain ⟨answer, hanswer, rfl⟩ := map_eq_ok_iff.mp hrows
    obtain ⟨stored, hstored, rfl⟩ := (Plan.run_eq_ok_iff _ _ _).mp (mapError_eq_ok_iff.mp hanswer)
    exact ⟨p, stored, hp, hstored, rfl⟩
  · rintro ⟨p, stored, hp, hstored, rfl⟩
    refine bind_eq_ok_iff.mpr ⟨p, hp, map_eq_ok_iff.mpr ⟨_, ?_, rfl⟩⟩
    exact mapError_eq_ok_iff.mpr ((Plan.run_eq_ok_iff _ _ _).mpr ⟨stored, hstored, rfl⟩)

theorem counted_eq :
    o.counted options u scope s =
      (Plan.compileCount o options u).bind fun p =>
        ((p.run s.storage.tables).mapError (Fault.withSql p.sql)).bind numberIn :=
  exec_count_fst Memory.storage s

/-- The answer of a count is one number, which is read back as it is. -/
theorem numberIn_answer {p : Plan} (h : p.projection = .count) (tables : Tables)
    (stored : List Row) :
    numberIn (p.answer tables stored) = .ok (p.matched tables stored).length := by
  have hlength : (p.sorted (p.matched tables stored)).length = (p.matched tables stored).length :=
    (sortByInsertion_perm _ _).length_eq
  unfold Plan.answer
  rw [if_pos h, hlength]
  rfl

/-- **What a count gives**: the number of stored rows that match. -/
theorem counted_iff (n : Nat) :
    o.counted options u scope s = .ok n ↔
      ∃ p stored, Plan.compileCount o options u = .ok p ∧
        Record.get? s.storage.tables p.source = some stored ∧
        n = (p.matched s.storage.tables stored).length := by
  rw [counted_eq]
  constructor
  · intro hok
    obtain ⟨p, hp, hrest⟩ := bind_eq_ok_iff.mp hok
    obtain ⟨rows, hrows, hcount⟩ := bind_eq_ok_iff.mp hrest
    obtain ⟨stored, hstored, rfl⟩ := (Plan.run_eq_ok_iff _ _ _).mp (mapError_eq_ok_iff.mp hrows)
    rw [numberIn_answer (Plan.projection_of_compileCount hp)] at hcount
    cases hcount
    exact ⟨p, stored, hp, hstored, rfl⟩
  · rintro ⟨p, stored, hp, hstored, rfl⟩
    refine bind_eq_ok_iff.mpr ⟨p, hp, bind_eq_ok_iff.mpr ⟨p.answer s.storage.tables stored, ?_, ?_⟩⟩
    · exact mapError_eq_ok_iff.mpr ((Plan.run_eq_ok_iff _ _ _).mpr ⟨stored, hstored, rfl⟩)
    · rw [numberIn_answer (Plan.projection_of_compileCount hp)]

/-! ## Parts of a shop -/

/-- Parts, of which only those on sale are shown. -/
def parts : Object :=
  { id := "parts"
    schema := "shop"
    table := "Parts"
    view := none
    primaryKey := "uuid"
    fields := [⟨"size", "size", none, none, false, none, [], none⟩]
    condition := some (.rule ⟨"open", .equals, .bool true⟩) }

def part (onSale : Bool) (size : Json) : Row :=
  [("open", .bool onSale), ("size", size)]

/-- Two parts whose size is a number and one whose size is a text. -/
def mixedStock : Session Memory Unit :=
  { storage := .ofTable "Parts" [part true (.ofNat 2), part false (.ofNat 10),
      part true (.string "15")]
    bus := () }

end Object

end Fieldwork
