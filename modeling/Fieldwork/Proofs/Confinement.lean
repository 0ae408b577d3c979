import Fieldwork.Proofs.Find

/-!
# Conditions of objects confine their queries

An object may be defined with a condition of its own. What a caller asks for is joined to it, so
the rows found are those that the caller's condition alone finds and that satisfy it.

* `admits_compile_merge`: two conditions joined admit the rows that both admit, and the first of
  them that does not compile is what the join fails with.
* `found_eq_ok_iff`: a plain query on tables in memory succeeds when its condition compiles, its
  sort resolves and its table is there, and it finds the rows admitted, sorted.
* `find_confined`: the rows found under the object's condition are those found without it that
  satisfy it. They also come in the same order, if those found without it are in the order of the
  sort.
-/

namespace Fieldwork

/-! ## Joined conditions -/

/-- Whether a row passes what a condition compiles to; where nothing is left, every row does. -/
def Predicate.admits (p : Option Predicate) (tables : Tables) (r : Row) : Bool :=
  p.all (Predicate.holds tables r)

theorem Predicate.filter_admits_none (tables : Tables) (rows : List Row) :
    rows.filter (Predicate.admits none tables) = rows :=
  List.filter_eq_self.mpr fun _ _ => rfl

namespace Condition

variable {o : Object} {u : User}

/-- What compiling a condition lets pass. -/
def admitted (o : Object) (u : User) (c : Option Condition) :
    Except Fault (Tables → Row → Bool) :=
  (compileOption o u c).map Predicate.admits

theorem admits_gather_and (tables : Tables) (r : Row) (p q : Option Predicate) :
    Predicate.admits (Predicate.gather .and (p.toList ++ q.toList)) tables r =
      (Predicate.admits p tables r && Predicate.admits q tables r) := by
  cases p <;> cases q <;>
    simp [Predicate.gather, Predicate.admits, Predicate.holds, Predicate.holdsAll]

/-- **A join admits what both of its conditions admit**, and fails as the first that does. -/
theorem admits_compile_merge (o : Object) (u : User) (base caller : Option Condition) :
    admitted o u (merge base caller) =
      (admitted o u base).bind fun p => (admitted o u caller).map fun q =>
        fun tables r => p tables r && q tables r := by
  have hjoin : ∀ p q : Option Predicate,
      Predicate.admits (Predicate.gather .and (p.toList ++ q.toList)) =
        fun tables r => Predicate.admits p tables r && Predicate.admits q tables r := by
    intro p q
    funext tables r
    exact admits_gather_and tables r p q
  have hone : ∀ p, Predicate.admits (some (.group .and [p])) = Predicate.admits (some p) := by
    intro p
    funext tables r
    exact (admits_gather_and tables r (some p) none).trans (Bool.and_true _)
  unfold admitted
  rw [map_compileOption_merge hone]
  rcases compileOption o u base with fault | p
  · rfl
  · rcases compileOption o u caller with fault | q
    · rfl
    · exact congrArg Except.ok (hjoin p q)

end Condition

/-! ## Plain queries -/

variable {o : Object} {options : Options} {u : User}

/-- A query for whole rows: without pages, row numbers, chosen columns or merged translations. -/
structure Options.Plain (options : Options) (o : Object) : Prop where
  no_offset : options.offset = none
  no_limit : options.limit = none
  not_numbered : options.includeRowNumber = false
  whole_rows : options.projection o = .all
  not_merged : options.mergeTranslations = false

namespace Plan

/-- **A plain query compiles to its condition and its sort.** -/
theorem compile_plain_eq_ok_iff (h : options.Plain o) (p : Plan) :
    compile o options u = .ok p ↔
      ∃ condition terms, Condition.compileOption o u (options.mergedCondition o) = .ok condition ∧
        options.sortTerms o u = .ok terms ∧
        p = { source := o.source, condition, sort := terms } := by
  rw [compile_eq_ok_iff, h.no_offset, h.no_limit, h.not_numbered, h.whole_rows]
  rfl

/-- A plain plan finds the rows that pass its condition, sorted. -/
theorem answer_plain (source : String) (condition : Option Predicate) (terms : List SortTerm)
    (tables : Tables) (rows : List Row) :
    answer { source, condition, sort := terms } tables rows =
      sortByInsertion (rowOrder terms) (rows.filter (Predicate.admits condition tables)) := by
  have hkept : ∀ found : List Row, found.mapIdx (fun _ r => r) = found := fun found =>
    List.ext_getElem? fun i => by simp
  have hpage : ∀ p : Plan, p.offset = none → p.limit = none → p.page = id := by
    intro p hoffset hlimit
    funext found
    simp [page, hoffset, hlimit]
  unfold answer
  rw [if_neg (by simp), hpage _ rfl rfl]
  exact hkept _

end Plan

namespace Object

variable {β : Type} {s : Session Memory β} {scope : Option Scope}

/-- **What a plain query finds**: the stored rows that its condition admits, sorted. It succeeds
when its condition compiles, its sort resolves and its table is there. -/
theorem found_eq_ok_iff (h : options.Plain o) (rows : List Row) :
    o.found options u scope s = .ok rows ↔
      ∃ admits terms stored, Condition.admitted o u (options.mergedCondition o) = .ok admits ∧
        options.sortTerms o u = .ok terms ∧
        Record.get? s.storage.tables o.source = some stored ∧
        rows = sortByInsertion (rowOrder terms) (stored.filter (admits s.storage.tables)) := by
  have hfinished : options.finished = fun r => r :=
    funext fun r => if_neg (by simp [h.not_merged])
  rw [found_iff, hfinished]
  simp only [List.map_id']
  constructor
  · rintro ⟨p, stored, hp, hstored, rfl⟩
    obtain ⟨condition, terms, hc, hs, rfl⟩ := (Plan.compile_plain_eq_ok_iff h p).mp hp
    refine ⟨Predicate.admits condition, terms, stored, ?_, hs, hstored, ?_⟩
    · simp [Condition.admitted, hc, Except.map]
    · exact Plan.answer_plain _ _ _ _ _
  · rintro ⟨admits, terms, stored, hadmits, hs, hstored, rfl⟩
    obtain ⟨condition, hc, rfl⟩ := map_eq_ok_iff.mp hadmits
    refine ⟨_, stored, (Plan.compile_plain_eq_ok_iff h _).mpr ⟨_, _, hc, hs, rfl⟩, hstored, ?_⟩
    exact (Plan.answer_plain _ _ _ _ _).symm

end Object

/-! ## With and without the condition of the object -/

namespace Object

open Condition

variable {β : Type} {s : Session Memory β} {scope : Option Scope}

/-- The query joined to the object's condition. -/
abbrev bounded (o : Object) (options : Options) (u : User) (scope : Option Scope)
    (s : Session Memory β) : Except Fault (List Row) :=
  o.found { options with skipExistingConditions := false } u scope s

/-- The query as if the object had no condition. -/
abbrev unbounded (o : Object) (options : Options) (u : User) (scope : Option Scope)
    (s : Session Memory β) : Except Fault (List Row) :=
  o.found { options with skipExistingConditions := true } u scope s

theorem plain_skip (h : options.Plain o) (skip : Bool) :
    { options with skipExistingConditions := skip }.Plain o :=
  ⟨h.no_offset, h.no_limit, h.not_numbered, h.whole_rows, h.not_merged⟩

theorem admitted_eq_ok_iff {c : Option Condition} {admits : Tables → Row → Bool} :
    admitted o u c = .ok admits ↔ ∃ p, compileOption o u c = .ok p ∧ Predicate.admits p = admits :=
  map_eq_ok_iff

theorem unbounded_eq_ok_iff (h : options.Plain o) (rows : List Row) :
    o.unbounded options u scope s = .ok rows ↔
      ∃ caller terms stored, compileOption o u options.condition = .ok caller ∧
        options.sortTerms o u = .ok terms ∧
        Record.get? s.storage.tables o.source = some stored ∧
        rows = sortByInsertion (rowOrder terms)
          (stored.filter (Predicate.admits caller s.storage.tables)) := by
  rw [unbounded, found_eq_ok_iff (plain_skip h true)]
  have hmerged : admitted o u (Condition.merge none options.condition) =
      admitted o u options.condition := by
    rw [admits_compile_merge]
    unfold admitted
    cases compileOption o u options.condition <;> rfl
  constructor
  · rintro ⟨admits, terms, stored, hadmits, hs, hstored, rfl⟩
    obtain ⟨caller, hc, rfl⟩ := admitted_eq_ok_iff.mp (hmerged.symm.trans hadmits)
    exact ⟨caller, terms, stored, hc, hs, hstored, rfl⟩
  · rintro ⟨caller, terms, stored, hc, hs, hstored, rfl⟩
    have hadmits := hmerged.trans (admitted_eq_ok_iff.mpr ⟨caller, hc, rfl⟩)
    exact ⟨_, terms, stored, hadmits, hs, hstored, rfl⟩

theorem bounded_eq_ok_iff (h : options.Plain o) (rows : List Row) :
    o.bounded options u scope s = .ok rows ↔
      ∃ base caller terms stored, compileOption o u o.condition = .ok base ∧
        compileOption o u options.condition = .ok caller ∧
        options.sortTerms o u = .ok terms ∧
        Record.get? s.storage.tables o.source = some stored ∧
        rows = sortByInsertion (rowOrder terms)
          ((stored.filter (Predicate.admits caller s.storage.tables)).filter
            (Predicate.admits base s.storage.tables)) := by
  rw [bounded, found_eq_ok_iff (plain_skip h false)]
  have hmerged := admits_compile_merge o u o.condition options.condition
  constructor
  · rintro ⟨admits, terms, stored, hadmits, hs, hstored, rfl⟩
    obtain ⟨_, hbase, hrest⟩ := bind_eq_ok_iff.mp (hmerged.symm.trans hadmits)
    obtain ⟨_, hcaller, rfl⟩ := map_eq_ok_iff.mp hrest
    obtain ⟨base, hb, rfl⟩ := admitted_eq_ok_iff.mp hbase
    obtain ⟨caller, hc, rfl⟩ := admitted_eq_ok_iff.mp hcaller
    exact ⟨base, caller, terms, stored, hb, hc, hs, hstored, by rw [List.filter_filter]⟩
  · rintro ⟨base, caller, terms, stored, hb, hc, hs, hstored, rfl⟩
    refine ⟨_, terms, stored, hmerged.trans (bind_eq_ok_iff.mpr ⟨_,
      admitted_eq_ok_iff.mpr ⟨base, hb, rfl⟩,
      map_eq_ok_iff.mpr ⟨_, admitted_eq_ok_iff.mpr ⟨caller, hc, rfl⟩, rfl⟩⟩), hs, hstored, ?_⟩
    rw [List.filter_filter]

/-- What a query finds under the object's condition, next to what it finds without. -/
structure Confined (o : Object) (options : Options) (u : User) (tables : Tables)
    (bounded unbounded : Except Fault (List Row)) : Prop where
  /-- Both conditions have to compile, the sort to resolve and the table to be there. -/
  succeeds_iff :
    (∃ rows, bounded = .ok rows) ↔
      (∃ base, compileOption o u o.condition = .ok base) ∧
      (∃ caller, compileOption o u options.condition = .ok caller) ∧
      (∃ terms, options.sortTerms o u = .ok terms) ∧
      ∃ stored, Record.get? tables o.source = some stored
  /-- The rows are those found without the object's condition that satisfy it. -/
  selects : ∀ rows, bounded = .ok rows → ∃ base caller terms stored all,
    compileOption o u o.condition = .ok base ∧
    compileOption o u options.condition = .ok caller ∧
    options.sortTerms o u = .ok terms ∧
    Record.get? tables o.source = some stored ∧
    unbounded = .ok all ∧
    SortedSelection (rowOrder terms) (stored.filter (Predicate.admits caller tables))
      (Predicate.admits base tables) rows all
  /-- A condition without a rule leaves all of them as they are. -/
  unruled : (∀ c ∈ o.condition, c.rules = []) →
    ∀ rows, bounded = .ok rows ↔ unbounded = .ok rows

/-- **The condition of an object confines its queries**, whatever the caller asks for. -/
theorem find_confined (h : options.Plain o) (u : User) (scope : Option Scope)
    (s : Session Memory β) :
    Confined o options u s.storage.tables (o.bounded options u scope s)
      (o.unbounded options u scope s) where
  succeeds_iff := by
    simp only [bounded_eq_ok_iff h]
    constructor
    · rintro ⟨_, base, caller, terms, stored, hb, hc, hs, hstored, -⟩
      exact ⟨⟨base, hb⟩, ⟨caller, hc⟩, ⟨terms, hs⟩, stored, hstored⟩
    · rintro ⟨⟨base, hb⟩, ⟨caller, hc⟩, ⟨terms, hs⟩, stored, hstored⟩
      exact ⟨_, base, caller, terms, stored, hb, hc, hs, hstored, rfl⟩
  selects := by
    intro rows hrows
    obtain ⟨base, caller, terms, stored, hb, hc, hs, hstored, rfl⟩ :=
      (bounded_eq_ok_iff h rows).mp hrows
    refine ⟨base, caller, terms, stored, _, hb, hc, hs, hstored, ?_, sortedSelection _ _⟩
    exact (unbounded_eq_ok_iff h _).mpr ⟨caller, terms, stored, hc, hs, hstored, rfl⟩
  unruled := by
    intro hrules rows
    have hnone : compileOption o u o.condition = .ok none := by
      cases hcond : o.condition with
      | none => rfl
      | some c => exact (compile_eq_none_iff o u c).mpr (hrules c hcond)
    rw [bounded_eq_ok_iff h, unbounded_eq_ok_iff h, hnone]
    constructor
    · rintro ⟨_, caller, terms, stored, hb, hc, hs, hstored, rfl⟩
      cases hb
      exact ⟨caller, terms, stored, hc, hs, hstored, by rw [Predicate.filter_admits_none]⟩
    · rintro ⟨caller, terms, stored, hc, hs, hstored, rfl⟩
      refine ⟨none, caller, terms, stored, rfl, hc, hs, hstored, ?_⟩
      rw [Predicate.filter_admits_none]

/-! ## Parts by size -/

def bySize : Options :=
  { sort := [⟨"size", .ascending⟩], includeRowNumber := false, mergeTranslations := false }

theorem bySize_plain : bySize.Plain parts :=
  ⟨rfl, rfl, rfl, rfl, rfl⟩

theorem find_confined_parts :
    bySize.Plain parts ∧
      Confined parts bySize {} mixedStock.storage.tables
        (parts.bounded bySize {} none mixedStock) (parts.unbounded bySize {} none mixedStock) :=
  ⟨bySize_plain, find_confined bySize_plain {} none mixedStock⟩

/-- **Sizes of both kinds have no order.** By number 2 comes before 10, as text 10 comes before
15 and 15 before 2; so the parts on sale are found in one order among all and in another alone. -/
theorem mixed_sizes_reordered :
    parts.unbounded bySize {} none mixedStock =
        .ok [part true (.ofNat 2), part false (.ofNat 10), part true (.string "15")] ∧
      [part true (.ofNat 2), part false (.ofNat 10), part true (.string "15")].filter
          (Predicate.admits (some (.rule (.ofPath "open") .equals (.bool true)))
            mixedStock.storage.tables) =
        [part true (.ofNat 2), part true (.string "15")] ∧
      parts.bounded bySize {} none mixedStock =
        .ok [part true (.string "15"), part true (.ofNat 2)] := by
  refine ⟨?_, rfl, rfl⟩
  let size : List SortTerm := [⟨.physical (some "shop") (some "Parts") "size", .ascending⟩]
  -- 2 comes before 10 as a number, and 10 before 15 as a text
  have hnumbers : rowOrder size (part false (.ofNat 10)) (part true (.ofNat 2)) = .gt := by
    decide +kernel
  have htext : rowOrder size (part true (.string "15")) (part false (.ofNat 10)) = .gt := by
    decide +kernel
  refine (unbounded_eq_ok_iff bySize_plain _).mpr ⟨none, size, _, rfl, rfl, rfl, ?_⟩
  rw [Predicate.filter_admits_none]
  simp [sortByInsertion, insertFromEnd, hnumbers, htext]

end Object

end Fieldwork
