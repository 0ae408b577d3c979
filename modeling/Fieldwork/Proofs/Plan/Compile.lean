import Fieldwork.Plan.Compile
import Fieldwork.Proofs.Condition.Compile

/-!
# Compiling queries

A plan holds what the options resolve to, each part by itself; only the fault of a part that does
not resolve depends on the others.

* `Condition.map_compileOption_merge`: what two conditions joined compile to.
* `compile_eq_ok_iff`: a query compiles when its condition and its sort do, to a plan of both.
* `compileCount_eq_ok_iff`: a count compiles when its condition does.
* `filled_of_compile`: the condition of a compiled plan has no empty group in it.
-/

namespace Fieldwork

variable {o : Object} {options : Options} {u : User}

/-- The outcome of compiling a condition that may be missing. -/
def Condition.compileOption (o : Object) (u : User) :
    Option Condition → Except Fault (Option Predicate)
  | none => .ok none
  | some c => c.compile o u

theorem Condition.compileOption_filter (c : Option Condition) :
    Condition.compileOption o u (c.filter (!·.isEmpty)) = Condition.compileOption o u c := by
  rcases c with _ | r | ⟨glue, _ | ⟨c, cs⟩⟩
  · rfl
  · rfl
  · exact ((Condition.compile_eq_none_iff o u _).mpr rfl).symm
  · rfl

/-- What two conditions joined compile to, as far as a group of one is like its member: both are
gathered, and the one in front is the first to fail. -/
theorem Condition.map_compileOption_merge {α : Type} {f : Option Predicate → α}
    (hone : ∀ p, f (some (.group .and [p])) = f (some p)) (base caller : Option Condition) :
    (Condition.compileOption o u (Condition.merge base caller)).map f =
      (Condition.compileOption o u base).bind fun p =>
        (Condition.compileOption o u caller).map fun q =>
          f (Predicate.gather .and (p.toList ++ q.toList)) := by
  have hgather : ∀ p : Option Predicate, f (Predicate.gather .and p.toList) = f p := by
    rintro (_ | p)
    · rfl
    · exact hone p
  -- the merge drops a condition without members, which compiles to nothing anyway
  rw [← Condition.compileOption_filter base, ← Condition.compileOption_filter caller]
  unfold Condition.merge
  generalize base.filter (fun c => !c.isEmpty) = base
  generalize caller.filter (fun c => !c.isEmpty) = caller
  rcases base with _ | b <;> rcases caller with _ | c
  · rfl
  · cases hc : c.compile o u <;>
      simp [Condition.compileOption, Except.map, Except.bind, hc, hgather]
  · cases hb : b.compile o u <;>
      simp [Condition.compileOption, Except.map, Except.bind, hb, hgather]
  · simp only [Condition.compileOption, Condition.compile_group, Condition.compileAll_cons]
    rcases b.compile o u with fault | p
    · rfl
    · rcases c.compile o u with fault | q
      · rfl
      · simp [Condition.compileAll, Except.map, Except.bind, pure, Except.pure]

/-- What the entries of a sort stand for. -/
def Options.sortTerms (options : Options) (o : Object) (u : User) :
    Except Fault (List SortTerm) :=
  options.sort.mapM (Plan.compileTerm o u)

namespace Plan

/-- The entries are resolved one by one; what the plan already holds has no part in it. -/
theorem compileSort_eq_ok_iff (entries : List SortEntry) (p q : Plan) :
    compileSort o u entries p = .ok q ↔
      ∃ terms, entries.mapM (compileTerm o u) = .ok terms ∧
        q = { p with sort := p.sort ++ terms } := by
  induction entries generalizing p with
  | nil => simp [compileSort, pure, Except.pure, eq_comm]
  | cons entry rest ih =>
    unfold compileSort
    rw [List.mapM_cons]
    rcases compileTerm o u entry with fault | term
    -- both sides fail, though with different faults
    · simp [mapError_error, bind, Except.bind]
    · simp only [mapError_ok, bind, Except.bind, ih]
      rcases rest.mapM (compileTerm o u) with fault | terms
      · simp
      · simp [pure, Except.pure]

theorem compileCondition_eq_ok_iff (p : Option Predicate) :
    compileCondition o options u = .ok p ↔
      Condition.compileOption o u (options.mergedCondition o) = .ok p := by
  unfold compileCondition Condition.compileOption
  rcases options.mergedCondition o with _ | c
  · rfl
  · simp only
    rcases c.compile o u with fault | q <;> simp [mapError_error, mapError_ok]

/-- **A query compiles when its condition and its sort do**, and its plan holds both. -/
theorem compile_eq_ok_iff (p : Plan) :
    compile o options u = .ok p ↔
      ∃ condition terms, Condition.compileOption o u (options.mergedCondition o) = .ok condition ∧
        options.sortTerms o u = .ok terms ∧
        p =
          { source := o.source
            condition
            sort := terms
            offset := options.offset
            limit := options.limit
            rowNumberSeed :=
              if options.includeRowNumber then some (options.offset.getD 0) else none
            projection := options.projection o } := by
  unfold compile compileRows
  simp only [bind_eq_ok_iff, compileCondition_eq_ok_iff, compileSort_eq_ok_iff, pure, Except.pure,
    Except.ok.injEq]
  constructor
  · rintro ⟨_, ⟨condition, hc, terms, hs, rfl⟩, rfl⟩
    exact ⟨condition, terms, hc, hs, rfl⟩
  · rintro ⟨condition, terms, hc, hs, rfl⟩
    exact ⟨_, ⟨condition, hc, terms, hs, rfl⟩, rfl⟩

/-- **A count compiles when its condition does**, whatever else the options ask for. -/
theorem compileCount_eq_ok_iff (p : Plan) :
    compileCount o options u = .ok p ↔
      ∃ condition, Condition.compileOption o u (options.mergedCondition o) = .ok condition ∧
        p = { source := o.source, condition, projection := .count } := by
  have hmerged : options.forCount.mergedCondition o = options.mergedCondition o := rfl
  have hsort : options.forCount.sort = [] := rfl
  unfold compileCount compileRows
  simp only [bind_eq_ok_iff, compileCondition_eq_ok_iff, hmerged, hsort, compileSort, pure,
    Except.pure, Except.ok.injEq]
  constructor
  · rintro ⟨_, ⟨condition, hc, rfl⟩, rfl⟩
    exact ⟨condition, hc, rfl⟩
  · rintro ⟨condition, hc, rfl⟩
    exact ⟨_, ⟨condition, hc, rfl⟩, rfl⟩

theorem projection_of_compileCount {p : Plan} (h : compileCount o options u = .ok p) :
    p.projection = .count := by
  obtain ⟨condition, -, rfl⟩ := (compileCount_eq_ok_iff p).mp h
  rfl

/-- The condition of a compiled plan has no empty group. -/
theorem filled_of_compile {p : Plan} {c : Predicate} (h : compile o options u = .ok p)
    (hc : p.condition = some c) : c.filled := by
  obtain ⟨condition, terms, hcond, -, rfl⟩ := (compile_eq_ok_iff p).mp h
  obtain rfl : condition = some c := hc
  cases hmerged : options.mergedCondition o with
  | none =>
    rw [hmerged] at hcond
    exact absurd hcond (by simp [Condition.compileOption])
  | some merged =>
    rw [hmerged] at hcond
    exact Condition.compile_filled o u merged c hcond

end Plan

end Fieldwork
