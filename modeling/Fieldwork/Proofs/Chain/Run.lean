import Fieldwork.Chain.Basic
import Fieldwork.Proofs.Session

/-!
# Steps and runs of a chain

A step performs its operation on a context with an object and a row and passes any other context
through; a run is its steps, one after another, up to the first fault.

* `exec_step`, `exec_step_incomplete`: what a step does to the session.
* `Cumulative.step`: a relation between sessions holds across a step.
* `exec_run_incomplete`: a context that lacks an object or a row is passed through to the end.
* `run_error`: a run that fails fails in one of its steps.
-/

namespace Fieldwork

open Program

variable {σ β : Type}

/-- Without an object or without a row, no operation is performed on a context. -/
def Context.Incomplete (c : Context) : Prop :=
  c.object = none ∨ c.data = none

/-- A context is incomplete, or it has both an object and a row. -/
theorem Context.incomplete_or (c : Context) :
    c.Incomplete ∨ ∃ object data, c.object = some object ∧ c.data = some data := by
  cases ho : c.object with
  | none => exact Or.inl (Or.inl ho)
  | some object =>
    cases hd : c.data with
    | none => exact Or.inl (Or.inr hd)
    | some data => exact Or.inr ⟨object, data, rfl, rfl⟩

/-- A successor has no row yet. -/
theorem Context.incomplete_successor (c : Context) (label : String) :
    (c.successor label).Incomplete :=
  Or.inr rfl

/-! ## Steps -/

/-- A step performs its operation, and reports a fault of it before it fails. -/
theorem exec_step (operation : Operation σ β) (env : Surroundings σ β) {c : Context}
    {object : Object} {data : Row} (ho : c.object = some object) (hd : c.data = some data)
    (s : Session σ β) :
    exec (operation.step env c) s =
      match exec (operation.perform ⟨c, object, data⟩ env) s with
      | (.ok next, s') => (.ok next, s')
      | (.error fault, s') =>
        (.error fault,
          { s' with
            log := s'.log ++ [.reported (.stepFailed operation.label fault.message)] }) := by
  unfold Operation.step
  rw [ho, hd]
  simp only [exec_bind, exec_outcome]
  rcases exec (operation.perform ⟨c, object, data⟩ env) s with ⟨fault | next, s'⟩ <;> rfl

/-- The warning that a context is passed through an operation of that label. -/
def Context.warning (c : Context) (label : String) : Entry :=
  .reported (.passedThrough (Operation.missing label c).message)

/-- **A step passes an incomplete context through** and warns of it. -/
theorem exec_step_incomplete (operation : Operation σ β) (env : Surroundings σ β) {c : Context}
    (h : c.Incomplete) (s : Session σ β) :
    exec (operation.step env c) s =
      (.ok (c.successor operation.label),
        { s with log := s.log ++ [c.warning operation.label] }) := by
  unfold Operation.step
  rcases h with ho | hd
  · rw [ho]
    rfl
  · rw [hd]
    cases c.object <;> rfl

/-- What holds across the performance of an operation holds across its step. -/
theorem Program.Cumulative.step {R : Session σ β → Session σ β → Prop} (hR : Cumulative R)
    (operation : Operation σ β) {env : Surroundings σ β} {c : Context} {s : Session σ β}
    (h : ∀ object data, c.object = some object →
      R s (exec (operation.perform ⟨c, object, data⟩ env) s).2) :
    R s (exec (operation.step env c) s).2 := by
  rcases c.incomplete_or with hlack | ⟨object, data, ho, hd⟩
  · rw [exec_step_incomplete operation env hlack]
    exact hR.report s _
  · have hperform := h object data ho
    rw [exec_step operation env ho hd]
    rcases hexec : exec (operation.perform ⟨c, object, data⟩ env) s with ⟨fault | next, s'⟩
    · rw [hexec] at hperform
      exact hR.trans hperform (hR.report s' _)
    · rw [hexec] at hperform
      exact hperform

/-! ## Runs -/

/-- The context after it was passed through operations of those labels. -/
def Context.passedBy (c : Context) (labels : List String) : Context :=
  labels.foldl Context.successor c

/-- The contexts that enter those operations on the way. -/
def Context.passing (c : Context) : List String → List Context
  | [] => []
  | label :: labels => c :: (c.successor label).passing labels

namespace Context

/-- The object is kept on the way. -/
theorem object_passedBy (c : Context) (labels : List String) :
    (c.passedBy labels).object = c.object := by
  induction labels generalizing c with
  | nil => rfl
  | cons label labels ih => exact ih (c.successor label)

/-- No row turns up on the way. -/
theorem data_passedBy {c : Context} (h : c.data = none) (labels : List String) :
    (c.passedBy labels).data = none := by
  induction labels generalizing c with
  | nil => exact h
  | cons label labels ih => exact ih (c := c.successor label) rfl

theorem length_passing (c : Context) (labels : List String) :
    (c.passing labels).length = labels.length := by
  induction labels generalizing c with
  | nil => rfl
  | cons label labels ih => exact congrArg (· + 1) (ih (c.successor label))

/-- The context at a place has been passed by the operations in front. -/
theorem getElem?_passing {c d : Context} {labels : List String} {i : Nat}
    (h : (c.passing labels)[i]? = some d) : d = c.passedBy (labels.take i) := by
  induction labels generalizing c i with
  | nil => cases h
  | cons label labels ih =>
    cases i with
    | zero => exact (Option.some.inj h).symm
    | succ i => exact ih (c := c.successor label) h

/-- The trail grows by the contexts on the way. -/
theorem trail_passedBy (c : Context) (labels : List String) :
    (c.passedBy labels).trail = c.trail ++ (c.passing labels).map snapshot := by
  induction labels generalizing c with
  | nil => exact (List.append_nil _).symm
  | cons label labels ih =>
    calc (c.passedBy (label :: labels)).trail
        = (c.trail ++ [c.snapshot]) ++ ((c.successor label).passing labels).map snapshot :=
          ih (c.successor label)
      _ = c.trail ++ (c.passing (label :: labels)).map snapshot := List.append_assoc ..

end Context

/-- A context that lacks an object or a row is passed through to the end, with a warning for each
operation. -/
theorem exec_run_incomplete (env : Surroundings σ β) (operations : Chain σ β) {c : Context}
    (h : c.Incomplete) (s : Session σ β) :
    exec (Chain.run env operations c) s =
      (.ok (c.passedBy (operations.map Operation.label)),
        { s with log := s.log ++ operations.map fun operation => c.warning operation.label }) := by
  induction operations generalizing c s with
  | nil => simp [Chain.run, Context.passedBy]
  | cons operation rest ih =>
    -- what is lacking stays the same, because the object is passed on
    have hwarnings : (rest.map fun next => (c.successor operation.label).warning next.label) =
        rest.map fun next => c.warning next.label := rfl
    rw [Chain.run, exec_bind_ok (exec_step_incomplete operation env h s),
      ih (c.incomplete_successor operation.label), hwarnings, List.append_assoc]
    rfl

/-- A run that fails fails in one of its steps, and no later step is run. -/
theorem run_error (env : Surroundings σ β) (operations : Chain σ β) :
    ∀ (start : Context) (s : Session σ β) (f : Fault),
      (exec (Chain.run env operations start) s).1 = .error f →
      ∃ done operation rest c mid, operations = done ++ operation :: rest ∧
        exec (Chain.run env done start) s = (.ok c, mid) ∧
        exec (operation.step env c) mid = exec (Chain.run env operations start) s := by
  induction operations with
  | nil => intro start s f h; cases h
  | cons operation operations ih =>
    intro start s f h
    rcases hstep : exec (operation.step env start) s with ⟨fault | next, s'⟩
    · refine ⟨[], operation, operations, start, s, rfl, rfl, ?_⟩
      rw [Chain.run, exec_bind_error hstep, hstep]
    · rw [Chain.run, exec_bind_ok hstep] at h
      obtain ⟨done, op, rest, c, mid, rfl, hdone, heq⟩ := ih next s' f h
      refine ⟨operation :: done, op, rest, c, mid, rfl, ?_, ?_⟩
      · rw [Chain.run, exec_bind_ok hstep, hdone]
      · rw [Chain.run, exec_bind_ok hstep, heq]

end Fieldwork
