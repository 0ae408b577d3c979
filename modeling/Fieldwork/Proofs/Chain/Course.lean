import Fieldwork.Chain.Scripted
import Fieldwork.Proofs.Chain.Announcement
import Fieldwork.Proofs.Find
import Fieldwork.Responder

/-!
# The course of a run

A run performs the operations of a chain in order until one fails or a context lacks an object or
a row. From there on contexts are only passed through, so the lack is never made up for.

* `exists_course`: the ways a run can go, operation by operation.
* `Course.noted`: **what is performed**. Operations that note their places when they are performed
  note the places from the first on, and nothing else about the run changes.
* `Course.completed`, `Course.broken`: how a run ends, with its trail and its reports.
* `run_course`: every run takes such a course, whatever its operations do.
-/

namespace Fieldwork

open Program

variable {σ β : Type}

/-- Whatever an operation makes of a context is a successor of it, with any object and any row. -/
def Operation.Continues (operation : Operation σ β) (env : Surroundings σ β) : Prop :=
  ∀ (current : Active) (s : Session σ β) (next : Context) (s' : Session σ β),
    exec (operation.perform current env) s = (.ok next, s') →
      ∃ label object data, next = { current.context.successor label with object, data }

theorem Operation.Continues.trail {operation : Operation σ β} {env : Surroundings σ β}
    (h : operation.Continues env) {current : Active} {s s' : Session σ β} {next : Context}
    (hnext : exec (operation.perform current env) s = (.ok next, s')) :
    next.trail = current.context.trail ++ [current.context.snapshot] := by
  obtain ⟨label, object, data, rfl⟩ := h current s next s' hnext
  rfl

theorem Action.continues (action : Action) (label : String) (env : Surroundings σ β) :
    (action.operation (σ := σ) (β := β) label).Continues env := by
  intro current s next s' h
  have happly : action.apply label current = .ok next := congrArg Prod.fst h
  cases action with
  | fail f => cases happly
  | _ => cases happly; exact ⟨label, _, _, rfl⟩

namespace RowUpdate

/-- A row update leaves the session alone, or it writes and announces. -/
theorem perform_cases (u : RowUpdate) (current : Active) (env : Surroundings σ β)
    (s : Session σ β) :
    exec (u.perform current env) s = (.ok (current.context.successor label), s) ∨
    (∃ fault, exec (u.perform current env) s = (.error fault, s)) ∨
    ∃ id values, exec (u.perform current env) s =
      exec (writeAndAnnounce current env id values) s := by
  rw [exec_perform]
  split
  · exact Or.inl rfl
  split
  · exact Or.inr (Or.inl ⟨_, rfl⟩)
  split
  · exact Or.inr (Or.inl ⟨_, rfl⟩)
  · exact Or.inr (Or.inr ⟨_, _, rfl⟩)

/-- The next context is a successor with the row that came back, if one did. -/
theorem successor_of_perform {u : RowUpdate} {env : Surroundings σ β} {current : Active}
    {s s' : Session σ β} {next : Context} (h : exec (u.perform current env) s = (.ok next, s')) :
    ∃ data, next = { current.context.successor label with data } := by
  rcases u.perform_cases current env s with hnext | ⟨fault, hfault⟩ | ⟨id, values, hwrite⟩
  · rw [hnext] at h
    cases h
    exact ⟨none, rfl⟩
  · rw [hfault] at h
    cases h
  · rw [hwrite] at h
    obtain ⟨row, s₁, -, h⟩ := exec_bind_eq_ok.mp h
    obtain ⟨reply, s₂, -, h⟩ := exec_bind_eq_ok.mp h
    have hreply := congrArg Prod.fst h
    cases reply with
    | object updated => cases hreply; exact ⟨some updated, rfl⟩
    | _ => cases hreply

end RowUpdate

theorem RowUpdate.continues (u : RowUpdate) (env : Surroundings σ β) :
    (u.operation (σ := σ) (β := β)).Continues env := by
  intro current s next s' h
  obtain ⟨data, rfl⟩ := successor_of_perform h
  exact ⟨label, _, data, rfl⟩

/-! ## The ways a run can go -/

/-- How a chain takes a context in a session to an outcome in a later session, performing its first
`k` operations. -/
inductive Course (env : Surroundings σ β) :
    Chain σ β → Context → Session σ β → ℕ → Except Fault Context → Session σ β → Prop where
  | ended {c : Context} {s : Session σ β} : Course env [] c s 0 (.ok c) s
  | passed {operation : Operation σ β} {rest : Chain σ β} {c : Context} {s : Session σ β}
      (h : c.Incomplete) :
      Course env (operation :: rest) c s 0
        (.ok (c.passedBy ((operation :: rest).map Operation.label)))
        { s with
          log := s.log ++ (operation :: rest).map fun operation => c.warning operation.label }
  | failed {operation : Operation σ β} {rest : Chain σ β} {c : Context} {s s' : Session σ β}
      {object : Object} {data : Row} {fault : Fault}
      (ho : c.object = some object) (hd : c.data = some data)
      (h : exec (operation.perform ⟨c, object, data⟩ env) s = (.error fault, s')) :
      Course env (operation :: rest) c s 1 (.error fault)
        { s' with log := s'.log ++ [.reported (.stepFailed operation.label fault.message)] }
  | performed {operation : Operation σ β} {rest : Chain σ β} {c next : Context}
      {s s' last : Session σ β} {object : Object} {data : Row} {k : ℕ} {out : Except Fault Context}
      (ho : c.object = some object) (hd : c.data = some data)
      (h : exec (operation.perform ⟨c, object, data⟩ env) s = (.ok next, s'))
      (hrest : Course env rest next s' k out last) :
      Course env (operation :: rest) c s (k + 1) out last

/-- **Every run takes a course.** -/
theorem exists_course (env : Surroundings σ β) (operations : Chain σ β) (c : Context)
    (s : Session σ β) :
    ∃ k, Course env operations c s k (exec (Chain.run env operations c) s).1
      (exec (Chain.run env operations c) s).2 := by
  induction operations generalizing c s with
  | nil => exact ⟨0, .ended⟩
  | cons operation rest ih =>
    rcases c.incomplete_or with hlack | ⟨object, data, ho, hd⟩
    · rw [exec_run_incomplete env (operation :: rest) hlack s]
      exact ⟨0, .passed hlack⟩
    have hstep := exec_step operation env ho hd s
    rcases hperform : exec (operation.perform ⟨c, object, data⟩ env) s with ⟨fault | next, s'⟩
    · rw [hperform] at hstep
      rw [Chain.run, exec_bind_error hstep]
      exact ⟨1, .failed ho hd hperform⟩
    · rw [hperform] at hstep
      rw [Chain.run, exec_bind_ok hstep]
      obtain ⟨k, hrest⟩ := ih next s'
      exact ⟨k + 1, .performed ho hd hperform hrest⟩

namespace Course

variable {env : Surroundings σ β} {operations : Chain σ β} {c : Context} {s last : Session σ β}
  {k : ℕ} {out : Except Fault Context}

theorem le_length (h : Course env operations c s k out last) : k ≤ operations.length := by
  induction h with
  | ended => exact le_rfl
  | passed h => exact Nat.zero_le _
  | failed ho hd h => exact Nat.succ_le_succ (Nat.zero_le _)
  | performed ho hd h hrest ih => exact Nat.succ_le_succ ih

end Course

/-! ## What is performed -/

/-- The session with places noted beside its storage. -/
def Session.noting (s : Session σ β) (places : List ℕ) : Session (σ × List ℕ) β :=
  { storage := (s.storage, places), bus := s.bus, log := s.log }

/-- The session without the notes. -/
def Session.unnoted (s : Session (σ × List ℕ) β) : Session σ β :=
  { storage := s.storage.1, bus := s.bus, log := s.log }

/-- The same operation, which also notes its place whenever it is performed. It sees nothing of
the notes. -/
def Operation.noted (env : Surroundings σ β) (place : ℕ) (operation : Operation σ β) :
    Operation (σ × List ℕ) β :=
  { label := operation.label
    perform := fun current _ => do
      let s ← get
      let (outcome, next) := exec (operation.perform current env) s.unnoted
      set (next.noting (s.storage.2 ++ [place]))
      Program.ofExcept outcome }

/-- The operations of a chain, noting their places from `first` on. -/
def Chain.noted (env : Surroundings σ β) (first : ℕ) : Chain σ β → Chain (σ × List ℕ) β
  | [] => []
  | operation :: rest => operation.noted env first :: noted env (first + 1) rest

theorem Operation.exec_noted (env : Surroundings σ β) (env' : Surroundings (σ × List ℕ) β)
    (place : ℕ) (operation : Operation σ β) (current : Active) (s : Session σ β)
    (places : List ℕ) :
    exec ((operation.noted env place).perform current env') (s.noting places) =
      ((exec (operation.perform current env) s).1,
        (exec (operation.perform current env) s).2.noting (places ++ [place])) := rfl

theorem Chain.label_noted (env : Surroundings σ β) (first : ℕ) (operations : Chain σ β) :
    (noted env first operations).map Operation.label = operations.map Operation.label := by
  induction operations generalizing first with
  | nil => rfl
  | cons operation rest ih => exact congrArg (operation.label :: ·) (ih (first + 1))

/-- **The operations that are performed are the first `k`**, once each and in order. -/
theorem Course.noted {env : Surroundings σ β} {operations : Chain σ β} {c : Context}
    {s last : Session σ β} {k : ℕ} {out : Except Fault Context}
    (h : Course env operations c s k out last) (env' : Surroundings (σ × List ℕ) β) (first : ℕ)
    (places : List ℕ) :
    exec (Chain.run env' (Chain.noted env first operations) c) (s.noting places) =
      (out, last.noting (places ++ List.range' first k)) := by
  induction h generalizing first places with
  | ended =>
    rw [List.range'_zero, List.append_nil]
    rfl
  | @passed operation rest c s h =>
    have hrun := exec_run_incomplete env' (Chain.noted env first (operation :: rest)) h
      (s.noting places)
    have hwarnings := congrArg (List.map c.warning)
      (Chain.label_noted env first (operation :: rest))
    rw [List.map_map, List.map_map] at hwarnings
    rw [hrun, Chain.label_noted, List.range'_zero, List.append_nil]
    exact congrArg (fun entries => (_, { s.noting places with log := s.log ++ entries })) hwarnings
  | @failed operation rest c s s' object data fault ho hd h =>
    have hstep := exec_step (operation.noted env first) env' ho hd (s.noting places)
    rw [Operation.exec_noted, h] at hstep
    rw [Chain.noted, Chain.run, exec_bind_error hstep]
    rfl
  | @performed operation rest c next s s' last object data k out ho hd h hrest ih =>
    have hstep := exec_step (operation.noted env first) env' ho hd (s.noting places)
    rw [Operation.exec_noted, h] at hstep
    rw [Chain.noted, Chain.run, exec_bind_ok hstep, ih (first + 1) (places ++ [first]),
      List.append_assoc, List.range'_succ]
    rfl

/-! ## How a run ends -/

/-- The operation at a place is entered with a context in a session: those before it leave both. -/
def Chain.Enters (env : Surroundings σ β) (operations : Chain σ β) (start : Context)
    (s : Session σ β) (place : ℕ) (c : Context) (mid : Session σ β) : Prop :=
  exec (run env (operations.take place) start) s = (.ok c, mid)

theorem Chain.Enters.cons {env : Surroundings σ β} {operation : Operation σ β} {rest : Chain σ β}
    {start next c : Context} {s s' mid : Session σ β} {place : ℕ}
    (hstep : exec (operation.step env start) s = (.ok next, s'))
    (h : Enters env rest next s' place c mid) :
    Enters env (operation :: rest) start s (place + 1) c mid := by
  unfold Enters
  rw [List.take_succ_cons, run, exec_bind_ok hstep]
  exact h

/-- The end of a run that performs its first `k` operations without a fault. -/
structure Completed (env : Surroundings σ β) (operations : Chain σ β) (start : Context)
    (s : Session σ β) (k : ℕ) (final : Context) (last : Session σ β) : Prop where
  /-- The trail has grown by the label, the object's ID and the row of each context that entered an
  operation, and the first `k` of these contexts had an object and a row. -/
  trail : ∃ entered : List Context, entered.length = operations.length ∧
    (∀ i c, entered[i]? = some c →
      (∃ mid, Chain.Enters env operations start s i c mid) ∧ (i < k → ¬ c.Incomplete)) ∧
    final.trail = start.trail ++
      entered.map fun c => { label := c.label, object := c.object.map Object.id, data := c.data }
  /-- The operations from place `k` on add a warning each and nothing else. -/
  passes : k < operations.length → ∃ c mid, Chain.Enters env operations start s k c mid ∧
    c.Incomplete ∧ final.data = none ∧ final.object = c.object ∧
    last =
      { mid with
        log := mid.log ++ (operations.drop k).map fun operation => c.warning operation.label }

/-- The end of a run whose operation number `k`, counted from one, fails: its fault, reported. -/
def Broken (env : Surroundings σ β) (operations : Chain σ β) (start : Context) (s : Session σ β)
    (k : ℕ) (fault : Fault) (last : Session σ β) : Prop :=
  ∃ place operation c object data mid left, k = place + 1 ∧
    operations[place]? = some operation ∧ Chain.Enters env operations start s place c mid ∧
    c.object = some object ∧ c.data = some data ∧
    exec (operation.perform ⟨c, object, data⟩ env) mid = (.error fault, left) ∧
    last =
      { left with log := left.log ++ [.reported (.stepFailed operation.label fault.message)] }

section Ends

variable {env : Surroundings σ β} {operations : Chain σ β} {c : Context} {s last : Session σ β}
  {k : ℕ} {out : Except Fault Context}

/-- A run that succeeds has performed all its operations or passes the rest through. -/
theorem Course.completed (h : Course env operations c s k out last) :
    (∀ operation ∈ operations, operation.Continues env) → ∀ final, out = .ok final →
      Completed env operations c s k final last := by
  induction h with
  | @ended c s =>
    rintro - final hfinal
    cases hfinal
    refine ⟨⟨[], rfl, fun i d hd => ?_, (List.append_nil _).symm⟩, fun hk => ?_⟩
    · cases hd
    · exact absurd hk (Nat.lt_irrefl 0)
  | @passed operation rest c s h =>
    rintro - final hfinal
    cases hfinal
    refine ⟨⟨c.passing ((operation :: rest).map Operation.label), ?_, fun i d hd => ⟨?_, ?_⟩, ?_⟩,
      fun _ => ⟨c, s, rfl, h, ?_, ?_, rfl⟩⟩
    · rw [Context.length_passing, List.length_map]
    · have hentered := Context.getElem?_passing hd
      rw [← List.map_take] at hentered
      rw [hentered]
      exact ⟨_, exec_run_incomplete env _ h s⟩
    · exact fun hi => absurd hi (Nat.not_lt_zero i)
    · exact Context.trail_passedBy c _
    · exact Context.data_passedBy (c := c.successor operation.label) rfl _
    · exact Context.object_passedBy c _
  | failed ho hd h =>
    rintro - final hfinal
    cases hfinal
  | @performed operation rest c next s s' last object data k out ho hd h hrest ih =>
    intro hops final hfinal
    have hstep : exec (operation.step env c) s = (.ok next, s') := by
      rw [exec_step operation env ho hd, h]
    have hwhole : ¬ c.Incomplete := by
      rintro (hnone | hnone)
      · rw [ho] at hnone
        cases hnone
      · rw [hd] at hnone
        cases hnone
    have htrail : next.trail = c.trail ++ [c.snapshot] := (hops operation (by simp)).trail h
    obtain ⟨⟨entered, hlength, hentered, hfinalTrail⟩, hpasses⟩ :=
      ih (fun op hop => hops op (List.mem_cons_of_mem _ hop)) final hfinal
    refine ⟨⟨c :: entered, congrArg (· + 1) hlength, fun i d hd => ?_, ?_⟩, fun hk => ?_⟩
    · cases i with
      | zero =>
        obtain rfl : c = d := Option.some.inj hd
        exact ⟨⟨s, rfl⟩, fun _ => hwhole⟩
      | succ i =>
        obtain ⟨⟨mid, hmid⟩, hi⟩ := hentered i d hd
        exact ⟨⟨mid, hmid.cons hstep⟩, fun hlt => hi (Nat.lt_of_succ_lt_succ hlt)⟩
    · rw [hfinalTrail, htrail, List.append_assoc]
      rfl
    · obtain ⟨d, mid, hmid, hrest⟩ := hpasses (Nat.lt_of_succ_lt_succ hk)
      exact ⟨d, mid, hmid.cons hstep, hrest⟩

/-- A run that fails ends with the fault of the operation it performed last. -/
theorem Course.broken (h : Course env operations c s k out last) :
    ∀ fault, out = .error fault → Broken env operations c s k fault last := by
  induction h with
  | ended =>
    intro fault hfault
    cases hfault
  | passed h =>
    intro fault hfault
    cases hfault
  | @failed operation rest c s s' object data fault ho hd h =>
    intro fault' hfault
    cases hfault
    exact ⟨0, operation, c, object, data, s, s', rfl, rfl, rfl, ho, hd, h, rfl⟩
  | @performed operation rest c next s s' last object data k out ho hd h hrest ih =>
    intro fault hfault
    have hstep : exec (operation.step env c) s = (.ok next, s') := by
      rw [exec_step operation env ho hd, h]
    obtain ⟨place, op, d, object', data', mid, left, rfl, hop, hmid, hfail⟩ := ih fault hfault
    exact ⟨place + 1, op, d, object', data', mid, left, rfl, hop, hmid.cons hstep, hfail⟩

end Ends

/-- How far a run gets: it performs the first `k` operations. -/
structure Progress (env : Surroundings σ β) (operations : Chain σ β) (start : Context)
    (s : Session σ β) (k : ℕ) : Prop where
  le_length : k ≤ operations.length
  /-- Those operations are performed once each and in order, and no other is. -/
  performed : ∀ env',
    exec (Chain.run env' (Chain.noted env 0 operations) start) (s.noting []) =
      ((exec (Chain.run env operations start) s).1,
        (exec (Chain.run env operations start) s).2.noting (List.range k))
  completed : ∀ final, (exec (Chain.run env operations start) s).1 = .ok final →
    Completed env operations start s k final (exec (Chain.run env operations start) s).2
  broken : ∀ fault, (exec (Chain.run env operations start) s).1 = .error fault →
    Broken env operations start s k fault (exec (Chain.run env operations start) s).2

/-- **A run performs the operations of a chain from the first on**, until one fails or a context
lacks an object or a row; then it ends with that fault, or passes the context through the rest. -/
theorem run_course (env : Surroundings σ β) {operations : Chain σ β}
    (h : ∀ operation ∈ operations, operation.Continues env) (start : Context) (s : Session σ β) :
    ∃ k, Progress env operations start s k := by
  obtain ⟨k, hcourse⟩ := exists_course env operations start s
  refine ⟨k, hcourse.le_length, fun env' => ?_, hcourse.completed h, hcourse.broken⟩
  rw [hcourse.noted env' 0 [], List.nil_append, List.range_eq_range']

/-! ## A part taken off sale -/

def shop : Surroundings Memory Responder :=
  { request := { storage := Memory.storage, bus := Responder.bus }, scope := none }

/-- A part is marked and given up, so there is nothing left to measure. -/
def giveUp : Chain Memory Responder :=
  [Action.tag.operation "mark", Action.dropData.operation "give up",
    (RowUpdate.mk [⟨"size", .ofNat 3⟩]).operation]

theorem giveUp_continues : ∀ operation ∈ giveUp, operation.Continues shop := by
  intro operation hmem
  rcases List.mem_cons.mp hmem with rfl | hmem
  · exact Action.continues _ _ _
  rcases List.mem_cons.mp hmem with rfl | hmem
  · exact Action.continues _ _ _
  · rw [List.mem_singleton.mp hmem]
    exact RowUpdate.continues _ _

/-- A part of the shop at the start of a chain. -/
def onePart : Context :=
  { label := "start", object := some Object.parts, data := some (Object.part true (.ofNat 2)) }

def echoing : Session Memory Responder :=
  { storage := Object.mixedStock.storage, bus := .echo }

/-- The part is marked with its row, given up with the mark in it, and passed through without. -/
theorem run_course_giveUp :
    (∀ operation ∈ giveUp, operation.Continues shop) ∧
      (∃ k, Progress shop giveUp onePart echoing k) ∧
      (exec (Chain.run shop giveUp onePart) echoing).1.map Context.trail =
        .ok [⟨"start", some "parts", some (Object.part true (.ofNat 2))⟩,
          ⟨"mark", some "parts",
            some [("mark", .bool true), ("open", .bool true), ("size", .ofNat 2)]⟩,
          ⟨"give up", some "parts", none⟩] :=
  ⟨giveUp_continues, run_course shop giveUp_continues onePart echoing, rfl⟩

end Fieldwork
