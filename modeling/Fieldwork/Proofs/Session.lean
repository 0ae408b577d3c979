import Fieldwork.Session

/-!
# What a program does to its session

A program takes a session to an outcome and a later session (`exec`). It only ever
adds to the log, so what it did is the entries it added.

* `exec_bind`: a sequence of programs stops at the first fault.
* `Cumulative.bind`: a relation between sessions holds across a sequence.
* `Logs`: every run of a program adds entries that, together with its outcome, satisfy a relation.
* `Logs.bind`: the entries of a sequence are those of its parts, one after another.
-/

namespace Fieldwork.Program

variable {σ β α γ : Type}

/-- The outcome of a program in a session and the session afterwards. -/
def exec (p : Program σ β α) (s : Session σ β) : Except Fault α × Session σ β :=
  (p.run.run s).run

/-! ## Runs of the parts of a program -/

@[simp] theorem exec_pure (a : α) (s : Session σ β) : exec (pure a) s = (.ok a, s) := rfl

@[simp] theorem exec_throw (f : Fault) (s : Session σ β) :
    exec (throw f : Program σ β α) s = (.error f, s) := rfl

@[simp] theorem exec_ofExcept (out : Except Fault α) (s : Session σ β) :
    exec (ofExcept out) s = (out, s) := rfl

@[simp] theorem exec_note (e : Entry) (s : Session σ β) :
    exec (note e) s = (.ok (), { s with log := s.log ++ [e] }) := rfl

@[simp] theorem exec_report (e : Event) (s : Session σ β) :
    exec (report e) s = (.ok (), { s with log := s.log ++ [.reported e] }) := rfl

@[simp] theorem exec_outcome (p : Program σ β α) (s : Session σ β) :
    exec p.outcome s = (.ok (exec p s).1, (exec p s).2) := rfl

/-- **A sequence goes on from the session its first part leaves**, or stops at its fault. -/
theorem exec_bind (p : Program σ β α) (f : α → Program σ β γ) (s : Session σ β) :
    exec (p >>= f) s =
      match exec p s with
      | (.ok a, s') => exec (f a) s'
      | (.error fault, s') => (.error fault, s') := by
  have hb : exec (p >>= f) s = ((ExceptT.bindCont f (exec p s).1).run (exec p s).2).run := rfl
  rw [hb]
  rcases exec p s with ⟨_ | a, s'⟩ <;> rfl

/-- Adapting the fault of a program leaves its session alone. -/
@[simp] theorem exec_adapt (g : Fault → Fault) (p : Program σ β α) (s : Session σ β) :
    exec (p.adapt g) s = ((exec p s).1.mapError g, (exec p s).2) := rfl

/-- A query text is given to a fault and changes nothing else. -/
@[simp] theorem exec_withSql (sql : String) (p : Program σ β α) (s : Session σ β) :
    exec (p.withSql sql) s = ((exec p s).1.mapError (Fault.withSql sql), (exec p s).2) := rfl

/-- A query is answered from the storage, and the answer is logged. -/
@[simp] theorem exec_select (storage : Storage σ) (plan : Plan) (scope : Option Scope)
    (s : Session σ β) :
    exec (select storage plan scope) s =
      ((storage.select plan scope s.storage).1,
       { s with
         storage := (storage.select plan scope s.storage).2
         log := s.log ++ [.selected plan scope (storage.select plan scope s.storage).1] }) := rfl

/-- A write goes to the storage, and its outcome is logged. -/
@[simp] theorem exec_update (storage : Storage σ) (w : Update) (scope : Option Scope)
    (s : Session σ β) :
    exec (update storage w scope) s =
      ((storage.update w scope s.storage).1,
       { s with
         storage := (storage.update w scope s.storage).2
         log := s.log ++ [.updated w scope (storage.update w scope s.storage).1] }) := rfl

/-- A request goes to the bus, and its reply is logged. -/
@[simp] theorem exec_request (bus : Bus β) (topic : String) (payload : Json) (s : Session σ β) :
    exec (request bus topic payload) s =
      ((bus.request topic payload s.bus).1,
       { s with
         bus := (bus.request topic payload s.bus).2
         log := s.log ++ [.requested topic payload (bus.request topic payload s.bus).1] }) := rfl

/-- Reports are logged in their order, and nothing else happens. -/
@[simp] theorem exec_reportAll (events : List Event) (s : Session σ β) :
    exec (reportAll events) s = (.ok (), { s with log := s.log ++ events.map .reported }) := by
  induction events generalizing s with
  | nil => simp [reportAll]
  | cons e events ih =>
    unfold reportAll
    rw [exec_bind, exec_report]
    simp only [ih, List.map_cons, List.append_assoc, List.singleton_append]

/-- A run that succeeds has run its first part and then the rest. -/
theorem exec_bind_ok {p : Program σ β α} {f : α → Program σ β γ} {s s' : Session σ β} {a : α}
    (h : exec p s = (.ok a, s')) : exec (p >>= f) s = exec (f a) s' := by
  rw [exec_bind, h]

/-- A run whose first part fails stops there. -/
theorem exec_bind_error {p : Program σ β α} {f : α → Program σ β γ} {s s' : Session σ β}
    {fault : Fault} (h : exec p s = (.error fault, s')) :
    exec (p >>= f) s = (.error fault, s') := by
  rw [exec_bind, h]

/-- A sequence succeeds when its parts do. -/
theorem exec_bind_eq_ok {p : Program σ β α} {f : α → Program σ β γ} {s last : Session σ β}
    {c : γ} :
    exec (p >>= f) s = (.ok c, last) ↔
      ∃ a s', exec p s = (.ok a, s') ∧ exec (f a) s' = (.ok c, last) := by
  rw [exec_bind]
  rcases exec p s with ⟨fault | a, s'⟩
  · simp
  · constructor
    · intro h
      exact ⟨a, s', rfl, h⟩
    · rintro ⟨b, mid, hb, h⟩
      cases hb
      exact h

/-! ## Relations between sessions -/

/-- A relation between a session and a later one that holds across a program when it holds across
its parts; reports keep it. -/
structure Cumulative (R : Session σ β → Session σ β → Prop) : Prop where
  refl : ∀ s, R s s
  trans : ∀ {s s' s''}, R s s' → R s' s'' → R s s''
  report : ∀ s event, R s { s with log := s.log ++ [.reported event] }

/-- A relation that holds across both parts of a sequence holds across the sequence. -/
theorem Cumulative.bind {R : Session σ β → Session σ β → Prop} (hR : Cumulative R)
    {p : Program σ β α} {f : α → Program σ β γ} {s : Session σ β} (hp : R s (exec p s).2)
    (hf : ∀ a s', exec p s = (.ok a, s') → R s' (exec (f a) s').2) :
    R s (exec (p >>= f) s).2 := by
  rcases h : exec p s with ⟨fault | a, s'⟩
  · rw [h] at hp
    rw [exec_bind_error h]
    exact hp
  · rw [h] at hp
    rw [exec_bind_ok h]
    exact hR.trans hp (hf a s' h)

/-! ## Entries added to the log -/

/-- Every run of the program adds entries that, together with its outcome, satisfy `P`. -/
def Logs (p : Program σ β α) (P : Except Fault α → List Entry → Prop) : Prop :=
  ∀ s, ∃ added, (exec p s).2.log = s.log ++ added ∧ P (exec p s).1 added

namespace Logs

variable {p : Program σ β α} {P : Except Fault α → List Entry → Prop}

/-- What is said of the entries may be weakened. -/
theorem mono {Q : Except Fault α → List Entry → Prop} (h : p.Logs P)
    (hPQ : ∀ out added, P out added → Q out added) : p.Logs Q := by
  intro s
  obtain ⟨added, hlog, hP⟩ := h s
  exact ⟨added, hlog, hPQ _ _ hP⟩

/-- A program that leaves the session alone adds nothing. -/
theorem of_exec_eq {out : Except Fault α} (hp : ∀ s, exec p s = (out, s)) (h : P out []) :
    p.Logs P := by
  intro s
  rw [hp s]
  exact ⟨[], by simp, h⟩

/-- **A sequence adds what its parts add**, and stops at the first fault. -/
theorem bind {f : α → Program σ β γ} {Q : α → Except Fault γ → List Entry → Prop}
    (hp : p.Logs P) (hf : ∀ a, (f a).Logs (Q a)) :
    (p >>= f).Logs fun out added =>
      (∃ fault, out = .error fault ∧ P (.error fault) added) ∨
      ∃ a first rest, added = first ++ rest ∧ P (.ok a) first ∧ Q a out rest := by
  intro s
  obtain ⟨first, hlog, hP⟩ := hp s
  rcases h : exec p s with ⟨_ | a, s'⟩
  · rw [h] at hlog hP
    rw [exec_bind_error h]
    exact ⟨first, hlog, Or.inl ⟨_, rfl, hP⟩⟩
  · rw [h] at hlog hP
    rw [exec_bind_ok h]
    obtain ⟨rest, hrest, hQ⟩ := hf a s'
    refine ⟨first ++ rest, ?_, Or.inr ⟨a, first, rest, rfl, hP, hQ⟩⟩
    rw [hrest, hlog, List.append_assoc]

end Logs

end Fieldwork.Program
