import Fieldwork.Proofs.Find
import Fieldwork.Proofs.Plan.Failure
import Fieldwork.Proofs.Retry
import Fieldwork.Store.Script

/-!
# Faults of access to an object's rows

A find and a count fail where their query does not compile, and like an update where the storage
fails. Each such fault carries a query text, and one from the storage is the same fault as before in
all other respects. A count fails in one more way, and then without a text: where the storage
answers, but no number is found in the answer.

* `find_eq_error_iff`, `count_eq_error_iff`, `updateRow_eq_error_iff`: what they fail with, for any
  storage.
* `run_withSql`: a query text does not change what is tried again.
* `fault_carries_query`: **a fault carries its query and keeps its nature**, but for that of a count
  without a number.
-/

namespace Fieldwork

open Program

/-! ## Faults with a query text -/

namespace Fault

/-- The fault without any query text, neither around it nor inside. -/
def bare : Fault → Fault
  | .storage message _ transient => .storage message none transient
  | .withQuery source _ => source.bare
  | fault => fault

theorem bare_withSql (text : String) (f : Fault) : (f.withSql text).bare = f.bare := by
  cases f with
  | storage message sql transient => cases sql <;> rfl
  | _ => rfl

/-- The fault is another one with a query text, which is the text given unless there was one. -/
structure Annotates (fault source : Fault) (text : String) : Prop where
  sql : fault.sql? = some (source.sql?.getD text)
  bare : fault.bare = source.bare
  kind : fault.kind = source.kind
  transient : fault.isTransient = source.isTransient

theorem annotates_withSql (source : Fault) (text : String) :
    (source.withSql text).Annotates source text :=
  ⟨sql?_withSql text source, bare_withSql text source, kind_withSql text source,
    isTransient_withSql text source⟩

end Fault

/-- The text is that of the query without some of its sort, or of its source alone. -/
def Options.Reaches (options : Options) (o : Object) (u : User) (text : String) : Prop :=
  text = Plan.bareText o.source ∨
    ∃ i p, Plan.compile o (options.sortedBy i) u = .ok p ∧ text = p.sql

/-! ## What access fails with -/

namespace Object

variable {σ β : Type} {o : Object} {options : Options} {u : User} {scope : Option Scope}

theorem numberIn_eq_error_iff {rows : List Row} {fault : Fault} :
    numberIn rows = .error fault ↔
      countOf? rows = none ∧ fault = .failed "count query returned no count" := by
  unfold numberIn
  cases countOf? rows <;> simp [eq_comm]

/-- A find fails where its query does not compile or the storage fails. -/
theorem find_eq_error_iff (storage : Storage σ) (s : Session σ β) (fault : Fault) :
    (exec (o.find storage options u scope) s).1 = .error fault ↔
      Plan.compile o options u = .error fault ∨
      ∃ p source, Plan.compile o options u = .ok p ∧
        (storage.select p scope s.storage).1 = .error source ∧ fault = source.withSql p.sql := by
  rw [exec_find_fst]
  refine bind_eq_error_iff.trans ?_
  simp only [map_eq_error_iff, mapError_eq_error_iff, exists_and_left]

/-- A count fails where a find does, and where there is no number in the answer. -/
theorem count_eq_error_iff (storage : Storage σ) (s : Session σ β) (fault : Fault) :
    (exec (o.count storage options u scope) s).1 = .error fault ↔
      Plan.compileCount o options u = .error fault ∨
      (∃ p source, Plan.compileCount o options u = .ok p ∧
        (storage.select p scope s.storage).1 = .error source ∧ fault = source.withSql p.sql) ∨
      ∃ p rows, Plan.compileCount o options u = .ok p ∧
        (storage.select p scope s.storage).1 = .ok rows ∧ countOf? rows = none ∧
        fault = .failed "count query returned no count" := by
  rw [exec_count_fst]
  refine bind_eq_error_iff.trans (or_congr_right ?_)
  rw [← exists_or]
  refine exists_congr fun p => ?_
  simp only [exists_and_left, ← and_or_left]
  refine and_congr_right fun _ => bind_eq_error_iff.trans ?_
  simp only [mapError_eq_error_iff, mapError_eq_ok_iff, numberIn_eq_error_iff]

theorem updateRow_eq_error_iff (storage : Storage σ) (id : Json) (values : Row)
    (s : Session σ β) (fault : Fault) :
    (exec (o.updateRow storage id values scope) s).1 = .error fault ↔
      ∃ source, (storage.update (o.update id values) scope s.storage).1 = .error source ∧
        fault = source.withSql (o.update id values).sql := by
  rw [updateRow, exec_withSql, exec_update, mapError_eq_error_iff]

end Object

/-! ## Trying again -/

variable {σ β α : Type} {operation : Program σ β α} {outcomes : ℕ → Except Fault α}
  {after : ℕ → σ × β} {entries : ℕ → List Entry}

theorem transientOutcome_withSql (out : Except Fault α) (text : String) :
    TransientOutcome (out.mapError (Fault.withSql text)) ↔ TransientOutcome out := by
  cases out with
  | ok a => exact Iff.rfl
  | error fault =>
    rw [mapError_error, transientOutcome_error, transientOutcome_error,
      Fault.isTransient_withSql]

theorem Program.Plays.withSql (h : operation.Plays outcomes after entries) (text : String) :
    (operation.withSql text).Plays (fun i => (outcomes i).mapError (Fault.withSql text)) after
      entries := by
  intro i log
  rw [exec_withSql, h]

namespace RetryPolicy

/-- A query text does not change which call is the last one. -/
theorem LastCall.withSql {most n : ℕ} (h : LastCall outcomes most n) (text : String) :
    LastCall (fun i => (outcomes i).mapError (Fault.withSql text)) most n where
  pos := h.pos
  le := h.le
  retried i hi hlt := (transientOutcome_withSql _ text).mpr (h.retried i hi hlt)
  stops := h.stops.imp_right fun hsettled => mt (transientOutcome_withSql _ text).mp hsettled

/-- **A query text does not change what is tried again**: the same calls are made, and the outcome
is that of the last one with the text. -/
theorem run_withSql (h : operation.Plays outcomes after entries) (p : RetryPolicy)
    (label text : String) (log : List Entry) :
    let plain := exec (p.run label operation) ⟨(after 0).1, (after 0).2, log⟩
    let given := exec (p.run label (operation.withSql text)) ⟨(after 0).1, (after 0).2, log⟩
    given.1 = plain.1.mapError (Fault.withSql text) ∧ given.2.storage = plain.2.storage ∧
      given.2.bus = plain.2.bus := by
  obtain ⟨n, hlast⟩ := exists_lastCall p.most_pos outcomes
  rw [exec_run_of_plays h hlast, exec_run_of_plays (h.withSql text) (hlast.withSql text)]
  exact ⟨rfl, rfl, rfl⟩

end RetryPolicy

/-- The state of a storage that was asked for the same write so many times. -/
def Storage.repeated (storage : Storage σ) (w : Update) (scope : Option Scope) (state : σ) : ℕ → σ
  | 0 => state
  | i + 1 => (storage.update w scope (storage.repeated w scope state i)).2

/-- The answers of a storage that is asked for the same write again and again. -/
def Storage.answers (storage : Storage σ) (w : Update) (scope : Option Scope) (state : σ) (i : ℕ) :
    Except Fault Row :=
  (storage.update w scope (storage.repeated w scope state (i - 1))).1

theorem Program.plays_update (storage : Storage σ) (w : Update) (scope : Option Scope) (state : σ)
    (bus : β) :
    (Program.update storage w scope).Plays (storage.answers w scope state)
      (fun i => (storage.repeated w scope state i, bus))
      fun i => [.updated w scope (storage.answers w scope state i)] :=
  fun _ _ => rfl

namespace Object

/-- A write that is tried again leaves the services as it would without its query text. -/
theorem run_updateRow (o : Object) (storage : Storage σ) (id : Json) (values : Row)
    (scope : Option Scope) (p : RetryPolicy) (label : String) (s : Session σ β) :
    let w := o.update id values
    let plain := exec (p.run label (Program.update storage w scope)) s
    let given := exec (p.run label (o.updateRow storage id values scope)) s
    given.1 = plain.1.mapError (Fault.withSql w.sql) ∧ given.2.storage = plain.2.storage ∧
      given.2.bus = plain.2.bus :=
  RetryPolicy.run_withSql (Program.plays_update storage (o.update id values) scope s.storage s.bus)
    p label (o.update id values).sql s.log

/-! ## Every fault -/

variable {options : Options} {u : User} {scope : Option Scope}

/-- The fault of a find carries the query as far as it had come, or is one of the storage. -/
theorem text_of_find (storage : Storage σ) (s : Session σ β) {o : Object} {fault : Fault}
    (h : (exec (o.find storage options u scope) s).1 = .error fault) :
    (Plan.compile o options u = .error fault ∧
      ∃ text, options.Reaches o u text ∧ fault.sql? = some text) ∨
    ∃ p source, Plan.compile o options u = .ok p ∧
      (storage.select p scope s.storage).1 = .error source ∧ fault.Annotates source p.sql := by
  rcases (find_eq_error_iff storage s fault).mp h with hcompile | ⟨p, source, hp, hsource, rfl⟩
  · rcases Plan.compile_eq_error_iff.mp hcompile with ⟨i, f, -, rfl⟩ | ⟨i, f, p, -, hp, rfl⟩
    · exact Or.inl ⟨hcompile, _, Or.inl rfl, rfl⟩
    · exact Or.inl ⟨hcompile, _, Or.inr ⟨i, p, hp, rfl⟩, rfl⟩
  · exact Or.inr ⟨p, source, hp, hsource, source.annotates_withSql p.sql⟩

/-- So does that of a count, or it has no text because there is no number in the answer. -/
theorem text_of_count (storage : Storage σ) (s : Session σ β) {o : Object} {fault : Fault}
    (h : (exec (o.count storage options u scope) s).1 = .error fault) :
    (Plan.compileCount o options u = .error fault ∧
      fault.sql? = some (Plan.bareText o.source)) ∨
    (∃ p source, Plan.compileCount o options u = .ok p ∧
      (storage.select p scope s.storage).1 = .error source ∧ fault.Annotates source p.sql) ∨
    fault.sql? = none ∧ ∃ p rows, Plan.compileCount o options u = .ok p ∧
      (storage.select p scope s.storage).1 = .ok rows ∧ countOf? rows = none := by
  rcases (count_eq_error_iff storage s fault).mp h with
    hcompile | ⟨p, source, hp, hsource, rfl⟩ | ⟨p, rows, hp, hrows, hnone, rfl⟩
  · obtain ⟨i, f, -, rfl⟩ := Plan.compileCount_eq_error_iff.mp hcompile
    exact Or.inl ⟨hcompile, rfl⟩
  · exact Or.inr (Or.inl ⟨p, source, hp, hsource, source.annotates_withSql p.sql⟩)
  · exact Or.inr (Or.inr ⟨rfl, p, rows, hp, hrows, hnone⟩)

/-- A count has a fault without a text exactly where there is no number in the answer. -/
theorem count_textless_iff (storage : Storage σ) (s : Session σ β) (o : Object) :
    (∃ fault, (exec (o.count storage options u scope) s).1 = .error fault ∧ fault.sql? = none) ↔
      ∃ p rows, Plan.compileCount o options u = .ok p ∧
        (storage.select p scope s.storage).1 = .ok rows ∧ countOf? rows = none := by
  constructor
  · rintro ⟨fault, hfault, htextless⟩
    rcases text_of_count storage s hfault with
      ⟨-, hsome⟩ | ⟨p, source, -, -, hsource⟩ | ⟨-, hmissing⟩
    · exact absurd (htextless.symm.trans hsome) (by simp)
    · exact absurd (htextless.symm.trans hsource.sql) (by simp)
    · exact hmissing
  · rintro ⟨p, rows, hp, hrows, hnone⟩
    have hfault := (count_eq_error_iff storage s _).mpr
      (Or.inr (Or.inr ⟨p, rows, hp, hrows, hnone, rfl⟩))
    exact ⟨_, hfault, rfl⟩

/-- **A fault carries its query and keeps its nature.** For every storage, a fault of a find or an
update carries a query text: that of the query as far as it had come where it does not compile, and
else the text in the fault of the storage or, without one, that of the statement; the fault of the
storage is otherwise as before, and a retry makes the same calls. The faults of a count are of this
kind as well, but for one: it has no text exactly where the storage answers and no number is found
in the answer. -/
theorem fault_carries_query (o : Object) (storage : Storage σ) (options : Options) (u : User)
    (scope : Option Scope) (id : Json) (values : Row) (s : Session σ β) :
    (∀ fault, (exec (o.find storage options u scope) s).1 = .error fault →
      (Plan.compile o options u = .error fault ∧
        ∃ text, options.Reaches o u text ∧ fault.sql? = some text) ∨
      ∃ p source, Plan.compile o options u = .ok p ∧
        (storage.select p scope s.storage).1 = .error source ∧ fault.Annotates source p.sql) ∧
    (∀ fault, (exec (o.updateRow storage id values scope) s).1 = .error fault →
      ∃ source, (storage.update (o.update id values) scope s.storage).1 = .error source ∧
        fault.Annotates source (o.update id values).sql) ∧
    (∀ fault, (exec (o.count storage options u scope) s).1 = .error fault →
      (Plan.compileCount o options u = .error fault ∧
        fault.sql? = some (Plan.bareText o.source)) ∨
      (∃ p source, Plan.compileCount o options u = .ok p ∧
        (storage.select p scope s.storage).1 = .error source ∧ fault.Annotates source p.sql) ∨
      fault.sql? = none ∧ ∃ p rows, Plan.compileCount o options u = .ok p ∧
        (storage.select p scope s.storage).1 = .ok rows ∧ countOf? rows = none) ∧
    ((∃ fault, (exec (o.count storage options u scope) s).1 = .error fault ∧ fault.sql? = none) ↔
      ∃ p rows, Plan.compileCount o options u = .ok p ∧
        (storage.select p scope s.storage).1 = .ok rows ∧ countOf? rows = none) ∧
    ∀ (policy : RetryPolicy) (label : String),
      let w := o.update id values
      let plain := exec (policy.run label (Program.update storage w scope)) s
      let given := exec (policy.run label (o.updateRow storage id values scope)) s
      given.1 = plain.1.mapError (Fault.withSql w.sql) ∧ given.2.storage = plain.2.storage ∧
        given.2.bus = plain.2.bus := by
  refine ⟨fun _ => text_of_find storage s, ?_, fun _ => text_of_count storage s,
    count_textless_iff storage s o, fun policy label => o.run_updateRow ..⟩
  intro fault hfault
  obtain ⟨source, hsource, rfl⟩ := (updateRow_eq_error_iff storage id values s fault).mp hfault
  exact ⟨source, hsource, source.annotates_withSql _⟩

/-! ### Parts and what the storage replies -/

/-- A storage in a deadlock, which is known by the text of another statement. -/
def deadlocked : Session (List Reply) Unit :=
  { storage := [.fault (.withQuery (.transient "Deadlock found") "COMMIT")], bus := () }

theorem fault_carries_query_deadlock :
    let fault : Fault := .withQuery (.transient "Deadlock found") "COMMIT"
    (exec (parts.find Reply.storage {} {} none) deadlocked).1 = .error fault ∧
      ∃ p source, Plan.compile parts {} {} = .ok p ∧
        (Reply.storage.select p none deadlocked.storage).1 = .error source ∧
        fault.Annotates source p.sql := by
  intro fault
  have hfault : (exec (parts.find Reply.storage {} {} none) deadlocked).1 = .error fault := rfl
  refine ⟨hfault, ?_⟩
  have hfind := (fault_carries_query parts Reply.storage {} {} none .null [] deadlocked).1
  rcases hfind fault hfault with ⟨hcompile, -⟩ | hstorage
  · have hok : ∃ p, Plan.compile parts {} {} = .ok p := ⟨_, rfl⟩
    obtain ⟨p, hp⟩ := hok
    rw [hp] at hcompile
    cases hcompile
  · exact hstorage

/-- A storage that answers without a row. -/
def rowless : Session (List Reply) Unit :=
  { storage := [.data (some []) none], bus := () }

/-- A count that gets no row fails, and does not tell its query. -/
theorem count_without_query :
    ¬ ∀ fault, (exec (parts.count Reply.storage {} {} none) rowless).1 = .error fault →
      ∃ text, fault.sql? = some text := by
  intro h
  obtain ⟨text, htext⟩ := h (.failed "count query returned no count") rfl
  cases htext

end Object

end Fieldwork
