import Mathlib.Data.Nat.Find
import Fieldwork.Proofs.Session
import Fieldwork.Retry.Run

/-!
# How often an operation is tried

An operation is tried until its outcome is no transient fault, and at most as often as the policy
allows, once at least. Its attempts are numbered from one.

* `run_eq_attemptInWords`: the number of an attempt fits a word, whatever the policy is.
* `exec_attemptFrom_transient`, `exec_attemptFrom_settled`, `exec_attemptFrom_exhausted`: one
  attempt.
* `exec_run_of_plays`: a run, for an operation with effects of its own.
* `run_exact`: **a run makes the calls up to the first outcome that is no transient fault, or as
  many as the policy allows, and has the outcome of the last of them.**
-/

namespace Fieldwork

open Program

variable {σ β α : Type}

/-- A fault is transient when the storage fault under all its query texts is. -/
theorem Fault.isTransient_iff (f : Fault) :
    f.isTransient = true ↔ ∃ message sql, f.cause = .storage message sql true := by
  induction f with
  | storage message sql transient => simp [isTransient, cause]
  | withQuery source sql ih => exact ih
  | _ => simp [isTransient, cause]

/-- The outcome is a transient fault, under any number of query texts. -/
def TransientOutcome (out : Except Fault α) : Prop :=
  ∃ fault message sql, out = .error fault ∧ fault.cause = .storage message sql true

theorem transientOutcome_error (fault : Fault) :
    TransientOutcome (.error fault : Except Fault α) ↔ fault.isTransient = true := by
  rw [Fault.isTransient_iff]
  constructor
  · rintro ⟨_, message, sql, heq, hcause⟩
    cases heq
    exact ⟨message, sql, hcause⟩
  · rintro ⟨message, sql, hcause⟩
    exact ⟨fault, message, sql, rfl, hcause⟩

theorem not_transientOutcome_ok (a : α) : ¬ TransientOutcome (.ok a) := by
  rintro ⟨_, _, _, heq, -⟩
  cases heq

instance (out : Except Fault α) : Decidable (TransientOutcome out) :=
  match out with
  | .ok a => isFalse (not_transientOutcome_ok a)
  | .error fault => decidable_of_iff _ (transientOutcome_error fault).symm

/-! ## Attempts numbered in words -/

namespace RetryPolicy

/-- The attempts from that number on; the number is a word, and wraps where a word does. -/
def attemptInWords (p : RetryPolicy) (label : String) (operation : Program σ β α)
    (attempt : UInt32) : Program σ β α := do
  match ← operation.outcome with
  | .ok a => return a
  | .error fault =>
    if h : fault.isTransient ∧ attempt < p.maxAttempts then
      report (.retrying label fault.message attempt.toNat p.maxAttempts.toNat
        (p.delayMs attempt.toNat).toNat)
      attemptInWords p label operation (attempt + 1)
    else
      if fault.isTransient then
        report (.retriesExhausted label attempt.toNat fault.message)
      throw fault
termination_by p.maxAttempts.toNat - attempt.toNat
decreasing_by
  have hlt : attempt.toNat < p.maxAttempts.toNat := UInt32.lt_iff_toNat_lt.mp h.2
  have hmost := p.maxAttempts.toNat_lt
  rw [UInt32.toNat_add, UInt32.toNat_one]
  omega

theorem attemptInWords_eq (p : RetryPolicy) (label : String) (operation : Program σ β α)
    (spare : ℕ) : ∀ attempt : UInt32, p.maxAttempts.toNat - attempt.toNat = spare →
      p.attemptInWords label operation attempt =
        p.attemptFrom label operation attempt.toNat spare := by
  induction spare with
  | zero =>
    intro attempt hspare
    have hlast : ¬ attempt < p.maxAttempts := by
      rw [UInt32.lt_iff_toNat_lt]
      omega
    rw [attemptInWords, attemptFrom]
    refine bind_congr fun out => ?_
    cases out with
    | ok a => rfl
    | error fault => exact dif_neg fun h => hlast h.2
  | succ spare ih =>
    intro attempt hspare
    have hlt : attempt.toNat < p.maxAttempts.toNat := by omega
    have hmost := p.maxAttempts.toNat_lt
    -- a number below the most can be raised by one in a word
    have hnext : (attempt + 1).toNat = attempt.toNat + 1 := by
      rw [UInt32.toNat_add, UInt32.toNat_one]
      omega
    rw [attemptInWords, attemptFrom]
    refine bind_congr fun out => ?_
    cases out with
    | ok a => rfl
    | error fault =>
      by_cases ht : fault.isTransient = true
      · simp only [ht, UInt32.lt_iff_toNat_lt.mpr hlt, and_self, dite_true, if_true]
        rw [ih (attempt + 1) (by omega), hnext]
      · simp [ht]

/-- **The number of an attempt fits a word**: counting in words changes nothing. -/
theorem run_eq_attemptInWords (p : RetryPolicy) (label : String) (operation : Program σ β α) :
    p.run label operation = p.attemptInWords label operation 1 :=
  (p.attemptInWords_eq label operation _ 1 rfl).symm

/-! ## Operations and their outcomes -/

end RetryPolicy

/-- The calls of an operation are numbered from one. Each has the outcome of its number, leads the
services from their state after the calls before it to that after it, and adds its entries. -/
def Program.Plays (operation : Program σ β α) (outcomes : ℕ → Except Fault α) (after : ℕ → σ × β)
    (entries : ℕ → List Entry) : Prop :=
  ∀ i log, exec operation ⟨(after i).1, (after i).2, log⟩ =
    (outcomes (i + 1), ⟨(after (i + 1)).1, (after (i + 1)).2, log ++ entries (i + 1)⟩)

/-- An operation whose calls have the given outcomes, one after another; the storage counts them. -/
def Program.inTurn (outcomes : ℕ → Except Fault α) : Program ℕ β α := do
  modify fun s => { s with storage := s.storage + 1 }
  ofExcept (outcomes (← get).storage)

theorem plays_inTurn (outcomes : ℕ → Except Fault α) (bus : β) :
    (Program.inTurn outcomes).Plays outcomes (fun i => (i, bus)) fun _ => [] := by
  intro i log
  rw [List.append_nil]
  rfl

/-- The message of a fault; a value has none. -/
def complaintOf : Except Fault α → String
  | .ok _ => ""
  | .error fault => fault.message

namespace RetryPolicy

/-- The warning that another attempt follows the one of that number. -/
def warning (p : RetryPolicy) (label : String) (attempt : ℕ) (out : Except Fault α) : Entry :=
  .reported (.retrying label (complaintOf out) attempt p.maxAttempts.toNat
    (p.delayMs attempt).toNat)

/-- The error that no attempt follows the one of that number. -/
def exhaustion (label : String) (attempts : ℕ) (out : Except Fault α) : Entry :=
  .reported (.retriesExhausted label attempts (complaintOf out))

variable {p : RetryPolicy} {label : String} {operation : Program σ β α}
  {outcomes : ℕ → Except Fault α} {after : ℕ → σ × β} {entries : ℕ → List Entry}

theorem exec_attemptFrom_transient (h : operation.Plays outcomes after entries) {i : ℕ}
    (ht : TransientOutcome (outcomes (i + 1))) (spare : ℕ) (log : List Entry) :
    exec (p.attemptFrom label operation (i + 1) (spare + 1)) ⟨(after i).1, (after i).2, log⟩ =
      exec (p.attemptFrom label operation (i + 2) spare)
        ⟨(after (i + 1)).1, (after (i + 1)).2,
          log ++ (entries (i + 1) ++ [p.warning label (i + 1) (outcomes (i + 1))])⟩ := by
  rw [attemptFrom, exec_bind, exec_outcome, h]
  cases hout : outcomes (i + 1) with
  | ok a => exact absurd (hout ▸ ht) (not_transientOutcome_ok a)
  | error fault =>
    rw [hout, transientOutcome_error] at ht
    simp only [if_pos ht, exec_bind, exec_report, List.append_assoc]
    rfl

theorem exec_attemptFrom_settled (h : operation.Plays outcomes after entries) {i : ℕ}
    (hs : ¬ TransientOutcome (outcomes (i + 1))) (spare : ℕ) (log : List Entry) :
    exec (p.attemptFrom label operation (i + 1) spare) ⟨(after i).1, (after i).2, log⟩ =
      (outcomes (i + 1), ⟨(after (i + 1)).1, (after (i + 1)).2, log ++ entries (i + 1)⟩) := by
  cases hout : outcomes (i + 1) with
  | ok a => cases spare <;> rw [attemptFrom, exec_bind, exec_outcome, h, hout] <;> rfl
  | error fault =>
    rw [hout, transientOutcome_error] at hs
    cases spare <;> rw [attemptFrom, exec_bind, exec_outcome, h, hout] <;> simp only [if_neg hs] <;>
      rfl

theorem exec_attemptFrom_exhausted (h : operation.Plays outcomes after entries) {i : ℕ}
    (ht : TransientOutcome (outcomes (i + 1))) (log : List Entry) :
    exec (p.attemptFrom label operation (i + 1) 0) ⟨(after i).1, (after i).2, log⟩ =
      (outcomes (i + 1), ⟨(after (i + 1)).1, (after (i + 1)).2,
        log ++ entries (i + 1) ++ [exhaustion label (i + 1) (outcomes (i + 1))]⟩) := by
  rw [attemptFrom, exec_bind, exec_outcome, h]
  cases hout : outcomes (i + 1) with
  | ok a => exact absurd (hout ▸ ht) (not_transientOutcome_ok a)
  | error fault =>
    rw [hout, transientOutcome_error] at ht
    simp only [if_pos ht, exec_bind, exec_report]
    rfl

/-! ## Runs -/

/-- What is in the log of so many calls that are all followed by another one. -/
def retriedEntries (p : RetryPolicy) (label : String) (outcomes : ℕ → Except Fault α)
    (entries : ℕ → List Entry) (calls : List ℕ) : List Entry :=
  calls.flatMap fun i => entries i ++ [p.warning label i (outcomes i)]

/-- Attempts that fail for a while are followed by the ones behind them. -/
theorem exec_attemptFrom_retried (p : RetryPolicy) (label : String)
    (h : operation.Plays outcomes after entries) (spare m : ℕ) :
    ∀ i log, (∀ j, i < j → j ≤ i + m → TransientOutcome (outcomes j)) →
      exec (p.attemptFrom label operation (i + 1) (m + spare)) ⟨(after i).1, (after i).2, log⟩ =
        exec (p.attemptFrom label operation (i + m + 1) spare)
          ⟨(after (i + m)).1, (after (i + m)).2,
            log ++ p.retriedEntries label outcomes entries (List.range' (i + 1) m)⟩ := by
  induction m with
  | zero =>
    intro i log _
    simp [retriedEntries]
  | succ m ih =>
    intro i log ht
    have hspare : m + 1 + spare = m + spare + 1 := by omega
    have hlast : i + (m + 1) = i + 1 + m := by omega
    rw [hspare, exec_attemptFrom_transient h (ht (i + 1) (by omega) (by omega)),
      ih (i + 1) _ (fun j hj hjm => ht j (by omega) (by omega)), hlast, List.range'_succ,
      List.append_assoc]
    rfl

/-- With so many attempts at most, the call of that number is the last one. -/
structure LastCall (outcomes : ℕ → Except Fault α) (most n : ℕ) : Prop where
  pos : 0 < n
  le : n ≤ most
  retried : ∀ i, 0 < i → i < n → TransientOutcome (outcomes i)
  stops : n = most ∨ ¬ TransientOutcome (outcomes n)

/-- The number of attempts that a policy allows; the first one is always made. -/
def most (p : RetryPolicy) : ℕ :=
  max 1 p.maxAttempts.toNat

theorem most_pos (p : RetryPolicy) : 0 < p.most :=
  Nat.lt_of_lt_of_le Nat.zero_lt_one (Nat.le_max_left _ _)

/-- **A run is its calls up to the last one**, a warning behind each of the others, and an error
where the last one is followed by none though its fault is transient. -/
theorem exec_run_of_plays (h : operation.Plays outcomes after entries) {n : ℕ}
    (hlast : LastCall outcomes p.most n) (log : List Entry) :
    exec (p.run label operation) ⟨(after 0).1, (after 0).2, log⟩ =
      (outcomes n, ⟨(after n).1, (after n).2,
        log ++ p.retriedEntries label outcomes entries (List.range' 1 (n - 1)) ++ entries n ++
          if TransientOutcome (outcomes n) then [exhaustion label n (outcomes n)] else []⟩) := by
  obtain ⟨hpos, hle, hretried, hstops⟩ := hlast
  obtain ⟨m, rfl⟩ : ∃ m, n = m + 1 := ⟨n - 1, by omega⟩
  have hspare : p.maxAttempts.toNat - 1 = m + (p.maxAttempts.toNat - 1 - m) := by
    unfold most at hle
    omega
  have hcalls := exec_attemptFrom_retried p label h (p.maxAttempts.toNat - 1 - m) m 0 log
    fun j hj hjm => hretried j hj (by omega)
  simp only [Nat.zero_add] at hcalls
  rw [run, hspare, hcalls, Nat.add_sub_cancel]
  by_cases ht : TransientOutcome (outcomes (m + 1))
  -- the fault is transient, so no attempt is left
  · have hnone : p.maxAttempts.toNat - 1 - m = 0 := by
      have hmost := hstops.resolve_right (not_not_intro ht)
      unfold most at hmost
      omega
    rw [hnone, exec_attemptFrom_exhausted h ht, if_pos ht]
  · rw [exec_attemptFrom_settled h ht, if_neg ht, List.append_nil]

end RetryPolicy

/-! ## The number of calls -/

/-- The position, from one, of the first outcome that is no transient fault. -/
structure FirstSettled (outcomes : ℕ → Except Fault α) (k : ℕ) : Prop where
  pos : 0 < k
  settled : ¬ TransientOutcome (outcomes k)
  before : ∀ i, 0 < i → i < k → TransientOutcome (outcomes i)

namespace RetryPolicy

variable {outcomes : ℕ → Except Fault α} {most n : ℕ}

theorem LastCall.eq_min (h : LastCall outcomes most n) {k : ℕ} (hk : FirstSettled outcomes k) :
    n = min k most := by
  have hnk : n ≤ k := by
    by_contra hlt
    exact hk.settled (h.retried k hk.pos (by omega))
  rcases h.stops with rfl | hsettled
  · exact (min_eq_right hnk).symm
  · have hkn : k ≤ n := by
      by_contra hlt
      exact hsettled (hk.before n h.pos (by omega))
    rw [Nat.le_antisymm hkn hnk, min_eq_left h.le]

theorem LastCall.eq_most (h : LastCall outcomes most n)
    (hall : ∀ i, 0 < i → TransientOutcome (outcomes i)) : n = most :=
  h.stops.resolve_right (not_not_intro (hall n h.pos))

theorem exists_lastCall (hmost : 0 < most) (outcomes : ℕ → Except Fault α) :
    ∃ n, LastCall outcomes most n := by
  by_cases hex : ∃ k, 0 < k ∧ ¬ TransientOutcome (outcomes k)
  · obtain ⟨hpos, hsettled⟩ := Nat.find_spec hex
    have hbefore : ∀ i, 0 < i → i < Nat.find hex → TransientOutcome (outcomes i) :=
      fun i hi hlt => not_not.mp fun hnot => Nat.find_min hex hlt ⟨hi, hnot⟩
    rcases Nat.le_total (Nat.find hex) most with hle | hle
    · exact ⟨Nat.find hex, hpos, hle, hbefore, Or.inr hsettled⟩
    · exact ⟨most, hmost, le_rfl, fun i hi hlt => hbefore i hi (by omega), Or.inl rfl⟩
  · have hall : ∀ i, 0 < i → TransientOutcome (outcomes i) :=
      fun i hi => not_not.mp fun hnot => hex ⟨i, hi, hnot⟩
    exact ⟨most, hmost, le_rfl, fun i hi _ => hall i hi, Or.inl rfl⟩

/-- **A run is exact.** For every policy and every sequence of outcomes it makes the calls up to the
first outcome that is no transient fault, or as many as the policy allows if there is none among
these. It has the outcome of its last call, warns of every other call with the number and the delay
of the attempt, and reports an error exactly when the last outcome is a transient fault as well. The
number of an attempt fits a word. -/
theorem run_exact (p : RetryPolicy) (label : String) (outcomes : ℕ → Except Fault α) (bus : β)
    (log : List Entry) :
    ∃ n, (∀ k, FirstSettled outcomes k → n = min k (max 1 p.maxAttempts.toNat)) ∧
      ((∀ i, 0 < i → TransientOutcome (outcomes i)) → n = max 1 p.maxAttempts.toNat) ∧
      exec (p.run label (.inTurn outcomes)) ⟨0, bus, log⟩ =
        (outcomes n, ⟨n, bus,
          log ++ (List.range' 1 (n - 1)).map (fun i => p.warning label i (outcomes i)) ++
            if TransientOutcome (outcomes n) then [exhaustion label n (outcomes n)] else []⟩) ∧
      n < UInt32.size ∧
      p.run label (.inTurn (β := β) outcomes) = p.attemptInWords label (.inTurn outcomes) 1 := by
  obtain ⟨n, hlast⟩ := exists_lastCall p.most_pos outcomes
  refine ⟨n, fun k => hlast.eq_min, hlast.eq_most, ?_, ?_, run_eq_attemptInWords ..⟩
  · have hentries : p.retriedEntries label outcomes (fun _ => []) (List.range' 1 (n - 1)) =
        (List.range' 1 (n - 1)).map fun i => p.warning label i (outcomes i) :=
      List.map_eq_flatMap.symm
    rw [exec_run_of_plays (plays_inTurn outcomes bus) hlast log, hentries, List.append_nil]
  · have hword : p.maxAttempts.toNat < UInt32.size := p.maxAttempts.toNat_lt
    exact Nat.lt_of_le_of_lt hlast.le (max_lt (by decide) hword)

end RetryPolicy

end Fieldwork
