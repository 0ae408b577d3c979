import Fieldwork.Retry.Policy
import Fieldwork.Session

/-!
# Retrying

A transient fault is met with another attempt as long as there are attempts left; every other
outcome, and the last transient fault, stands.
-/

namespace Fieldwork.RetryPolicy

variable {σ β α : Type}

/-- Runs the operation as attempt number `attempt`, with `spare` attempts after it. -/
def attemptFrom (p : RetryPolicy) (label : String) (operation : Program σ β α) (attempt : Nat) :
    Nat → Program σ β α
  | 0 => do
    match ← operation.outcome with
    | .ok a => return a
    | .error fault =>
      if fault.isTransient then
        Program.report (.retriesExhausted label attempt fault.message)
      throw fault
  | spare + 1 => do
    match ← operation.outcome with
    | .ok a => return a
    | .error fault =>
      if fault.isTransient then
        Program.report
          (.retrying label fault.message attempt p.maxAttempts.toNat (p.delayMs attempt).toNat)
        attemptFrom p label operation (attempt + 1) spare
      else throw fault

/-- There is always a first attempt. -/
def run (p : RetryPolicy) (label : String) (operation : Program σ β α) : Program σ β α :=
  p.attemptFrom label operation 1 (p.maxAttempts.toNat - 1)

end Fieldwork.RetryPolicy
