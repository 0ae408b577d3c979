import Fieldwork.Chain.Context
import Fieldwork.Retry.Run

/-!
# Chains of operations

A chain runs its operations one after another on the context of the one before. An operation is
performed only on an object and a row; where either is missing, the context is passed through with
a warning. The first failure ends the chain.
-/

namespace Fieldwork

def defaultTopic : String := "appbuilder.model-update"

/-- The services that the steps of one request may use. -/
structure Request (σ β : Type) where
  storage : Storage σ
  bus : Bus β
  user : User := {}
  policy : RetryPolicy := {}
  topic : String := defaultTopic

/-- Every failure of a round trip is a failed notification. -/
def Fault.asNotification (topic : String) : Fault → Fault
  | .notification topic message => .notification topic message
  | fault => .notification topic fault.message

/-- A round trip over the bus. -/
def Request.send {σ β : Type} (r : Request σ β) (topic : String) (payload : Json) :
    Program σ β Json :=
  (Program.request r.bus topic payload).adapt (Fault.asNotification topic)

/-- What a step may touch besides its context. -/
structure Surroundings (σ β : Type) where
  request : Request σ β
  scope : Option Scope

/-- A context with an object and a row. -/
structure Active where
  context : Context
  object : Object
  data : Row

structure Operation (σ β : Type) where
  label : String
  perform : Active → Surroundings σ β → Program σ β Context

abbrev Chain (σ β : Type) := List (Operation σ β)

namespace Operation

variable {σ β : Type}

/-- Why a context cannot be acted on. -/
def missing (label : String) (c : Context) : Fault :=
  let what := if c.object.isNone then "no object" else "no data"
  .chainState (what ++ " provided to " ++ label)

def step (operation : Operation σ β) (env : Surroundings σ β) (c : Context) :
    Program σ β Context :=
  match c.object, c.data with
  | some object, some data => do
    match ← (operation.perform ⟨c, object, data⟩ env).outcome with
    | .ok next => return next
    | .error fault =>
      Program.report (.stepFailed operation.label fault.message)
      throw fault
  | _, _ => do
    Program.report (.passedThrough (missing operation.label c).message)
    return c.successor operation.label

end Operation

namespace Chain

variable {σ β : Type}

def run (env : Surroundings σ β) : Chain σ β → Context → Program σ β Context
  | [], c => return c
  | operation :: rest, c => do
    let next ← operation.step env c
    run env rest next

end Chain

end Fieldwork
