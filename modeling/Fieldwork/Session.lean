import Fieldwork.Event
import Fieldwork.Plan.Basic

/-!
# Sessions

A session holds the state of the storage and of the bus and the log of what was asked of them. A
program runs in a session and may fail; what it did before stays done.
-/

namespace Fieldwork

/-- A transaction that the caller has open. It is passed on with every storage call. -/
structure Scope where
  id : Nat
  deriving DecidableEq, Repr

/-- How a storage with states `σ` answers. -/
structure Storage (σ : Type) where
  select : Plan → Option Scope → σ → Except Fault (List Row) × σ
  update : Update → Option Scope → σ → Except Fault Row × σ

/-- How a bus with states `β` answers a request on a topic. -/
structure Bus (β : Type) where
  request : String → Json → β → Except Fault Json × β

inductive Entry where
  | selected (plan : Plan) (scope : Option Scope) (outcome : Except Fault (List Row))
  | updated (update : Update) (scope : Option Scope) (outcome : Except Fault Row)
  | requested (topic : String) (payload : Json) (outcome : Except Fault Json)
  | performed (label : String)
  | reported (event : Event)

structure Session (σ β : Type) where
  storage : σ
  bus : β
  /-- In the order of events, the last one at the end. -/
  log : List Entry := []

abbrev Program (σ β α : Type) := ExceptT Fault (StateM (Session σ β)) α

namespace Program

variable {σ β α : Type}

def note (entry : Entry) : Program σ β Unit :=
  modify fun s => { s with log := s.log ++ [entry] }

def report (event : Event) : Program σ β Unit :=
  note (.reported event)

def reportAll : List Event → Program σ β Unit
  | [] => pure ()
  | event :: events => do
    report event
    reportAll events

/-- Fails where the computation does. -/
def ofExcept (outcome : Except Fault α) : Program σ β α :=
  ExceptT.mk (pure outcome)

/-- The outcome as a value. -/
def outcome (p : Program σ β α) : Program σ β (Except Fault α) :=
  ExceptT.mk (do return .ok (← p.run))

/-- Gives every fault of the program a query text. -/
def withSql (sql : String) (p : Program σ β α) : Program σ β α :=
  p.adapt (Fault.withSql sql)

def select (storage : Storage σ) (plan : Plan) (scope : Option Scope) :
    Program σ β (List Row) := do
  let s ← get
  let (outcome, next) := storage.select plan scope s.storage
  set { s with storage := next, log := s.log ++ [Entry.selected plan scope outcome] }
  ofExcept outcome

def update (storage : Storage σ) (update : Update) (scope : Option Scope) :
    Program σ β Row := do
  let s ← get
  let (outcome, next) := storage.update update scope s.storage
  set { s with storage := next, log := s.log ++ [Entry.updated update scope outcome] }
  ofExcept outcome

def request (bus : Bus β) (topic : String) (payload : Json) : Program σ β Json := do
  let s ← get
  let (outcome, next) := bus.request topic payload s.bus
  set { s with bus := next, log := s.log ++ [Entry.requested topic payload outcome] }
  ofExcept outcome

end Program

end Fieldwork
