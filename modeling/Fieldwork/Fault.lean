/-!
# Faults

Why a query or a step fails. A fault can carry the text of the query it arose from: a storage fault
holds it inside, every other fault is wrapped.

* `sql?_withSql`: a fault that was given a query text has one.
* `kind_withSql`, `isTransient_withSql`: giving a query text changes neither the kind of a fault nor
  whether it is transient.
-/

namespace Fieldwork

/-- Why a condition or a sort does not compile. -/
inductive ConditionFault where
  | notRelation (field : String)
  | noLanguage (field : String)
  | other (message : String)
  deriving DecidableEq, Repr

def ConditionFault.message : ConditionFault → String
  | .notRelation field =>
    "field \x60" ++ field ++ "\x60 is not a relation, cannot apply have_no_relation"
  | .noLanguage field =>
    "multilingual field \x60" ++ field ++ "\x60 needs the user's language code"
  | .other message => message

inductive Fault where
  | unknownField (object field : String)
  | condition (reason : ConditionFault)
  | storage (message : String) (sql : Option String) (transient : Bool)
  | notification (topic message : String)
  | chainState (message : String)
  | config (message : String)
  | withQuery (source : Fault) (sql : String)
  deriving DecidableEq, Repr

/-- The kinds of fault that are told apart. -/
inductive FaultKind where
  | unknownField
  | condition
  | storage
  | notification
  | chainState
  | config
  deriving DecidableEq, Repr

namespace Fault

def failed (message : String) : Fault :=
  .storage message none false

/-- A failure that may not happen again when the statement is repeated. -/
def transient (message : String) : Fault :=
  .storage message none true

def message : Fault → String
  | .unknownField object field =>
    "unknown field \x60" ++ field ++ "\x60 on object \x60" ++ object ++ "\x60"
  | .condition reason => "condition compile error: " ++ reason.message
  | .storage message _ _ => "storage error: " ++ message
  | .notification topic message => "notification error on \x60" ++ topic ++ "\x60: " ++ message
  | .chainState message => "chain state error: " ++ message
  | .config message => "configuration error: " ++ message
  | .withQuery source sql => source.message ++ " [sql: " ++ sql ++ "]"

/-- The fault under all query texts wrapped around it. -/
def cause : Fault → Fault
  | .withQuery source _ => source.cause
  | fault => fault

def kind : Fault → FaultKind
  | .unknownField .. => .unknownField
  | .condition _ => .condition
  | .storage .. => .storage
  | .notification .. => .notification
  | .chainState _ => .chainState
  | .config _ => .config
  | .withQuery source _ => source.kind

def sql? : Fault → Option String
  | .storage _ sql _ => sql
  | .withQuery _ sql => some sql
  | _ => none

def isWrapped : Fault → Bool
  | .withQuery .. => true
  | _ => false

def isTransient : Fault → Bool
  | .storage _ _ transient => transient
  | .withQuery source _ => source.isTransient
  | _ => false

/-- A text that is already there is kept. -/
def withSql (text : String) : Fault → Fault
  | .storage message none transient => .storage message (some text) transient
  | .storage message (some sql) transient => .storage message (some sql) transient
  | .withQuery source sql => .withQuery source sql
  | fault => .withQuery fault text

/-- The messages from the fault down to what caused it, joined by colons. -/
def chain : Fault → String
  | .withQuery source sql => (Fault.withQuery source sql).message ++ ": " ++ source.chain
  | fault => fault.message

theorem sql?_withSql (text : String) (f : Fault) :
    (f.withSql text).sql? = some (f.sql?.getD text) := by
  cases f with
  | storage message sql transient => cases sql <;> rfl
  | _ => rfl

theorem kind_withSql (text : String) (f : Fault) : (f.withSql text).kind = f.kind := by
  cases f with
  | storage message sql transient => cases sql <;> rfl
  | _ => rfl

theorem isTransient_withSql (text : String) (f : Fault) :
    (f.withSql text).isTransient = f.isTransient := by
  cases f with
  | storage message sql transient => cases sql <;> rfl
  | _ => rfl

end Fault

end Fieldwork
