import Fieldwork.Json.Value

/-!
# Events

What is reported to operators while a query or a chain runs, with the level, the message and the
fields of each report.
-/

namespace Fieldwork

/-- Nothing below a warning is reported. -/
inductive Level where
  | warn
  | error
  deriving DecidableEq, Repr

def Level.word : Level → String
  | .warn => "WARN"
  | .error => "ERROR"

/-- What is reported beside the outcome of a program, with all that the report shows. -/
inductive Event where
  | conditionFailed (fault object condition username languageCode : String)
  | retrying (operation fault : String) (retry maxAttempts delayMs : Nat)
  | retriesExhausted (operation : String) (attempts : Nat) (fault : String)
  | stepFailed (step fault : String)
  | passedThrough (fault : String)
  | payloadSkipped (column : String)
  deriving DecidableEq, Repr

namespace Event

/-- Faults that end something are errors; what is gone on from is a warning. -/
def level : Event → Level
  | .conditionFailed .. | .retriesExhausted .. | .stepFailed .. => .error
  | .retrying .. | .passedThrough _ | .payloadSkipped _ => .warn

/-- The fixed text of an event. -/
def message : Event → String
  | .conditionFailed .. => "error reducing conditions"
  | .retrying .. => "transient failure, will retry"
  | .retriesExhausted .. => "exhausted all retries"
  | .stepFailed .. => "process step failed"
  | .passedThrough _ => "passing context through"
  | .payloadSkipped _ => "skipping unreadable translations payload"

/-- The values of an event, under the names they are logged with. -/
def fields : Event → List (String × Json)
  | .conditionFailed fault object condition username languageCode =>
    [("error", .string fault), ("object", .string object), ("condition", .string condition),
     ("username", .string username), ("language_code", .string languageCode)]
  | .retrying operation fault retry maxAttempts delayMs =>
    [("operation", .string operation), ("error", .string fault), ("retry", .ofNat retry),
     ("max_attempts", .ofNat maxAttempts), ("delay_ms", .ofNat delayMs)]
  | .retriesExhausted operation attempts fault =>
    [("operation", .string operation), ("attempts", .ofNat attempts), ("error", .string fault)]
  | .stepFailed step fault => [("step", .string step), ("error", .string fault)]
  | .passedThrough fault => [("error", .string fault)]
  | .payloadSkipped column => [("column", .string column)]

end Event

end Fieldwork
