import Fieldwork.Session

/-!
# Buses that answer by themselves

A responder answers every request in one way: with the values of its payload, with a failure, or
with prepared replies in turn.
-/

namespace Fieldwork

/-- A bus that answers by itself: with the values it is sent, with a fault, or from a script. -/
inductive Responder where
  | echo
  | failing (message : String)
  | replies (rest : List (Except Fault Json))

namespace Responder

/-- A script that has run out answers with a fault from then on. -/
def request (topic : String) (payload : Json) : Responder → Except Fault Json × Responder
  | .echo => (.ok ((payload.get? "values").getD .null), .echo)
  | .failing message => (.error (.notification topic message), .failing message)
  | .replies [] => (.error (.failed "script exhausted"), .replies [])
  | .replies (reply :: rest) => (reply, .replies rest)

def bus : Bus Responder :=
  { request := request }

end Responder

end Fieldwork
