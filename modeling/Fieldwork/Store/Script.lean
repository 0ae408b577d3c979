import Fieldwork.Session

/-!
# Scripted storage

A storage that gives prepared replies in turn, whatever it is asked.
-/

namespace Fieldwork

inductive Reply where
  | fault (f : Fault)
  /-- The rows for a select and the row for an update. -/
  | data (rows : Option (List Row)) (row : Option Row)

namespace Reply

/-- The next reply as an answer of the kind that `read` finds in it. -/
def next {α : Type} (read : Option (List Row) → Option Row → Option α) :
    List Reply → Except Fault α × List Reply
  | [] => (.error (.failed "script exhausted"), [])
  | .fault f :: rest => (.error f, rest)
  | .data rows row :: rest =>
    match read rows row with
    | some a => (.ok a, rest)
    | none => (.error (.failed "script mismatch"), rest)

def storage : Storage (List Reply) :=
  { select := fun _ _ => next fun rows _ => rows
    update := fun _ _ => next fun _ row => row }

end Reply

end Fieldwork
