import Fieldwork.Json.Printer
import Fieldwork.Object.Basic

/-!
# Contexts

What one step of a chain hands to the next: the object, the row, and the trail of what came before.
A context is never changed; a step makes a successor of it.
-/

namespace Fieldwork

/-- What is kept of a context that was left behind. -/
structure Snapshot where
  label : String
  object : Option String
  data : Option Row

/-- What a step works on. -/
structure Context where
  label : String
  object : Option Object
  data : Option Row
  /-- The predecessors, the oldest first. -/
  trail : List Snapshot := []

namespace Context

/-- Of the object only its ID is kept. -/
def snapshot (c : Context) : Snapshot :=
  { label := c.label, object := c.object.map Object.id, data := c.data }

/-- The same object, no row yet, and the context at the end of the trail. -/
def successor (c : Context) (label : String) : Context :=
  { label, object := c.object, data := none, trail := c.trail ++ [c.snapshot] }

def withData (c : Context) (data : Row) : Context :=
  { c with data := some data }

end Context

/-- A snapshot as a line of text. -/
def Snapshot.line (s : Snapshot) : String :=
  s.label ++ " object=" ++ s.object.getD "-" ++ " data="
    ++ ((s.data.map fun r => (Json.object r).text).getD "null")

/-- One line for each context, the newest first. -/
def Context.traceback (c : Context) : List String :=
  (c.snapshot :: c.trail.reverse).map Snapshot.line

end Fieldwork
