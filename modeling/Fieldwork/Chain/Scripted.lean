import Fieldwork.Chain.Basic

/-!
# Scripted operations

Operations that do one prepared thing with the context and leave a note that they were performed.
-/

namespace Fieldwork

inductive Action where
  /-- Adds the label to the row, with the value true. -/
  | tag
  | dropData
  | replace (data : Row)
  | dropObject
  | swapObject (o : Object)
  | fail (f : Fault)

namespace Action

/-- The successor that the action makes of a context. -/
def apply (action : Action) (label : String) (current : Active) : Except Fault Context :=
  let next := current.context.successor label
  match action with
  | .tag => .ok (next.withData (Record.insert label (.bool true) current.data))
  | .dropData => .ok next
  | .replace data => .ok (next.withData data)
  | .dropObject => .ok { next.withData current.data with object := none }
  | .swapObject o => .ok { next.withData current.data with object := some o }
  | .fail f => .error f

def operation {σ β : Type} (action : Action) (label : String) : Operation σ β :=
  { label
    perform := fun current _ => do
      Program.note (.performed label)
      Program.ofExcept (action.apply label current) }

end Action

end Fieldwork
