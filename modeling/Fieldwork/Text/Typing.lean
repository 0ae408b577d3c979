import Fieldwork.Text.Cluster

/-!
# Typed lines

A line as it was typed may hold backspaces. Each takes back the cluster before it, as far as its
size in bytes was kept: a size is one byte wide.
-/

namespace Fieldwork.Text

/-- A line so far: its characters, the last one first, and the sizes of its clusters likewise. -/
structure TypedLine where
  before : List Char := []
  sizes : List UInt8 := []

/-- Leaves out characters until that many bytes are gone. -/
def dropBytes : Nat → List Char → List Char
  | _, [] => []
  | 0, cs => cs
  | n + 1, c :: cs => dropBytes (n + 1 - c.utf8Size) cs

namespace TypedLine

def enter (line : TypedLine) (cluster : List Char) : TypedLine :=
  if cluster = ['\x08'] then
    match line.sizes with
    | [] => line
    | n :: sizes => { before := dropBytes n.toNat line.before, sizes }
  else
    { before := cluster.reverse ++ line.before
      sizes := UInt8.ofNat (cluster.foldl (fun n c => n + c.utf8Size) 0) :: line.sizes }

end TypedLine

/-- What is left of a line after its backspaces. -/
def typed (s : String) : String :=
  let line := (clusters s.toList).foldl TypedLine.enter {}
  String.ofList line.before.reverse

end Fieldwork.Text
