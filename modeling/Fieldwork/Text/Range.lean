/-!
# Ranges of characters

Classes of characters are tables of inclusive ranges of code points.
-/

namespace Fieldwork.Text

def inRanges (ranges : List (Nat × Nat)) (c : Char) : Bool :=
  ranges.any fun (first, last) => first ≤ c.toNat && c.toNat ≤ last

end Fieldwork.Text
