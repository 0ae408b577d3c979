import Fieldwork.Text.Range

/-!
# Blanks

The characters with the Unicode property White_Space, and texts cut at their ends.
-/

namespace Fieldwork.Text

def blankRanges : List (Nat × Nat) :=
  [(0x09, 0x0D), (0x20, 0x20), (0x85, 0x85), (0xA0, 0xA0), (0x1680, 0x1680), (0x2000, 0x200A),
   (0x2028, 0x2029), (0x202F, 0x202F), (0x205F, 0x205F), (0x3000, 0x3000)]

def isBlank (c : Char) : Bool :=
  inRanges blankRanges c

/-- Cuts the characters at both ends that satisfy the predicate. -/
def trimWhere (p : Char → Bool) (cs : List Char) : List Char :=
  ((cs.dropWhile p).reverse.dropWhile p).reverse

def trim (s : String) : String :=
  String.ofList (trimWhere isBlank s.toList)

end Fieldwork.Text
