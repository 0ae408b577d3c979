import Fieldwork.Text.CaseTable
import Fieldwork.Text.Range

/-!
# Lower case

A text is put into lower case character by character, with two rules beside the table: a capital I
with a dot becomes a small i and a combining dot, and a capital sigma at the end of a word becomes
the final form.
-/

namespace Fieldwork.Text

def isCased (c : Char) : Bool :=
  inRanges casedRanges c

def isCaseIgnorable (c : Char) : Bool :=
  inRanges caseIgnorableRanges c

/-- The simple mapping: a character without a lower-case form stands for itself. -/
def lowerChar (c : Char) : Char :=
  if c.toNat < 0x80 then c.toLower
  else
    let run? := lowerRuns.find? fun r =>
      r.first ≤ c.toNat && c.toNat ≤ r.last && (c.toNat - r.first) % r.step == 0
    match run? with
    | some r => Char.ofNat (c.toNat + r.offset).toNat
    | none => c

/-- The first character that is not passed over has a case. -/
def meetsCased (cs : List Char) : Bool :=
  match cs.dropWhile isCaseIgnorable with
  | [] => false
  | c :: _ => isCased c

/-- `before` holds the characters to the left, nearest first. -/
def lowerFrom (before : List Char) : List Char → List Char
  | [] => []
  | c :: rest =>
    let lowered :=
      if c = 'Σ' then
        [if meetsCased before && !meetsCased rest then 'ς' else 'σ']
      else if c = 'İ' then ['i', '\u0307']
      else [lowerChar c]
    lowered ++ lowerFrom (c :: before) rest

def lowercase (s : String) : String :=
  String.ofList (lowerFrom [] s.toList)

end Fieldwork.Text
