/-!
# Field ids

A field is named by a UUID: 32 hexadecimal digits of either case, bare or in groups of 8, 4, 4, 4
and 12 joined by hyphens. The grouped form may stand in braces or behind `urn:uuid:`, in letters of
either case.
-/

namespace Fieldwork.Text

def isHexDigit (c : Char) : Bool :=
  c.isDigit || ('a' ≤ c && c ≤ 'f') || ('A' ≤ c && c ≤ 'F')

/-- Thirty-two digits without groups. -/
def isBareUuid (cs : List Char) : Bool :=
  cs.length == 32 && cs.all isHexDigit

/-- Digits in five groups with hyphens between them. -/
def isGroupedUuid (cs : List Char) : Bool :=
  let groups := cs.splitOn '-'
  groups.map List.length == [8, 4, 4, 4, 12] && groups.all (·.all isHexDigit)

/-- What stands between braces, of a text that does. -/
def unbraced? (cs : List Char) : Option (List Char) :=
  match cs with
  | '\x7b' :: rest => if rest.getLast? = some '\x7d' then some rest.dropLast else none
  | _ => none

/-- Any of the forms of an identifier, in braces or behind its prefix too. -/
def isUuid (s : String) : Bool :=
  let cs := s.toList
  isBareUuid cs || isGroupedUuid cs || (unbraced? cs).any isGroupedUuid
    || ((cs.take 9).map Char.toLower == "urn:uuid:".toList && isGroupedUuid (cs.drop 9))

end Fieldwork.Text
