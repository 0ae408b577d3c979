import Fieldwork.Decimal.Layout
import Fieldwork.Json.Document

/-!
# Writing JSON

Documents are written without blanks, members in their order. In a string the quotation mark, the
backslash and the control characters below the blank are escaped; every other character stands for
itself.
-/

namespace Fieldwork

namespace Document

def hexDigit (n : Nat) : Char :=
  if n < 10 then Char.ofNat (48 + n) else Char.ofNat (87 + n)

/-- A character inside quotes: some have an escape of their own, other control characters their
number. -/
def escaped (c : Char) : List Char :=
  match c with
  | '"' => ['\\', '"']
  | '\\' => ['\\', '\\']
  | '\x08' => ['\\', 'b']
  | '\x0c' => ['\\', 'f']
  | '\n' => ['\\', 'n']
  | '\r' => ['\\', 'r']
  | '\t' => ['\\', 't']
  | c =>
    if c.toNat < 32 then ['\\', 'u', '0', '0', hexDigit (c.toNat / 16), hexDigit (c.toNat % 16)]
    else [c]

/-- A string in quotes. -/
def quoted (s : String) : List Char :=
  '"' :: s.toList.flatMap escaped ++ ['"']

/-- A real number is written with the fewest digits that tell it from the others. -/
def numberText : Number → List Char
  | .integer n => Decimal.integerText n
  | .real x => Decimal.jsonLayout.text x

mutual

/-- What has no value is written as null. -/
def chars : Document → List Char
  | .null | .unreadable => "null".toList
  | .bool b => if b then "true".toList else "false".toList
  | .number n => numberText n
  | .string s => quoted s
  | .array items => '[' :: itemsChars items ++ [']']
  | .object members => '\x7b' :: membersChars members ++ ['\x7d']

def itemsChars : List Document → List Char
  | [] => []
  | [d] => chars d
  | d :: ds => chars d ++ ',' :: itemsChars ds

/-- The members between commas, in the order they have. -/
def membersChars : List (String × Document) → List Char
  | [] => []
  | [(n, d)] => quoted n ++ ':' :: chars d
  | (n, d) :: ds => quoted n ++ ':' :: chars d ++ ',' :: membersChars ds

end

/-- The text of a document, without blanks. -/
def text (d : Document) : String :=
  String.ofList (chars d)

end Document

def Json.text (v : Json) : String :=
  v.document.text

end Fieldwork
