import Fieldwork.Decimal.Layout
import Fieldwork.Json.Value

/-!
# SQL tokens

Statements are written as lists of tokens. Only a name and a text hold characters from outside, and
each is written so that its own delimiter cannot end it: a backtick in a name is doubled, and in a
text every character that could end or change it is escaped.
-/

namespace Fieldwork.Sql

/-- The smallest parts of a statement. -/
inductive Token where
  /-- A keyword, function or variable. -/
  | word (s : String)
  /-- A quoted identifier. -/
  | name (s : String)
  /-- A string literal. -/
  | text (s : String)
  | number (n : Number)
  /-- Punctuation or an operator in signs. -/
  | mark (s : String)
  | blank
  deriving DecidableEq

namespace Token

/-- A name in backticks, with every backtick in it doubled. -/
def nameChars (s : String) : List Char :=
  '\x60' :: s.toList.flatMap (fun c => if c = '\x60' then ['\x60', '\x60'] else [c]) ++ ['\x60']

/-- A character of a text: what would end it or break the line has a backslash in front. -/
def escaped (c : Char) : List Char :=
  match c with
  | '\\' => ['\\', '\\']
  | '"' => ['\\', '"']
  | '\'' => ['\\', '\'']
  | '\x00' => ['\\', '0']
  | '\x08' => ['\\', 'b']
  | '\t' => ['\\', 't']
  | '\x1a' => ['\\', 'z']
  | '\n' => ['\\', 'n']
  | '\r' => ['\\', 'r']
  | c => [c]

/-- A text in single quotes. -/
def textChars (s : String) : List Char :=
  '\'' :: s.toList.flatMap escaped ++ ['\'']

/-- A number without an exponent. -/
def numberChars : Number → List Char
  | .integer n => Decimal.integerText n
  | .real x => Decimal.plainLayout.text x

def chars : Token → List Char
  | .word s | .mark s => s.toList
  | .name s => nameChars s
  | .text s => textChars s
  | .number n => numberChars n
  | .blank => [' ']

end Token

/-- The text of tokens, one behind the other. -/
def textOf (tokens : List Token) : String :=
  String.ofList (tokens.flatMap Token.chars)

/-- The parts with a comma and a blank between them. -/
def commaSeparated : List (List Token) → List Token
  | [] => []
  | [part] => part
  | part :: parts => part ++ .mark "," :: .blank :: commaSeparated parts

def parenthesised (tokens : List Token) : List Token :=
  .mark "(" :: tokens ++ [.mark ")"]

/-- The parts of a qualified name, joined by points. -/
def pathTokens : List String → List Token
  | [] => []
  | [part] => [.name part]
  | part :: parts => .name part :: .mark "." :: pathTokens parts

end Fieldwork.Sql
