import Fieldwork.Decimal.Reading
import Fieldwork.Json.Document

/-!
# Reading JSON

Each function takes the text and gives what it read together with the rest. A text that is not
well-formed is refused; a well-formed part that has no value is read as `unreadable`, so that it
spoils only a place where its value is needed.
-/

namespace Fieldwork.Document

def isBlank (c : Char) : Bool :=
  c = ' ' || c = '\t' || c = '\n' || c = '\r'

def skipBlanks (cs : List Char) : List Char :=
  cs.dropWhile isBlank

def digit? (c : Char) : Option Nat :=
  if '0' ≤ c ∧ c ≤ '9' then some (c.toNat - 48) else none

def hexDigit? (c : Char) : Option Nat :=
  if '0' ≤ c ∧ c ≤ '9' then some (c.toNat - 48)
  else if 'a' ≤ c ∧ c ≤ 'f' then some (c.toNat - 87)
  else if 'A' ≤ c ∧ c ≤ 'F' then some (c.toNat - 55)
  else none

def hexUnit? (a b c d : Char) : Option Nat := do
  let a ← hexDigit? a
  let b ← hexDigit? b
  let c ← hexDigit? c
  let d ← hexDigit? d
  return ((a * 16 + b) * 16 + c) * 16 + d

/-! ## Strings -/

/-- A character as such, or a code unit written in hexadecimal. -/
inductive Piece where
  | plain (c : Char)
  | unit (n : Nat)
  deriving DecidableEq, Repr

def unescape? : Char → Option Char
  | '"' => some '"'
  | '\\' => some '\\'
  | '/' => some '/'
  | 'b' => some '\x08'
  | 'f' => some '\x0c'
  | 'n' => some '\n'
  | 'r' => some '\r'
  | 't' => some '\t'
  | _ => none

/-- The pieces of a string whose opening quotation mark is read. -/
def readPieces : List Char → Option (List Piece × List Char)
  | [] => none
  | '"' :: rest => some ([], rest)
  | '\\' :: 'u' :: a :: b :: c :: d :: rest => do
    let n ← hexUnit? a b c d
    let (pieces, rest) ← readPieces rest
    return (.unit n :: pieces, rest)
  | '\\' :: e :: rest => do
    let c ← unescape? e
    let (pieces, rest) ← readPieces rest
    return (.plain c :: pieces, rest)
  | c :: rest => do
    if c.toNat < 32 then none
    let (pieces, rest) ← readPieces rest
    return (.plain c :: pieces, rest)

def isHighSurrogate (n : Nat) : Bool := 0xD800 ≤ n && n < 0xDC00

def isLowSurrogate (n : Nat) : Bool := 0xDC00 ≤ n && n < 0xE000

/-- The text of the pieces: surrogates stand for a character only as a high one and a low one. -/
def joinPieces : List Piece → Option (List Char)
  | [] => some []
  | .plain c :: rest => (joinPieces rest).map (c :: ·)
  | .unit n :: rest =>
    if isLowSurrogate n then none
    else if isHighSurrogate n then
      match rest with
      | .unit m :: rest =>
        if isLowSurrogate m then
          (joinPieces rest).map (Char.ofNat (0x10000 + (n - 0xD800) * 0x400 + (m - 0xDC00)) :: ·)
        else none
      | _ => none
    else (joinPieces rest).map (Char.ofNat n :: ·)

/-- A string behind its opening quotation mark; its text is absent when half a pair is left over. -/
def readString (cs : List Char) : Option (Option String × List Char) := do
  let (pieces, rest) ← readPieces cs
  return ((joinPieces pieces).map String.ofList, rest)

/-! ## Numbers -/

/-- The digits at the front. -/
def readDigits : List Char → List Nat × List Char
  | [] => ([], [])
  | c :: rest =>
    match digit? c with
    | some d =>
      let (ds, rest) := readDigits rest
      (d :: ds, rest)
    | none => ([], c :: rest)

/-- One digit at least, and no zero before others. -/
def readWhole (cs : List Char) : Option (List Nat × List Char) :=
  match readDigits cs with
  | ([], _) => none
  | (0 :: _ :: _, _) => none
  | (ds, rest) => some (ds, rest)

def readFraction : List Char → Option (Option (List Nat) × List Char)
  | '.' :: rest =>
    match readDigits rest with
    | ([], _) => none
    | (ds, rest) => some (some ds, rest)
  | cs => some (none, cs)

def natOfDigits (ds : List Nat) : Nat :=
  ds.foldl (fun n d => n * 10 + d) 0

def readExponent : List Char → Option (Option Int × List Char)
  | [] => some (none, [])
  | c :: rest =>
    if c = 'e' ∨ c = 'E' then
      let (negative, rest) := match rest with
        | '-' :: rest => (true, rest)
        | '+' :: rest => (false, rest)
        | rest => (false, rest)
      match readDigits rest with
      | ([], _) => none
      | (ds, rest) =>
        let size : Int := natOfDigits ds
        some (some (if negative then -size else size), rest)
    else some (none, c :: rest)

def readNumeral (cs : List Char) : Option (Decimal.Numeral × List Char) := do
  let (negative, rest) := match cs with
    | '-' :: rest => (true, rest)
    | rest => (false, rest)
  let (whole, rest) ← readWhole rest
  let (fraction, rest) ← readFraction rest
  let (exponent, rest) ← readExponent rest
  return (⟨negative, whole, fraction, exponent⟩, rest)

/-! ## Values -/

/-- The rest behind a given word. -/
def expect (word : List Char) (cs : List Char) : Option (List Char) :=
  match word, cs with
  | [], rest => some rest
  | w :: ws, c :: cs => if w = c then expect ws cs else none
  | _ :: _, [] => none

/-- So many containers may be open at once. -/
def depthLimit : Nat := 127

/-- A container has a value when it is not nested too deeply and its names are readable. -/
def enclose (depth : Nat) (d : Option Document) : Document :=
  if depth < depthLimit then d.getD .unreadable else .unreadable

/-- Members of which one has an unreadable name make no object. -/
def objectOf? (members : List (Option String × Document)) : Option Document :=
  let named := members.mapM fun (name, value) => name.map fun name => (name, value)
  named.map .object

mutual

/-- A value inside `depth` open containers; `fuel` bounds the calls nested in one another. -/
def readValue (fuel depth : Nat) (cs : List Char) : Option (Document × List Char) :=
  match fuel with
  | 0 => none
  | fuel + 1 =>
    match skipBlanks cs with
    | [] => none
    | '"' :: rest => do
      let (text, rest) ← readString rest
      return ((text.map Document.string).getD .unreadable, rest)
    | '[' :: rest =>
      match skipBlanks rest with
      | ']' :: rest => some (enclose depth (some (.array [])), rest)
      | rest => do
        let (items, rest) ← readItems fuel (depth + 1) rest
        return (enclose depth (some (.array items)), rest)
    | '\x7b' :: rest =>
      match skipBlanks rest with
      | '\x7d' :: rest => some (enclose depth (some (.object [])), rest)
      | rest => do
        let (members, rest) ← readMembers fuel (depth + 1) rest
        return (enclose depth (objectOf? members), rest)
    | 'n' :: rest => (expect ['u', 'l', 'l'] rest).map fun rest => (.null, rest)
    | 't' :: rest => (expect ['r', 'u', 'e'] rest).map fun rest => (.bool true, rest)
    | 'f' :: rest => (expect ['a', 'l', 's', 'e'] rest).map fun rest => (.bool false, rest)
    | rest => do
      let (numeral, rest) ← readNumeral rest
      return ((numeral.number?.map Document.number).getD .unreadable, rest)

/-- The items up to the closing bracket, one at least. -/
def readItems (fuel depth : Nat) (cs : List Char) : Option (List Document × List Char) :=
  match fuel with
  | 0 => none
  | fuel + 1 => do
    let (item, rest) ← readValue fuel depth cs
    match skipBlanks rest with
    | ']' :: rest => return ([item], rest)
    | ',' :: rest =>
      let (items, rest) ← readItems fuel depth rest
      return (item :: items, rest)
    | _ => none

/-- The members up to the closing brace, one at least. -/
def readMembers (fuel depth : Nat) (cs : List Char) :
    Option (List (Option String × Document) × List Char) :=
  match fuel with
  | 0 => none
  | fuel + 1 =>
    match skipBlanks cs with
    | '"' :: rest => do
      let (name, rest) ← readString rest
      match skipBlanks rest with
      | ':' :: rest =>
        let (value, rest) ← readValue fuel depth rest
        match skipBlanks rest with
        | '\x7d' :: rest => return ([(name, value)], rest)
        | ',' :: rest =>
          let (members, rest) ← readMembers fuel depth rest
          return ((name, value) :: members, rest)
        | _ => none
      | _ => none
    | _ => none

end

/-- A whole text; every nested call is behind a character of its own or the first of a container. -/
def ofText? (text : String) : Option Document :=
  let cs := text.toList
  match readValue (2 * cs.length + 2) 0 cs with
  | some (d, rest) => if skipBlanks rest = [] then some d else none
  | none => none

end Fieldwork.Document

namespace Fieldwork

/-- The value of a JSON text that is readable throughout. -/
def Json.ofText? (text : String) : Option Json :=
  (Document.ofText? text).bind Document.json?

end Fieldwork
