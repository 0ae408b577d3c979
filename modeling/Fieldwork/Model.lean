import Fieldwork.Plan.Compile
import Fieldwork.Session
import Fieldwork.Translations

/-!
# Access to an object's rows

Finding, counting and updating the rows of an object. A fault that arises here carries the text of
its query, but for that of a count whose answer holds no number.
-/

namespace Fieldwork.Object

variable {σ β : Type}

/-- The rows that match the options, their translations merged unless that is switched off. -/
def find (o : Object) (storage : Storage σ) (options : Options) (u : User)
    (scope : Option Scope) : Program σ β (List Row) := do
  Program.reportAll (options.report o u)
  let plan ← Program.ofExcept (Plan.compile o options u)
  let rows ← (Program.select storage plan scope).withSql plan.sql
  if options.mergeTranslations then
    let (rows, events) := Translations.reshapeAll rows
    Program.reportAll events
    return rows
  else return rows

/-- Decimal digits behind an optional plus sign, below `2 ^ 64`. -/
def countOfText? (s : String) : Option Nat :=
  let digits := match s.toList with
    | '+' :: rest => rest
    | cs => cs
  if digits ≠ [] ∧ digits.all Char.isDigit then
    let n := digits.foldl (fun n c => n * 10 + (c.toNat - 48)) 0
    if n < UInt64.size then some n else none
  else none

/-- The count in the first row of an answer, as a number or as text. -/
def countOf? (rows : List Row) : Option Nat := do
  let r ← rows.head?
  match ← Record.get? r countColumn with
  | .number n => n.toNat?
  | .string s => countOfText? s
  | _ => none

/-- The number of rows that match the options, regardless of their page. -/
def count (o : Object) (storage : Storage σ) (options : Options) (u : User)
    (scope : Option Scope) : Program σ β Nat := do
  Program.reportAll (options.forCount.report o u)
  let plan ← Program.ofExcept (Plan.compileCount o options u)
  let rows ← (Program.select storage plan scope).withSql plan.sql
  match countOf? rows with
  | some n => return n
  | none => throw (.failed "count query returned no count")

/-- Writes the values to the row with that primary key and gives the row as written. -/
def updateRow (o : Object) (storage : Storage σ) (id : Json) (values : Row)
    (scope : Option Scope) : Program σ β Row :=
  let update := o.update id values
  (Program.update storage update scope).withSql update.sql

end Fieldwork.Object
