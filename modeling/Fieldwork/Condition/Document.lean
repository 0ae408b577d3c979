import Fieldwork.Condition.Basic
import Fieldwork.Json.Decode

/-!
# Conditions as documents

A group is `glue` and `rules`, a rule is `key`, `rule` and `value`. A document that can be taken for
both is a group.
-/

namespace Fieldwork

namespace Glue

def word : Glue → String
  | .and => "and"
  | .or => "or"

def ofWord? (s : String) : Option Glue :=
  [Glue.and, .or].find? fun g => g.word = s

end Glue

namespace Operator

def word : Operator → String
  | .equals => "equals"
  | .notEqual => "not_equal"
  | .contains => "contains"
  | .notContains => "not_contains"
  | .beginsWith => "begins_with"
  | .endsWith => "ends_with"
  | .less => "less"
  | .greater => "greater"
  | .lessOrEqual => "less_or_equal"
  | .greaterOrEqual => "greater_or_equal"
  | .isEmpty => "is_empty"
  | .isNotEmpty => "is_not_empty"
  | .isNull => "is_null"
  | .isNotNull => "is_not_null"
  | .isIn => "in"
  | .isNotIn => "not_in"
  | .haveNoRelation => "have_no_relation"

/-- All operators. -/
def all : List Operator :=
  [.equals, .notEqual, .contains, .notContains, .beginsWith, .endsWith, .less, .greater,
   .lessOrEqual, .greaterOrEqual, .isEmpty, .isNotEmpty, .isNull, .isNotNull, .isIn, .isNotIn,
   .haveNoRelation]

/-- The operator of a word; there is no other way to write one. -/
def ofWord? (s : String) : Option Operator :=
  all.find? fun op => op.word = s

end Operator

namespace Rule

/-- A rule needs its key and its operator; without a value it has null. -/
def ofDocument? (d : Document) : Option Rule := do
  match ← d.members? [["key"], ["rule"], ["value"]] with
  | [key, operator, value] =>
    let key ← Document.required Document.string? key
    let word ← Document.required Document.word? operator
    let operator ← Operator.ofWord? word
    let value ← Document.orElse .null Document.json? value
    return ⟨key, operator, value⟩
  | _ => none

def document (r : Rule) : Document :=
  .object
    [("key", .string r.key), ("rule", .string r.operator.word), ("value", r.value.document)]

end Rule

namespace Condition

def glueOf? (d : Document) : Option Glue :=
  d.word?.bind Glue.ofWord?

mutual

/-- A group where the document can be one, and otherwise a rule. -/
def read? : Document → Option Condition
  | .object members =>
    let group := do
      match members.filter (·.1 = "glue"), readRules members with
      | [(_, g)], [] => return .group (← glueOf? g) []
      | [(_, g)], [rules] => return .group (← glueOf? g) (← rules)
      | _, _ => none
    group <|> (Rule.ofDocument? (.object members)).map .rule
  | .array items =>
    let group := match items with
      | [g] => do return .group (← glueOf? g) []
      | [g, rules] => do return .group (← glueOf? g) (← readList rules)
      | _ => none
    group <|> (Rule.ofDocument? (.array items)).map .rule
  | _ => none

/-- What each member named `rules` holds. -/
def readRules : List (String × Document) → List (Option (List Condition))
  | [] => []
  | (n, d) :: rest => if n = "rules" then readList d :: readRules rest else readRules rest

def readList : Document → Option (List Condition)
  | .array items => readItems items
  | _ => none

def readItems : List Document → Option (List Condition)
  | [] => some []
  | d :: ds => do
    let c ← read? d
    let cs ← readItems ds
    return c :: cs

end

/-- Nothing in the document may be unreadable, the members passed over included. -/
def ofDocument? (d : Document) : Option Condition :=
  if d.json?.isSome then read? d else none

mutual

/-- A rule is written with three members, a group with its glue and the conditions in it. -/
def document : Condition → Document
  | .rule r => r.document
  | .group glue members =>
    .object [("glue", .string glue.word), ("rules", .array (documents members))]

def documents : List Condition → List Document
  | [] => []
  | c :: cs => document c :: documents cs

end

end Condition

end Fieldwork
