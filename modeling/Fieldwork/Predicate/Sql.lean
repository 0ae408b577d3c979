import Fieldwork.Predicate.Basic
import Fieldwork.Sql.Expression

/-!
# Predicates in SQL
-/

namespace Fieldwork

open Sql

/-- The look-up of a translated text. Searching the translations for the language gives a path such
as `$[0].language_code`, of which the first four characters lead to the record. -/
def Payload.lookup (payload : Payload) (language name : String) : Scalar :=
  let column : Scalar := match payload with
    | .flattened table => .column [flatName table]
    | .qualified table => .column [table, "translations"]
  let found : Scalar := .call .jsonSearch
    [column, .literal (.text "one"), .literal (.text language)]
  let path : Scalar := .call .substring
    [.call .jsonUnquote [found], .literal (.number (.integer 1)),
     .literal (.number (.integer 4))]
  let record : Scalar := .call .jsonExtract [column, path]
  .call .jsonUnquote
    [.call .jsonExtract [record, .literal (.text ("$.\"" ++ name ++ "\""))]]

/-- A schema counts only in front of a table. -/
def Column.scalar : Column → Scalar
  | .physical (some schema) (some table) name => .column [schema, table, name]
  | .physical _ (some table) name => .column [table, name]
  | .physical _ none name => .column [name]
  | .translated payload language name => payload.lookup language name

/-- The text that a pattern is made of; null is the empty text. -/
def patternText : Json → String
  | .string s => s
  | .null => ""
  | v => v.text

/-- The values of a list; any other value is a list of one. -/
def literalList : Json → List Literal
  | .array items => items.map Literal.ofJson
  | v => [Literal.ofJson v]

/-- The test that a rule with that operator stands for. -/
def Operator.test (operator : Operator) (operand : Scalar) (value : Json) : Test :=
  let compare (c : Comparison) : Test := .compare c operand (.ofJson value)
  let like (c : Comparison) (pattern : String) : Test := .compare c operand (.text pattern)
  match operator with
  | .equals => compare .equal
  | .notEqual => compare .notEqual
  | .contains => like .like ("%" ++ patternText value ++ "%")
  | .notContains => like .notLike ("%" ++ patternText value ++ "%")
  | .beginsWith => like .like (patternText value ++ "%")
  | .endsWith => like .like ("%" ++ patternText value)
  | .less => compare .less
  | .greater => compare .greater
  | .lessOrEqual => compare .lessOrEqual
  | .greaterOrEqual => compare .greaterOrEqual
  | .isNull | .haveNoRelation => .isNull false operand
  | .isNotNull => .isNull true operand
  | .isEmpty => .connect .or (.isNull false operand) (.compare .equal operand (.text ""))
  | .isNotEmpty => .connect .and (.isNull true operand) (.compare .notEqual operand (.text ""))
  | .isIn => .among false operand (literalList value)
  | .isNotIn => .among true operand (literalList value)

/-- Tests joined from left to right; no test is no constraint. -/
def joinTests (glue : Glue) : List Test → Test
  | [] => .truth true
  | t :: ts => ts.foldl (Test.connect glue) t

namespace Predicate

mutual

def test : Predicate → Test
  | .rule column operator value => operator.test column.scalar value
  | .noRelation column target =>
    .connect .or (.isNull false (.column [column]))
      (.unlinked (.column [column]) target.primaryKey (target.schema.toList ++ [target.table]))
  | .group glue members => joinTests glue (tests members)

def tests : List Predicate → List Test
  | [] => []
  | p :: ps => test p :: tests ps

end

end Predicate

end Fieldwork
