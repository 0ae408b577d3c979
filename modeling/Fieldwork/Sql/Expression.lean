import Fieldwork.Condition.Basic
import Fieldwork.Json.Printer
import Fieldwork.Sql.Token

/-!
# SQL expressions

Scalars stand for values, tests for truth values. Comparisons bind tighter than AND and OR, so only
an AND or OR inside another one is put in parentheses, and on the left not even that when both are
the same.
-/

namespace Fieldwork.Sql

/-- A value as it stands in a statement. -/
inductive Literal where
  | null
  | bool (b : Bool)
  | number (n : Number)
  | text (s : String)
  deriving DecidableEq

/-- Lists and objects are compared as their JSON text. -/
def Literal.ofJson : Json → Literal
  | .null => .null
  | .bool b => .bool b
  | .number n => .number n
  | .string s => .text s
  | v => .text v.text

/-- The functions that columns of translations are read with. -/
inductive Function where
  | jsonSearch
  | jsonExtract
  | jsonUnquote
  | substring
  deriving DecidableEq, Repr

/-- An operand: a column, a value, or a function of operands. -/
inductive Scalar where
  | column (path : List String)
  | literal (l : Literal)
  | call (function : Function) (arguments : List Scalar)

/-- How an operand is compared with a value. -/
inductive Comparison where
  | equal
  | notEqual
  | less
  | greater
  | lessOrEqual
  | greaterOrEqual
  | like
  | notLike
  deriving DecidableEq, Repr

/-- A condition of a statement, with the joins it is written by. -/
inductive Test where
  | truth (b : Bool)
  | compare (operator : Comparison) (left : Scalar) (right : Literal)
  | isNull (negated : Bool) (operand : Scalar)
  /-- One of a list of values, or none of them. -/
  | among (negated : Bool) (operand : Scalar) (values : List Literal)
  /-- Not among the values of a column of a table. -/
  | unlinked (operand : Scalar) (column : String) (table : List String)
  | connect (glue : Glue) (left right : Test)

/-! ## Tokens -/

namespace Literal

def tokens : Literal → List Token
  | .null => [.word "NULL"]
  | .bool b => [.word (if b then "TRUE" else "FALSE")]
  | .number n => [.number n]
  | .text s => [.text s]

end Literal

def Function.name : Function → String
  | .jsonSearch => "JSON_SEARCH"
  | .jsonExtract => "JSON_EXTRACT"
  | .jsonUnquote => "JSON_UNQUOTE"
  | .substring => "SUBSTRING"

namespace Scalar

mutual

def tokens : Scalar → List Token
  | .column path => pathTokens path
  | .literal l => l.tokens
  | .call function arguments =>
    .word function.name :: parenthesised (commaSeparated (argumentTokens arguments))

def argumentTokens : List Scalar → List (List Token)
  | [] => []
  | e :: es => tokens e :: argumentTokens es

end

end Scalar

def Comparison.tokens : Comparison → List Token
  | .equal => [.mark "="]
  | .notEqual => [.mark "<>"]
  | .less => [.mark "<"]
  | .greater => [.mark ">"]
  | .lessOrEqual => [.mark "<="]
  | .greaterOrEqual => [.mark ">="]
  | .like => [.word "LIKE"]
  | .notLike => [.word "NOT", .blank, .word "LIKE"]

def glueWord : Glue → String
  | .and => "AND"
  | .or => "OR"

namespace Test

/-- The glue of an AND or OR. -/
def glue? : Test → Option Glue
  | .connect glue _ _ => some glue
  | _ => none

/-- A list of no values is written as a comparison that is always false, or always true. -/
def tokens : Test → List Token
  | .truth b => [.word (if b then "TRUE" else "FALSE")]
  | .compare operator left right =>
    left.tokens ++ .blank :: operator.tokens ++ .blank :: right.tokens
  | .isNull negated operand =>
    operand.tokens ++ .blank :: .word "IS" :: .blank ::
      (if negated then [.word "NOT", .blank, .word "NULL"] else [.word "NULL"])
  | .among negated _ [] =>
    [.number (.integer 1), .blank, .mark "=", .blank, .number (.integer (if negated then 1 else 2))]
  | .among negated operand values =>
    operand.tokens ++ .blank ::
      (if negated then [.word "NOT", .blank, .word "IN"] else [.word "IN"]) ++ .blank ::
      parenthesised (commaSeparated (values.map Literal.tokens))
  | .unlinked operand column table =>
    operand.tokens ++ [.blank, .word "NOT", .blank, .word "IN", .blank] ++
      parenthesised ([.word "SELECT", .blank, .name column, .blank, .word "FROM", .blank] ++
        pathTokens table)
  | .connect glue left right =>
    (if left.glue?.isSome ∧ left.glue? ≠ some glue then parenthesised left.tokens
      else left.tokens) ++
    [.blank, .word (glueWord glue), .blank] ++
    (if right.glue?.isSome then parenthesised right.tokens else right.tokens)

end Test

end Fieldwork.Sql
