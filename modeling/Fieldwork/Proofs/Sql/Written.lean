import Fieldwork.Store.Select
import Fieldwork.Proofs.Sql.Legible

/-!
# What stands in a statement

The lexemes of a query are given by a recursion on its plan, those of an update on the update. A
string from outside is the content of one lexeme wherever it comes in: as a name, as a text, as part
of a pattern or of a path, or inside the JSON text of a list or an object.

* `Predicate.lexemes_test`: the text of a condition has the lexemes of its tree.
* `Plan.lexemesOf_query`, `Update.lexemesOf_statement`: so have the texts of queries and updates.
-/

namespace Fieldwork

open Sql

/-! ## Lexemes by recursion -/

namespace Sql

/-- Parts with commas between them. -/
def separated : List (List Lexeme) → List Lexeme
  | [] => []
  | [part] => part
  | part :: parts => part ++ .mark "," :: separated parts

/-- Lexemes in parentheses. -/
def enclosed (ls : List Lexeme) : List Lexeme :=
  .mark "(" :: ls ++ [.mark ")"]

/-- A function called with arguments. -/
def called (function : String) (arguments : List (List Lexeme)) : List Lexeme :=
  .word function :: enclosed (separated arguments)

/-- The names of a path with points between them. -/
def pointed : List String → List Lexeme
  | [] => []
  | [part] => [.name part]
  | part :: parts => .name part :: .mark "." :: pointed parts

/-- A number is one lexeme, as it is written. -/
def Lexeme.ofNumber (n : Number) : Lexeme :=
  .ofRun (Token.numberChars n)

def Lexeme.ofNat (n : Nat) : Lexeme :=
  .ofNumber (.integer n)

end Sql

/-- A value is one lexeme, a list or an object as its JSON text. -/
def Json.lexeme : Json → Lexeme
  | .null => .word "NULL"
  | .bool true => .word "TRUE"
  | .bool false => .word "FALSE"
  | .number n => .ofNumber n
  | .string s => .text s
  | v => .text v.text

/-- What a value puts into a pattern: nothing for null, the JSON text of any other value that is no
string. -/
def Json.inPattern : Json → String
  | .null => ""
  | .string s => s
  | v => v.text

/-- A payload is a column named after its table, or one of the table's own. -/
def Payload.lexemes : Payload → List Lexeme
  | .flattened table => [.name (table ++ ".translations")]
  | .qualified table => [.name table, .mark ".", .name "translations"]

/-- A column is its path; a translated one is found in its payload by its language and its name. -/
def Column.lexemes : Column → List Lexeme
  | .physical (some schema) (some table) name => pointed [schema, table, name]
  | .physical _ (some table) name => pointed [table, name]
  | .physical _ none name => pointed [name]
  | .translated payload language name =>
    let found := called "JSON_SEARCH" [payload.lexemes, [.text "one"], [.text language]]
    let path := called "SUBSTRING" [called "JSON_UNQUOTE" [found], [.ofNat 1], [.ofNat 4]]
    let record := called "JSON_EXTRACT" [payload.lexemes, path]
    called "JSON_UNQUOTE" [called "JSON_EXTRACT" [record, [.text ("$.\"" ++ name ++ "\"")]]]

/-- A rule on an operand; a list of no values is a comparison of two numbers. -/
def Operator.lexemes (operator : Operator) (operand : List Lexeme) (value : Json) : List Lexeme :=
  let compare (sign : String) := operand ++ [.mark sign, value.lexeme]
  let like (pattern : String) := operand ++ [.word "LIKE", .text pattern]
  let list := enclosed (separated (value.listed.map fun v => [v.lexeme]))
  match operator with
  | .equals => compare "="
  | .notEqual => compare "<>"
  | .less => compare "<"
  | .greater => compare ">"
  | .lessOrEqual => compare "<="
  | .greaterOrEqual => compare ">="
  | .contains => like ("%" ++ value.inPattern ++ "%")
  | .notContains => operand ++ [.word "NOT", .word "LIKE", .text ("%" ++ value.inPattern ++ "%")]
  | .beginsWith => like (value.inPattern ++ "%")
  | .endsWith => like ("%" ++ value.inPattern)
  | .isNull | .haveNoRelation => operand ++ [.word "IS", .word "NULL"]
  | .isNotNull => operand ++ [.word "IS", .word "NOT", .word "NULL"]
  | .isEmpty =>
    operand ++ [.word "IS", .word "NULL", .word "OR"] ++ operand ++ [.mark "=", .text ""]
  | .isNotEmpty =>
    operand ++ [.word "IS", .word "NOT", .word "NULL", .word "AND"] ++ operand ++
      [.mark "<>", .text ""]
  | .isIn =>
    if value.listed.isEmpty then [.ofNat 1, .mark "=", .ofNat 2]
    else operand ++ .word "IN" :: list
  | .isNotIn =>
    if value.listed.isEmpty then [.ofNat 1, .mark "=", .ofNat 1]
    else operand ++ .word "NOT" :: .word "IN" :: list

namespace Predicate

/-- The AND or OR that a predicate is written with outside of parentheses. -/
def glue? : Predicate → Option Glue
  | .rule _ .isEmpty _ => some .or
  | .rule _ .isNotEmpty _ => some .and
  | .rule _ _ _ => none
  | .noRelation _ _ => some .or
  | .group _ [] => none
  | .group _ [p] => p.glue?
  | .group glue (_ :: _ :: _) => some glue

/-- The target's keys, as the list that a value is not in. -/
def targetLexemes (target : Relation) : List Lexeme :=
  [.word "SELECT", .name target.primaryKey, .word "FROM"] ++
    pointed (target.schema.toList ++ [target.table])

mutual

/-- In a group of several members the first stands in parentheses if it is written with the other
glue, and every other member if it is written with any. -/
def lexemes : Predicate → List Lexeme
  | .rule column operator value => operator.lexemes column.lexemes value
  | .noRelation column target =>
    [.name column, .word "IS", .word "NULL", .word "OR", .name column, .word "NOT", .word "IN"] ++
      enclosed (targetLexemes target)
  | .group _ [] => [.word "TRUE"]
  | .group glue (p :: ps) =>
    (if !ps.isEmpty && p.glue?.any (· ≠ glue) then enclosed (lexemes p) else lexemes p) ++
      joinedLexemes glue ps

/-- The further members of a group, each behind the group's glue. -/
def joinedLexemes (glue : Glue) : List Predicate → List Lexeme
  | [] => []
  | p :: ps =>
    .word (glueWord glue) :: (if p.glue?.isSome then enclosed (lexemes p) else lexemes p) ++
      joinedLexemes glue ps

end

end Predicate

/-- A sort term is its column with a direction behind it. -/
def SortTerm.lexemes (term : SortTerm) : List Lexeme :=
  term.column.lexemes ++ [.word (directionWord term.direction)]

namespace Plan

/-- A clause behind its keywords, when it is there. -/
def clauseLexemes (keywords : List Lexeme) : Option (List Lexeme) → List Lexeme
  | none => []
  | some body => keywords ++ body

/-- The terms of a sort, if there are any. -/
def orderLexemes (p : Plan) : Option (List Lexeme) :=
  if p.sort.isEmpty then none else some (separated (p.sort.map SortTerm.lexemes))

/-- The name that an item or a table goes by in its query. -/
def labelLexemes (label : String) : List Lexeme :=
  [.word "AS", .name label]

/-- What a query selects: all columns, with a number if rows are numbered, some columns, or the
count. -/
def itemLexemes (p : Plan) : List Lexeme :=
  match p.projection with
  | .all =>
    if p.rowNumberSeed.isSome then
      [.word "@rownum", .mark ":=", .word "@rownum", .mark "+", .ofNat 1] ++ labelLexemes "id" ++
        [.mark ",", .name "result", .mark ".", .mark "*"]
    else [.mark "*"]
  | .columns names => separated (names.map fun name => [.name name])
  | .count => called "COUNT" [[.mark "*"]] ++ labelLexemes countColumn

/-- The selection of the rows, with the given items. -/
def rowLexemes (p : Plan) (items : List Lexeme) : List Lexeme :=
  .word "SELECT" :: items ++ [.word "FROM", .name p.source] ++
    clauseLexemes [.word "WHERE"] (p.condition.map Predicate.lexemes) ++
    clauseLexemes [.word "ORDER", .word "BY"] p.orderLexemes ++
    clauseLexemes [.word "LIMIT"] (p.limitClause.map fun n => [.ofNat n.toNat]) ++
    clauseLexemes [.word "OFFSET"] (p.offset.map fun n => [.ofNat n.toNat])

/-- A query selects rows; a numbered one selects them from a table of the rows beside one of the
counter. -/
def lexemes (p : Plan) : List Lexeme :=
  match p.rowNumberSeed with
  | none => p.rowLexemes p.itemLexemes
  | some seed =>
    .word "SELECT" :: p.itemLexemes ++ .word "FROM" ::
      enclosed (p.rowLexemes [.mark "*"]) ++ labelLexemes "result" ++ .mark "," ::
      enclosed [.word "SELECT", .word "@rownum", .mark ":=", .ofNat seed.toNat] ++
      labelLexemes "rownum"

end Plan

/-- An update names its table, gives each column its value and ends in the key of its row. -/
def Update.lexemes (u : Update) : List Lexeme :=
  [.word "UPDATE", .name u.table, .word "SET"] ++
    separated (u.values.map fun (column, value) => [.name column, .mark "=", value.lexeme]) ++
    [.word "WHERE", .name u.primaryKey, .mark "=", u.id.lexeme]

/-! ## The lexemes of the tokens -/

namespace Sql

@[simp] theorem lexemesOf_nil : lexemesOf [] = [] := rfl

/-- Tokens are taken for lexemes one after another. -/
@[simp] theorem lexemesOf_append (a b : List Token) :
    lexemesOf (a ++ b) = lexemesOf a ++ lexemesOf b :=
  List.filterMap_append ..

/-- A blank is no lexeme. -/
@[simp] theorem lexemesOf_blank (ts : List Token) : lexemesOf (.blank :: ts) = lexemesOf ts := rfl

@[simp] theorem lexemesOf_word (s : String) (ts : List Token) :
    lexemesOf (.word s :: ts) = .word s :: lexemesOf ts := rfl

@[simp] theorem lexemesOf_name (s : String) (ts : List Token) :
    lexemesOf (.name s :: ts) = .name s :: lexemesOf ts := rfl

@[simp] theorem lexemesOf_text (s : String) (ts : List Token) :
    lexemesOf (.text s :: ts) = .text s :: lexemesOf ts := rfl

@[simp] theorem lexemesOf_mark (s : String) (ts : List Token) :
    lexemesOf (.mark s :: ts) = .mark s :: lexemesOf ts := rfl

@[simp] theorem lexemesOf_number (n : Number) (ts : List Token) :
    lexemesOf (.number n :: ts) = .ofNumber n :: lexemesOf ts := rfl

/-- Tokens in parentheses have the lexemes of the tokens in parentheses. -/
@[simp] theorem lexemesOf_parenthesised (ts : List Token) :
    lexemesOf (parenthesised ts) = enclosed (lexemesOf ts) := by
  simp [parenthesised, enclosed]

/-- Parts between commas have the lexemes of the parts between commas. -/
@[simp] theorem lexemesOf_commaSeparated (parts : List (List Token)) :
    lexemesOf (commaSeparated parts) = separated (parts.map lexemesOf) := by
  match parts with
  | [] => rfl
  | [part] => rfl
  | part :: next :: parts =>
    have ih := lexemesOf_commaSeparated (next :: parts)
    rw [commaSeparated, lexemesOf_append, lexemesOf_mark, lexemesOf_blank, ih]
    · rfl
    · simp

/-- The names of a path are lexemes, and so are the points between them. -/
@[simp] theorem lexemesOf_pathTokens (parts : List String) :
    lexemesOf (pathTokens parts) = pointed parts := by
  match parts with
  | [] => rfl
  | [part] => rfl
  | part :: next :: parts =>
    have ih := lexemesOf_pathTokens (next :: parts)
    rw [pathTokens, lexemesOf_name, lexemesOf_mark, ih]
    · rfl
    · simp

/-- **The literal of a value is one lexeme.** -/
@[simp] theorem lexemesOf_literal (v : Json) :
    lexemesOf (Literal.ofJson v).tokens = [v.lexeme] := by
  cases v with
  | bool b => cases b <;> rfl
  | _ => rfl

/-- A call has the lexemes of its arguments between commas. -/
theorem lexemesOf_call (f : Function) (arguments : List Scalar) :
    lexemesOf (Scalar.call f arguments).tokens =
      called f.name ((Scalar.argumentTokens arguments).map lexemesOf) := by
  rw [Scalar.tokens, lexemesOf_word, lexemesOf_parenthesised, lexemesOf_commaSeparated]
  rfl

end Sql

/-- **The expression of a column has the lexemes of the column.** -/
theorem Column.lexemesOf_scalar (c : Column) : lexemesOf c.scalar.tokens = c.lexemes := by
  match c with
  | .physical (some schema) (some table) name => rfl
  | .physical none (some table) name => rfl
  | .physical (some schema) none name => rfl
  | .physical none none name => rfl
  | .translated payload language name =>
    cases payload <;>
      simp only [Column.scalar, Payload.lookup, lexemesOf_call, Scalar.argumentTokens, List.map] <;>
      rfl

/-! ### Tests -/

/-- The text in a pattern is the content of the value. -/
theorem patternText_eq (v : Json) : patternText v = v.inPattern := by
  cases v <;> rfl

/-- The literals of a list are those of the values it holds. -/
theorem literalList_eq (v : Json) : literalList v = v.listed.map Literal.ofJson := by
  cases v <;> rfl

namespace Sql.Test

/-- A test for null has the lexemes of its operand in front of the words. -/
theorem lexemesOf_isNull (negated : Bool) (operand : Scalar) :
    lexemesOf (Test.isNull negated operand).tokens =
      lexemesOf operand.tokens ++
        .word "IS" :: ((if negated then [.word "NOT"] else []) ++ [.word "NULL"]) := by
  cases negated <;> simp [Test.tokens]

/-- A list of no values is a comparison of two numbers. -/
theorem lexemesOf_among (negated : Bool) (operand : Scalar) (values : List Literal) :
    lexemesOf (Test.among negated operand values).tokens =
      if values.isEmpty then [.ofNat 1, .mark "=", .ofNat (if negated then 1 else 2)]
      else lexemesOf operand.tokens ++
        ((if negated then [.word "NOT"] else []) ++
          .word "IN" :: enclosed (separated (values.map fun l => lexemesOf l.tokens))) := by
  cases values with
  | nil => cases negated <;> rfl
  | cons value values =>
    rw [Test.tokens]
    · cases negated <;> simp [Function.comp_def]
    · simp

/-- A test for a missing relation selects the keys of the target. -/
theorem lexemesOf_unlinked (operand : Scalar) (column : String) (table : List String) :
    lexemesOf (Test.unlinked operand column table).tokens =
      lexemesOf operand.tokens ++ .word "NOT" :: .word "IN" ::
        enclosed (.word "SELECT" :: .name column :: .word "FROM" :: pointed table) := by
  simp [Test.tokens]

end Sql.Test

/-- The values of a list stand in parentheses, one lexeme each. -/
theorem lexemesOf_among_literalList (negated : Bool) (operand : Scalar) (v : Json) :
    lexemesOf (Test.among negated operand (literalList v)).tokens =
      if v.listed.isEmpty then [.ofNat 1, .mark "=", .ofNat (if negated then 1 else 2)]
      else lexemesOf operand.tokens ++
        ((if negated then [.word "NOT"] else []) ++
          .word "IN" :: enclosed (separated (v.listed.map fun v => [v.lexeme]))) := by
  have hlist : (v.listed.map Literal.ofJson).map (fun l => lexemesOf l.tokens) =
      v.listed.map fun v => [v.lexeme] := by
    rw [List.map_map]
    exact List.map_congr_left fun v _ => lexemesOf_literal v
  rw [literalList_eq, Test.lexemesOf_among, List.isEmpty_map, hlist]

/-- A rule has the lexemes of its test. -/
theorem Operator.lexemesOf_test (operator : Operator) (operand : Scalar) (v : Json) :
    lexemesOf (operator.test operand v).tokens = operator.lexemes (lexemesOf operand.tokens) v := by
  have htext : ∀ s : String, lexemesOf (Literal.text s).tokens = [.text s] := fun _ => rfl
  cases operator with
  | isIn | isNotIn =>
    rw [Operator.test, lexemesOf_among_literalList]
    rfl
  | isEmpty | isNotEmpty =>
    simp [Operator.test, Operator.lexemes, Test.tokens, Test.glue?, Comparison.tokens, htext,
      glueWord]
  | _ =>
    simp [Operator.test, Operator.lexemes, Test.tokens, Comparison.tokens, htext, patternText_eq]

namespace Sql.Test

/-- Joined tests stand in parentheses where they are joined in another way themselves. -/
theorem lexemesOf_connect (glue : Glue) (l r : Test) :
    lexemesOf (Test.connect glue l r).tokens =
      (if l.glue?.any (· ≠ glue) then enclosed (lexemesOf l.tokens) else lexemesOf l.tokens) ++
        .word (glueWord glue) ::
          (if r.glue?.isSome then enclosed (lexemesOf r.tokens) else lexemesOf r.tokens) := by
  rw [Test.tokens]
  rcases l.glue? with _ | gl <;> rcases r.glue? with _ | gr <;> simp
  all_goals by_cases h : gl = glue <;> simp [h]

/-- The tests behind the first of those that are joined. -/
def joinedLexemes (glue : Glue) (ts : List Test) : List Lexeme :=
  ts.flatMap fun t =>
    .word (glueWord glue) ::
      (if t.glue?.isSome then enclosed (lexemesOf t.tokens) else lexemesOf t.tokens)

/-- Tests joined to one that is joined in the same way stand behind it. -/
theorem lexemesOf_foldl_connect (glue : Glue) (ts : List Test) {t : Test}
    (ht : t.glue? = some glue) :
    lexemesOf (ts.foldl (Test.connect glue) t).tokens =
      lexemesOf t.tokens ++ joinedLexemes glue ts := by
  induction ts generalizing t with
  | nil => simp [joinedLexemes]
  | cons u ts ih =>
    -- a left operand with the same glue stands without parentheses
    rw [List.foldl_cons, ih rfl, lexemesOf_connect, ht]
    simp [joinedLexemes]

/-- Joining further tests keeps the way the first ones are joined. -/
theorem glue?_foldl_connect (glue : Glue) (ts : List Test) {t : Test} (ht : t.glue? = some glue) :
    (ts.foldl (Test.connect glue) t).glue? = some glue := by
  induction ts generalizing t with
  | nil => exact ht
  | cons u ts ih => exact ih rfl

/-- Joined tests stand behind one another, in parentheses where precedence asks for them. -/
theorem lexemesOf_joinTests (glue : Glue) (t : Test) (ts : List Test) :
    lexemesOf (joinTests glue (t :: ts)).tokens =
      (if !ts.isEmpty && t.glue?.any (· ≠ glue) then enclosed (lexemesOf t.tokens)
        else lexemesOf t.tokens) ++ joinedLexemes glue ts := by
  cases ts with
  | nil => simp [joinTests, joinedLexemes]
  | cons u ts =>
    rw [joinTests, List.foldl_cons, lexemesOf_foldl_connect glue ts rfl, lexemesOf_connect]
    simp [joinedLexemes]

end Sql.Test

namespace Predicate

/-- The members of a group become tests one by one. -/
theorem tests_eq_map (ps : List Predicate) : tests ps = ps.map test := by
  induction ps with
  | nil => rfl
  | cons p ps ih => rw [tests, ih]; rfl

mutual

/-- A condition and its test are joined in the same way, if they are. -/
theorem glue?_test : (p : Predicate) → p.test.glue? = p.glue?
  | .rule column operator value => by cases operator <;> rfl
  | .noRelation column target => rfl
  | .group glue [] => rfl
  | .group glue [p] => glue?_test p
  | .group glue (p :: q :: ps) => by
    have hfirst : (Test.connect glue p.test q.test).glue? = some glue := rfl
    exact Test.glue?_foldl_connect glue (tests ps) hfirst

end

mutual

/-- **The text of a condition has the lexemes of its tree.** -/
theorem lexemesOf_test : (p : Predicate) → lexemesOf p.test.tokens = p.lexemes
  | .rule column operator value => by
    rw [test, Operator.lexemesOf_test, Column.lexemesOf_scalar, lexemes]
  | .noRelation column target => by
    simp [test, lexemes, targetLexemes, Test.glue?, Test.tokens, Scalar.tokens, glueWord, pointed]
  | .group glue [] => rfl
  | .group glue (p :: ps) => by
    rw [test, tests, Test.lexemesOf_joinTests, lexemesOf_test p, glue?_test p,
      lexemesOf_tests glue ps, tests_eq_map, List.isEmpty_map, lexemes]

/-- The further members of a group have the lexemes of their trees. -/
theorem lexemesOf_tests (glue : Glue) :
    (ps : List Predicate) → Test.joinedLexemes glue (tests ps) = joinedLexemes glue ps
  | [] => rfl
  | p :: ps => by
    rw [tests, Test.joinedLexemes, List.flatMap_cons, lexemesOf_test p, glue?_test p,
      joinedLexemes, ← lexemesOf_tests glue ps]
    rfl

end

/-- **The text of a condition is read back as the lexemes of its tree.** -/
theorem lex_test (p : Predicate) : lex (textOf p.test.tokens) = some p.lexemes := by
  rw [p.test.legible.lex_eq, p.lexemesOf_test]

end Predicate

/-! ### Statements -/

namespace Plan

/-- A clause has the lexemes of its body behind those of its keywords. -/
theorem lexemesOf_clause (keywords : List Token) (body : Option (List Token)) :
    lexemesOf (clause keywords body) =
      clauseLexemes (lexemesOf keywords) (body.map lexemesOf) := by
  cases body <;> simp [clause, clauseLexemes]

/-- The order of a query has the lexemes of its sort. -/
theorem lexemesOf_order (p : Plan) :
    (list? orderTokens (p.sort.map fun term => (term.column.scalar, term.direction))).map
      lexemesOf = p.orderLexemes := by
  have hterm : ∀ term : SortTerm,
      lexemesOf (orderTokens (term.column.scalar, term.direction)) = term.lexemes := by
    intro term
    simp [orderTokens, SortTerm.lexemes, Column.lexemesOf_scalar]
  unfold list? orderLexemes
  rw [List.isEmpty_map]
  split
  · rfl
  · simp [hterm, Function.comp_def]

/-- The selection of a plan's rows, with any items. -/
theorem lexemesOf_selection (p : Plan) (items : List Item) :
    lexemesOf ((p.selection items).tokens pathTokens) =
      p.rowLexemes (separated (items.map fun i => lexemesOf i.tokens)) := by
  have hitems : lexemesOf (commaSeparated (items.map Item.tokens)) =
      separated (items.map fun i => lexemesOf i.tokens) := by
    rw [lexemesOf_commaSeparated, List.map_map]
    rfl
  have hfilter : (p.condition.map Predicate.test).map Test.tokens =
      p.condition.map fun c => c.test.tokens := by
    rw [Option.map_map]
    rfl
  have hwhere : (p.condition.map fun c => c.test.tokens).map lexemesOf =
      p.condition.map Predicate.lexemes := by
    rw [Option.map_map]
    exact congrArg (p.condition.map ·) (funext Predicate.lexemesOf_test)
  have hnumber : ∀ n : Option UInt64, (n.map fun n => [natToken n.toNat]).map lexemesOf =
      n.map fun n => [Lexeme.ofNat n.toNat] := by
    intro n
    cases n <;> rfl
  have hfrom : (list? pathTokens [[p.source]]).map lexemesOf = some [.name p.source] := rfl
  simp only [Select.tokens, selection, lexemesOf_append, hitems, hfilter, lexemesOf_clause, hwhere,
    hnumber, lexemesOf_order, hfrom]
  simp [rowLexemes, clauseLexemes]

/-- The items of a query have the lexemes of its projection. -/
theorem lexemesOf_items (p : Plan) :
    separated (p.items.map fun i => lexemesOf i.tokens) = p.itemLexemes := by
  unfold items itemLexemes
  cases p.projection with
  | all => cases p.rowNumberSeed <;> rfl
  | columns names =>
    rw [List.map_map]
    rfl
  | count => rfl

/-- **A query has the lexemes of its plan**, with a counter or without. -/
theorem lexemesOf_query (p : Plan) : lexemesOf p.query.tokens = p.lexemes := by
  unfold query lexemes
  cases p.rowNumberSeed with
  | none =>
    rw [← lexemesOf_items, ← lexemesOf_selection]
    rfl
  | some seed =>
    have hitems : lexemesOf (commaSeparated (p.items.map Item.tokens)) = p.itemLexemes := by
      rw [lexemesOf_commaSeparated, List.map_map, ← lexemesOf_items]
      rfl
    have hrows : lexemesOf (Derived.rows (p.selection [.all]) "result").tokens =
        enclosed (p.rowLexemes [.mark "*"]) ++ labelLexemes "result" := by
      rw [Derived.tokens, lexemesOf_append, lexemesOf_parenthesised, lexemesOf_selection]
      rfl
    have hcounter : lexemesOf (Derived.counter "@rownum" seed "rownum").tokens =
        enclosed [.word "SELECT", .word "@rownum", .mark ":=", .ofNat seed.toNat] ++
          labelLexemes "rownum" := rfl
    simp only [Query.tokens, Select.tokens, lexemesOf_append, lexemesOf_clause, list?, hitems,
      List.isEmpty_cons, Bool.false_eq_true, if_false, List.map_cons, List.map_nil, Option.map_some,
      Option.map_none, lexemesOf_commaSeparated, hrows, hcounter]
    simp [clauseLexemes, separated]

/-- The text of a query is read back as the lexemes of its plan. -/
theorem lex_sql_eq_lexemes (p : Plan) : lex p.sql = some p.lexemes := by
  rw [p.lex_sql, p.lexemesOf_query]

end Plan

/-- The assignments of an update have the lexemes of its values. -/
theorem Update.lexemesOf_assignments (u : Update) :
    (u.statement.assignments.map fun (column, value) =>
        assignmentTokens column value).map lexemesOf =
      u.values.map fun (column, value) => [.name column, .mark "=", value.lexeme] := by
  unfold statement
  rw [List.map_map, List.map_map]
  refine List.map_congr_left fun entry _ => ?_
  simp [assignmentTokens]

/-- **An update has the lexemes of its values and its key.** -/
theorem Update.lexemesOf_statement (u : Update) : lexemesOf u.statement.tokens = u.lexemes := by
  rw [Sql.Update.tokens]
  simp only [lexemesOf_append, lexemesOf_commaSeparated, lexemesOf_assignments]
  simp [statement, assignmentTokens, lexemes]

end Fieldwork
