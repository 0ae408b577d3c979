import Fieldwork.Proofs.Plan.Compile
import Fieldwork.Proofs.Sql.Precedence

/-!
# What conditions mean in SQL

A condition of a statement has one of three values, given those of its atoms. Read by precedence,
the text of a query has for every assignment of values the value of the condition tree that it was
written from.

* `Predicate.value_formula`: the tree of the written test has the value of the condition.
* `where_means_condition`: the WHERE text of a query means its condition.
-/

namespace Fieldwork

open Sql

/-! ## Three values -/

/-- What a condition says of a row: a comparison with null is neither true nor false. -/
inductive Truth where
  | yes
  | no
  | unknown
  deriving DecidableEq, Repr

namespace Truth

/-- AND fails where one side fails and OR holds where one side holds; otherwise what is unknown
spreads. -/
def join : Glue → Truth → Truth → Truth
  | .and, .no, _ | .and, _, .no => .no
  | .and, .yes, t | .and, t, .yes => t
  | .or, .yes, _ | .or, _, .yes => .yes
  | .or, .no, t | .or, t, .no => t
  | _, .unknown, .unknown => .unknown

/-- The value of a group without members. -/
def unit : Glue → Truth
  | .and => .yes
  | .or => .no

/-- All of the values joined, the last one to the value of a group without members. -/
def joinAll (glue : Glue) : List Truth → Truth
  | [] => unit glue
  | t :: ts => join glue t (joinAll glue ts)

theorem join_assoc (glue : Glue) (a b c : Truth) :
    join glue (join glue a b) c = join glue a (join glue b c) := by
  cases glue <;> cases a <;> cases b <;> cases c <;> rfl

theorem join_unit (glue : Glue) (a : Truth) : join glue a (unit glue) = a := by
  cases glue <;> cases a <;> rfl

end Truth

/-! ## Values of conditions -/

/-- An assignment of values to atoms. -/
abbrev Sql.Assignment := List Lexeme → Truth

/-- The value of a formula when each of its atoms has one. -/
def Sql.Formula.value (v : Assignment) : Formula → Truth
  | .atom ls => v ls
  | .connect glue left right => Truth.join glue (left.value v) (right.value v)

namespace Predicate

mutual

/-- The value of a condition tree. Emptiness and a missing relation are each two atoms. -/
def value (v : Assignment) : Predicate → Truth
  | .rule column .isEmpty _ =>
    Truth.join .or (v (column.lexemes ++ [.word "IS", .word "NULL"]))
      (v (column.lexemes ++ [.mark "=", .text ""]))
  | .rule column .isNotEmpty _ =>
    Truth.join .and (v (column.lexemes ++ [.word "IS", .word "NOT", .word "NULL"]))
      (v (column.lexemes ++ [.mark "<>", .text ""]))
  | .rule column operator operand => v (operator.lexemes column.lexemes operand)
  | .noRelation column target =>
    Truth.join .or (v [.name column, .word "IS", .word "NULL"])
      (v ([.name column, .word "NOT", .word "IN"] ++ enclosed (targetLexemes target)))
  | .group glue members => Truth.joinAll glue (values v members)

def values (v : Assignment) : List Predicate → List Truth
  | [] => []
  | p :: ps => value v p :: values v ps

end

/-! ### The value of the written test -/

/-- Tests joined from left to right have the joined value, since joining is associative. -/
theorem value_foldl_connect (v : Assignment) (glue : Glue) (ts : List Test) (t : Test) :
    (ts.foldl (Test.connect glue) t).formula.value v =
      Truth.join glue (t.formula.value v)
        (Truth.joinAll glue (ts.map fun u => u.formula.value v)) := by
  induction ts generalizing t with
  | nil => exact (Truth.join_unit glue _).symm
  | cons u ts ih =>
    rw [List.foldl_cons, ih, List.map_cons, Truth.joinAll, ← Truth.join_assoc]
    rfl

/-- The formula of a rule has the value of the rule, whether it is one atom or two. -/
theorem value_rule (v : Assignment) (column : Column) (operator : Operator) (operand : Json) :
    (operator.test column.scalar operand).formula.value v =
      value v (.rule column operator operand) := by
  have hatom := Operator.lexemesOf_test operator column.scalar operand
  rw [Column.lexemesOf_scalar] at hatom
  cases operator with
  | isEmpty | isNotEmpty =>
    simp [Operator.test, Test.formula, Formula.value, value, Test.tokens, Literal.tokens,
      Comparison.tokens, Column.lexemesOf_scalar]
  | _ => exact congrArg v hatom

mutual

/-- **The tree of the written test has the value of the condition.** -/
theorem value_formula (v : Assignment) :
    (p : Predicate) → p.filled → p.test.formula.value v = p.value v
  | .rule column operator operand, _ => value_rule v column operator operand
  | .noRelation column target, _ => by
    simp [test, Test.formula, Formula.value, value, Test.tokens, Scalar.tokens, pointed,
      targetLexemes]
  | .group glue [], h => absurd h (by simp [filled])
  | .group glue (p :: ps), h => by
    -- the first member is the start of the fold, the others are joined to it one by one
    obtain ⟨hp, hps⟩ := Bool.and_eq_true_iff.mp h
    rw [test, tests, joinTests, value_foldl_connect, value_formula v p hp, values_formula v ps hps,
      value, values, Truth.joinAll]

/-- The formulas of a group's members have the values of the members. -/
theorem values_formula (v : Assignment) :
    (ps : List Predicate) → filledAll ps →
      (tests ps).map (fun t => t.formula.value v) = values v ps
  | [], _ => rfl
  | p :: ps, h => by
    obtain ⟨hp, hps⟩ := Bool.and_eq_true_iff.mp h
    rw [tests, List.map_cons, values, value_formula v p hp, values_formula v ps hps]

end

end Predicate

/-! ## The WHERE text of a query -/

/-- The condition behind the first WHERE of a statement. -/
def Sql.readWhere (sql : String) : Option Formula :=
  (lex sql).bind fun ls =>
    match ls.dropWhile (· ≠ .word "WHERE") with
    | _ :: condition => read condition {} []
    | [] => none

namespace Plan

variable {p : Plan} {c : Predicate}

/-- The clauses behind the condition. -/
def lastLexemes (p : Plan) : List Lexeme :=
  clauseLexemes [.word "ORDER", .word "BY"] p.orderLexemes ++
    clauseLexemes [.word "LIMIT"] (p.limitClause.map fun n => [.ofNat n.toNat]) ++
    clauseLexemes [.word "OFFSET"] (p.offset.map fun n => [.ofNat n.toNat])

/-- The condition of a selection stands behind its WHERE. -/
theorem rowLexemes_eq (hc : p.condition = some c) (items : List Lexeme) :
    p.rowLexemes items = (.word "SELECT" :: items ++ [.word "FROM", .name p.source]) ++
      .word "WHERE" :: (c.lexemes ++ p.lastLexemes) := by
  simp [rowLexemes, lastLexemes, hc, clauseLexemes]

/-- A clause behind a condition ends it, and so does what follows if the clause is not there. -/
theorem conditionEnds_clause {l : Lexeme} (hl : endsCondition l) (keywords : List Lexeme)
    (body : Option (List Lexeme)) {rest : List Lexeme} (h : ConditionEnds rest) :
    ConditionEnds (clauseLexemes (l :: keywords) body ++ rest) := by
  cases body with
  | none => exact h
  | some ls =>
    intro k hk
    cases hk
    exact Or.inr hl

/-- **The clauses of a selection end its condition.** -/
theorem conditionEnds_lastLexemes (p : Plan) {rest : List Lexeme} (h : ConditionEnds rest) :
    ConditionEnds (p.lastLexemes ++ rest) := by
  unfold lastLexemes
  rw [List.append_assoc, List.append_assoc]
  exact conditionEnds_clause (by decide) _ _
    (conditionEnds_clause (by decide) _ _ (conditionEnds_clause (by decide) _ _ h))

/-- No item of a query holds the word WHERE. -/
theorem where_not_mem_items (p : Plan) : .word "WHERE" ∉ p.itemLexemes := by
  unfold itemLexemes
  cases p.projection with
  | all =>
    dsimp only
    split <;> decide
  | columns names =>
    refine Sql.word_not_mem_separated fun part hpart => ?_
    obtain ⟨name, -, rfl⟩ := List.mem_map.mp hpart
    simp
  | count =>
    dsimp only
    decide

/-- A condition is read as the tree of its test, wherever the rows of the plan are selected. -/
theorem read_rows (hc : p.condition = some c) {front items back : List Lexeme}
    (hfront : .word "WHERE" ∉ front) (hitems : .word "WHERE" ∉ items) (hback : ConditionEnds back)
    {sql : String} (hsql : lex sql = some (front ++ (p.rowLexemes items ++ back))) :
    readWhere sql = some c.test.formula := by
  -- nothing before the condition is the word it is looked for behind
  let before := front ++ (.word "SELECT" :: items ++ [.word "FROM", .name p.source])
  have hsplit : front ++ (p.rowLexemes items ++ back) =
      before ++ .word "WHERE" :: (c.lexemes ++ (p.lastLexemes ++ back)) := by
    simp [before, rowLexemes_eq hc]
  have hbefore : ∀ l ∈ before, decide (l ≠ .word "WHERE") = true := by
    intro l hl
    rw [decide_eq_true_iff]
    rintro rfl
    simp [before, hfront, hitems] at hl
  have hdrop : (before ++ .word "WHERE" :: (c.lexemes ++ (p.lastLexemes ++ back))).dropWhile
      (· ≠ .word "WHERE") = .word "WHERE" :: (c.lexemes ++ (p.lastLexemes ++ back)) := by
    rw [List.dropWhile_append_of_pos hbefore, List.dropWhile_cons_of_neg (by simp)]
  rw [readWhere, hsql, hsplit, Option.bind_some, hdrop]
  simp only
  rw [← Predicate.lexemesOf_test, read_condition c.test (p.conditionEnds_lastLexemes hback)]

/-- **The WHERE text of a plan is read as the tree of its test.** -/
theorem readWhere_sql (hc : p.condition = some c) : readWhere p.sql = some c.test.formula := by
  have hlex := p.lex_sql_eq_lexemes
  unfold lexemes at hlex
  cases hseed : p.rowNumberSeed with
  | none =>
    have hsql : lex p.sql = some ([] ++ (p.rowLexemes p.itemLexemes ++ [])) := by
      rw [hlex, hseed, List.nil_append, List.append_nil]
    exact read_rows hc (by simp) p.where_not_mem_items (by simp [ConditionEnds]) hsql
  -- the rows are selected in parentheses, which close behind them
  | some seed =>
    have hsql : lex p.sql = some
        ((.word "SELECT" :: p.itemLexemes ++ [.word "FROM", .mark "("]) ++
          (p.rowLexemes [.mark "*"] ++ .mark ")" :: (labelLexemes "result" ++ .mark "," ::
            enclosed [.word "SELECT", .word "@rownum", .mark ":=", .ofNat seed.toNat] ++
            labelLexemes "rownum"))) := by
      rw [hlex, hseed]
      simp [enclosed]
    refine read_rows hc ?_ (by simp) (by simp [ConditionEnds]) hsql
    simp [p.where_not_mem_items]

end Plan

/-- **The WHERE text of a query means its condition.** -/
theorem where_means_condition {o : Object} {options : Options} {u : User} {p : Plan}
    {c : Predicate} (h : Plan.compile o options u = .ok p) (hc : p.condition = some c) :
    ∃ f, readWhere p.sql = some f ∧ ∀ v, f.value v = c.value v :=
  ⟨c.test.formula, Plan.readWhere_sql hc, fun v =>
    Predicate.value_formula v c (Plan.filled_of_compile h hc)⟩

/-- Red parts that are without a note and larger than three. -/
theorem where_means_condition_parts :
    let parts : Object :=
      { id := "parts", schema := "shop", table := "Parts", view := none, primaryKey := "uuid"
        fields := [], condition := some (.rule ⟨"colour", .equals, .string "red"⟩) }
    let options : Options :=
      { condition := some (.group .or [.group .and [], .group .and
          [.rule ⟨"note", .isEmpty, .null⟩, .rule ⟨"size", .greater, .ofNat 3⟩]]) }
    let condition : Predicate :=
      .group .and [.rule (.ofPath "colour") .equals (.string "red"), .group .or [.group .and
        [.rule (.ofPath "note") .isEmpty .null, .rule (.ofPath "size") .greater (.ofNat 3)]]]
    let plan : Plan :=
      { source := "Parts", condition := some condition, rowNumberSeed := some 0 }
    Plan.compile parts options {} = .ok plan ∧
      ∃ f, readWhere plan.sql = some f ∧ ∀ v, f.value v = condition.value v := by
  intro parts options condition plan
  have hcompile : Plan.compile parts options {} = .ok plan := rfl
  exact ⟨hcompile, where_means_condition hcompile rfl⟩

/-- AND binds tighter than OR. -/
example : readWhere "SELECT * FROM t WHERE a = 1 OR b = 2 AND NOT_C ORDER BY a" =
    some (.connect .or (.atom [.word "a", .mark "=", .number "1"])
      (.connect .and (.atom [.word "b", .mark "=", .number "2"]) (.atom [.word "NOT_C"]))) := by
  decide

end Fieldwork
