import Fieldwork.Proofs.Sql.Written

/-!
# Reading conditions by precedence

A reader for the conditions of statements. Parentheses come first; a comparison and whatever else
is neither AND nor OR is an atom; AND binds tighter than OR. It takes one lexeme at a time and keeps
a level for every open parenthesis, so it knows nothing of how a condition was written.

* `Balanced`: lexemes that stay inside one atom.
* `Composed`: what holds of the parts of an expression and so of the whole, such as being balanced.
* `read_condition`: at the start of a level a test is read as its own tree, however it is nested.
-/

namespace Fieldwork.Sql

/-- A condition as it is read. -/
inductive Formula where
  | atom (ls : List Lexeme)
  | connect (glue : Glue) (left right : Formula)
  deriving DecidableEq, Repr

/-- The operand being read: none yet, an atom in reverse with its open parentheses, or a formula in
parentheses that is complete. -/
inductive Operand where
  | none
  | atom (read : List Lexeme) (depth : Nat)
  | group (f : Formula)

/-- Where the reader is between two parentheses: what was read before the last OR, what was read
since then before the last AND, and the operand behind that. -/
structure Level where
  ors : Option Formula := none
  ands : Option Formula := none
  operand : Operand := .none

/-- Joins a formula to what stands before it, if anything does. -/
def Formula.after (glue : Glue) (f : Formula) : Option Formula → Formula
  | none => f
  | some e => .connect glue e f

/-- The formula of an operand that is complete: no parenthesis in it is still open. -/
def Operand.formula? : Operand → Option Formula
  | .atom read 0 => some (.atom read.reverse)
  | .group f => some f
  | .atom _ _ | .none => Option.none

/-- What stands between the last OR and here. -/
def Level.conjunction? (lv : Level) : Option Formula :=
  lv.operand.formula?.map fun f => f.after .and lv.ands

/-- All that stands on the level. -/
def Level.formula? (lv : Level) : Option Formula :=
  lv.conjunction?.map fun f => f.after .or lv.ors

/-- The words that end a condition. -/
def endsCondition (l : Lexeme) : Bool :=
  l == .word "ORDER" || l == .word "LIMIT" || l == .word "OFFSET"

/-- The depth of parentheses behind a lexeme. -/
def depthAfter (depth : Nat) (l : Lexeme) : Nat :=
  if l = .mark "(" then depth + 1 else if l = .mark ")" then depth - 1 else depth

/-- Reads on to the end of the condition: the end of the text, a word that begins the next clause,
or the parenthesis that closes the whole query. -/
def read : List Lexeme → Level → List Level → Option Formula
  | [], lv, outer => if outer.isEmpty then lv.formula? else none
  | l :: ls, lv, outer =>
    match lv.operand with
    | .atom acc (depth + 1) =>
      read ls { lv with operand := .atom (l :: acc) (depthAfter (depth + 1) l) } outer
    | operand =>
      if l = .mark ")" then
        match outer with
        | [] => lv.formula?
        | above :: outer =>
          lv.formula?.bind fun f => read ls { above with operand := .group f } outer
      else if l = .word "AND" then
        lv.conjunction?.bind fun f => read ls { lv with ands := some f, operand := .none } outer
      else if l = .word "OR" then
        lv.formula?.bind fun f => read ls { ors := some f } outer
      else if endsCondition l then
        if outer.isEmpty then lv.formula? else none
      else match operand with
        | .none =>
          if l = .mark "(" then read ls {} (lv :: outer)
          else read ls { lv with operand := .atom [l] 0 } outer
        | .atom acc depth =>
          read ls { lv with operand := .atom (l :: acc) (depthAfter depth l) } outer
        | .group _ => none

/-! ## Atoms -/

/-- The lexeme ends an atom that has no open parenthesis. -/
def endsAtom (l : Lexeme) : Bool :=
  l == .mark ")" || l == .word "AND" || l == .word "OR" || endsCondition l

/-- The depth behind lexemes that stay inside an atom. -/
def walk : Nat → List Lexeme → Option Nat
  | depth, [] => some depth
  | 0, l :: ls => if endsAtom l then none else walk (depthAfter 0 l) ls
  | depth + 1, l :: ls => walk (depthAfter (depth + 1) l) ls

/-- The depth behind two parts is reached part by part. -/
theorem walk_append (a b : List Lexeme) (depth : Nat) :
    walk depth (a ++ b) = (walk depth a).bind fun d => walk d b := by
  induction a generalizing depth with
  | nil => rfl
  | cons l a ih =>
    cases depth with
    | zero =>
      rw [List.cons_append, walk, walk]
      split
      · rfl
      · exact ih _
    | succ depth => exact ih _

/-- Lexemes that stay inside an atom and leave no parenthesis open. -/
def Balanced (ls : List Lexeme) : Prop :=
  ∀ depth, walk depth ls = some depth

namespace Balanced

variable {a b ls : List Lexeme}

theorem nil : Balanced [] := fun _ => rfl

/-- Balanced parts are balanced together. -/
theorem append (ha : Balanced a) (hb : Balanced b) : Balanced (a ++ b) := by
  intro depth
  rw [walk_append, ha depth, Option.bind_some, hb depth]

/-- A lexeme that ends no atom and opens nothing is balanced by itself. -/
theorem plain {l : Lexeme} (h : endsAtom l = false ∧ l ≠ .mark "(") : Balanced [l] := by
  obtain ⟨hends, hopen⟩ := h
  have hclose : l ≠ .mark ")" := by
    rintro rfl
    exact absurd hends (by decide)
  have hdepth : ∀ depth, depthAfter depth l = depth := by
    intro depth
    rw [depthAfter, if_neg hopen, if_neg hclose]
  intro depth
  cases depth with
  | zero => simp [walk, hends, hdepth]
  | succ depth => simp [walk, hdepth]

/-- Inside of parentheses the words that connect or end conditions are as good as any. -/
theorem parenthesised (h : ∀ depth, walk (depth + 1) ls = some (depth + 1)) :
    Balanced (.mark "(" :: ls ++ [.mark ")"]) := by
  intro depth
  have hopen : ∀ ks, walk depth (.mark "(" :: ks) = walk (depth + 1) ks := by
    intro ks
    cases depth <;> rfl
  rw [List.cons_append, hopen, walk_append, h depth]
  rfl

end Balanced

/-- Balanced lexemes belong to the atom that is being read. -/
theorem read_balanced {ls : List Lexeme} {depth depth' : Nat} (h : walk depth ls = some depth')
    (lv : Level) (acc : List Lexeme) (outer : List Level) (rest : List Lexeme) :
    read (ls ++ rest) { lv with operand := .atom acc depth } outer =
      read rest { lv with operand := .atom (ls.reverse ++ acc) depth' } outer := by
  induction ls generalizing depth acc with
  | nil =>
    cases h
    rfl
  | cons l ls ih =>
    rw [List.cons_append, List.reverse_cons, List.append_assoc, List.singleton_append]
    cases depth with
    -- outside of parentheses the atom goes on because `l` does not end it
    | zero =>
      rw [walk] at h
      by_cases hends : endsAtom l
      · rw [if_pos hends] at h
        exact absurd h (by simp)
      · rw [if_neg hends] at h
        simp only [endsAtom, Bool.or_eq_true, beq_iff_eq, not_or] at hends
        obtain ⟨⟨⟨hclose, hand⟩, hor⟩, hcond⟩ := hends
        rw [← ih h]
        simp only [read, hclose, hand, hor, hcond, if_false, Bool.false_eq_true]
    | succ depth =>
      rw [walk] at h
      rw [← ih h]
      rfl

/-- Balanced lexemes that an atom can begin with. -/
structure Atomic (ls : List Lexeme) : Prop where
  balanced : Balanced ls
  ne_nil : ls ≠ []
  unopened : ls.head? ≠ some (.mark "(")

/-- Where an operand is due, an atom becomes that operand. -/
theorem read_atomic {ls : List Lexeme} (h : Atomic ls) {lv : Level} (hlv : lv.operand = .none)
    (outer : List Level) (rest : List Lexeme) :
    read (ls ++ rest) lv outer =
      read rest { lv with operand := .atom ls.reverse 0 } outer := by
  obtain ⟨hbal, hne, hopen⟩ := h
  obtain ⟨l, ls, rfl⟩ := List.exists_cons_of_ne_nil hne
  have hl : l ≠ .mark "(" := fun heq => hopen (by rw [heq]; rfl)
  have hwalk := hbal 0
  rw [walk] at hwalk
  by_cases hends : endsAtom l
  · rw [if_pos hends] at hwalk
    exact absurd hwalk (by simp)
  · rw [if_neg hends] at hwalk
    simp only [endsAtom, Bool.or_eq_true, beq_iff_eq, not_or] at hends
    obtain ⟨⟨⟨hclose, hand⟩, hor⟩, hcond⟩ := hends
    have hdepth : depthAfter 0 l = 0 := by rw [depthAfter, if_neg hl, if_neg hclose]
    rw [hdepth] at hwalk
    rw [List.cons_append, List.reverse_cons, ← read_balanced hwalk]
    simp only [read, hlv, hclose, hand, hor, hcond, hl, if_false, Bool.false_eq_true]

/-! ### Expressions by their parts -/

/-- A number ends no atom. -/
theorem plain_ofNumber (n : Number) :
    endsAtom (.ofNumber n) = false ∧ Lexeme.ofNumber n ≠ .mark "(" := by
  unfold Lexeme.ofNumber
  rcases ofRun_numberChars n with ⟨s, h⟩ | h
  · rw [h]
    exact ⟨rfl, by simp⟩
  · simp only [List.mem_cons, List.not_mem_nil, or_false] at h
    rcases h with h | h <;> rw [h] <;> decide

theorem plain_name (s : String) :
    endsAtom (.name s) = false ∧ Lexeme.name s ≠ .mark "(" :=
  ⟨rfl, by simp⟩

theorem plain_text (s : String) :
    endsAtom (.text s) = false ∧ Lexeme.text s ≠ .mark "(" :=
  ⟨rfl, by simp⟩

/-- What the parts have, and a comma between two keeps, the list of them has. -/
theorem separated_induction {P : List Lexeme → Prop} (hnil : P [])
    (hcomma : ∀ a b, P a → P b → P (a ++ .mark "," :: b)) {parts : List (List Lexeme)}
    (h : ∀ part ∈ parts, P part) : P (separated parts) := by
  match parts with
  | [] => exact hnil
  | [part] => exact h part (by simp)
  | part :: next :: parts =>
    have hrest : P (separated (next :: parts)) :=
      separated_induction hnil hcomma fun q hq => h q (List.mem_cons_of_mem part hq)
    exact hcomma _ _ (h part (by simp)) hrest

/-- Commas bring no word in. -/
theorem word_not_mem_separated {w : String} {parts : List (List Lexeme)}
    (h : ∀ part ∈ parts, .word w ∉ part) : .word w ∉ separated parts :=
  separated_induction (by simp) (fun a b ha hb => by simp [ha, hb]) h

/-- A property of lexemes that the parts of an expression hand on to the whole. -/
structure Composed (P : List Lexeme → Prop) : Prop where
  nil : P []
  append {a b : List Lexeme} : P a → P b → P (a ++ b)
  plain {l : Lexeme} : endsAtom l = false ∧ l ≠ .mark "(" → P [l]
  enclosed {ls : List Lexeme} : P ls → P (enclosed ls)

namespace Composed

variable {P : List Lexeme → Prop}

theorem cons (h : Composed P) {l : Lexeme} {ls : List Lexeme}
    (hl : endsAtom l = false ∧ l ≠ .mark "(") (hls : P ls) : P (l :: ls) :=
  h.append (h.plain hl) hls

/-- What is composed of its parts holds with commas between them. -/
theorem separated (h : Composed P) {parts : List (List Lexeme)}
    (hparts : ∀ part ∈ parts, P part) : P (Sql.separated parts) :=
  separated_induction h.nil (fun _ _ ha hb => h.append ha (h.cons (by decide) hb)) hparts

theorem pointed (h : Composed P) (parts : List String) : P (Sql.pointed parts) := by
  match parts with
  | [] => exact h.nil
  | [part] => exact h.plain (plain_name part)
  | part :: next :: parts =>
    exact h.cons (plain_name part) (h.cons (by decide) (h.pointed (next :: parts)))

theorem literal (h : Composed P) (l : Literal) : P (lexemesOf l.tokens) := by
  cases l with
  | null => exact h.plain (by decide)
  | bool b => cases b <;> exact h.plain (by decide)
  | number n => exact h.plain (plain_ofNumber n)
  | text s => exact h.plain (plain_text s)

mutual

/-- **What is composed of its parts holds of every expression.** -/
theorem scalar (h : Composed P) : (e : Scalar) → P (lexemesOf e.tokens)
  | .column path => by
    rw [Scalar.tokens, lexemesOf_pathTokens]
    exact h.pointed path
  | .literal l => h.literal l
  | .call function arguments => by
    rw [lexemesOf_call, called]
    refine h.cons ?_ (h.enclosed (h.separated (h.arguments arguments)))
    cases function <;> decide

theorem arguments (h : Composed P) :
    (es : List Scalar) → ∀ part ∈ (Scalar.argumentTokens es).map lexemesOf, P part
  | [] => by simp [Scalar.argumentTokens]
  | e :: es => by
    intro part hpart
    rw [Scalar.argumentTokens, List.map_cons] at hpart
    rcases List.mem_cons.mp hpart with rfl | hpart
    · exact h.scalar e
    · exact h.arguments es part hpart

end

theorem comparison (h : Composed P) (operator : Comparison) : P (lexemesOf operator.tokens) := by
  cases operator with
  | notLike => exact h.cons (by decide) (h.plain (by decide))
  | _ => exact h.plain (by decide)

theorem negation (h : Composed P) (negated : Bool) :
    P (if negated then [.word "NOT"] else []) := by
  cases negated with
  | true => exact h.plain (by decide)
  | false => exact h.nil

/-- A test without an AND or OR of its own. -/
theorem test (h : Composed P) {t : Test} (ht : t.glue? = none) : P (lexemesOf t.tokens) := by
  cases t with
  | truth b => cases b <;> exact h.plain (by decide)
  | compare operator left right =>
    have hlexemes : lexemesOf (Test.compare operator left right).tokens =
        lexemesOf left.tokens ++ (lexemesOf operator.tokens ++ lexemesOf right.tokens) := by
      simp [Test.tokens]
    rw [hlexemes]
    exact h.append (h.scalar left) (h.append (h.comparison operator) (h.literal right))
  | isNull negated operand =>
    have hnull := h.append (h.negation negated) (h.plain (l := .word "NULL") (by decide))
    rw [Test.lexemesOf_isNull]
    exact h.append (h.scalar operand) (h.cons (by decide) hnull)
  | among negated operand values =>
    rw [Test.lexemesOf_among]
    by_cases hvalues : values.isEmpty
    · rw [if_pos hvalues]
      exact h.cons (plain_ofNumber _) (h.cons (by decide) (h.plain (plain_ofNumber _)))
    · rw [if_neg hvalues]
      have hliterals : ∀ part ∈ values.map fun l => lexemesOf l.tokens, P part := by
        intro part hpart
        obtain ⟨l, -, rfl⟩ := List.mem_map.mp hpart
        exact h.literal l
      have hin := h.cons (l := .word "IN") (by decide) (h.enclosed (h.separated hliterals))
      exact h.append (h.scalar operand) (h.append (h.negation negated) hin)
  | unlinked operand column table =>
    have htarget : P (.word "SELECT" :: .name column :: .word "FROM" :: Sql.pointed table) :=
      h.cons (by decide) (h.cons (plain_name column) (h.cons (by decide) (h.pointed table)))
    rw [Test.lexemesOf_unlinked]
    exact h.append (h.scalar operand)
      (h.cons (by decide) (h.cons (by decide) (h.enclosed htarget)))
  | connect glue left right => cases ht

end Composed

/-- Being balanced is composed of the parts. -/
theorem Balanced.composed : Composed Balanced where
  nil := .nil
  append := .append
  plain := .plain
  enclosed h := .parenthesised fun depth => h (depth + 1)

/-! ### Atoms of tests -/

/-- No expression starts with a parenthesis, so it is no group. -/
theorem Scalar.unopened (e : Scalar) : (lexemesOf e.tokens).head? ≠ some (.mark "(") := by
  cases e with
  | column path =>
    rw [Scalar.tokens, lexemesOf_pathTokens]
    match path with
    | [] => simp [pointed]
    | [part] => simp [pointed]
    | part :: next :: path => simp [pointed]
  | literal l =>
    cases l with
    | number n =>
      intro h
      exact (plain_ofNumber n).2 (Option.some.inj h)
    | _ => simp [Scalar.tokens, Literal.tokens]
  | call function arguments => simp [lexemesOf_call, called]

/-- Balanced lexemes that begin with an operand are an atom. -/
theorem Atomic.behind (e : Scalar) {l : Lexeme} {ls : List Lexeme}
    (h : Balanced (lexemesOf e.tokens ++ l :: ls)) (hl : l ≠ .mark "(") :
    Atomic (lexemesOf e.tokens ++ l :: ls) where
  balanced := h
  ne_nil := by simp
  unopened := by
    have he := e.unopened
    cases hhead : (lexemesOf e.tokens) with
    | nil => simpa using hl
    | cons k ks =>
      rw [hhead] at he
      simpa using he

/-- The signs and words of a comparison do not begin with a parenthesis. -/
theorem Comparison.begins (operator : Comparison) : ∃ l ls,
    lexemesOf operator.tokens = l :: ls ∧ l ≠ .mark "(" := by
  cases operator <;> exact ⟨_, _, rfl, by decide⟩

/-- A test without an AND or OR of its own is an atom. -/
theorem Test.atomic {t : Test} (h : t.glue? = none) : Atomic (lexemesOf t.tokens) := by
  have hbal := Balanced.composed.test h
  cases t with
  | truth b => cases b <;> exact ⟨hbal, by simp [Test.tokens], by simp [Test.tokens]⟩
  | compare operator left right =>
    obtain ⟨l, ls, hop, hl⟩ := operator.begins
    have hlexemes : lexemesOf (Test.compare operator left right).tokens =
        lexemesOf left.tokens ++ l :: (ls ++ lexemesOf right.tokens) := by
      simp [Test.tokens, hop]
    rw [hlexemes] at hbal ⊢
    exact .behind left hbal hl
  | isNull negated operand =>
    rw [Test.lexemesOf_isNull] at hbal ⊢
    exact .behind operand hbal (by decide)
  | among negated operand values =>
    rw [Test.lexemesOf_among] at hbal ⊢
    by_cases hvalues : values.isEmpty
    · rw [if_pos hvalues] at hbal ⊢
      exact ⟨hbal, by simp, fun h => (plain_ofNumber _).2 (Option.some.inj h)⟩
    · rw [if_neg hvalues] at hbal ⊢
      cases negated with
      | true => exact .behind operand hbal (by decide)
      | false => exact .behind operand hbal (by decide)
  | unlinked operand column table =>
    rw [Test.lexemesOf_unlinked] at hbal ⊢
    exact .behind operand hbal (by decide)
  | connect glue left right => cases h

/-! ## Tests -/

/-- The tree of a test. -/
def Test.formula : Test → Formula
  | .connect glue left right => .connect glue left.formula right.formula
  | t => .atom (lexemesOf t.tokens)

/-- A test as it stands behind a word that connects, or behind a parenthesis. -/
def Test.operandLexemes (t : Test) : List Lexeme :=
  if t.glue?.isSome then enclosed (lexemesOf t.tokens) else lexemesOf t.tokens

/-- A test that is not joined is one atom. -/
theorem Test.formula_of_glue?_none {t : Test} (h : t.glue? = none) :
    t.formula = .atom (lexemesOf t.tokens) := by
  cases t with
  | connect glue left right => exact absurd h (by simp [Test.glue?])
  | _ => rfl

/-- The level has read a test that is written with that glue, and no other glue on the level. -/
structure Level.Reads (lv : Level) (f : Formula) (glue : Option Glue) : Prop where
  formula : lv.formula? = some f
  ors : glue ≠ some .or → lv.ors = none
  ands : glue ≠ some .and → lv.ands = none

/-! ### Steps behind a complete operand -/

section Steps

variable {lv : Level} {f : Formula}

/-- A level that can be closed has read an atom or a group last. -/
theorem Level.complete_cases (h : lv.conjunction? = some f) :
    (∃ acc, lv.operand = .atom acc 0) ∨ ∃ g, lv.operand = .group g := by
  unfold Level.conjunction? at h
  cases hop : lv.operand with
  | none => rw [hop] at h; exact absurd h (by simp [Operand.formula?])
  | atom acc depth =>
    cases depth with
    | zero => exact Or.inl ⟨acc, rfl⟩
    | succ depth => rw [hop] at h; exact absurd h (by simp [Operand.formula?])
  | group g => exact Or.inr ⟨g, rfl⟩

theorem Level.conjunction?_of_formula? (h : lv.formula? = some f) :
    ∃ g, lv.conjunction? = some g ∧ f = g.after .or lv.ors := by
  obtain ⟨g, hg, rfl⟩ := Option.map_eq_some_iff.mp h
  exact ⟨g, hg, rfl⟩

/-- A closing parenthesis makes a group of what was read inside. -/
theorem read_close (h : lv.formula? = some f) (above : Level) (outer : List Level)
    (rest : List Lexeme) :
    read (.mark ")" :: rest) lv (above :: outer) =
      read rest { above with operand := .group f } outer := by
  obtain ⟨g, hg, -⟩ := Level.conjunction?_of_formula? h
  rcases Level.complete_cases hg with ⟨acc, hop⟩ | ⟨e, hop⟩ <;> simp [read, hop, h]

/-- AND ends an operand and waits for the next. -/
theorem read_and (h : lv.conjunction? = some f) (outer : List Level) (rest : List Lexeme) :
    read (.word "AND" :: rest) lv outer =
      read rest { lv with ands := some f, operand := .none } outer := by
  rcases Level.complete_cases h with ⟨acc, hop⟩ | ⟨e, hop⟩ <;> simp [read, hop, h]

/-- OR ends a conjunction, which binds more tightly. -/
theorem read_or (h : lv.formula? = some f) (outer : List Level) (rest : List Lexeme) :
    read (.word "OR" :: rest) lv outer = read rest { ors := some f } outer := by
  obtain ⟨g, hg, -⟩ := Level.conjunction?_of_formula? h
  rcases Level.complete_cases hg with ⟨acc, hop⟩ | ⟨e, hop⟩ <;> simp [read, hop, h]

/-- What can stand behind a condition: the end, another clause or the parenthesis of the query. -/
def ConditionEnds (rest : List Lexeme) : Prop :=
  ∀ l ∈ rest.head?, l = .mark ")" ∨ endsCondition l

/-- What follows a condition ends it. -/
theorem read_end (h : lv.formula? = some f) {rest : List Lexeme} (hrest : ConditionEnds rest) :
    read rest lv [] = some f := by
  obtain ⟨g, hg, -⟩ := Level.conjunction?_of_formula? h
  cases rest with
  | nil => simp [read, h]
  -- the parenthesis of the query, or the first word of another clause
  | cons l rest =>
    rcases hrest l rfl with rfl | hl
    · rcases Level.complete_cases hg with ⟨acc, hop⟩ | ⟨e, hop⟩ <;> simp [read, hop, h]
    · simp only [endsCondition, Bool.or_eq_true, beq_iff_eq] at hl
      rcases Level.complete_cases hg with ⟨acc, hop⟩ | ⟨e, hop⟩ <;>
        rcases hl with (rfl | rfl) | rfl <;> simp [read, hop, h, endsCondition]

end Steps

/-! ### Whole tests -/

/-- An opening parenthesis, where an operand is due, begins a level. -/
theorem read_open {lv : Level} (h : lv.operand = .none) (outer : List Level)
    (rest : List Lexeme) : read (.mark "(" :: rest) lv outer = read rest {} (lv :: outer) := by
  simp [read, h, endsCondition]

/-- The test is read as its own tree at the start of every level. -/
def Test.ReadsBack (t : Test) : Prop :=
  ∀ outer rest, ∃ lv : Level, lv.Reads t.formula t.glue? ∧
    read (lexemesOf t.tokens ++ rest) {} outer = read rest lv outer

variable {t : Test}

/-- A test in parentheses is read as a group, whatever it is joined by. -/
theorem read_enclosed (ht : t.ReadsBack) {lv : Level} (hlv : lv.operand = .none)
    (outer : List Level) (rest : List Lexeme) :
    read (enclosed (lexemesOf t.tokens) ++ rest) lv outer =
      read rest { lv with operand := .group t.formula } outer := by
  rw [enclosed, List.append_assoc, List.cons_append, read_open hlv]
  obtain ⟨lv', hreads, hread⟩ := ht (lv :: outer) ([.mark ")"] ++ rest)
  rw [hread, List.singleton_append, read_close hreads.formula]

/-- Where an operand is due, a test in parentheses or without an AND or OR is that operand. -/
theorem read_operand (ht : t.ReadsBack) {lv : Level} (hlv : lv.operand = .none)
    (outer : List Level) (rest : List Lexeme) :
    ∃ operand : Operand, operand.formula? = some t.formula ∧
      read (t.operandLexemes ++ rest) lv outer = read rest { lv with operand } outer := by
  unfold Test.operandLexemes
  by_cases hglue : t.glue?.isSome
  · rw [if_pos hglue, read_enclosed ht hlv]
    exact ⟨.group t.formula, rfl, rfl⟩
  · have hnone : t.glue? = none := by simpa using hglue
    rw [if_neg hglue, read_atomic (Test.atomic hnone) hlv]
    refine ⟨.atom (lexemesOf t.tokens).reverse 0, ?_, rfl⟩
    rw [Test.formula_of_glue?_none hnone, Operand.formula?, List.reverse_reverse]

/-- The first operand of a glue; in parentheses if it is written with the other one. -/
theorem read_first (ht : t.ReadsBack) (glue : Glue) (outer : List Level) (rest : List Lexeme) :
    ∃ lv : Level, lv.Reads t.formula (some glue) ∧
      read ((if t.glue?.any (· ≠ glue) then enclosed (lexemesOf t.tokens)
        else lexemesOf t.tokens) ++ rest) {} outer = read rest lv outer := by
  by_cases hother : t.glue?.any (· ≠ glue)
  · rw [if_pos hother, read_enclosed ht rfl]
    exact ⟨_, ⟨rfl, fun _ => rfl, fun _ => rfl⟩, rfl⟩
  -- written with the same glue or none, it leaves nothing behind but that glue
  · rw [if_neg hother]
    obtain ⟨lv, ⟨hf, hors, hands⟩, hread⟩ := ht outer rest
    refine ⟨lv, ⟨hf, fun hne => hors ?_, fun hne => hands ?_⟩, hread⟩
    all_goals
      intro heq
      rw [heq] at hother
      cases glue <;> simp at hother hne

/-- A test that is not joined is read back as its atom. -/
theorem Test.readsBack_of_glue?_none (h : t.glue? = none) : t.ReadsBack := by
  intro outer rest
  rw [read_atomic (Test.atomic h) rfl]
  refine ⟨_, ⟨?_, fun _ => rfl, fun _ => rfl⟩, rfl⟩
  rw [Test.formula_of_glue?_none h]
  simp [Level.formula?, Level.conjunction?, Operand.formula?, Formula.after]

/-- **At the start of a level a test is read as its own tree**, however deep it is nested. -/
theorem Test.readsBack (t : Test) : t.ReadsBack := by
  induction t with
  | connect glue left right ihl ihr =>
    intro outer rest
    rw [lexemesOf_connect, List.append_assoc, List.cons_append]
    obtain ⟨lv, ⟨hf, hors, hands⟩, hfirst⟩ := read_first ihl glue outer
      (.word (glueWord glue) :: (right.operandLexemes ++ rest))
    cases glue with
    -- no OR stands on the level, so the AND takes in all that was read
    | and =>
      have hnone : lv.ors = none := hors (by simp)
      obtain ⟨g, hg, hfg⟩ := Level.conjunction?_of_formula? hf
      rw [hnone] at hfg
      obtain rfl : left.formula = g := hfg
      let behind : Level := { lv with ands := some left.formula, operand := .none }
      have hdue : behind.operand = .none := rfl
      obtain ⟨operand, hop, hread⟩ := read_operand ihr hdue outer rest
      refine ⟨{ behind with operand }, ⟨?_, fun _ => hnone, fun h => absurd rfl h⟩, ?_⟩
      · simp [behind, Level.formula?, Level.conjunction?, hop, hnone, Formula.after, Test.formula]
      · exact hfirst.trans ((read_and hg outer _).trans hread)
    -- an OR takes in the whole level, whatever was read on it
    | or =>
      let behind : Level := { ors := some left.formula }
      have hdue : behind.operand = .none := rfl
      obtain ⟨operand, hop, hread⟩ := read_operand ihr hdue outer rest
      refine ⟨{ behind with operand }, ⟨?_, fun h => absurd rfl h, fun _ => rfl⟩, ?_⟩
      · simp [behind, Level.formula?, Level.conjunction?, hop, Formula.after, Test.formula]
      · exact hfirst.trans ((read_or hf outer _).trans hread)
  | _ => exact readsBack_of_glue?_none rfl

/-- **A condition that ends is read as its own tree.** -/
theorem read_condition (t : Test) {rest : List Lexeme} (hrest : ConditionEnds rest) :
    read (lexemesOf t.tokens ++ rest) {} [] = some t.formula := by
  obtain ⟨lv, hreads, hread⟩ := t.readsBack [] rest
  rw [hread, read_end hreads.formula hrest]

end Fieldwork.Sql
