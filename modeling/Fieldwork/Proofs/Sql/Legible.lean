import Fieldwork.Plan.Basic
import Fieldwork.Proofs.Sql.Lexer

/-!
# Statements are read back token by token

A list of tokens is legible when its text, whatever follows it behind a break, is read back as just
these tokens. Legible lists can be put together at blanks, parentheses and commas, so a whole
statement is legible because its parts are.

* `Legible.append`: legible lists can be put together at a break.
* `Test.legible`: every test is legible, however deep it is nested.
* `Plan.legible`, `Update.legible`: so is every query and every update.
-/

namespace Fieldwork

namespace Sql

/-- What a token is read back as; a blank is only skipped. -/
def Token.lexeme? : Token → Option Lexeme
  | .word s => some (.word s)
  | .name s => some (.name s)
  | .text s => some (.text s)
  | .number n => some (.ofRun (numberChars n))
  | .mark s => some (.mark s)
  | .blank => none

/-- What is read of tokens: the lexeme of each that is no blank. -/
def lexemesOf (ts : List Token) : List Lexeme :=
  ts.filterMap Token.lexeme?

/-- The text of the tokens is read back as just these, whatever follows behind a break. -/
def Legible (ts : List Token) : Prop :=
  ∀ rest, Breaks rest →
    lexFrom .idle (ts.flatMap Token.chars ++ rest) = (lexFrom .idle rest).map (lexemesOf ts ++ ·)

/-- The token breaks off whatever stands before it. -/
def Token.isBreak : Token → Bool
  | .blank => true
  | .mark s => s == "(" || s == ")" || s == ","
  | _ => false

/-- The list begins with a break, if with anything. -/
def opensApart : List Token → Bool
  | [] => true
  | t :: _ => t.isBreak

/-- Tokens that open apart end the run in front of them. -/
theorem breaks_of_opensApart {ts : List Token} (h : opensApart ts) {rest : List Char}
    (hrest : Breaks rest) : Breaks (ts.flatMap Token.chars ++ rest) := by
  match ts with
  | [] => exact hrest
  | .blank :: ts => simp [Breaks, Token.chars]
  | .mark s :: ts =>
    simp only [opensApart, Token.isBreak, Bool.or_eq_true, beq_iff_eq] at h
    rcases h with (rfl | rfl) | rfl <;> simp [Breaks, Token.chars]

namespace Legible

variable {a b ts : List Token}

/-- A legible text is read back as its tokens. -/
theorem lex_eq (h : Legible ts) : lex (textOf ts) = some (lexemesOf ts) := by
  have hend := h [] (by simp [Breaks])
  rw [List.append_nil] at hend
  unfold lex textOf
  rw [String.toList_ofList, hend]
  simp [lexFrom, Mode.finish]

/-- No tokens are read as no lexemes. -/
theorem nil : Legible [] := by
  intro rest _
  simp [lexemesOf]

/-- **Legible lists can be put together at a break.** -/
theorem append (ha : Legible a) (hb : Legible b) (h : opensApart b) : Legible (a ++ b) := by
  intro rest hrest
  rw [List.flatMap_append, List.append_assoc, ha _ (breaks_of_opensApart h hrest), hb rest hrest,
    Option.map_map]
  congr 1
  funext ls
  simp [lexemesOf]

/-- A token that is read back whatever follows it. -/
theorem cons_of_lex {t : Token}
    (ht : ∀ cs, lexFrom .idle (t.chars ++ cs) = (lexFrom .idle cs).map (t.lexeme?.toList ++ ·))
    (h : Legible ts) : Legible (t :: ts) := by
  intro rest hrest
  rw [List.flatMap_cons, List.append_assoc, ht, h rest hrest, Option.map_map]
  congr 1
  funext ls
  cases hl : t.lexeme? <;> simp [lexemesOf, hl]

/-- A blank in front of legible tokens is skipped. -/
theorem blank (h : Legible ts) : Legible (.blank :: ts) :=
  h.cons_of_lex fun cs => by
    rw [show Token.blank.chars ++ cs = ' ' :: cs from rfl, lexFrom_within rfl]
    simp [Token.lexeme?]

/-- The marks that are complete by themselves. -/
theorem mark {s : String} (hs : s ∈ ["(", ")", ",", ".", "*", "=", "+"]) (h : Legible ts) :
    Legible (.mark s :: ts) := by
  refine h.cons_of_lex fun cs => ?_
  simp only [List.mem_cons, List.not_mem_nil, or_false] at hs
  rcases hs with rfl | rfl | rfl | rfl | rfl | rfl | rfl <;> exact lexFrom_complete rfl cs

/-- The marks that could be the first of two, or are two. -/
theorem operator {s : String} (hs : s ∈ [":=", "<", ">", "<>", "<=", ">="]) :
    Legible [.mark s] := by
  intro rest hrest
  have hpair : ∀ c d : Char, paired c d → Mode.idle.step c = some ([], .sign c) →
      lexFrom .idle (c :: d :: rest) =
        (lexFrom .idle rest).map (.mark (String.ofList [c, d]) :: ·) := by
    intro c d hp hc
    have hd : (Mode.sign c).step d = some ([.mark (String.ofList [c, d])], .idle) := by
      simp [Mode.step, hp]
    rw [lexFrom_within hc, lexFrom_complete hd]
  have hsingle : ∀ c : Char, c ≠ ':' → (∀ d ∈ rest.head?, paired c d = false) →
      Mode.idle.step c = some ([], .sign c) →
      lexFrom .idle (c :: rest) = (lexFrom .idle rest).map (.mark (String.singleton c) :: ·) := by
    intro c hcolon hp hc
    rw [lexFrom_within hc]
    refine lexFrom_ended (by simp [Mode.finish, hcolon]) fun d hd => ?_
    simp [Mode.step, hp d hd, hcolon]
  -- no break is the second sign of an operator
  have hunpaired : ∀ c, ∀ d ∈ rest.head?, paired c d = false := by
    intro c d hd
    rcases hrest d hd with rfl | rfl | rfl | rfl <;> simp [paired]
  simp only [List.mem_cons, List.not_mem_nil, or_false] at hs
  rcases hs with rfl | rfl | rfl | rfl | rfl | rfl
  · exact hpair ':' '=' (by decide) rfl
  · exact hsingle '<' (by decide) (hunpaired _) rfl
  · exact hsingle '>' (by decide) (hunpaired _) rfl
  · exact hpair '<' '>' (by decide) rfl
  · exact hpair '<' '=' (by decide) rfl
  · exact hpair '>' '=' (by decide) rfl

/-- A run of characters that is taken for a word is read as that word. -/
theorem word {w : String} (hw : isRun w.toList ∧ Lexeme.ofRun w.toList = .word w) :
    Legible [.word w] := by
  intro rest hrest
  have h := lex_run hw.1 hrest
  rw [hw.2] at h
  simpa [Token.chars, lexemesOf, Token.lexeme?] using h

/-- A number is read as one lexeme. -/
theorem number (n : Number) : Legible [.number n] := by
  intro rest hrest
  simpa [Token.chars, lexemesOf, Token.lexeme?] using
    lex_signedRun (isSignedRun_numberChars n) hrest

/-- **A name is read back whatever it holds**, since the quotes in it are doubled. -/
theorem name (s : String) : Legible [.name s] := by
  intro rest hrest
  simpa [Token.chars, lexemesOf, Token.lexeme?] using lex_name s (hrest.ne (by decide))

/-- **A text is read back whatever it holds**, since what would end it is escaped. -/
theorem text (s : String) : Legible [.text s] := by
  intro rest hrest
  simpa [Token.chars, lexemesOf, Token.lexeme?] using lex_text s (hrest.ne (by decide))

/-- A name can also be followed by a point. -/
theorem name_point {s : String} (h : Legible ts) : Legible (.name s :: .mark "." :: ts) := by
  intro rest hrest
  have hpoint := h.mark (s := ".") (by decide) rest hrest
  have hhead : ((Token.mark "." :: ts).flatMap Token.chars ++ rest).head? ≠ some '\x60' := by
    simp [Token.chars]
  rw [List.flatMap_cons, List.append_assoc, Token.chars, lex_name s hhead, hpoint, Option.map_map]
  congr 1

/-- Legible tokens may stand behind a legible one that they open apart from. -/
theorem cons {t : Token} (ht : Legible [t]) (h : Legible ts) (hopen : opensApart ts) :
    Legible (t :: ts) :=
  ht.append h hopen

/-! ### Composed lists -/

/-- A path is legible: its names are kept apart by points. -/
theorem path (parts : List String) : Legible (pathTokens parts) := by
  match parts with
  | [] => exact .nil
  | [part] => exact .name part
  | part :: next :: parts => exact (path (next :: parts)).name_point

/-- Parentheses end every run, so legible tokens stay legible in them. -/
theorem parenthesised (h : Legible ts) : Legible (parenthesised ts) :=
  (h.append (.mark (by decide) .nil) rfl).mark (by decide)

/-- Legible parts stay legible with commas between them. -/
theorem commaSeparated {parts : List (List Token)} (h : ∀ part ∈ parts, Legible part) :
    Legible (commaSeparated parts) := by
  match parts with
  | [] => exact .nil
  | [part] => exact h part (by simp)
  | part :: next :: parts =>
    have hrest : Legible (Sql.commaSeparated (next :: parts)) :=
      commaSeparated fun q hq => h q (List.mem_cons_of_mem part hq)
    exact (h part (by simp)).append (hrest.blank.mark (by decide)) rfl

end Legible

/-! ## Expressions -/

/-- Every literal is legible. -/
theorem Literal.legible (l : Literal) : Legible l.tokens := by
  cases l with
  | null => exact .word (by decide)
  | bool b => cases b <;> exact .word (by decide)
  | number n => exact .number n
  | text s => exact .text s

/-- The name of a function is a word. -/
theorem Function.legible_name (f : Function) : Legible [.word f.name] := by
  cases f <;> exact .word (by decide)

mutual

/-- **Every expression is legible**, by recursion on its arguments. -/
theorem Scalar.legible : (e : Scalar) → Legible e.tokens
  | .column path => .path path
  | .literal l => l.legible
  | .call function arguments => by
    rw [Scalar.tokens]
    have hargs : Legible (commaSeparated (Scalar.argumentTokens arguments)) :=
      .commaSeparated (Scalar.legible_arguments arguments)
    exact (function.legible_name).cons hargs.parenthesised rfl

theorem Scalar.legible_arguments :
    (es : List Scalar) → ∀ part ∈ Scalar.argumentTokens es, Legible part
  | [] => by simp [Scalar.argumentTokens]
  | e :: es => by
    intro part hpart
    rw [Scalar.argumentTokens] at hpart
    rcases List.mem_cons.mp hpart with rfl | hpart
    · exact e.legible
    · exact Scalar.legible_arguments es part hpart

end

/-- The sign or the words of a comparison are legible. -/
theorem Comparison.legible (c : Comparison) : Legible c.tokens := by
  cases c with
  | equal => exact .mark (by decide) .nil
  | like => exact .word (by decide)
  | notLike => exact (Legible.word (by decide)).cons (.blank (.word (by decide))) rfl
  | _ => exact .operator (by decide)

/-- A word may have NOT in front of it. -/
theorem legible_isNot (negated : Bool) {w : String}
    (hw : isRun w.toList ∧ Lexeme.ofRun w.toList = .word w) :
    Legible (if negated then [.word "NOT", .blank, .word w] else [.word w]) := by
  cases negated with
  | true => exact (Legible.word (by decide)).cons (.blank (.word hw)) rfl
  | false => exact .word hw

/-- **Every test is legible.** -/
theorem Test.legible (t : Test) : Legible t.tokens := by
  induction t with
  | truth b => cases b <;> exact .word (by decide)
  | compare operator left right =>
    have hfront := left.legible.append (operator.legible.blank) rfl
    exact hfront.append right.legible.blank rfl
  | isNull negated operand =>
    have hnull := legible_isNot negated (w := "NULL") (by decide)
    have his : Legible (.word "IS" :: .blank :: _) :=
      (Legible.word (by decide)).cons hnull.blank rfl
    exact operand.legible.append his.blank rfl
  | among negated operand values =>
    cases values with
    -- a list of no values is a comparison of two numbers
    | nil =>
      have hequal : Legible (.mark "=" :: .blank :: _) :=
        (((Legible.number (.integer (if negated then 1 else 2))).blank).mark (by decide))
      exact (Legible.number _).cons hequal.blank rfl
    | cons value values =>
      have hlist : Legible (commaSeparated ((value :: values).map Literal.tokens)) := by
        refine .commaSeparated fun part hpart => ?_
        obtain ⟨l, -, rfl⟩ := List.mem_map.mp hpart
        exact l.legible
      have hin := legible_isNot negated (w := "IN") (by decide)
      exact (operand.legible.append hin.blank rfl).append hlist.parenthesised.blank rfl
  | unlinked operand column table =>
    have hfrom : Legible (.word "FROM" :: .blank :: pathTokens table) :=
      (Legible.word (by decide)).cons (Legible.path table).blank rfl
    have hselect : Legible (.word "SELECT" :: .blank :: .name column :: .blank :: _) :=
      (Legible.word (by decide)).cons ((Legible.name column).cons hfrom.blank rfl).blank rfl
    have hin : Legible (.word "IN" :: .blank :: parenthesised _) :=
      (Legible.word (by decide)).cons hselect.parenthesised.blank rfl
    have hnot : Legible (.word "NOT" :: .blank :: _) :=
      (Legible.word (by decide)).cons hin.blank rfl
    have h := operand.legible.append hnot.blank rfl
    simpa [Test.tokens] using h
  | connect glue left right ihl ihr =>
    rw [Test.tokens]
    have hleft : Legible (if left.glue?.isSome ∧ left.glue? ≠ some glue
        then parenthesised left.tokens else left.tokens) := by
      split
      · exact ihl.parenthesised
      · exact ihl
    have hright : Legible (if right.glue?.isSome then parenthesised right.tokens
        else right.tokens) := by
      split
      · exact ihr.parenthesised
      · exact ihr
    have hword : Legible [.word (glueWord glue)] := by
      cases glue <;> exact .word (by decide)
    -- the blanks around the word are the breaks between the three parts
    rw [List.append_assoc]
    exact hleft.append ((hword.cons hright.blank rfl).blank) rfl

/-! ## Statements -/

/-- A number of rows is legible. -/
theorem legible_natToken (n : Nat) : Legible [natToken n] :=
  .number _

/-- A label is a name behind a word. -/
theorem legible_labelled (label : String) : Legible (labelled label) :=
  ((Legible.word (by decide)).cons (Legible.name label).blank rfl).blank

/-- A clause opens with a blank, if it is there. -/
theorem opensApart_clause (keywords : List Token) (body : Option (List Token)) :
    opensApart (clause keywords body) := by
  cases body <;> rfl

/-- A clause is legible when its keywords and its body are. -/
theorem legible_clause {keywords : List Token} (hk : Legible keywords) {body : Option (List Token)}
    (hb : ∀ ts ∈ body, Legible ts) : Legible (clause keywords body) := by
  cases body with
  | none => exact .nil
  | some ts => exact (hk.blank).append (hb ts rfl).blank rfl

/-- Parts that are rendered legibly make a legible list, if there are any. -/
theorem legible_list? {α : Type} {render : α → List Token} {parts : List α}
    (h : ∀ part ∈ parts, Legible (render part)) : ∀ ts ∈ list? render parts, Legible ts := by
  intro ts hts
  unfold list? at hts
  split at hts
  · exact absurd hts (by simp)
  · cases hts
    refine .commaSeparated fun part hpart => ?_
    obtain ⟨q, hq, rfl⟩ := List.mem_map.mp hpart
    exact h q hq

/-- A sort term is legible: its direction is a word. -/
theorem legible_orderTokens (term : Scalar × Direction) : Legible (orderTokens term) := by
  have hword : Legible [.word (directionWord term.2)] := by
    cases term.2 <;> exact .word (by decide)
  exact term.1.legible.append hword.blank rfl

/-- The number of a limit or an offset is legible. -/
theorem legible_limit (n : Option UInt64) :
    ∀ ts ∈ n.map fun n => [natToken n.toNat], Legible ts := by
  intro ts hts
  obtain ⟨n, -, rfl⟩ := Option.map_eq_some_iff.mp hts
  exact legible_natToken _

/-- **A selection is legible** when its items and its sources are. -/
theorem Select.legible {source : Type} {sourceTokens : source → List Token} (s : Select source)
    (hitems : ∀ i ∈ s.items, Legible i.tokens)
    (hsources : ∀ t ∈ s.sources, Legible (sourceTokens t)) :
    Legible (s.tokens sourceTokens) := by
  have hlist : Legible (commaSeparated (s.items.map Item.tokens)) := by
    refine .commaSeparated fun part hpart => ?_
    obtain ⟨i, hi, rfl⟩ := List.mem_map.mp hpart
    exact hitems i hi
  have hselect : Legible (.word "SELECT" :: .blank :: commaSeparated (s.items.map Item.tokens)) :=
    (Legible.word (by decide)).cons hlist.blank rfl
  have hfrom := legible_clause (.word (w := "FROM") (by decide)) (legible_list? hsources)
  have hwhere : Legible (clause [.word "WHERE"] (s.filter.map Test.tokens)) :=
    legible_clause (.word (by decide)) fun ts hts => by
      obtain ⟨t, -, rfl⟩ := Option.map_eq_some_iff.mp hts
      exact t.legible
  have hby : Legible [.word "ORDER", .blank, .word "BY"] :=
    (Legible.word (by decide)).cons (.blank (.word (by decide))) rfl
  have horder := legible_clause hby
    (legible_list? fun term (_ : term ∈ s.order) => legible_orderTokens term)
  have hlimit := legible_clause (.word (w := "LIMIT") (by decide)) (legible_limit s.limit)
  have hoffset := legible_clause (.word (w := "OFFSET") (by decide)) (legible_limit s.offset)
  exact ((((hselect.append hfrom (opensApart_clause _ _)).append hwhere
    (opensApart_clause _ _)).append horder (opensApart_clause _ _)).append hlimit
    (opensApart_clause _ _)).append hoffset (opensApart_clause _ _)

theorem Item.legible_column (name : String) : Legible (Item.column name).tokens :=
  .name name

theorem Item.legible_count (label : String) : Legible (Item.count label).tokens := by
  have hstar : Legible [.mark "*"] := .mark (by decide) .nil
  exact ((Legible.word (w := "COUNT") (by decide)).cons hstar.parenthesised rfl).append
    (legible_labelled label) rfl

theorem Item.legible_allOf (source : String) : Legible (Item.allOf source).tokens :=
  (Legible.mark (by decide) .nil).name_point

/-- The value that a variable is set to. -/
theorem legible_assigned {w : String} (hw : isRun w.toList ∧ Lexeme.ofRun w.toList = .word w)
    {ts : List Token} (h : Legible ts) :
    Legible (.word w :: .blank :: .mark ":=" :: .blank :: ts) :=
  (Legible.word hw).cons ((Legible.operator (by decide)).cons h.blank rfl).blank rfl

/-- An item that advances a counter is legible when the counter's name is a word. -/
theorem Item.legible_advance {w : String}
    (hw : isRun w.toList ∧ Lexeme.ofRun w.toList = .word w) (label : String) :
    Legible (Item.advance w label).tokens := by
  have hplus : Legible [.mark "+", .blank, natToken 1] :=
    .mark (by decide) (legible_natToken 1).blank
  have hnext : Legible [.word w, .blank, .mark "+", .blank, natToken 1] :=
    (Legible.word hw).cons hplus.blank rfl
  exact (legible_assigned hw hnext).append (legible_labelled label) rfl

/-- So is the table that a counter starts from. -/
theorem Derived.legible_counter {w : String}
    (hw : isRun w.toList ∧ Lexeme.ofRun w.toList = .word w) (seed : UInt64) (label : String) :
    Legible (Derived.counter w seed label).tokens := by
  have hset := legible_assigned hw (legible_natToken seed.toNat)
  have hselect : Legible (.word "SELECT" :: .blank :: _) :=
    (Legible.word (by decide)).cons hset.blank rfl
  exact hselect.parenthesised.append (legible_labelled label) rfl

/-- An assignment is legible: a sign stands between its name and its value. -/
theorem legible_assignment (column : String) (value : Literal) :
    Legible (assignmentTokens column value) := by
  have hequal : Legible (.mark "=" :: .blank :: value.tokens) :=
    .mark (by decide) value.legible.blank
  exact (Legible.name column).cons hequal.blank rfl

/-- The assignments of an update are legible, with the commas between them. -/
theorem legible_assignments (assignments : List (String × Literal)) :
    Legible (commaSeparated
      (assignments.map fun (column, value) => assignmentTokens column value)) := by
  refine .commaSeparated fun part hpart => ?_
  obtain ⟨a, -, rfl⟩ := List.mem_map.mp hpart
  exact legible_assignment _ _

/-- **Every update is legible.** -/
theorem Update.legible (u : Update) : Legible u.tokens := by
  have hset : Legible (.word "SET" :: .blank :: commaSeparated _) :=
    (Legible.word (by decide)).cons (legible_assignments u.assignments).blank rfl
  have hupdate : Legible (.word "UPDATE" :: .blank :: .name u.table :: .blank :: _) :=
    (Legible.word (by decide)).cons ((Legible.name u.table).cons hset.blank rfl).blank rfl
  have hwhere : Legible (.word "WHERE" :: .blank :: assignmentTokens u.key u.id) :=
    (Legible.word (by decide)).cons (legible_assignment _ _).blank rfl
  have h := hupdate.append hwhere.blank rfl
  simpa [Update.tokens] using h

end Sql

/-! ## Plans -/

open Sql

namespace Plan

/-- Every item of a plan's query is legible. -/
theorem legible_items (p : Plan) : ∀ i ∈ p.items, Legible i.tokens := by
  intro i hi
  unfold items at hi
  cases hproj : p.projection with
  | all =>
    rw [hproj] at hi
    dsimp only at hi
    split at hi
    · simp only [List.mem_cons, List.not_mem_nil, or_false] at hi
      rcases hi with rfl | rfl
      · exact Item.legible_advance (by decide) _
      · exact Item.legible_allOf _
    · rw [List.mem_singleton.mp hi]
      exact .mark (by decide) .nil
  | columns names =>
    rw [hproj] at hi
    obtain ⟨name, -, rfl⟩ := List.mem_map.mp hi
    exact Item.legible_column name
  | count =>
    rw [hproj] at hi
    rw [List.mem_singleton.mp hi]
    exact Item.legible_count _

/-- A selection is legible when its items are. -/
theorem legible_selection (p : Plan) {items : List Item} (h : ∀ i ∈ items, Legible i.tokens) :
    Legible ((p.selection items).tokens pathTokens) :=
  Select.legible _ h fun t _ => .path t

/-- **Every query is legible.** -/
theorem legible (p : Plan) : Legible p.query.tokens := by
  unfold query
  cases p.rowNumberSeed with
  | none => exact p.legible_selection p.legible_items
  | some seed =>
    refine Select.legible _ p.legible_items fun t ht => ?_
    simp only [List.mem_cons, List.not_mem_nil, or_false] at ht
    rcases ht with rfl | rfl
    · have hstar : ∀ i ∈ [Item.all], Legible i.tokens := by
        intro i hi
        rw [List.mem_singleton.mp hi]
        exact .mark (by decide) .nil
      exact (p.legible_selection hstar).parenthesised.append (legible_labelled _) rfl
    · exact Derived.legible_counter (by decide) _ _

/-- **The text of a query is read back as its tokens.** -/
theorem lex_sql (p : Plan) : lex p.sql = some (lexemesOf p.query.tokens) :=
  p.legible.lex_eq

end Plan

/-- **The text of an update is read back as its tokens.** -/
theorem Update.lex_sql (u : Fieldwork.Update) : lex u.sql = some (lexemesOf u.statement.tokens) :=
  u.statement.legible.lex_eq

end Fieldwork
