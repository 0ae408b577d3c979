import Mathlib.Data.List.Basic
import Fieldwork.Proofs.Find
import Fieldwork.Proofs.Sql.Precedence

/-!
# Limits and offsets in SQL

In SQL an OFFSET may only stand behind a LIMIT, and a derived table without a LIMIT is merged into
the query around it, without its order. The SELECTs of a statement are told apart by the parentheses
they stand in, whatever they are nested in.

* `Divides`: parts of a statement are divided one by one.
* `Test.clauseless`: a condition has none of the words that order or limit rows, nor have the
  selections inside of it.
* `paging_legal_iff`: **every derived table of a query is legal and keeps its order, and so does the
  query itself, unless it has an offset, but neither a limit nor numbers for its rows.**
* `offset_without_limit`: such a query.
-/

namespace Fieldwork

open Sql

namespace Sql

/-! ## Selections -/

/-- Divides lexemes by the parentheses they stand in: those in every pair of them, as the pairs are
closed, and those outside of all. -/
def divide :
    List Lexeme → List Lexeme → List (List Lexeme) → Option (List (List Lexeme) × List Lexeme)
  | [], read, outer => if outer.isEmpty then some ([], read.reverse) else none
  | l :: ls, read, outer =>
    if l = .mark "(" then divide ls [] (read :: outer)
    else if l = .mark ")" then
      match outer with
      | [] => none
      | above :: outer =>
        (divide ls above outer).map fun (inner, own) => (read.reverse :: inner, own)
    else divide ls (l :: read) outer

section

variable (ls read : List Lexeme) (outer : List (List Lexeme))

/-- A parenthesis that opens starts a list of its own. -/
theorem divide_open : divide (.mark "(" :: ls) read outer = divide ls [] (read :: outer) := by
  rw [divide.eq_def]
  exact if_pos rfl

/-- A parenthesis that closes ends the innermost list. -/
theorem divide_close (above : List Lexeme) :
    divide (.mark ")" :: ls) read (above :: outer) =
      (divide ls above outer).map fun (inner, own) => (read.reverse :: inner, own) := by
  rw [divide.eq_def]
  rfl

/-- Any other lexeme belongs to the list it stands in. -/
theorem divide_plain {l : Lexeme} (h : l ≠ .mark "(" ∧ l ≠ .mark ")") :
    divide (l :: ls) read outer = divide ls (l :: read) outer := by
  rw [divide.eq_def]
  simp only [if_neg h.1, if_neg h.2]

end

/-- The SELECTs of a statement, each without those that stand in it. -/
structure Selects where
  nested : List (List Lexeme)
  outer : List Lexeme

/-- The statements of a text: those in parentheses and the one around them. -/
def readSelects (sql : String) : Option Selects :=
  (lex sql).bind fun ls => (divide ls [] []).map fun (inner, own) =>
    { nested := inner.filter fun s => s.head? == some (.word "SELECT"), outer := own }

/-- Every OFFSET stands behind a LIMIT. -/
def OffsetBehindLimit (s : List Lexeme) : Prop :=
  ∀ front back, s = front ++ .word "OFFSET" :: back → .word "LIMIT" ∈ front

/-- Where there is an ORDER or an OFFSET, there is a LIMIT. -/
def Bounded (s : List Lexeme) : Prop :=
  .word "ORDER" ∈ s ∨ .word "OFFSET" ∈ s → .word "LIMIT" ∈ s

/-- There is no ORDER, LIMIT or OFFSET. -/
def Unpaged (s : List Lexeme) : Prop :=
  ∀ l ∈ s, endsCondition l = false

namespace Unpaged

variable {s : List Lexeme}

/-- What is unpaged holds none of these words. -/
theorem not_mem (h : Unpaged s) {l : Lexeme} (hl : endsCondition l = true) : l ∉ s := by
  intro hmem
  rw [h l hmem] at hl
  cases hl

theorem atom {l : Lexeme} (h : endsAtom l = false ∧ l ≠ .mark "(") : Unpaged [l] := by
  intro k hk
  have hends := h.1
  rw [List.mem_singleton.mp hk]
  simp only [endsAtom, Bool.or_eq_false_iff] at hends
  exact hends.2

theorem append {a b : List Lexeme} (ha : Unpaged a) (hb : Unpaged b) : Unpaged (a ++ b) :=
  List.forall_mem_append.mpr ⟨ha, hb⟩

/-- What is unpaged has no OFFSET to stand behind anything. -/
theorem offsetBehindLimit (h : Unpaged s) : OffsetBehindLimit s := by
  rintro front back rfl
  exact absurd (by simp) (h.not_mem (l := .word "OFFSET") (by decide))

theorem bounded (h : Unpaged s) : Bounded s := by
  rintro (hmem | hmem)
  · exact absurd hmem (h.not_mem (by decide))
  · exact absurd hmem (h.not_mem (by decide))

end Unpaged

/-! ### Dividing part by part -/

/-- The parentheses of the lexemes pair up; `own` stands outside of them. -/
def Divides (ls own : List Lexeme) (inner : List (List Lexeme)) : Prop :=
  ∀ rest read outer, divide (ls ++ rest) read outer =
    (divide rest (own.reverse ++ read) outer).map fun (more, whole) => (inner ++ more, whole)

namespace Divides

variable {a b ls own own' : List Lexeme} {inner inner' : List (List Lexeme)}

theorem nil : Divides [] [] [] := by
  intro rest read outer
  simp

/-- Lexemes that are divided may stand behind one another. -/
theorem append (ha : Divides a own inner) (hb : Divides b own' inner') :
    Divides (a ++ b) (own ++ own') (inner ++ inner') := by
  intro rest read outer
  rw [List.append_assoc, ha, hb, Option.map_map, List.reverse_append, List.append_assoc]
  congr 1
  funext found
  simp

/-- A lexeme that is no parenthesis stands where it is. -/
theorem plain {l : Lexeme} (h : l ≠ .mark "(" ∧ l ≠ .mark ")") : Divides [l] [l] [] := by
  intro rest read outer
  rw [List.singleton_append, divide_plain _ _ _ h]
  simp

/-- A lexeme that is in place inside an atom is no parenthesis. -/
theorem atom {l : Lexeme} (h : endsAtom l = false ∧ l ≠ .mark "(") : Divides [l] [l] [] := by
  refine .plain ⟨h.2, ?_⟩
  rintro rfl
  exact absurd h.1 (by decide)

/-- What is in parentheses becomes a list of its own. -/
theorem enclosed (h : Divides ls own inner) : Divides (enclosed ls) [] (inner ++ [own]) := by
  intro rest read outer
  have hparts : Sql.enclosed ls ++ rest = .mark "(" :: (ls ++ .mark ")" :: rest) := by
    simp [Sql.enclosed]
  rw [hparts, divide_open, h, List.append_nil, divide_close, Option.map_map, List.reverse_reverse]
  congr 1
  funext found
  simp

/-- **What is divided is divided so by the reader.** -/
theorem divide_eq (h : Divides ls own inner) : divide ls [] [] = some (inner, own) := by
  have hall := h [] [] []
  rw [List.append_nil] at hall
  rw [hall]
  simp [divide]

end Divides

/-- Neither the lexemes nor what stands in parentheses among them order or limit rows. -/
def Clauseless (ls : List Lexeme) : Prop :=
  ∃ own inner, Divides ls own inner ∧ Unpaged own ∧ ∀ s ∈ inner, Unpaged s

namespace Clauseless

variable {a b ls : List Lexeme}

theorem append (ha : Clauseless a) (hb : Clauseless b) : Clauseless (a ++ b) := by
  obtain ⟨own, inner, hdivides, hown, hinner⟩ := ha
  obtain ⟨own', inner', hdivides', hown', hinner'⟩ := hb
  exact ⟨_, _, hdivides.append hdivides', hown.append hown',
    List.forall_mem_append.mpr ⟨hinner, hinner'⟩⟩

/-- A word that connects conditions is as good as any. -/
theorem word {w : String} (h : endsCondition (.word w) = false) : Clauseless [.word w] := by
  refine ⟨_, _, .plain (by simp), ?_, by simp⟩
  intro l hl
  rw [List.mem_singleton.mp hl]
  exact h

theorem composed : Composed Clauseless where
  nil := ⟨_, _, .nil, by simp [Unpaged], by simp⟩
  append := append
  plain := by
    intro l h
    exact ⟨_, _, .atom h, .atom h, by simp⟩
  enclosed := by
    rintro ls ⟨own, inner, hdivides, hown, hinner⟩
    refine ⟨_, _, hdivides.enclosed, by simp [Unpaged], ?_⟩
    exact List.forall_mem_append.mpr ⟨hinner, by simpa using hown⟩

end Clauseless

/-- **No condition orders or limits rows**, however deep it is nested. -/
theorem Test.clauseless (t : Test) : Clauseless (lexemesOf t.tokens) := by
  have hbracketed : ∀ {ls : List Lexeme} (bracketed : Prop) [Decidable bracketed], Clauseless ls →
      Clauseless (if bracketed then enclosed ls else ls) := by
    intro ls bracketed _ h
    split
    · exact Clauseless.composed.enclosed h
    · exact h
  induction t with
  | connect glue left right ihl ihr =>
    have hglue : Clauseless [.word (glueWord glue)] := by
      cases glue <;> exact .word (by decide)
    rw [Test.lexemesOf_connect]
    exact (hbracketed _ ihl).append (hglue.append (hbracketed _ ihr))
  | _ => exact Clauseless.composed.test rfl

end Sql

/-- A sort term neither orders nor limits rows itself. -/
theorem SortTerm.clauseless (term : SortTerm) : Clauseless term.lexemes := by
  have hdirection : Clauseless [.word (directionWord term.direction)] := by
    cases term.direction <;> exact .word (by decide)
  rw [SortTerm.lexemes, ← Column.lexemesOf_scalar]
  exact (Clauseless.composed.scalar _).append hdirection

namespace Plan

variable {p : Plan}

/-! ## The clauses of a plan -/

/-- Nor do the items of a query. -/
theorem clauseless_items (p : Plan) : Clauseless p.itemLexemes := by
  have h := Clauseless.composed
  have hlabel : ∀ label, Clauseless (labelLexemes label) := fun label =>
    h.cons (by decide) (h.plain (plain_name label))
  unfold itemLexemes
  cases p.projection with
  | all =>
    dsimp only
    split
    · have hnumber := h.cons (l := .mark "+") (by decide) (h.plain (plain_ofNumber (.integer 1)))
      have hvalue := h.cons (l := .word "@rownum") (by decide) hnumber
      have hadvance := h.cons (l := .word "@rownum") (by decide)
        (h.cons (l := .mark ":=") (by decide) hvalue)
      have hrest := h.cons (l := .mark ",") (by decide) (h.cons (plain_name "result")
        (h.cons (l := .mark ".") (by decide) (h.plain (l := .mark "*") (by decide))))
      exact (hadvance.append (hlabel "id")).append hrest
    · exact h.plain (by decide)
  | columns names =>
    refine h.separated fun part hpart => ?_
    obtain ⟨name, -, rfl⟩ := List.mem_map.mp hpart
    exact h.plain (plain_name name)
  | count =>
    have hall : Clauseless (separated [[.mark "*"]]) := h.plain (by decide)
    exact (h.cons (by decide) (h.enclosed hall)).append (hlabel countColumn)

/-- Nor does the clause of its condition. -/
theorem clauseless_where (p : Plan) :
    Clauseless (clauseLexemes [.word "WHERE"] (p.condition.map Predicate.lexemes)) := by
  cases p.condition with
  | none => exact Clauseless.composed.nil
  | some c =>
    rw [Option.map_some, ← Predicate.lexemesOf_test]
    exact Clauseless.composed.cons (by decide) c.test.clauseless

/-- What stands behind the condition of a selection, with the given lexemes for its order. -/
def pageLexemes (p : Plan) (order : Option (List Lexeme)) : List Lexeme :=
  clauseLexemes [.word "ORDER", .word "BY"] order ++
    (clauseLexemes [.word "LIMIT"] (p.limitClause.map fun n => [.ofNat n.toNat]) ++
      clauseLexemes [.word "OFFSET"] (p.offset.map fun n => [.ofNat n.toNat]))

theorem unpaged_number (n : UInt64) : Unpaged [.ofNat n.toNat] :=
  .atom (plain_ofNumber _)

/-- A keyword stands in a clause when it is the clause's own and the clause is there. -/
theorem mem_clauseLexemes {l : Lexeme} (hl : endsCondition l = true) (keywords : List Lexeme)
    {body : Option (List Lexeme)} (hbody : ∀ s ∈ body, Unpaged s) :
    l ∈ clauseLexemes keywords body ↔ body.isSome ∧ l ∈ keywords := by
  cases body with
  | none => simp [clauseLexemes]
  | some s => simp [clauseLexemes, (hbody s rfl).not_mem hl]

/-- LIMIT and OFFSET stand in their own clauses only. -/
theorem mem_numberClause {l : Lexeme} (hl : endsCondition l = true) (keyword : Lexeme)
    (n : Option UInt64) :
    l ∈ clauseLexemes [keyword] (n.map fun n => [.ofNat n.toNat]) ↔ n.isSome ∧ l = keyword := by
  have hnumber : ∀ s ∈ n.map fun n => [Lexeme.ofNat n.toNat], Unpaged s := by
    intro s hs
    obtain ⟨m, -, rfl⟩ := Option.map_eq_some_iff.mp hs
    exact unpaged_number m
  rw [mem_clauseLexemes hl _ hnumber, Option.isSome_map, List.mem_singleton]

/-- An OFFSET at the end is behind a LIMIT if one stands before it. -/
theorem offsetBehindLimit_iff {before : List Lexeme} (hbefore : .word "OFFSET" ∉ before)
    (n : Option UInt64) :
    OffsetBehindLimit (before ++ clauseLexemes [.word "OFFSET"] (n.map fun n => [.ofNat n.toNat])) ↔
      (n.isSome → .word "LIMIT" ∈ before) := by
  cases n with
  | none =>
    simp only [OffsetBehindLimit, Option.map_none, clauseLexemes, List.append_nil,
      Option.isSome_none, Bool.false_eq_true, false_implies, iff_true]
    rintro front back rfl
    simp at hbefore
  | some n =>
    have hnumber : .word "OFFSET" ∉ [Lexeme.ofNat n.toNat] := (unpaged_number n).not_mem (by decide)
    refine ⟨fun h _ => h before _ rfl, fun h front back heq => ?_⟩
    obtain ⟨rfl, -, -⟩ := (List.append_cons_inj_of_notMem hbefore hnumber).mp heq
    exact h rfl

/-- The clauses of a selection of the rows. -/
structure Clauses (p : Plan) (s : List Lexeme) : Prop where
  select : s.head? = some (.word "SELECT")
  order : .word "ORDER" ∈ s ↔ p.sort ≠ []
  limit : .word "LIMIT" ∈ s ↔ p.limitClause.isSome
  offset : .word "OFFSET" ∈ s ↔ p.offset.isSome
  behind : OffsetBehindLimit s ↔ (p.offset.isSome → p.limitClause.isSome)

/-- **The clauses of a page are there as the plan asks for them.** -/
theorem clauses_pageLexemes {front : List Lexeme} (hselect : front.head? = some (.word "SELECT"))
    (hfront : Unpaged front) {order : Option (List Lexeme)} (horder : ∀ s ∈ order, Unpaged s)
    (hsort : order.isSome ↔ p.sort ≠ []) : p.Clauses (front ++ p.pageLexemes order) := by
  have hbefore : ∀ l, endsCondition l = true →
      (l ∈ front ++ clauseLexemes [.word "ORDER", .word "BY"] order ++
          clauseLexemes [.word "LIMIT"] (p.limitClause.map fun n => [.ofNat n.toNat]) ↔
        (order.isSome ∧ l ∈ [.word "ORDER", .word "BY"]) ∨
          p.limitClause.isSome ∧ l = .word "LIMIT") := by
    intro l hl
    rw [List.mem_append, List.mem_append, mem_clauseLexemes hl _ horder, mem_numberClause hl]
    simp [hfront.not_mem hl]
  have hoffset := hbefore (.word "OFFSET") (by decide)
  have hlimit := hbefore (.word "LIMIT") (by decide)
  rw [pageLexemes, ← List.append_assoc, ← List.append_assoc]
  constructor
  · simp [List.head?_append, hselect]
  · rw [List.mem_append, hbefore _ (by decide), mem_numberClause (by decide), ← hsort]
    simp
  · rw [List.mem_append, hlimit, mem_numberClause (by decide)]
    simp
  · rw [List.mem_append, hoffset, mem_numberClause (by decide)]
    simp
  · rw [offsetBehindLimit_iff (by rw [hoffset]; simp), hlimit]
    simp

/-- The terms of the sort, without what stands in parentheses among them. -/
theorem divides_order (p : Plan) :
    ∃ order inner, Divides (clauseLexemes [.word "ORDER", .word "BY"] p.orderLexemes)
        (clauseLexemes [.word "ORDER", .word "BY"] order) inner ∧
      (order.isSome ↔ p.sort ≠ []) ∧ (∀ s ∈ order, Unpaged s) ∧ ∀ s ∈ inner, Unpaged s := by
  unfold orderLexemes
  by_cases hsort : p.sort.isEmpty
  · rw [if_pos hsort]
    exact ⟨none, [], .nil, by simpa using hsort, by simp, by simp⟩
  · rw [if_neg hsort]
    have hterms : Clauseless (separated (p.sort.map SortTerm.lexemes)) := by
      refine Clauseless.composed.separated fun part hpart => ?_
      obtain ⟨term, -, rfl⟩ := List.mem_map.mp hpart
      exact term.clauseless
    obtain ⟨own, inner, hdivides, hown, hinner⟩ := hterms
    have hwords : Divides [.word "ORDER", .word "BY"] [.word "ORDER", .word "BY"] [] :=
      (Divides.plain (by simp)).append (.plain (by simp))
    refine ⟨some own, _, hwords.append hdivides, by simpa using hsort, ?_, hinner⟩
    rintro s ⟨⟩
    exact hown

theorem divides_number (w : String) (n : Option UInt64) :
    let clause := clauseLexemes [.word w] (n.map fun n => [.ofNat n.toNat])
    Divides clause clause [] := by
  cases n with
  | none => exact .nil
  | some n => exact (Divides.plain (by simp)).append (.atom (plain_ofNumber _))

/-- The words that order and limit the rows of a plan stand outside of all parentheses. -/
theorem divides_rows (p : Plan) {items : List Lexeme} (hitems : Clauseless items) :
    ∃ own inner, Divides (p.rowLexemes items) own inner ∧ p.Clauses own ∧
      ∀ s ∈ inner, Unpaged s := by
  have hfrom : Clauseless [.word "FROM", .name p.source] :=
    Clauseless.composed.cons (by decide) (Clauseless.composed.plain (plain_name p.source))
  obtain ⟨front, inner, hdivides, hfront, hinner⟩ :=
    (hitems.append hfrom).append p.clauseless_where
  obtain ⟨order, inner', hdivides', hsort, horder, hinner'⟩ := p.divides_order
  have hselect : Divides [.word "SELECT"] [.word "SELECT"] [] := .plain (by simp)
  have hlast := hdivides'.append
    ((divides_number "LIMIT" p.limitClause).append (divides_number "OFFSET" p.offset))
  have hsplit : p.rowLexemes items = ([.word "SELECT"] ++
      (items ++ [.word "FROM", .name p.source] ++
        clauseLexemes [.word "WHERE"] (p.condition.map Predicate.lexemes))) ++
      p.pageLexemes p.orderLexemes := by
    simp [rowLexemes, pageLexemes]
  have hopening : Unpaged ([.word "SELECT"] ++ front) := (Unpaged.atom (by decide)).append hfront
  refine ⟨_, _, hsplit ▸ (hselect.append hdivides).append hlast,
    clauses_pageLexemes rfl hopening horder hsort, ?_⟩
  rw [List.nil_append, List.append_nil, List.append_nil]
  exact List.forall_mem_append.mpr ⟨hinner, hinner'⟩

/-- A limit is written if it is given, or if numbers are and it keeps an order or an offset. -/
theorem limitClause_isSome_iff (p : Plan) :
    p.limitClause.isSome ↔
      p.limit.isSome ∨ p.rowNumberSeed.isSome ∧ (p.sort ≠ [] ∨ p.offset.isSome) := by
  unfold limitClause
  cases p.limit with
  | some limit => simp
  | none => simp

/-- Numbered rows are selected in a derived table, beside the counter. -/
theorem divides_lexemes {seed : UInt64} (hseed : p.rowNumberSeed = some seed) :
    ∃ own inner rows inner', Divides p.lexemes own (inner ++ rows :: inner') ∧ Unpaged own ∧
      p.Clauses rows ∧ (∀ s ∈ inner, Unpaged s) ∧ ∀ s ∈ inner', Unpaged s := by
  have h := Clauseless.composed
  have hall : Clauseless [.mark "*"] := h.plain (by decide)
  have hcounter : Clauseless [.word "SELECT", .word "@rownum", .mark ":=", .ofNat seed.toNat] :=
    h.cons (by decide) (h.cons (by decide) (h.cons (by decide) (h.plain (plain_ofNumber _))))
  have hlabel : ∀ label, Clauseless (labelLexemes label) := fun label =>
    h.cons (by decide) (h.plain (plain_name label))
  obtain ⟨front, inner, hfront, hunpaged, hinner⟩ := h.cons (l := .word "SELECT") (by decide)
    (h.append p.clauseless_items (h.plain (l := .word "FROM") (by decide)))
  obtain ⟨rows, inner', hrows, hclauses, hinner'⟩ := p.divides_rows hall
  obtain ⟨back, inner'', hback, hunpaged', hinner''⟩ := h.append (hlabel "result")
    (h.cons (l := .mark ",") (by decide) (h.append (h.enclosed hcounter) (hlabel "rownum")))
  have hsplit : p.lexemes = .word "SELECT" :: (p.itemLexemes ++ [.word "FROM"]) ++
      (enclosed (p.rowLexemes [.mark "*"]) ++ (labelLexemes "result" ++ .mark "," ::
        (enclosed [.word "SELECT", .word "@rownum", .mark ":=", .ofNat seed.toNat] ++
          labelLexemes "rownum"))) := by
    simp [lexemes, hseed]
  have hdivides := hfront.append (hrows.enclosed.append hback)
  have hinside :
      inner ++ ((inner' ++ [rows]) ++ inner'') = (inner ++ inner') ++ rows :: inner'' := by
    simp
  rw [← hsplit, hinside] at hdivides
  exact ⟨_, _, _, _, hdivides, hunpaged.append hunpaged', hclauses,
    List.forall_mem_append.mpr ⟨hinner, hinner'⟩, hinner''⟩

/-- What is read of the SELECTs of a plan. -/
theorem readSelects_sql (p : Plan) :
    ∃ selects, readSelects p.sql = some selects ∧
      (p.rowNumberSeed.isSome → ∃ s ∈ selects.nested, p.Clauses s) ∧
      (∀ s ∈ selects.nested, OffsetBehindLimit s ∧ Bounded s) ∧
      (OffsetBehindLimit selects.outer ↔
        (p.rowNumberSeed = none → p.offset.isSome → p.limit.isSome)) := by
  have hread : ∀ {own inner}, Divides p.lexemes own inner → readSelects p.sql =
      some { nested := inner.filter fun s => s.head? == some (.word "SELECT"), outer := own } := by
    intro own inner hdivides
    rw [readSelects, p.lex_sql_eq_lexemes, Option.bind_some, hdivides.divide_eq, Option.map_some]
  have hunpaged : ∀ {s}, Unpaged s → OffsetBehindLimit s ∧ Bounded s := fun h =>
    ⟨h.offsetBehindLimit, h.bounded⟩
  cases hseed : p.rowNumberSeed with
  | none =>
    obtain ⟨own, inner, hdivides, hclauses, hinner⟩ := p.divides_rows p.clauseless_items
    have hrows : p.lexemes = p.rowLexemes p.itemLexemes := by
      unfold lexemes
      rw [hseed]
    refine ⟨_, hread (hrows ▸ hdivides), by simp, ?_, ?_⟩
    · exact fun s hs => hunpaged (hinner s (List.mem_filter.mp hs).1)
    · rw [hclauses.behind, limitClause_isSome_iff, hseed]
      simp
  | some seed =>
    obtain ⟨own, inner, rows, inner', hdivides, hown, hclauses, hinner, hinner'⟩ :=
      p.divides_lexemes hseed
    refine ⟨_, hread hdivides, fun _ => ⟨rows, ?_, hclauses⟩, ?_, ?_⟩
    · simp [hclauses.select]
    · intro s hs
      rcases List.mem_append.mp (List.mem_filter.mp hs).1 with hs | hs
      · exact hunpaged (hinner s hs)
      rcases List.mem_cons.mp hs with rfl | hs
      -- a derived table has a limit wherever it has an order or an offset
      · rw [hclauses.behind, Bounded, hclauses.order, hclauses.offset, hclauses.limit,
          limitClause_isSome_iff, hseed]
        exact ⟨fun h => Or.inr ⟨rfl, Or.inr h⟩, fun h => Or.inr ⟨rfl, h⟩⟩
      · exact hunpaged (hinner' s hs)
    · exact iff_of_true hown.offsetBehindLimit (by simp)

end Plan

/-- **The clauses of a query are legal, and no derived table loses its order.** The query itself has
an OFFSET without a LIMIT if it is asked for an offset, but neither for a limit nor for numbers. -/
theorem paging_legal_iff {o : Object} {options : Options} {u : User} {p : Plan}
    (h : Plan.compile o options u = .ok p) :
    ∃ selects, readSelects p.sql = some selects ∧
      (options.includeRowNumber = true → ∃ s ∈ selects.nested, p.Clauses s) ∧
      (∀ s ∈ selects.nested, OffsetBehindLimit s ∧ Bounded s) ∧
      (OffsetBehindLimit selects.outer ↔
        ¬ (options.offset.isSome ∧ options.limit = none ∧ options.includeRowNumber = false)) := by
  obtain ⟨selects, hread, hrows, hnested, houter⟩ := p.readSelects_sql
  obtain ⟨condition, terms, -, -, rfl⟩ := (Plan.compile_eq_ok_iff p).mp h
  refine ⟨selects, hread, fun hnumbers => hrows (by simp [hnumbers]), hnested, ?_⟩
  rw [houter]
  cases options.includeRowNumber <;> cases options.limit <;> simp

namespace Object

/-- Parts behind the fifth, with numbers. -/
theorem paging_legal_iff_parts :
    let options : Options := { offset := some 5 }
    ∃ p, Plan.compile parts options {} = .ok p ∧
      ∃ selects, readSelects p.sql = some selects ∧
        (options.includeRowNumber = true → ∃ s ∈ selects.nested, p.Clauses s) ∧
        (∀ s ∈ selects.nested, OffsetBehindLimit s ∧ Bounded s) ∧
        (OffsetBehindLimit selects.outer ↔
          ¬ (options.offset.isSome ∧ options.limit = none ∧ options.includeRowNumber = false)) := by
  intro options
  obtain ⟨p, hp⟩ : ∃ p, Plan.compile parts options {} = .ok p := ⟨_, rfl⟩
  exact ⟨p, hp, paging_legal_iff hp⟩

/-- Without numbers the offset has no limit before it. -/
theorem offset_without_limit :
    let options : Options :=
      { offset := some 5, includeRowNumber := false, skipExistingConditions := true }
    ∃ p selects, Plan.compile parts options {} = .ok p ∧
      p.sql = "SELECT * FROM \x60Parts\x60 OFFSET 5" ∧ readSelects p.sql = some selects ∧
      ¬ OffsetBehindLimit selects.outer := by
  intro options
  let p : Plan := { source := "Parts", offset := some 5 }
  let outer : List Lexeme :=
    [.word "SELECT", .mark "*", .word "FROM", .name "Parts", .word "OFFSET", .ofNat 5]
  have hread : readSelects p.sql = some { nested := [], outer } := by
    rw [readSelects, p.lex_sql_eq_lexemes]
    rfl
  refine ⟨p, _, rfl, by decide, hread, fun h => ?_⟩
  have hlimit := h [.word "SELECT", .mark "*", .word "FROM", .name "Parts"] _ rfl
  simp at hlimit

end Object

end Fieldwork
