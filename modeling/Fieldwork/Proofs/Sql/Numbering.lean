import Fieldwork.Proofs.Condition.Rules
import Fieldwork.Proofs.Find

/-!
# The query inside of a numbered one

Rows are numbered around a query: it gives the rows, and the numbers are counted up over them. So
the numbers have no part in which rows come back or in what order, as long as the query inside is
the one that stands alone without them.

* `compile_unnumbered`: whether rows are numbered has no part in how a query is compiled otherwise.
* `Plan.sql_of_seed`: the text of a numbered query, around the text of the selection inside.
* `numbering_wraps_query`: **the query inside of a numbered one is, character for character, what
  its condition and its sort compile to without numbers**, with all columns, the same offset and a
  limit that keeps the order.
-/

namespace Fieldwork

open Sql

namespace Sql

/-! ## Texts of tokens -/

/-- A name in backticks, those inside of it doubled. -/
def quoted (name : String) : String :=
  "`" ++ String.ofList (name.toList.flatMap fun c => if c = '\x60' then ['\x60', '\x60'] else [c])
    ++ "`"

@[simp] theorem textOf_nil : textOf [] = "" := rfl

/-- Tokens are written one behind the other. -/
theorem textOf_append (a b : List Token) : textOf (a ++ b) = textOf a ++ textOf b := by
  unfold textOf
  rw [List.flatMap_append, String.ofList_append]

theorem textOf_cons (t : Token) (ts : List Token) :
    textOf (t :: ts) = String.ofList t.chars ++ textOf ts := by
  unfold textOf
  rw [List.flatMap_cons, String.ofList_append]

@[simp] theorem textOf_word (s : String) (ts : List Token) :
    textOf (.word s :: ts) = s ++ textOf ts := by
  rw [textOf_cons, Token.chars, String.ofList_toList]

@[simp] theorem textOf_mark (s : String) (ts : List Token) :
    textOf (.mark s :: ts) = s ++ textOf ts := by
  rw [textOf_cons, Token.chars, String.ofList_toList]

@[simp] theorem textOf_blank (ts : List Token) : textOf (.blank :: ts) = " " ++ textOf ts :=
  textOf_cons .blank ts

@[simp] theorem textOf_name (s : String) (ts : List Token) :
    textOf (.name s :: ts) = quoted s ++ textOf ts := by
  rw [textOf_cons, Token.chars, Token.nameChars, quoted, String.ofList_append, String.ofList_cons]
  rfl

@[simp] theorem textOf_natToken (n : ℕ) (ts : List Token) :
    textOf (natToken n :: ts) = toString n ++ textOf ts := by
  have hdigits : (natToken n).chars = Nat.toDigits 10 n := rfl
  rw [textOf_cons, hdigits, ← Nat.repr_eq_ofList_toDigits]
  rfl

/-- Parts are written with a comma and a blank between them. -/
theorem textOf_commaSeparated (parts : List (List Token)) :
    textOf (commaSeparated parts) = ", ".intercalate (parts.map textOf) := by
  induction parts with
  | nil => rfl
  | cons part parts ih =>
    cases parts with
    | nil => simp [commaSeparated]
    | cons next rest =>
      rw [commaSeparated, textOf_append, textOf_mark, textOf_blank, ih, List.map_cons,
        List.map_cons, List.map_cons, String.intercalate_cons_cons, String.append_assoc]
      · rfl
      · exact List.cons_ne_nil _ _

/-- Tokens in parentheses are written in parentheses. -/
theorem textOf_parenthesised (tokens : List Token) :
    textOf (parenthesised tokens) = "(" ++ textOf tokens ++ ")" := by
  unfold parenthesised
  rw [List.cons_append, textOf_mark, textOf_append, ← String.append_assoc]
  rfl

/-- A table of rows is the text of its query in parentheses, under a name. -/
theorem textOf_rows (s : Select Table) (label : String) :
    textOf (Derived.rows s label).tokens =
      "(" ++ textOf (s.tokens pathTokens) ++ ") AS " ++ quoted label := by
  rw [Derived.tokens, textOf_append, textOf_parenthesised, labelled, textOf_blank, textOf_word,
    textOf_blank, textOf_name, textOf_nil, String.append_empty]
  simp only [String.append_assoc]
  rfl

/-- The table of the counter sets it to the seed. -/
theorem textOf_counter (name : String) (seed : UInt64) (label : String) :
    textOf (Derived.counter name seed label).tokens =
      "(SELECT " ++ name ++ " := " ++ toString seed.toNat ++ ") AS " ++ quoted label := by
  rw [Derived.tokens, textOf_append, textOf_parenthesised, labelled]
  simp only [textOf_blank, textOf_word, textOf_mark, textOf_name, textOf_natToken, textOf_nil,
    String.append_empty]
  refine String.toList_inj.mp ?_
  simp only [String.toList_append, List.append_assoc]
  rfl

end Sql

/-! ## Numbered queries -/

namespace Plan

variable {p : Plan} {seed : UInt64}

/-- **The text of a numbered query**, around the selection of its rows. -/
theorem sql_of_seed (h : p.rowNumberSeed = some seed) :
    p.sql = "SELECT " ++ ", ".intercalate (p.items.map fun item => textOf item.tokens) ++
      " FROM (" ++ textOf ((p.selection [.all]).tokens pathTokens) ++
      ") AS `result`, (SELECT @rownum := " ++ toString seed.toNat ++ ") AS `rownum`" := by
  have hquery : p.query = .derived
      { items := p.items
        sources := [.rows (p.selection [.all]) "result", .counter "@rownum" seed "rownum"] } := by
    unfold query
    rw [h]
  have htokens : p.query.tokens =
      [.word "SELECT", .blank] ++ commaSeparated (p.items.map Item.tokens) ++
        (.blank :: .word "FROM" :: .blank :: commaSeparated
          [(Derived.rows (p.selection [.all]) "result").tokens,
            (Derived.counter "@rownum" seed "rownum").tokens]) := by
    rw [hquery]
    simp [Query.tokens, Select.tokens, clause, list?]
  unfold sql Query.text
  rw [htokens, textOf_append, textOf_append, textOf_commaSeparated]
  simp only [textOf_blank, textOf_word, textOf_commaSeparated, List.map_cons, List.map_nil,
    String.intercalate_cons_cons, String.intercalate_singleton, textOf_rows, textOf_counter,
    List.map_map]
  refine String.toList_inj.mp ?_
  simp only [String.toList_append, List.append_assoc]
  rfl

/-- The selection inside of a numbered query, as a query of its own. -/
theorem sql_alone (p : Plan) :
    Plan.sql { p with rowNumberSeed := none, limit := p.limitClause, projection := .all } =
      textOf ((p.selection [.all]).tokens pathTokens) := by
  have hlimit : limitClause
      { p with rowNumberSeed := none, limit := p.limitClause, projection := .all } =
        p.limitClause := by
    rw [limitClause]
    cases p.limitClause <;> rfl
  have hselection : selection
      { p with rowNumberSeed := none, limit := p.limitClause, projection := .all } [.all] =
        p.selection [.all] := by
    rw [selection, hlimit]
    rfl
  rw [← hselection]
  rfl

end Plan

namespace Options

/-- The same query without numbers. -/
def unnumbered (options : Options) : Options :=
  { options with includeRowNumber := false }

/-- The query whose rows are numbered: all their columns, and a limit where there is an order or an
offset to keep. -/
def inner (options : Options) : Options :=
  { options.unnumbered with
    columnNames := none
    includeColumns := true
    limit := match options.limit with
      | some limit => some limit
      | none =>
        if options.sort ≠ [] ∨ options.offset.isSome then some 18446744073709551615 else none }

/-- What a numbered query selects: the numbers and all columns, the columns asked for without the
backticks in their names, or the primary key. -/
def numberedList (options : Options) (o : Object) : String :=
  match options.columnNames with
  | some (name :: names) =>
    ", ".intercalate ((name :: names).map fun name =>
      quoted (String.ofList (name.toList.filter (· ≠ '\x60'))))
  | _ =>
    if options.includeColumns then "@rownum := @rownum + 1 AS `id`, `result`.*"
    else quoted o.primaryKey

end Options

variable {o : Object} {options : Options} {u : User}

/-- Whether rows are numbered has no part in how a query is compiled otherwise. -/
theorem compile_unnumbered :
    Plan.compile o options.unnumbered u =
      (Plan.compile o options u).map fun p => { p with rowNumberSeed := none } := by
  have hrows : Plan.compileRows o options.unnumbered u = Plan.compileRows o options u := rfl
  unfold Plan.compile
  rw [hrows]
  cases Plan.compileRows o options u <;> rfl

/-- **The inner query is the one without numbers**, but for what it selects and its limit. -/
theorem compile_inner :
    Plan.compile o options.inner u =
      (Plan.compile o options.unnumbered u).map fun p =>
        { p with limit := options.inner.limit, projection := .all } := by
  have hrows : Plan.compileRows o options.inner u = Plan.compileRows o options.unnumbered u := rfl
  unfold Plan.compile
  rw [hrows]
  cases Plan.compileRows o options.unnumbered u <;> rfl

/-- What a numbered query takes over from the options; its sort is empty only if theirs is. -/
theorem parts_of_compile {p : Plan} (hp : Plan.compile o options u = .ok p)
    (h : options.includeRowNumber = true) :
    p.rowNumberSeed = some (options.offset.getD 0) ∧ p.projection = options.projection o ∧
      p.limit = options.limit ∧ p.offset = options.offset ∧
      (p.sort = [] ↔ options.sort = []) := by
  obtain ⟨condition, terms, -, hterms, rfl⟩ := (Plan.compile_eq_ok_iff p).mp hp
  have hlength : options.sort.length = terms.length :=
    ((mapM_eq_ok_iff_forall₂ _ _).mp hterms).length_eq
  refine ⟨by simp [h], rfl, rfl, rfl, ?_⟩
  rw [← List.length_eq_zero_iff, ← List.length_eq_zero_iff, hlength]

/-- What a numbered query selects, as it is written. -/
theorem textOf_items {p : Plan} (hp : Plan.compile o options u = .ok p)
    (h : options.includeRowNumber = true) :
    ", ".intercalate (p.items.map fun item => textOf item.tokens) = options.numberedList o := by
  obtain ⟨hseed, hprojection, -⟩ := parts_of_compile hp h
  have hname : ∀ name, textOf (Item.column name).tokens = quoted name := fun name => by
    rw [Item.tokens, textOf_name, textOf_nil, String.append_empty]
  have hall : textOf (Item.advance "@rownum" "id").tokens ++ ", " ++
      textOf (Item.allOf "result").tokens = "@rownum := @rownum + 1 AS `id`, `result`.*" := rfl
  unfold Plan.items
  rw [hprojection, hseed]
  unfold Options.projection Options.numberedList
  rcases options.columnNames with _ | _ | ⟨name, names⟩
  · cases options.includeColumns
    · simp [hname]
    · simp [hall]
  · cases options.includeColumns
    · simp [hname]
    · simp [hall]
  · simp [hname, Function.comp_def]

/-- The limit of the selection inside is that of the inner query. -/
theorem limitClause_inner {p : Plan} (hp : Plan.compile o options u = .ok p)
    (h : options.includeRowNumber = true) : p.limitClause = options.inner.limit := by
  obtain ⟨hseed, -, hlimit, hoffset, hsort⟩ := parts_of_compile hp h
  unfold Plan.limitClause Options.inner
  rw [hlimit, hseed, hoffset]
  cases options.limit with
  | some limit => rfl
  | none =>
    have hunbounded : Plan.unbounded = 18446744073709551615 := rfl
    simp [hsort, hunbounded]

/-- **The query inside of a numbered one is what stands alone without numbers.** Numbering is no
reason for a query to fail, and it leaves its condition and its sort as they are. Around the text of
the inner query there is only what is selected and the counter. -/
theorem numbering_wraps_query (h : options.includeRowNumber = true) :
    (∀ fault, Plan.compile o options u = .error fault ↔
      Plan.compile o options.unnumbered u = .error fault) ∧
    ∀ p, Plan.compile o options u = .ok p → ∃ plain inner,
      Plan.compile o options.unnumbered u = .ok plain ∧
      plain.condition = p.condition ∧ plain.sort = p.sort ∧
      Plan.compile o options.inner u = .ok inner ∧
      p.sql = "SELECT " ++ options.numberedList o ++ " FROM (" ++ inner.sql ++
        ") AS `result`, (SELECT @rownum := " ++ toString (options.offset.getD 0).toNat ++
        ") AS `rownum`" := by
  refine ⟨fun fault => ?_, fun p hp => ?_⟩
  · rw [compile_unnumbered]
    exact map_eq_error_iff.symm
  have hunnumbered :
      Plan.compile o options.unnumbered u = .ok { p with rowNumberSeed := none } := by
    rw [compile_unnumbered, hp]
    rfl
  have hinner : Plan.compile o options.inner u =
      .ok { p with rowNumberSeed := none, limit := options.inner.limit, projection := .all } := by
    rw [compile_inner, hunnumbered]
    rfl
  refine ⟨_, _, hunnumbered, rfl, rfl, hinner, ?_⟩
  rw [Plan.sql_of_seed (parts_of_compile hp h).1, textOf_items hp h, ← Plan.sql_alone,
    limitClause_inner hp h]

/-! ## Parts in the order of their sizes -/

namespace Object

/-- The sizes from the sixth part on, the greatest first. -/
def laterSizes : Options :=
  { sort := [⟨"size", .descending⟩], offset := some 5, columnNames := some ["id", "si`ze"] }

/-- The parts are sorted inside, under a limit that lets all of them pass. -/
theorem numbering_wraps_query_parts :
    laterSizes.includeRowNumber = true ∧
    ∃ p inner, Plan.compile parts laterSizes {} = .ok p ∧
      Plan.compile parts laterSizes.inner {} = .ok inner ∧
      inner.sql = "SELECT * FROM `Parts` WHERE `open` = TRUE " ++
        "ORDER BY `shop`.`Parts`.`size` DESC LIMIT 18446744073709551615 OFFSET 5" ∧
      laterSizes.numberedList parts = "`id`, `size`" ∧
      p.sql = "SELECT " ++ laterSizes.numberedList parts ++ " FROM (" ++ inner.sql ++
        ") AS `result`, (SELECT @rownum := " ++ "5" ++ ") AS `rownum`" := by
  obtain ⟨p, hp⟩ : ∃ p, Plan.compile parts laterSizes {} = .ok p := ⟨_, rfl⟩
  obtain ⟨plain, inner, -, -, -, hinner, hsql⟩ := (numbering_wraps_query rfl).2 p hp
  refine ⟨rfl, p, inner, hp, hinner, ?_, rfl, hsql⟩
  cases hinner
  rfl

end Object

end Fieldwork
