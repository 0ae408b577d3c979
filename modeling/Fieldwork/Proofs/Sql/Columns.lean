import Fieldwork.Proofs.Pages
import Fieldwork.Proofs.Sql.Meaning

/-!
# The columns that a query selects

The SELECT list of a statement is read from its text and applied to the rows that the statement
selects from: a star gives all columns of a row, a name the column of that name, and a counter a
number for each row. A plan numbers its rows before it reduces them to their columns; in SQL the
list of names takes the place of the counter.

* `readSelectList_sql`: the list of a query is read back as it was written.
* `select_list_agrees_iff`: **the list gives the columns that the plan answers with**, unless rows
  are numbered and the number is asked for by name.
-/

namespace Fieldwork

open Sql

/-! ## Reading the list -/

namespace Sql

/-- An item of a SELECT list. -/
inductive Listed where
  /-- All columns, of all sources or of one. -/
  | all (source : Option String)
  | column (name : String)
  /-- A variable raised by one for each row, under a name. -/
  | counter (target label : String)
  deriving DecidableEq, Repr

namespace Listed

def read? : List Lexeme → Option Listed
  | [.mark "*"] => some (.all none)
  | [.name source, .mark ".", .mark "*"] => some (.all (some source))
  | [.name name] => some (.column name)
  | [.word target, .mark ":=", .word operand, .mark "+", .number step, .word "AS", .name label] =>
    if operand = target ∧ step = "1" then some (.counter target label) else none
  | _ => none

/-- What an item gives for a row, `count` being the counter as it was just raised. -/
def cells (count : ℕ) (r : Row) : Listed → List (String × Json)
  | .all _ => r
  | .column name => ((Record.get? r name).map fun v => (name, v)).toList
  | .counter _ label => [(label, .ofNat count)]

end Listed

structure SelectList where
  items : List Listed
  /-- What the counter starts from. -/
  start : ℕ
  deriving DecidableEq, Repr

namespace SelectList

/-- The items between the outermost SELECT and its FROM. -/
def items? : List Lexeme → Option (List Listed)
  | .word "SELECT" :: rest =>
    ((rest.takeWhile (· ≠ .word "FROM")).splitOn (.mark ",")).mapM Listed.read?
  | _ => none

def numeral? (s : String) : Option ℕ :=
  if s.toList.all Char.isDigit then some (Nat.ofDigitChars 10 s.toList 0) else none

/-- The counter is set in the last source of a statement. -/
def start? (ls : List Lexeme) : Option ℕ :=
  match ls.reverse with
  | .name _ :: .word "AS" :: .mark ")" :: .number start :: .mark ":=" :: .word _ ::
      .word "SELECT" :: .mark "(" :: _ => numeral? start
  | _ => none

/-- The cells of each row, in the order of the list. -/
def rows (l : SelectList) (rows : List Row) : List (List (String × Json)) :=
  rows.mapIdx fun i r => l.items.flatMap (Listed.cells (l.start + i + 1) r)

end SelectList

/-- The list of a statement; where no counter is set none is started. -/
def readSelectList (sql : String) : Option SelectList :=
  (lex sql).bind fun ls =>
    (SelectList.items? ls).map fun items => { items, start := (SelectList.start? ls).getD 0 }

theorem separated_eq_intercalate (parts : List (List Lexeme)) :
    separated parts = [Lexeme.mark ","].intercalate parts := by
  match parts with
  | [] => rfl
  | [part] => simp [separated]
  | part :: next :: parts =>
    rw [separated, separated_eq_intercalate (next :: parts), List.intercalate_cons_cons]
    · simp
    · simp

/-- The items between SELECT and FROM are read one by one. -/
theorem SelectList.items?_separated (parts : List (List Lexeme)) {items : List Listed}
    (hparts : parts ≠ []) (hcomma : ∀ part ∈ parts, .mark "," ∉ part)
    (hfrom : ∀ part ∈ parts, .word "FROM" ∉ part) (hread : parts.mapM Listed.read? = some items)
    (rest : List Lexeme) :
    items? (.word "SELECT" :: (separated parts ++ .word "FROM" :: rest)) = some items := by
  have hbefore : ∀ l ∈ separated parts, decide (l ≠ .word "FROM") = true := by
    intro l hl
    rw [decide_eq_true_iff]
    rintro rfl
    exact word_not_mem_separated hfrom hl
  rw [items?, List.takeWhile_append_of_pos hbefore, List.takeWhile_cons_of_neg (by simp),
    List.append_nil, separated_eq_intercalate, List.splitOn_intercalate _ hcomma hparts, hread]

theorem Lexeme.ofNat_eq (n : ℕ) :
    Lexeme.ofNat n = .number (String.ofList (Decimal.digitsText n)) :=
  (Numeral.digitsText n).ofRun.1

theorem SelectList.numeral?_digitsText (n : ℕ) :
    numeral? (String.ofList (Decimal.digitsText n)) = some n := by
  have hdigits : (Decimal.digitsText n).all Char.isDigit = true :=
    List.all_eq_true.mpr fun c hc => Decimal.isDigit_of_mem_digitsText hc
  rw [numeral?, String.toList_ofList, if_pos hdigits]
  exact congrArg some (Decimal.ofDigitChars_digitsText n)

end Sql

namespace Plan

/-- The items that a plan selects, apart from their text. -/
def listed (p : Plan) : List Listed :=
  match p.projection with
  | .all =>
    if p.rowNumberSeed.isSome then [.counter "@rownum" "id", .all (some "result")]
    else [.all none]
  | .columns names => names.map .column
  | .count => []

variable {p : Plan}

theorem items?_lexemes (hcount : p.projection ≠ .count) (hnames : p.projection ≠ .columns [])
    (rest : List Lexeme) :
    SelectList.items? (.word "SELECT" :: (p.itemLexemes ++ .word "FROM" :: rest)) =
      some p.listed := by
  unfold itemLexemes listed
  cases hprojection : p.projection with
  | count => exact absurd hprojection hcount
  | all =>
    dsimp only
    split
    · exact SelectList.items?_separated [_, [.name "result", .mark ".", .mark "*"]] (by simp)
        (by decide) (by decide) (by rfl) rest
    · exact SelectList.items?_separated [[.mark "*"]] (by simp) (by simp) (by simp) rfl rest
  | columns names =>
    have hread : ∀ ns : List String,
        (ns.map fun name => [Lexeme.name name]).mapM Listed.read? =
          some (ns.map Listed.column) := by
      intro ns
      induction ns with
      | nil => rfl
      | cons n ns ih =>
        rw [List.map_cons, List.mapM_cons, ih]
        rfl
    refine SelectList.items?_separated _ ?_ (by simp) (by simp) (hread names) rest
    intro h
    rw [List.map_eq_nil_iff.mp h] at hprojection
    exact hnames hprojection

theorem start?_lexemes {seed : UInt64} (hseed : p.rowNumberSeed = some seed) :
    SelectList.start? p.lexemes = some seed.toNat := by
  unfold lexemes
  rw [hseed]
  simp [SelectList.start?, enclosed, labelLexemes, Lexeme.ofNat_eq, SelectList.numeral?_digitsText]

/-- **The list of a query is read back as it was written**, with the counter set to the seed. -/
theorem readSelectList_sql (hcount : p.projection ≠ .count) (hnames : p.projection ≠ .columns []) :
    ∃ start, readSelectList p.sql = some { items := p.listed, start } ∧
      ∀ seed, p.rowNumberSeed = some seed → start = seed.toNat := by
  have hitems : SelectList.items? p.lexemes = some p.listed := by
    unfold lexemes rowLexemes
    cases p.rowNumberSeed with
    | none =>
      dsimp only
      simp only [List.append_assoc, List.cons_append, List.nil_append]
      exact items?_lexemes hcount hnames _
    | some seed =>
      dsimp only
      simp only [List.append_assoc, List.cons_append]
      exact items?_lexemes hcount hnames _
  refine ⟨(SelectList.start? p.lexemes).getD 0, ?_, fun seed hseed => ?_⟩
  · rw [readSelectList, p.lex_sql_eq_lexemes, Option.bind_some, hitems, Option.map_some]
  · rw [start?_lexemes hseed, Option.getD_some]

end Plan

/-! ## Rows column by column -/

/-- The cells are those of the row, each column by its name. -/
def SameCells (cells : List (String × Json)) (r : Row) : Prop :=
  ∀ name, Record.get? cells name = Record.get? r name

theorem get?_column_cells (names : List String) (count : ℕ) (r : Row) (name : String) :
    Record.get? ((names.map Listed.column).flatMap (Listed.cells count r)) name =
      if name ∈ names then Record.get? r name else none := by
  induction names with
  | nil => rfl
  | cons n names ih =>
    rw [List.map_cons, List.flatMap_cons, Listed.cells]
    by_cases hn : n = name
    · subst hn
      cases hfound : Record.get? r n with
      | none => simp [ih, hfound]
      | some v => simp [Record.get?]
    · have hmem : name ∈ n :: names ↔ name ∈ names := by simp [Ne.symm hn]
      simp only [hmem, ← ih]
      cases Record.get? r n with
      | none => rfl
      | some v => exact if_neg hn

/-- Reducing a row writes the columns that it has. -/
theorem last?_columns (names : List String) (r : Row) (name : String) :
    Record.last? name (names.filterMap fun n => (Record.get? r n).map (n, ·)) =
      if name ∈ names then Record.get? r name else none := by
  induction names with
  | nil => rfl
  | cons n names ih =>
    rw [List.filterMap_cons]
    by_cases hn : n = name
    · subst hn
      cases hfound : Record.get? r n with
      | none => simp [ih, hfound]
      | some v =>
        simp only [Option.map_some, Record.last?_cons, ih, hfound, List.mem_cons_self, if_true]
        split <;> rfl
    · have hmem : name ∈ n :: names ↔ name ∈ names := by simp [Ne.symm hn]
      simp only [hmem, ← ih]
      cases Record.get? r n with
      | none => rfl
      | some v => exact (Record.last?_cons _).trans (by rw [if_neg hn, Option.or_none])

theorem Projection.get?_apply_columns (names : List String) (r : Row) (name : String) :
    Record.get? ((Projection.columns names).apply r) name =
      if name ∈ names then Record.get? r name else none := by
  have hempty : Record.get? ([] : Row) name = none := rfl
  rw [apply, Record.ofList, Record.get?_overlay, last?_columns, hempty, Option.or_none]

namespace Plan

variable {p : Plan}

/-- The number that SQL counts for a row is the one that the plan gives it. -/
theorem rowNumber_of_mem_origins {tables : Tables} {stored : List Row} {seed : UInt64}
    (hlength : stored.length < 2 ^ 64) (hseed : seed = p.offset.getD 0) {i : ℕ}
    (hi : i < (p.origins tables stored).length) :
    (rowNumber seed i).toNat = seed.toNat + i + 1 := by
  have hall : (p.sorted (p.matched tables stored)).length < 2 ^ 64 := by
    rw [sorted, (sortByInsertion_perm _ _).length_eq]
    exact (List.length_filter_le _ _).trans_lt hlength
  rw [hseed]
  exact (Object.rowNumber_on_page hall hi).1

theorem get?_numbered_of_ne {name : String} (h : name ≠ "id") (i : ℕ) (q : Row) :
    Record.get? (p.numbered i q) name = Record.get? q name := by
  unfold numbered
  cases p.rowNumberSeed with
  | none => rfl
  | some seed => exact Record.get?_insert_of_ne h _ _

/-- Rows are numbered, and the number is one of the columns that are asked for by name. -/
def AsksForNumber (p : Plan) : Prop :=
  p.rowNumberSeed.isSome ∧ ∃ names, p.projection = .columns names ∧ "id" ∈ names

/-- A plan that keeps all columns shows the number beside those of the row. -/
theorem sameCells_all (h : p.projection = .all) {count i : ℕ} {q : Row}
    (hcount : ∀ seed ∈ p.rowNumberSeed, (rowNumber seed i).toNat = count) :
    SameCells (p.listed.flatMap (Listed.cells count q)) (p.numbered i q) := by
  unfold listed numbered
  rw [h]
  cases hseed : p.rowNumberSeed with
  | none =>
    intro name
    simp [Listed.cells]
  | some seed =>
    intro name
    simp only [hcount seed hseed, Option.isSome_some, if_true, List.flatMap_cons, Listed.cells,
      List.flatMap_nil, List.append_nil, List.singleton_append, Record.get?]
    by_cases hname : "id" = name
    · subst hname
      rw [if_pos rfl, Record.get?_insert_self]
    · rw [if_neg hname, Record.get?_insert_of_ne (Ne.symm hname)]

/-- A plan that keeps columns by name finds the number among them, and SQL does not. -/
theorem sameCells_columns {names : List String} (h : p.projection = .columns names) (count i : ℕ)
    {q : Row} (hid : Record.get? q "id" = none) :
    SameCells (p.listed.flatMap (Listed.cells count q))
        ((Projection.columns names).apply (p.numbered i q)) ↔
      (p.rowNumberSeed.isSome → "id" ∉ names) := by
  unfold listed SameCells
  rw [h]
  simp only [get?_column_cells, Projection.get?_apply_columns]
  constructor
  · intro hsame hseed hmem
    obtain ⟨seed, hseed⟩ := Option.isSome_iff_exists.mp hseed
    have hlost := hsame "id"
    rw [if_pos hmem, if_pos hmem, hid, numbered, hseed, Record.get?_insert_self] at hlost
    cases hlost
  · intro hasks name
    by_cases hname : name = "id"
    · subst hname
      cases hseed : p.rowNumberSeed with
      | none => rw [numbered, hseed]
      | some seed =>
        have hnot : "id" ∉ names := hasks (by rw [hseed]; rfl)
        rw [if_neg hnot, if_neg hnot]
    · rw [get?_numbered_of_ne hname]

/-- The list gives for a row what the plan answers, unless it is asked for the number by name. -/
theorem sameCells_iff (hprojection : p.projection ≠ .count) {count i : ℕ} {q : Row}
    (hcount : ∀ seed ∈ p.rowNumberSeed, (rowNumber seed i).toNat = count)
    (hid : Record.get? q "id" = none) :
    SameCells (p.listed.flatMap (Listed.cells count q)) (p.projection.apply (p.numbered i q)) ↔
      ¬ p.AsksForNumber := by
  unfold AsksForNumber
  cases h : p.projection with
  | count => exact absurd h hprojection
  | all =>
    refine ⟨fun _ => ?_, fun _ => sameCells_all h hcount⟩
    rintro ⟨-, names, hall, -⟩
    cases hall
  | columns names => simpa using sameCells_columns h count i hid

end Plan

theorem Options.projection_ne_columns_nil {o : Object} {options : Options} :
    options.projection o ≠ .columns [] := by
  unfold projection
  split
  · simp
  · split <;> simp

theorem forall₂_mapIdx {α β γ : Type} {R : β → γ → Prop} {f : ℕ → α → β} {g : ℕ → α → γ}
    (as : List α) :
    List.Forall₂ R (as.mapIdx f) (as.mapIdx g) ↔
      ∀ i (h : i < as.length), R (f i as[i]) (g i as[i]) := by
  simp [List.forall₂_iff_get]

/-- **The SELECT list gives the columns that the plan answers with**, row by row, on rows that have
no column named as the number is; unless rows are numbered and the number is asked for by name. -/
theorem select_list_agrees_iff {o : Object} {options : Options} {u : User} {p : Plan}
    {tables : Tables} {stored : List Row} (hp : Plan.compile o options u = .ok p)
    (hstored : Record.get? tables p.source = some stored) (hlength : stored.length < 2 ^ 64)
    (hid : ∀ r ∈ stored, Record.get? r "id" = none) :
    ∃ list answer, readSelectList p.sql = some list ∧ p.run tables = .ok answer ∧
      (List.Forall₂ SameCells (list.rows (p.origins tables stored)) answer ↔
        (p.AsksForNumber → answer = [])) := by
  obtain ⟨condition, terms, -, -, hplan⟩ := (Plan.compile_eq_ok_iff p).mp hp
  have hprojection : p.projection = options.projection o := by rw [hplan]
  have hcount : p.projection ≠ .count := hprojection ▸ Options.projection_ne_count
  have hnames : p.projection ≠ .columns [] := hprojection ▸ Options.projection_ne_columns_nil
  have hoffset : ∀ seed ∈ p.rowNumberSeed, seed = p.offset.getD 0 := by
    intro seed hseed
    subst hplan
    obtain ⟨-, hsome⟩ := Option.ite_none_right_eq_some.mp hseed
    exact (Option.some.inj hsome).symm
  obtain ⟨start, hlist, hstart⟩ := Plan.readSelectList_sql hcount hnames
  have hrow : ∀ i (h : i < (p.origins tables stored).length),
      SameCells (p.listed.flatMap (Listed.cells (start + i + 1) (p.origins tables stored)[i]))
        (p.projection.apply (p.numbered i (p.origins tables stored)[i])) ↔ ¬ p.AsksForNumber := by
    intro i hi
    refine Plan.sameCells_iff hcount (fun seed hseed => ?_) ?_
    · rw [hstart seed hseed]
      exact Plan.rowNumber_of_mem_origins hlength (hoffset seed hseed) hi
    · exact hid _ (Plan.mem_of_mem_origins tables stored (List.getElem_mem hi))
  refine ⟨_, _, hlist, (Plan.run_eq_ok_iff _ _ _).mpr ⟨stored, hstored, rfl⟩, ?_⟩
  rw [Plan.answer_eq_origins tables stored hcount, SelectList.rows, forall₂_mapIdx]
  simp only [hrow, List.mapIdx_eq_nil_iff]
  constructor
  · intro h hasks
    by_contra hne
    exact h 0 (List.length_pos_iff.mpr hne) hasks
  · intro h i hi hasks
    rw [h hasks] at hi
    exact absurd hi (Nat.not_lt_zero i)

namespace Object

theorem select_list_agrees_parts :
    let stored := [part true (.ofNat 2), part false (.ofNat 10), part true (.string "15")]
    ∃ p, Plan.compile parts {} {} = .ok p ∧
      Record.get? mixedStock.storage.tables p.source = some stored ∧ stored.length < 2 ^ 64 ∧
      (∀ r ∈ stored, Record.get? r "id" = none) ∧
      ∃ list answer, readSelectList p.sql = some list ∧
        p.run mixedStock.storage.tables = .ok answer ∧
        (List.Forall₂ SameCells (list.rows (p.origins mixedStock.storage.tables stored)) answer ↔
          (p.AsksForNumber → answer = [])) := by
  intro stored
  obtain ⟨p, hp⟩ : ∃ p, Plan.compile parts {} {} = .ok p := ⟨_, rfl⟩
  have hstored : Record.get? mixedStock.storage.tables p.source = some stored := by
    cases hp
    rfl
  have hid : ∀ r ∈ stored, Record.get? r "id" = none := by simp [stored, part, Record.get?]
  exact ⟨p, hp, hstored, by decide, hid,
    select_list_agrees_iff hp hstored (by decide) hid⟩

/-- The number is asked for by name: the list has no counter for it. -/
theorem number_lost_by_name :
    let stored := [part true (.ofNat 2), part false (.ofNat 10), part true (.string "15")]
    ∃ p list answer, Plan.compile parts numberedSizes {} = .ok p ∧
      Record.get? mixedStock.storage.tables p.source = some stored ∧
      (∀ r ∈ stored, Record.get? r "id" = none) ∧ readSelectList p.sql = some list ∧
      p.run mixedStock.storage.tables = .ok answer ∧
      ¬ List.Forall₂ SameCells (list.rows (p.origins mixedStock.storage.tables stored)) answer := by
  intro stored
  let p : Plan :=
    { source := "Parts", rowNumberSeed := some 0, projection := .columns ["id", "size"] }
  let list : SelectList := { items := [.column "id", .column "size"], start := 0 }
  have hid : ∀ r ∈ stored, Record.get? r "id" = none := by simp [stored, part, Record.get?]
  have hlist : readSelectList p.sql = some list := by
    obtain ⟨start, hread, hstart⟩ := p.readSelectList_sql (by simp [p]) (by simp [p])
    obtain rfl := hstart 0 rfl
    exact hread
  have hrows : list.rows (p.origins mixedStock.storage.tables stored) =
      [[("size", .ofNat 2)], [("size", .ofNat 10)], [("size", .string "15")]] := rfl
  refine ⟨p, list, _, rfl, rfl, hid, hlist, rfl, fun hsame => ?_⟩
  rw [hrows] at hsame
  cases hsame with
  | cons hfirst _ =>
    have hlost : none = some (Json.ofNat 1) := hfirst "id"
    cases hlost

end Object

end Fieldwork
