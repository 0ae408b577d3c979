import Mathlib.Data.List.DropRight
import Fieldwork.Predicate.Sql
import Fieldwork.Proofs.Sql.Numbering

/-!
# References

A rule may be keyed by a column as a statement writes it: the names of schema, table and column in
backticks, with points between them. A reference is divided at every point and freed from the
backticks around its parts, whatever is quoted.

* `nameRead_eq_iff`: a single name comes back out of its backticks if it holds none itself.
* `reference_unchanged_iff`: **a column comes back from its own text exactly when none of its names
  holds a point or a backtick**, and only then does a rule keyed by that text compare it.
* `flattened_name_divided`: a column of a view that is named after a table and its column is taken
  for a column of that table.
-/

namespace Fieldwork

open Sql

/-! ## Texts cut at their ends -/

namespace Text

variable {p : Char → Bool} {cs : List Char}

theorem trimWhere_eq (p : Char → Bool) (cs : List Char) :
    trimWhere p cs = (cs.dropWhile p).rdropWhile p := rfl

/-- Trimming adds no character. -/
theorem mem_of_mem_trimWhere {c : Char} (h : c ∈ trimWhere p cs) : c ∈ cs :=
  (List.dropWhile_suffix p).mem ((List.rdropWhile_prefix p _).mem h)

/-- What is left begins and ends with characters that are not cut. -/
theorem ends_trimWhere (p : Char → Bool) (cs : List Char) :
    (∀ c ∈ (trimWhere p cs).head?, p c = false) ∧
      ∀ c ∈ (trimWhere p cs).getLast?, p c = false := by
  rw [trimWhere_eq]
  constructor
  · intro c hc
    have hfront : (cs.dropWhile p).head? = some c := by
      obtain ⟨back, hback⟩ := List.rdropWhile_prefix p (cs.dropWhile p)
      rw [← hback, List.head?_append, hc]
      rfl
    have hnot := List.head?_dropWhile_not p cs
    rwa [hfront] at hnot
  · intro c hc
    have hne : (cs.dropWhile p).rdropWhile p ≠ [] := by
      intro hnil
      rw [hnil] at hc
      cases hc
    have hlast := List.rdropWhile_last_not p _ hne
    rw [List.getLast?_eq_some_getLast hne] at hc
    cases hc
    exact Bool.not_eq_true _ ▸ hlast

/-- Nothing is trimmed between two ends that stay. -/
theorem trimWhere_of_ends (hhead : ∀ c ∈ cs.head?, p c = false)
    (hlast : ∀ c ∈ cs.getLast?, p c = false) : trimWhere p cs = cs := by
  have hfront : cs.dropWhile p = cs := by
    cases cs with
    | nil => rfl
    | cons c cs => exact List.dropWhile_cons_of_neg (by simp [hhead c rfl])
  rw [trimWhere_eq, hfront, List.rdropWhile_eq_self_iff]
  intro hne
  simp [hlast _ (List.getLast?_eq_some_getLast hne)]

/-- A character on either side that is cut makes no difference. -/
theorem trimWhere_between {c d : Char} (hc : p c = true) (hd : p d = true) (cs : List Char) :
    trimWhere p (c :: cs ++ [d]) = trimWhere p cs := by
  rw [trimWhere_eq, trimWhere_eq, List.cons_append, List.dropWhile_cons_of_pos hc,
    List.dropWhile_append]
  cases hfront : cs.dropWhile p with
  | nil => simp [hd]
  | cons e rest => exact List.rdropWhile_concat_pos p (e :: rest) d hd

/-- No piece of a split holds what it was split at. -/
theorem not_mem_of_mem_splitOn {c : Char} {part : List Char} (h : part ∈ cs.splitOn c) :
    c ∉ part := by
  induction cs generalizing part with
  | nil => simp_all
  | cons d cs ih =>
    rw [List.splitOn_cons_eq_if_modifyHead] at h
    by_cases hd : d == c
    · rw [if_pos hd] at h
      rcases List.mem_cons.mp h with rfl | h
      · exact List.not_mem_nil
      · exact ih h
    · rw [if_neg hd] at h
      cases hsplit : cs.splitOn c with
      | nil => simp [hsplit] at h
      | cons front rest =>
        rw [hsplit] at h ih
        rcases List.mem_cons.mp h with rfl | h
        · have hne : c ≠ d := by
            rintro rfl
            exact hd (beq_self_eq_true c)
          exact List.not_mem_cons_of_ne_of_not_mem hne (ih (List.mem_cons_self ..))
        · exact ih (List.mem_cons_of_mem _ h)

/-- Nothing in backticks is taken for the id of a field. -/
theorem isGroupedUuid_tick (cs : List Char) : isGroupedUuid ('\x60' :: cs) = false := by
  unfold isGroupedUuid
  rw [List.splitOn_cons_eq_if_modifyHead, if_neg (by decide)]
  cases hsplit : cs.splitOn '-' with
  | nil => exact absurd hsplit (List.splitOn_ne_nil _ _)
  | cons front rest =>
    have hdigit : isHexDigit '\x60' = false := by decide
    simp [hdigit]

/-- No field id begins with a backtick. -/
theorem isUuid_tick (cs : List Char) : isUuid (String.ofList ('\x60' :: cs)) = false := by
  have hdigit : isHexDigit '\x60' = false := by decide
  simp [isUuid, isGroupedUuid_tick, isBareUuid, unbraced?, hdigit]

end Text

/-! ## Names in backticks -/

namespace Sql

/-- The characters of a name, every backtick twice. -/
def doubled (cs : List Char) : List Char :=
  cs.flatMap fun c => if c = '\x60' then ['\x60', '\x60'] else [c]

theorem nameChars_eq (s : String) :
    Token.nameChars s = '\x60' :: doubled s.toList ++ ['\x60'] := rfl

theorem doubled_cons (c : Char) (cs : List Char) :
    doubled (c :: cs) = (if c = '\x60' then ['\x60', '\x60'] else [c]) ++ doubled cs := rfl

/-- Doubling backticks adds no other character. -/
theorem mem_doubled {c : Char} {cs : List Char} : c ∈ doubled cs ↔ c ∈ cs := by
  unfold doubled
  rw [List.mem_flatMap]
  constructor
  · rintro ⟨d, hd, hc⟩
    split at hc <;> simp_all
  · intro hc
    refine ⟨c, hc, ?_⟩
    split <;> simp_all

/-- A name is written longer by the backticks in it. -/
theorem length_doubled (cs : List Char) :
    (doubled cs).length = cs.length + cs.count '\x60' := by
  induction cs with
  | nil => rfl
  | cons c cs ih =>
    rw [doubled_cons, List.length_append, ih, List.length_cons, List.count_cons]
    by_cases hc : c = '\x60'
    · simp [hc]; omega
    · simp [hc]; omega

/-- **A name is written as it is when there is no backtick in it.** -/
theorem doubled_eq_self_iff {cs : List Char} : doubled cs = cs ↔ '\x60' ∉ cs := by
  constructor
  · intro h
    have hlength := congrArg List.length h
    rw [length_doubled] at hlength
    exact List.count_eq_zero.mp (by omega)
  · intro h
    have hsingle : ∀ c ∈ cs, (if c = '\x60' then ['\x60', '\x60'] else [c]) = [c] := by
      rintro c hc
      refine if_neg ?_
      rintro rfl
      exact h hc
    unfold doubled
    rw [List.flatMap_congr hsingle, List.flatMap_singleton']

theorem head?_doubled (cs : List Char) : (doubled cs).head? = cs.head? := by
  cases cs with
  | nil => rfl
  | cons c cs =>
    rw [doubled_cons]
    by_cases hc : c = '\x60' <;> simp [hc]

theorem getLast?_doubled (cs : List Char) : (doubled cs).getLast? = cs.getLast? := by
  rcases List.eq_nil_or_concat cs with rfl | ⟨front, c, rfl⟩
  · rfl
  · unfold doubled
    rw [List.concat_eq_append, List.flatMap_append, List.getLast?_append]
    by_cases hc : c = '\x60' <;> simp [hc]

/-- The characters of a path are those of its names with points between them. -/
theorem toList_textOf_pathTokens (path : List String) :
    (textOf (pathTokens path)).toList = ['.'].intercalate (path.map Token.nameChars) := by
  induction path with
  | nil => rfl
  | cons part rest ih =>
    cases rest with
    | nil => simp [pathTokens, textOf, Token.chars]
    | cons next rest =>
      have hmark : (String.ofList (Token.mark ".").chars).toList = ['.'] := rfl
      rw [pathTokens, textOf_cons, textOf_cons, String.toList_append, String.toList_append, ih,
        String.toList_ofList, hmark]
      · simp [Token.chars, List.intercalate]
      · exact List.cons_ne_nil _ _

end Sql

/-! ## References -/

namespace Column

/-- The text that a column is written as in a statement. -/
def written (c : Column) : String :=
  textOf c.scalar.tokens

/-- The names that a physical column goes by, from the left. -/
def names (schema table : Option String) (name : String) : List String :=
  schema.toList ++ table.toList ++ [name]

/-- The column of these names, from the left. -/
def ofNames (parts : List String) : Column :=
  match parts.reverse with
  | [] => .physical none none ""
  | [name] => .physical none none name
  | [name, table] => .physical none (some table) name
  | name :: table :: schema :: _ => .physical (some schema) (some table) name

/-- What is read of a name in its backticks. -/
def nameRead (name : String) : String :=
  pathPart (Token.nameChars name)

/-- A path is split at its points before anything is taken off its parts. -/
theorem ofPath_eq (path : String) :
    ofPath path = ofNames ((path.toList.splitOn '.').map pathPart) := by
  have hreverse : (path.toList.splitOn '.').reverse.map pathPart =
      ((path.toList.splitOn '.').map pathPart).reverse := List.map_reverse
  unfold ofNames
  exact hreverse ▸ rfl

/-- **A name comes back out of its backticks** if it holds none. -/
theorem nameRead_eq_iff {name : String} : nameRead name = name ↔ '\x60' ∉ name.toList := by
  let tick : Char → Bool := (· = '\x60')
  have hblank : Text.trimWhere Text.isBlank (Token.nameChars name) = Token.nameChars name := by
    refine Text.trimWhere_of_ends ?_ ?_
    · rw [nameChars_eq]
      rintro c ⟨⟩
      decide
    · rw [nameChars_eq, List.getLast?_append]
      rintro c ⟨⟩
      decide
  have hread : nameRead name = String.ofList (Text.trimWhere tick (doubled name.toList)) := by
    unfold nameRead pathPart
    rw [hblank, nameChars_eq, Text.trimWhere_between (by decide) (by decide)]
  have htrimmed : nameRead name = name ↔
      Text.trimWhere tick (doubled name.toList) = name.toList := by
    rw [hread, ← String.toList_inj, String.toList_ofList]
  rw [htrimmed]
  constructor
  -- what was cut ends without backticks, and then nothing was cut from the doubled name
  · intro h
    obtain ⟨hhead, hlast⟩ := Text.ends_trimWhere tick (doubled name.toList)
    rw [h] at hhead hlast
    rw [← head?_doubled] at hhead
    rw [← getLast?_doubled] at hlast
    rw [Text.trimWhere_of_ends hhead hlast] at h
    exact doubled_eq_self_iff.mp h
  · intro h
    have hnone : ∀ c ∈ name.toList, tick c = false := by
      intro c hc
      exact decide_eq_false fun heq => h (heq ▸ hc)
    rw [doubled_eq_self_iff.mpr h]
    refine Text.trimWhere_of_ends ?_ ?_
    · exact fun c hc => hnone c (List.mem_of_mem_head? hc)
    · exact fun c hc => hnone c (List.mem_of_mem_getLast? hc)

section

variable {schema table : Option String} {name : String}

theorem names_ne_nil : names schema table name ≠ [] := by
  simp [names]

/-- A column is written as its names with points between them. -/
theorem written_physical (h : schema.isSome → table.isSome) :
    (Column.physical schema table name).written =
      textOf (pathTokens (names schema table name)) := by
  cases schema with
  | none => cases table <;> rfl
  | some schema =>
    cases table with
    | none => cases h rfl
    | some table => rfl

/-- The names of a column, exchanged one by one, are those of the same column if each is kept. -/
theorem ofNames_map_iff (h : schema.isSome → table.isSome) (f : String → String) :
    ofNames ((names schema table name).map f) = .physical schema table name ↔
      ∀ part ∈ names schema table name, f part = part := by
  cases schema with
  | none => cases table <;> simp [names, ofNames]
  | some schema =>
    cases table with
    | none => cases h rfl
    | some table => simp [names, ofNames]

/-- A column has a schema only with a table, and no names but those given. -/
theorem names_of_ofNames {parts : List String}
    (h : ofNames parts = .physical schema table name) :
    (schema.isSome → table.isSome) ∧
      ∀ part ∈ names schema table name, part ∈ parts ∨ part = "" := by
  have hmem : ∀ part, part ∈ parts ↔ part ∈ parts.reverse := fun part => List.mem_reverse.symm
  simp only [hmem]
  unfold ofNames at h
  split at h <;> cases h <;> simp_all [names]

/-- No part of a path has a point in it. -/
theorem pointless_pathPart {path part : String}
    (h : part ∈ (path.toList.splitOn '.').map pathPart) : '.' ∉ part.toList := by
  obtain ⟨cs, hcs, rfl⟩ := List.mem_map.mp h
  rw [pathPart, String.toList_ofList]
  intro hpoint
  have huncut := Text.mem_of_mem_trimWhere (Text.mem_of_mem_trimWhere hpoint)
  exact Text.not_mem_of_mem_splitOn hcs huncut

/-- Without points in its names a column is read name by name. -/
theorem ofPath_written (h : schema.isSome → table.isSome)
    (hpoint : ∀ part ∈ names schema table name, '.' ∉ part.toList) :
    ofPath (Column.physical schema table name).written =
      ofNames ((names schema table name).map nameRead) := by
  have hquoted : ∀ cs ∈ (names schema table name).map Token.nameChars, '.' ∉ cs := by
    intro cs hcs
    obtain ⟨part, hpart, rfl⟩ := List.mem_map.mp hcs
    simpa [nameChars_eq, mem_doubled] using hpoint part hpart
  rw [ofPath_eq, written_physical h, toList_textOf_pathTokens,
    List.splitOn_intercalate _ hquoted (by simp [names_ne_nil]), List.map_map]
  rfl

/-- **What is read of the text of a physical column.** -/
theorem ofPath_written_eq_iff :
    ofPath (Column.physical schema table name).written = .physical schema table name ↔
      (schema.isSome → table.isSome) ∧
      ∀ part ∈ names schema table name, '.' ∉ part.toList ∧ '\x60' ∉ part.toList := by
  constructor
  · intro h
    have hread := h
    rw [ofPath_eq] at hread
    obtain ⟨hplace, hparts⟩ := names_of_ofNames hread
    have hpoint : ∀ part ∈ names schema table name, '.' ∉ part.toList := by
      intro part hpart
      rcases hparts part hpart with hpart | rfl
      · exact pointless_pathPart hpart
      · simp
    rw [ofPath_written hplace hpoint, ofNames_map_iff hplace] at h
    exact ⟨hplace, fun part hpart => ⟨hpoint part hpart, nameRead_eq_iff.mp (h part hpart)⟩⟩
  · rintro ⟨hplace, hnames⟩
    rw [ofPath_written hplace fun part hpart => (hnames part hpart).1, ofNames_map_iff hplace]
    exact fun part hpart => nameRead_eq_iff.mpr (hnames part hpart).2

/-- No text of a physical column is a field id. -/
theorem isUuid_written : Text.isUuid (Column.physical schema table name).written = false := by
  cases schema <;> cases table <;> exact Text.isUuid_tick _

end

end Column

/-- A rule keyed by the text of a column compares what is read of it. -/
theorem Rule.compile_written (schema table : Option String) (name : String) (o : Object) (u : User)
    (operator : Operator) (value : Json) :
    let r : Rule := ⟨(Column.physical schema table name).written, operator, value⟩
    r.compile o u = .ok (.rule (.ofPath r.key) operator value) := by
  intro r
  have hkey : ¬ Text.isUuid r.key := by
    rw [Column.isUuid_written]
    exact Bool.false_ne_true
  exact (Rule.CompilesTo.path hkey).compile_eq

/-- **A column comes back from its own text** exactly when it has a schema only with a table and
none of its names holds a point or a backtick, and only then does a rule keyed by that text compare
it. -/
theorem reference_unchanged_iff (schema table : Option String) (name : String) (o : Object)
    (u : User) (operator : Operator) (value : Json) :
    let column : Column := .physical schema table name
    let plain : Prop := (schema.isSome → table.isSome) ∧
      ∀ part ∈ Column.names schema table name, '.' ∉ part.toList ∧ '\x60' ∉ part.toList
    (Column.ofPath column.written = column ↔ plain) ∧
      (Rule.compile o u ⟨column.written, operator, value⟩ = .ok (.rule column operator value) ↔
        plain) := by
  intro column plain
  have hread : Column.ofPath column.written = column ↔ plain := Column.ofPath_written_eq_iff
  refine ⟨hread, ?_⟩
  rw [Rule.compile_written, Except.ok.injEq, Predicate.rule.injEq, ← hread]
  exact and_iff_left ⟨rfl, rfl⟩

/-- Blanks stay in the name of a column. -/
theorem reference_unchanged_spaced :
    let column : Column := .physical (some "shop") (some "Spare parts") " box size"
    column.written = "`shop`.`Spare parts`.` box size`" ∧ Column.ofPath column.written = column ∧
      Rule.compile Object.parts {} ⟨column.written, .greater, .ofNat 3⟩ =
        .ok (.rule column .greater (.ofNat 3)) := by
  intro column
  obtain ⟨hread, hcompile⟩ := reference_unchanged_iff (some "shop") (some "Spare parts") " box size"
    Object.parts {} .greater (.ofNat 3)
  have hplain : ∀ part ∈ Column.names (some "shop") (some "Spare parts") " box size",
      '.' ∉ part.toList ∧ '\x60' ∉ part.toList := by decide
  exact ⟨rfl, hread.mpr ⟨fun _ => rfl, hplain⟩, hcompile.mpr ⟨fun _ => rfl, hplain⟩⟩

/-- **A flattened column is divided**: one column of a view, named after a table, is taken for the
column of that table. A backtick in a name comes back twice. -/
theorem flattened_name_divided :
    let title : Column := .physical none none "A.title"
    title.written = "`A.title`" ∧ Column.ofPath title.written = .physical none (some "A") "title" ∧
      Rule.compile Object.parts {} ⟨title.written, .isNull, .null⟩ ≠
        .ok (.rule title .isNull .null) ∧
      Column.ofPath (Column.physical none none "box\x60s").written =
        .physical none none "box\x60\x60s" := by
  intro title
  have hread : Column.ofPath title.written = .physical none (some "A") "title" := by decide +kernel
  refine ⟨by decide +kernel, hread, ?_, by decide +kernel⟩
  rw [Rule.compile_written, hread]
  simp [title]

end Fieldwork
