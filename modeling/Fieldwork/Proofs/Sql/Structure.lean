import Fieldwork.Proofs.Sql.Written

/-!
# Strings do not change statements

Masking empties every string, in a plan and in the lexemes of its text. What is left of a plan
determines what is left of its text: its words, numbers and signs, and where names and texts stand
among them.

* `Plan.mask_lexemes`, `Update.mask_lexemes`: masking a plan or an update masks its lexemes.
* `strings_stay_inside`: every statement is read back as the lexemes of its plan, and two whose
  plans differ in the contents of strings alone differ in the contents of names and texts alone.
-/

namespace Fieldwork

open Sql

/-! ## Masking -/

/-- The lexeme without the content of a name or a text. -/
def Sql.Lexeme.masked : Lexeme → Lexeme
  | .name _ => .name ""
  | .text _ => .text ""
  | l => l

/-- The words, numbers and signs of a text, and where its names and texts stand. -/
def Sql.mask (ls : List Lexeme) : List Lexeme :=
  ls.map Lexeme.masked

mutual

/-- The value with every string in it emptied, the names of members included. -/
def Json.masked : Json → Json
  | .string _ => .string ""
  | .array items => .array (Json.maskedItems items)
  | .object members => .object (Json.maskedMembers members)
  | v => v

def Json.maskedItems : List Json → List Json
  | [] => []
  | v :: vs => v.masked :: maskedItems vs

def Json.maskedMembers : List (String × Json) → List (String × Json)
  | [] => []
  | (_, v) :: members => ("", v.masked) :: maskedMembers members

end

def Payload.masked : Payload → Payload
  | .flattened _ => .flattened ""
  | .qualified _ => .qualified ""

/-- The column with its names emptied; which of them it has stays. -/
def Column.masked : Column → Column
  | .physical schema table _ => .physical (schema.map fun _ => "") (table.map fun _ => "") ""
  | .translated payload _ _ => .translated payload.masked "" ""

/-- The relation with its names emptied; whether it has a schema stays. -/
def Relation.masked (r : Relation) : Relation :=
  { table := "", schema := r.schema.map fun _ => "", primaryKey := "" }

namespace Predicate

mutual

/-- The condition with its columns, values and targets masked; its groups and operators stay. -/
def masked : Predicate → Predicate
  | .rule column operator value => .rule column.masked operator value.masked
  | .noRelation _ target => .noRelation "" target.masked
  | .group glue members => .group glue (maskedAll members)

def maskedAll : List Predicate → List Predicate
  | [] => []
  | p :: ps => masked p :: maskedAll ps

end

end Predicate

def SortTerm.masked (term : SortTerm) : SortTerm :=
  { term with column := term.column.masked }

/-- The projection with the names of its columns emptied. -/
def Projection.masked : Projection → Projection
  | .columns names => .columns (names.map fun _ => "")
  | p => p

/-- The plan with all its strings emptied; its page, directions and numbers stay. -/
def Plan.masked (p : Plan) : Plan :=
  { p with
    source := ""
    condition := p.condition.map Predicate.masked
    sort := p.sort.map SortTerm.masked
    projection := p.projection.masked }

/-- The update with all its strings emptied; how many columns it writes stays. -/
def Update.masked (u : Update) : Update :=
  { table := ""
    primaryKey := ""
    id := u.id.masked
    values := u.values.map fun (_, value) => ("", value.masked) }

/-! ## Masked lexemes -/

namespace Sql

/-- Lexemes are masked one by one. -/
@[simp] theorem mask_append (a b : List Lexeme) : mask (a ++ b) = mask a ++ mask b :=
  List.map_append

@[simp] theorem mask_cons (l : Lexeme) (ls : List Lexeme) :
    mask (l :: ls) = l.masked :: mask ls := rfl

@[simp] theorem mask_nil : mask [] = [] := rfl

@[simp] theorem masked_word (s : String) : (Lexeme.word s).masked = .word s := rfl

@[simp] theorem masked_mark (s : String) : (Lexeme.mark s).masked = .mark s := rfl

@[simp] theorem masked_name (s : String) : (Lexeme.name s).masked = .name "" := rfl

@[simp] theorem masked_text (s : String) : (Lexeme.text s).masked = .text "" := rfl

/-- A number is written with no name and no text, so masking leaves it alone. -/
@[simp] theorem masked_ofNumber (n : Number) : (Lexeme.ofNumber n).masked = .ofNumber n := by
  unfold Lexeme.ofNumber Lexeme.ofRun
  split
  · split <;> rfl
  · rfl

@[simp] theorem masked_ofNat (n : Nat) : (Lexeme.ofNat n).masked = .ofNat n :=
  masked_ofNumber _

/-- The commas between parts stay where they are. -/
@[simp] theorem mask_separated (parts : List (List Lexeme)) :
    mask (separated parts) = separated (parts.map mask) := by
  match parts with
  | [] => rfl
  | [part] => rfl
  | part :: next :: parts =>
    have ih := mask_separated (next :: parts)
    rw [separated, mask_append, mask_cons, ih]
    · rfl
    · simp

/-- The parentheses around lexemes stay. -/
@[simp] theorem mask_enclosed (ls : List Lexeme) : mask (enclosed ls) = enclosed (mask ls) := by
  simp [enclosed]

/-- A call keeps its function and its arguments their places. -/
@[simp] theorem mask_called (function : String) (arguments : List (List Lexeme)) :
    mask (called function arguments) = called function (arguments.map mask) := by
  simp [called]

end Sql

/-! ## Masked plans -/

/-- Masking a value keeps which kind of lexeme it is written as, and a number or a word as it is. -/
@[simp] theorem Json.masked_lexeme (v : Json) : v.masked.lexeme.masked = v.lexeme.masked := by
  cases v with
  | bool b => cases b <;> rfl
  | _ => rfl

/-- The items of a list are masked one by one. -/
theorem Json.maskedItems_eq_map (vs : List Json) : maskedItems vs = vs.map masked := by
  induction vs with
  | nil => rfl
  | cons v vs ih => rw [maskedItems, ih]; rfl

/-- Masking keeps how many values a list holds. -/
theorem Json.listed_masked (v : Json) : v.masked.listed = v.listed.map masked := by
  cases v with
  | array items => exact maskedItems_eq_map items
  | _ => rfl

/-- Masking a payload masks its lexemes. -/
@[simp] theorem Payload.mask_lexemes (payload : Payload) :
    mask payload.masked.lexemes = mask payload.lexemes := by
  cases payload <;> rfl

/-- **Masking a column masks its lexemes**; as many names stand in its path as before. -/
theorem Column.mask_lexemes (c : Column) : mask c.masked.lexemes = mask c.lexemes := by
  match c with
  | .physical (some schema) (some table) name => rfl
  | .physical none (some table) name => rfl
  | .physical (some schema) none name => rfl
  | .physical none none name => rfl
  | .translated payload language name => simp [masked, lexemes]

/-- **Masking the value of a rule masks its lexemes**, whatever its operand is. -/
theorem Operator.mask_lexemes (operator : Operator) {operand other : List Lexeme}
    (h : mask operand = mask other) (v : Json) :
    mask (operator.lexemes operand v.masked) = mask (operator.lexemes other v) := by
  have hlist : (v.listed.map fun v => [v.masked.lexeme]).map mask =
      (v.listed.map fun v => [v.lexeme]).map mask := by
    rw [List.map_map, List.map_map]
    exact List.map_congr_left fun v _ => by simp
  have hempty : v.masked.listed.isEmpty = v.listed.isEmpty := by
    rw [Json.listed_masked, List.isEmpty_map]
  have hmasked : v.masked.listed.map (fun v => [v.lexeme]) =
      v.listed.map fun v => [v.masked.lexeme] := by
    rw [Json.listed_masked, List.map_map]
    rfl
  cases operator with
  -- the list of an empty value is written otherwise, but masking keeps its length
  | isIn | isNotIn =>
    simp only [lexemes, hempty, hmasked]
    split
    · rfl
    · simp only [mask_append, mask_cons, mask_enclosed, mask_separated, h, hlist]
  | _ => simp [lexemes, h]

namespace Predicate

/-- Masking keeps whether a group has members. -/
theorem isEmpty_maskedAll (ps : List Predicate) : (maskedAll ps).isEmpty = ps.isEmpty := by
  cases ps <;> rfl

/-- Masking keeps what parentheses depend on. -/
theorem glue?_masked : (p : Predicate) → p.masked.glue? = p.glue?
  | .rule column operator value => by cases operator <;> rfl
  | .noRelation column target => rfl
  | .group glue [] => rfl
  | .group glue [p] => glue?_masked p
  | .group glue (p :: q :: ps) => rfl

/-- Masking a relation masks the lexemes of its target's keys. -/
theorem mask_targetLexemes (target : Relation) :
    mask (targetLexemes target.masked) = mask (targetLexemes target) := by
  obtain ⟨table, schema, primaryKey⟩ := target
  cases schema <;> rfl

mutual

/-- Masking a condition masks its lexemes. -/
theorem mask_lexemes : (p : Predicate) → mask p.masked.lexemes = mask p.lexemes
  | .rule column operator value => operator.mask_lexemes column.mask_lexemes value
  | .noRelation column target => by
    simp [masked, lexemes, mask_targetLexemes]
  | .group glue [] => rfl
  | .group glue (p :: ps) => by
    rw [masked, maskedAll, lexemes, lexemes, mask_append, mask_append, glue?_masked p,
      isEmpty_maskedAll, mask_joinedLexemes glue ps]
    split
    · rw [mask_enclosed, mask_enclosed, mask_lexemes p]
    · rw [mask_lexemes p]

/-- Masking the further members of a group masks their lexemes, between the same words. -/
theorem mask_joinedLexemes (glue : Glue) :
    (ps : List Predicate) → mask (joinedLexemes glue (maskedAll ps)) = mask (joinedLexemes glue ps)
  | [] => rfl
  | p :: ps => by
    rw [maskedAll, joinedLexemes, joinedLexemes, mask_append, mask_append, mask_cons, mask_cons,
      glue?_masked p, mask_joinedLexemes glue ps]
    split
    · rw [mask_enclosed, mask_enclosed, mask_lexemes p]
    · rw [mask_lexemes p]

end

end Predicate

/-- Masking a sort term masks its lexemes. -/
theorem SortTerm.mask_lexemes (term : SortTerm) : mask term.masked.lexemes = mask term.lexemes := by
  simp [lexemes, masked, Column.mask_lexemes]

namespace Plan

/-- A clause is there masked or not, behind the same keywords. -/
theorem mask_clauseLexemes (keywords : List Lexeme) (body : Option (List Lexeme)) :
    mask (clauseLexemes keywords body) = clauseLexemes (mask keywords) (body.map mask) := by
  cases body <;> simp [clauseLexemes]

/-- Masking a plan masks what it selects. -/
theorem mask_itemLexemes (p : Plan) : mask p.masked.itemLexemes = mask p.itemLexemes := by
  unfold itemLexemes masked
  cases p.projection with
  | all => rfl
  | columns names => simp [Projection.masked, Function.comp_def]
  | count => rfl

/-- Masking a plan masks its order. -/
theorem mask_orderLexemes (p : Plan) :
    p.masked.orderLexemes.map mask = p.orderLexemes.map mask := by
  have hterm : mask ∘ SortTerm.lexemes ∘ SortTerm.masked = mask ∘ SortTerm.lexemes :=
    funext SortTerm.mask_lexemes
  unfold orderLexemes masked
  simp only [List.isEmpty_map]
  split
  · rfl
  · simp [hterm]

/-- Masking a plan masks the selection of its rows. -/
theorem mask_rowLexemes (p : Plan) {items others : List Lexeme} (h : mask items = mask others) :
    mask (p.masked.rowLexemes items) = mask (p.rowLexemes others) := by
  have hwhere : (p.masked.condition.map Predicate.lexemes).map mask =
      (p.condition.map Predicate.lexemes).map mask := by
    unfold masked
    rw [Option.map_map, Option.map_map, Option.map_map]
    exact congrArg (p.condition.map ·) (funext Predicate.mask_lexemes)
  have hlimit : p.masked.limitClause = p.limitClause := by
    simp [limitClause, masked]
  simp only [rowLexemes, mask_append, mask_cons, mask_clauseLexemes, h, hwhere, hlimit,
    mask_orderLexemes]
  rfl

/-- **Masking a plan masks its lexemes.** -/
theorem mask_lexemes (p : Plan) : mask p.masked.lexemes = mask p.lexemes := by
  unfold lexemes
  have hseed : p.masked.rowNumberSeed = p.rowNumberSeed := rfl
  rw [hseed]
  cases p.rowNumberSeed with
  | none => exact p.mask_rowLexemes p.mask_itemLexemes
  | some seed =>
    have hrows : mask (p.masked.rowLexemes [.mark "*"]) = mask (p.rowLexemes [.mark "*"]) :=
      p.mask_rowLexemes rfl
    simp only [mask_append, mask_cons, mask_enclosed, p.mask_itemLexemes, hrows]

end Plan

/-- **Masking an update masks its lexemes.** -/
theorem Update.mask_lexemes (u : Update) : mask u.masked.lexemes = mask u.lexemes := by
  have hvalues : (u.masked.values.map fun (column, value) =>
      [Lexeme.name column, .mark "=", value.lexeme]).map mask =
        (u.values.map fun (column, value) =>
          [Lexeme.name column, .mark "=", value.lexeme]).map mask := by
    unfold masked
    rw [List.map_map, List.map_map, List.map_map]
    exact List.map_congr_left fun (column, value) _ => by simp
  simp only [lexemes, mask_append, mask_separated, hvalues]
  simp [masked]

/-- **Strings stay inside their quotes.** Every statement is read back as the lexemes of its plan,
each string being the content of one name or text; so statements whose plans differ in strings alone
have the same words, numbers and signs, and names and texts in the same places. -/
theorem strings_stay_inside :
    (∀ p : Plan, lex p.sql = some p.lexemes) ∧
    (∀ u : Update, lex u.sql = some u.lexemes) ∧
    (∀ p q : Plan, p.masked = q.masked →
      (lex p.sql).map mask = (lex q.sql).map mask) ∧
    ∀ u w : Update, u.masked = w.masked → (lex u.sql).map mask = (lex w.sql).map mask := by
  have hplan : ∀ p : Plan, lex p.sql = some p.lexemes := fun p => by
    rw [p.lex_sql, p.lexemesOf_query]
  have hupdate : ∀ u : Update, lex u.sql = some u.lexemes := fun u => by
    rw [u.lex_sql, u.lexemesOf_statement]
  refine ⟨hplan, hupdate, fun p q h => ?_, fun u w h => ?_⟩
  · rw [hplan, hplan, Option.map_some, Option.map_some, ← p.mask_lexemes, h, q.mask_lexemes]
  · rw [hupdate, hupdate, Option.map_some, Option.map_some, ← u.mask_lexemes, h, w.mask_lexemes]

/-- Two queries by one rule, with a plain name and value and with ones full of quotes and signs; and
a third, whose pattern is the value between two per cent signs. -/
theorem hostile_strings_stay_inside :
    let plain : Plan :=
      { source := "parts", condition := some (.rule (.ofPath "size") .equals (.string "15")) }
    let hostile : Plan :=
      { source := "\x60; DROP --"
        condition := some (.rule (.ofPath "\x60 OR #") .equals (.string "\\' OR 1 = 1 /*\x00\n")) }
    let within : Plan :=
      { source := "parts", condition := some (.rule (.ofPath "size") .contains (.string "' OR '")) }
    plain.masked = hostile.masked ∧ (lex plain.sql).map mask = (lex hostile.sql).map mask ∧
      lex within.sql = some [.word "SELECT", .mark "*", .word "FROM", .name "parts", .word "WHERE",
        .name "size", .word "LIKE", .text "%' OR '%"] :=
  ⟨rfl, strings_stay_inside.2.2.1 _ _ rfl, strings_stay_inside.1 _⟩

end Fieldwork
