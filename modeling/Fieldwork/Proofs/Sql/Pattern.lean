import Mathlib.Data.List.Infix
import Fieldwork.Proofs.Sql.Null

/-!
# Patterns

In the pattern of a LIKE some characters stand for others: a per cent sign for any run of them, a
low line for any one, a backslash for the one behind it. A rule on part of a text puts its value
into such a pattern as it is.

* `fits_framed_iff`: a framed value fits the texts that hold it, if every character of it stands for
  itself.
* `verbatim_of_fits`: no other value does, because the shortest text that fits the pattern is then
  another one.
* `like_literal_iff`: **the LIKE of a rule takes its value literally exactly when every character of
  it stands for itself**; the storage in memory takes all values literally.
* `run_found_in_text`: a value with a per cent sign, found where it is not.
-/

namespace Fieldwork

open Sql

namespace Sql

/-! ## Matching -/

/-- A part of a pattern. -/
inductive Piece where
  | char (c : Char)
  | any
  | run
  deriving DecidableEq, Repr

/-- The piece that a character is when no backslash stands in front of it. -/
def Piece.ofChar (c : Char) : Piece :=
  if c = '%' then .run else if c = '_' then .any else .char c

/-- A backslash makes the next character stand for itself, and so it does if there is none. -/
def pieces : List Char → List Piece
  | [] => []
  | c :: cs =>
    if c = '\\' then
      match cs with
      | [] => [.char c]
      | d :: ds => .char d :: pieces ds
    else .ofChar c :: pieces cs

theorem pieces_cons {c : Char} (h : c ≠ '\\') (cs : List Char) :
    pieces (c :: cs) = .ofChar c :: pieces cs := by
  rw [pieces.eq_def]
  exact if_neg h

theorem pieces_escaped (c : Char) (cs : List Char) :
    pieces ('\\' :: c :: cs) = .char c :: pieces cs := by
  rw [pieces.eq_def]
  exact if_pos rfl

/-- Whether the pieces make up the characters. -/
def fits : List Piece → List Char → Bool
  | [], cs => cs.isEmpty
  | .char _ :: _, [] | .any :: _, [] => false
  | .char c :: ps, d :: cs => d == c && fits ps cs
  | .any :: ps, _ :: cs => fits ps cs
  | .run :: ps, cs => cs.tails.any (fits ps)

/-- Whether a text is like a pattern. -/
def likes (pattern t : String) : Bool :=
  fits (pieces pattern.toList) t.toList

/-- What stands behind the operand of a LIKE or NOT LIKE says of a text. -/
def readLike : List Lexeme → Option (String → Bool)
  | [.word "LIKE", .text pattern] => some (likes pattern)
  | [.word "NOT", .word "LIKE", .text pattern] => some fun t => !likes pattern t
  | _ => none

/-- A run takes any front of the characters. -/
theorem fits_run (ps : List Piece) (cs : List Char) :
    fits (.run :: ps) cs = true ↔ ∃ front back, cs = front ++ back ∧ fits ps back = true := by
  rw [fits, List.any_eq_true]
  constructor
  · rintro ⟨back, hback, hfits⟩
    obtain ⟨front, rfl⟩ := (List.mem_tails _ _).mp hback
    exact ⟨front, back, rfl, hfits⟩
  · rintro ⟨front, back, rfl, hfits⟩
    exact ⟨back, (List.mem_tails _ _).mpr ⟨front, rfl⟩, hfits⟩

/-- Characters that stand for themselves are those in front. -/
theorem fits_chars (v : List Char) (ps : List Piece) (cs : List Char) :
    fits (v.map .char ++ ps) cs = true ↔ ∃ back, cs = v ++ back ∧ fits ps back = true := by
  induction v generalizing cs with
  | nil => simp
  | cons c v ih =>
    cases cs with
    | nil => simp [fits]
    | cons d cs =>
      rw [List.map_cons, List.cons_append, fits, Bool.and_eq_true, beq_iff_eq, ih]
      simp [and_assoc]

/-! ## Framed values -/

/-- A value with a run in front of it, behind it or both. -/
def framed (ahead behind : Bool) (v : List Char) : List Char :=
  (if ahead then ['%'] else []) ++ (v ++ if behind then ['%'] else [])

/-- The text is the value with something in front of it or behind it, where there may be. -/
def Holds (ahead behind : Bool) (v t : List Char) : Prop :=
  ∃ front back, t = front ++ (v ++ back) ∧ (ahead = false → front = []) ∧
    (behind = false → back = [])

/-- With something on both sides, the value is held anywhere. -/
theorem holds_anywhere (v t : List Char) : Holds true true v t ↔ v <:+: t := by
  simp [Holds, List.IsInfix, eq_comm]

/-- With nothing in front, the value begins the text. -/
theorem holds_in_front (v t : List Char) : Holds false true v t ↔ v <+: t := by
  simp [Holds, List.IsPrefix, eq_comm]

/-- With nothing behind, the value ends the text. -/
theorem holds_at_end (v t : List Char) : Holds true false v t ↔ v <:+ t := by
  simp [Holds, List.IsSuffix, eq_comm]

/-- Every character of a value stands for itself; a backslash does so at the end of a pattern. -/
def verbatim (behind : Bool) : List Char → Bool
  | [] => true
  | c :: cs =>
    if c = '\\' then !behind && cs.isEmpty else c != '%' && c != '_' && verbatim behind cs

variable {ahead behind : Bool} {v : List Char}

/-- The characters of such a value are pieces that stand for themselves. -/
theorem pieces_of_verbatim (h : verbatim behind v) :
    pieces (v ++ if behind then ['%'] else []) = v.map .char ++ if behind then [.run] else [] := by
  induction v with
  | nil => cases behind <;> rfl
  | cons c cs ih =>
    unfold verbatim at h
    by_cases hslash : c = '\\'
    · rw [if_pos hslash] at h
      obtain ⟨hbehind, hcs⟩ := Bool.and_eq_true_iff.mp h
      rw [Bool.not_eq_true'] at hbehind
      rw [List.isEmpty_iff.mp hcs, hbehind, hslash]
      rfl
    · rw [if_neg hslash] at h
      simp only [Bool.and_eq_true, bne_iff_ne] at h
      obtain ⟨⟨hrun, hany⟩, hcs⟩ := h
      have hchar : Piece.ofChar c = .char c := by rw [Piece.ofChar, if_neg hrun, if_neg hany]
      rw [List.cons_append, pieces_cons hslash, ih hcs, hchar]
      rfl

/-- A framed value fits what it fits without the frame in front, behind what may stand there. -/
theorem fits_framed (ahead behind : Bool) (v t : List Char) :
    fits (pieces (framed ahead behind v)) t = true ↔
      ∃ front back, t = front ++ back ∧ (ahead = false → front = []) ∧
        fits (pieces (v ++ if behind then ['%'] else [])) back = true := by
  cases ahead with
  | false => simp [framed]
  | true =>
    have hrun : pieces (framed true behind v) =
        .run :: pieces (v ++ if behind then ['%'] else []) := pieces_cons (by decide) _
    rw [hrun, fits_run]
    simp

/-- **A value whose characters stand for themselves fits the texts that hold it.** -/
theorem fits_framed_iff (h : verbatim behind v) (t : List Char) :
    fits (pieces (framed ahead behind v)) t = true ↔ Holds ahead behind v t := by
  have hlast : ∀ back, fits (if behind then [.run] else []) back = true ↔
      (behind = false → back = []) := by
    intro back
    cases behind <;> simp [fits]
  rw [fits_framed, pieces_of_verbatim h]
  simp only [fits_chars, hlast, Holds]
  constructor
  · rintro ⟨front, -, rfl, hfront, back, rfl, hback⟩
    exact ⟨front, back, rfl, hfront, hback⟩
  · rintro ⟨front, back, rfl, hfront, hback⟩
    exact ⟨front, _, rfl, hfront, back, rfl, hback⟩

/-! ### Values with other characters -/

/-- The shortest text that fits, in which any one character is an `x`. -/
def shortest : List Piece → List Char
  | [] => []
  | .char c :: ps => c :: shortest ps
  | .any :: ps => 'x' :: shortest ps
  | .run :: ps => shortest ps

/-- Every pattern fits some text: its runs may be empty. -/
theorem fits_shortest (ps : List Piece) : fits ps (shortest ps) = true := by
  induction ps with
  | nil => rfl
  | cons p ps ih =>
    cases p with
    | char c => simp [shortest, fits, ih]
    | any => exact ih
    | run => exact (fits_run ps _).mpr ⟨[], _, rfl, ih⟩

/-- A run takes nothing and an escaped character one place of two, so the shortest text is never
longer than the value; and the value itself is not what a low line or an escaped sign stands for. -/
theorem shortest_pieces (behind : Bool) : (v : List Char) →
    (shortest (pieces (v ++ if behind then ['%'] else []))).length ≤ v.length ∧
      (shortest (pieces (v ++ if behind then ['%'] else [])) = v → verbatim behind v)
  | [] => by cases behind <;> exact ⟨Nat.le_refl 0, fun _ => rfl⟩
  | c :: cs => by
    rw [List.cons_append, verbatim]
    by_cases hslash : c = '\\'
    · subst hslash
      match cs with
      | [] => cases behind <;> simp [pieces, shortest]
      | d :: ds =>
        obtain ⟨hlength, -⟩ := shortest_pieces behind ds
        rw [List.cons_append, pieces_escaped, shortest, List.length_cons, List.length_cons,
          List.length_cons]
        refine ⟨by omega, fun heq => ?_⟩
        have hsame := congrArg List.length heq
        simp only [List.length_cons] at hsame
        omega
    · rw [pieces_cons hslash, if_neg hslash, Piece.ofChar]
      obtain ⟨hlength, hself⟩ := shortest_pieces behind cs
      by_cases hrun : c = '%'
      · rw [if_pos hrun, shortest, List.length_cons]
        refine ⟨by omega, fun heq => ?_⟩
        rw [heq, List.length_cons] at hlength
        omega
      · by_cases hany : c = '_'
        · simp [shortest, hlength, hany]
        · rw [if_neg hrun, if_neg hany, shortest, List.length_cons, List.length_cons]
          refine ⟨by omega, fun heq => ?_⟩
          simp [hrun, hany, hself (List.cons.inj heq).2]

/-- **A value that fits only the texts that hold it stands for itself.** -/
theorem verbatim_of_fits
    (h : ∀ t, fits (pieces (framed ahead behind v)) t = true → Holds ahead behind v t) :
    verbatim behind v := by
  obtain ⟨hlength, hself⟩ := shortest_pieces behind (v := v)
  obtain ⟨front, back, hholds, -⟩ := h _ ((fits_framed ahead behind v _).mpr
    ⟨[], _, (List.nil_append _).symm, fun _ => rfl, fits_shortest _⟩)
  -- no longer than the value it holds, the shortest text is the value
  have hnone : front.length + back.length = 0 := by
    rw [hholds, List.length_append, List.length_append] at hlength
    omega
  have hfront : front = [] := List.length_eq_zero_iff.mp (by omega)
  have hback : back = [] := List.length_eq_zero_iff.mp (by omega)
  refine hself ?_
  rw [hholds, hfront, hback, List.nil_append, List.append_nil]

/-- **A pattern stands for its value exactly when the value is verbatim.** -/
theorem likes_iff_holds_iff {pattern v : String}
    (hpattern : pattern.toList = framed ahead behind v.toList) :
    (∀ t : String, likes pattern t = true ↔ Holds ahead behind v.toList t.toList) ↔
      verbatim behind v.toList := by
  unfold likes
  rw [hpattern]
  refine ⟨fun h => ?_, fun h t => fits_framed_iff h t.toList⟩
  have hholds : ∀ cs, fits (pieces (framed ahead behind v.toList)) cs = true →
      Holds ahead behind v.toList cs := by
    intro cs hfits
    have htext := (h (String.ofList cs)).mp
    rw [String.toList_ofList] at htext
    exact htext hfits
  exact verbatim_of_fits hholds

end Sql

/-! ## Parts of texts -/

namespace Text

theorem beginsWith_iff (t v : String) : beginsWith t v = true ↔ v.toList <+: t.toList :=
  List.isPrefixOf_iff_prefix

theorem endsWith_iff (t v : String) : endsWith t v = true ↔ v.toList <:+ t.toList :=
  List.isSuffixOf_iff_suffix

theorem containsList_iff (cs part : List Char) :
    containsList cs part = true ↔ part <:+: cs := by
  induction cs with
  | nil => simp [containsList]
  | cons c cs ih =>
    rw [containsList, Bool.or_eq_true, List.isPrefixOf_iff_prefix, ih, List.infix_cons_iff]

theorem contains_iff (t v : String) : contains t v = true ↔ v.toList <:+: t.toList :=
  containsList_iff _ _

end Text

namespace Operator

/-- What a rule on part of a text says of the text, its value taken literally. -/
def Literally (operator : Operator) (t v : String) : Prop :=
  match operator with
  | .contains => v.toList <:+: t.toList
  | .notContains => ¬ v.toList <:+: t.toList
  | .beginsWith => v.toList <+: t.toList
  | .endsWith => v.toList <:+ t.toList
  | _ => False

/-- Anything may stand in front of the value. -/
def opensWide : Operator → Bool
  | .beginsWith => false
  | _ => true

/-- Anything may stand behind the value. -/
def endsWide : Operator → Bool
  | .endsWith => false
  | _ => true

/-- What an operator says of a text literally, by what may stand around the value. -/
theorem literally_iff {operator : Operator} (h : operator.isPattern) (t v : String) :
    operator.Literally t v ↔
      (Holds operator.opensWide operator.endsWide v.toList t.toList ↔ operator ≠ .notContains) := by
  cases operator with
  | contains | notContains => simp [Literally, opensWide, endsWide, holds_anywhere]
  | beginsWith => simp [Literally, opensWide, endsWide, holds_in_front]
  | endsWith => simp [Literally, opensWide, endsWide, holds_at_end]
  | _ => cases h

/-- **The storage in memory takes every value literally**, in lower case. -/
theorem accepts_iff_literally {operator : Operator} (h : operator.isPattern) (t v : String) :
    operator.accepts (.string t) (.string v) = true ↔
      operator.Literally (Text.lowercase t) (Text.lowercase v) := by
  cases operator with
  | contains => exact Text.contains_iff _ _
  | notContains =>
    rw [accepts, Bool.not_eq_true', ← Bool.not_eq_true]
    exact not_congr (Text.contains_iff _ _)
  | beginsWith => exact Text.beginsWith_iff _ _
  | endsWith => exact Text.endsWith_iff _ _
  | _ => cases h

/-- A rule on part of a text is written as a LIKE, or a NOT LIKE, of its framed value. -/
theorem like_framed {operator : Operator} (h : operator.isPattern) (column : Column) (v : String) :
    ∃ pattern, pattern.toList = framed operator.opensWide operator.endsWide v.toList ∧
      lex (textOf (Predicate.rule column operator (.string v)).test.tokens) =
        some (column.lexemes ++ ((if operator = .notContains then [.word "NOT"] else []) ++
          [.word "LIKE", .text pattern])) := by
  rw [Predicate.lex_test, Predicate.lexemes]
  cases operator with
  | contains | notContains => exact ⟨"%" ++ v ++ "%", by simp [framed, opensWide, endsWide], rfl⟩
  | beginsWith => exact ⟨v ++ "%", by simp [framed, opensWide, endsWide], rfl⟩
  | endsWith => exact ⟨"%" ++ v, by simp [framed, opensWide, endsWide], rfl⟩
  | _ => cases h

end Operator

/-- **The LIKE of a rule takes its value literally exactly when every character of the value stands
for itself.** The storage in memory always does, in lower case. -/
theorem like_literal_iff {operator : Operator} (h : operator.isPattern) (column : Column)
    (v : String) :
    (∃ tail accepted, lex (textOf (Predicate.rule column operator (.string v)).test.tokens) =
        some (column.lexemes ++ tail) ∧ readLike tail = some accepted ∧
      ((∀ t, accepted t = true ↔ operator.Literally t v) ↔
        verbatim operator.endsWide v.toList = true)) ∧
    ∀ (tables : Tables) (r : Row) (t : String), column.value? r = some (.string t) →
      (Predicate.holds tables r (.rule column operator (.string v)) = true ↔
        operator.Literally (Text.lowercase t) (Text.lowercase v)) := by
  constructor
  · obtain ⟨pattern, hpattern, hlex⟩ := operator.like_framed h column v
    refine ⟨_, fun t => likes pattern t != decide (operator = .notContains), hlex, ?_, ?_⟩
    · by_cases hnot : operator = .notContains <;> simp [hnot, readLike]
    · have hsame : ∀ t, ((likes pattern t != decide (operator = .notContains)) = true ↔
          operator.Literally t v) ↔ (likes pattern t = true ↔
            Holds operator.opensWide operator.endsWide v.toList t.toList) := by
        intro t
        rw [operator.literally_iff h]
        by_cases hnot : operator = .notContains <;> cases likes pattern t <;> simp [hnot]
      rw [← likes_iff_holds_iff hpattern]
      exact forall_congr' hsame
  · intro tables r t ht
    rw [Predicate.holds, ht]
    exact operator.accepts_iff_literally h t v

/-! ### Sizes of fifty -/

/-- A value of letters, digits and blanks. -/
theorem like_literal_iff_size :
    Operator.contains.isPattern = true ∧ verbatim true "50 mm".toList = true ∧
    (∃ tail accepted,
      lex (textOf (Predicate.rule sizeColumn .contains (.string "50 mm")).test.tokens) =
        some (sizeColumn.lexemes ++ tail) ∧ readLike tail = some accepted ∧
      ((∀ t, accepted t = true ↔ Operator.contains.Literally t "50 mm") ↔
        verbatim true "50 mm".toList = true)) ∧
    ∀ (tables : Tables) (r : Row) (t : String), sizeColumn.value? r = some (.string t) →
      (Predicate.holds tables r (.rule sizeColumn .contains (.string "50 mm")) = true ↔
        Operator.contains.Literally (Text.lowercase t) (Text.lowercase "50 mm")) :=
  ⟨rfl, by decide, like_literal_iff rfl sizeColumn "50 mm"⟩

/-- Fifty per cent is found in five hundred, and not by the storage in memory. -/
theorem run_found_in_text :
    ∃ accepted,
      lex (textOf (Predicate.rule sizeColumn .contains (.string "50%")).test.tokens) =
        some (sizeColumn.lexemes ++ [.word "LIKE", .text "%50%%"]) ∧
      readLike [.word "LIKE", .text "%50%%"] = some accepted ∧ accepted "500" = true ∧
      ¬ Operator.contains.Literally "500" "50%" ∧
      Predicate.holds [] [("size", .string "500")]
        (.rule sizeColumn .contains (.string "50%")) = false := by
  refine ⟨likes "%50%%", ?_, rfl, by decide, ?_, by decide⟩
  · rw [Predicate.lex_test]
    rfl
  · show ¬ "50%".toList <:+: "500".toList
    decide

end Fieldwork
