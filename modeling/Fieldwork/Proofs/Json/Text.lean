import Mathlib.Algebra.Order.Ring.Int
import Fieldwork.Json.Printer
import Fieldwork.Json.Reader
import Fieldwork.Proofs.Decimal
import Fieldwork.Proofs.Json.Canonical

/-!
# Documents read back from their texts

The reader is followed along the text that the writer gives. Strings are read back whatever their
characters are. A number is read back when it survives: an integer when a word can hold it, a real
when the two rounded steps in which the reader makes it lead back to it. Around them, containers are
read back while no more are open than the reader allows.

* `readString_quoted`: a string is read back from its quoted text.
* `Number.Survives.readNumeral`: a number that survives is read back from its text.
* `Number.survives_integer_iff`: an integer survives exactly when it is read from any text.
* `ofText?_text`: **a document that survives is read back from its text**, and so is a value.
-/

namespace Fieldwork.Document

/-! ## Strings -/

/-- The two digits of a control character are read back as its number. -/
theorem hexUnit?_hexDigit : ∀ n < 32,
    hexUnit? '0' '0' (hexDigit (n / 16)) (hexDigit (n % 16)) = some n := by
  decide

/-- A character is read as one piece from its escape, and the piece stands for it. -/
theorem exists_piece (c : Char) :
    ∃ p, (∀ rest, readPieces (escaped c ++ rest) =
        (readPieces rest).bind fun (pieces, rest) => some (p :: pieces, rest)) ∧
      ∀ pieces, joinPieces (p :: pieces) = (joinPieces pieces).map (c :: ·) := by
  by_cases hnamed : c ∈ ['"', '\\', '\x08', '\x0c', '\n', '\r', '\t']
  · simp only [List.mem_cons, List.not_mem_nil, or_false] at hnamed
    rcases hnamed with rfl | rfl | rfl | rfl | rfl | rfl | rfl <;>
      exact ⟨.plain _, fun _ => rfl, fun _ => rfl⟩
  simp only [List.mem_cons, List.not_mem_nil, or_false, not_or] at hnamed
  obtain ⟨hquote, hslash, hb, hf, hn, hr, ht⟩ := hnamed
  by_cases hcontrol : c.toNat < 32
  · have hescaped : escaped c =
        ['\\', 'u', '0', '0', hexDigit (c.toNat / 16), hexDigit (c.toNat % 16)] := by
      simp [escaped, hcontrol]
    refine ⟨.unit c.toNat, fun rest => ?_, fun pieces => ?_⟩
    · have hread : readPieces (escaped c ++ rest) =
          (hexUnit? '0' '0' (hexDigit (c.toNat / 16)) (hexDigit (c.toNat % 16))).bind fun n =>
            (readPieces rest).bind fun (pieces, rest) => some (.unit n :: pieces, rest) := by
        rw [hescaped]
        rfl
      rw [hread, hexUnit?_hexDigit _ hcontrol, Option.bind_some]
    · have hlow : isLowSurrogate c.toNat = false := by simp [isLowSurrogate]; omega
      have hhigh : isHighSurrogate c.toNat = false := by simp [isHighSurrogate]; omega
      rw [joinPieces.eq_def]
      simp [hlow, hhigh, Char.ofNat_toNat]
  · have hescaped : escaped c = [c] := by
      simp [escaped, hcontrol]
    refine ⟨.plain c, fun rest => ?_, fun _ => rfl⟩
    rw [hescaped, List.singleton_append]
    rw [readPieces]
    · simp [hcontrol]
    all_goals simp [hquote, hslash]

/-- Escaped characters are read back up to the quote behind them. -/
theorem readString_escaped (cs rest : List Char) :
    readString (cs.flatMap escaped ++ '"' :: rest) = some (some (String.ofList cs), rest) := by
  have hpieces : ∃ pieces, readPieces (cs.flatMap escaped ++ '"' :: rest) = some (pieces, rest) ∧
      joinPieces pieces = some cs := by
    induction cs with
    | nil => exact ⟨[], rfl, rfl⟩
    | cons c cs ih =>
      obtain ⟨pieces, hread, hjoin⟩ := ih
      obtain ⟨p, hp, hpiece⟩ := exists_piece c
      refine ⟨p :: pieces, ?_, ?_⟩
      · rw [List.flatMap_cons, List.append_assoc, hp, hread, Option.bind_some]
      · rw [hpiece, hjoin, Option.map_some]
  obtain ⟨pieces, hread, hjoin⟩ := hpieces
  rw [readString, hread]
  simp [hjoin]

/-- **A string is read back from its quoted text.** -/
theorem readString_quoted (s : String) (rest : List Char) :
    ∃ cs, quoted s ++ rest = '"' :: cs ∧ readString cs = some (some s, rest) := by
  refine ⟨s.toList.flatMap escaped ++ '"' :: rest, by simp [quoted], ?_⟩
  rw [readString_escaped, String.ofList_toList]

/-! ## Numbers -/

/-- What may stand behind a value in a container. -/
def Ends (rest : List Char) : Prop :=
  ∀ c ∈ rest.head?, c = ',' ∨ c = ']' ∨ c = '\x7d'

/-- What ends a numeral is the end of the text, a comma or a closing bracket. -/
theorem Ends.cases {rest : List Char} (h : Ends rest) :
    rest = [] ∨ ∃ c tail, rest = c :: tail ∧ (c = ',' ∨ c = ']' ∨ c = '\x7d') := by
  cases rest with
  | nil => exact Or.inl rfl
  | cons c tail => exact Or.inr ⟨c, tail, rfl, h c rfl⟩

theorem readExponent_unsigned {c d : Char} (hletter : c = 'e' ∨ c = 'E') (hminus : d ≠ '-')
    (hplus : d ≠ '+') (cs : List Char) :
    readExponent (c :: d :: cs) =
      match readDigits (d :: cs) with
      | ([], _) => none
      | (ds, rest) => some (some (natOfDigits ds : Int), rest) := by
  rw [readExponent, if_pos hletter]
  · rfl
  all_goals simp [hminus, hplus]

/-- What is read of a numeral behind its sign. -/
def readMagnitude (negative : Bool) (cs : List Char) :
    Option (Decimal.Numeral × List Char) := do
  let (whole, rest) ← readWhole cs
  let (fraction, rest) ← readFraction rest
  let (exponent, rest) ← readExponent rest
  return (⟨negative, whole, fraction, exponent⟩, rest)

/-- A minus makes the magnitude behind it negative. -/
theorem readNumeral_minus (cs : List Char) : readNumeral ('-' :: cs) = readMagnitude true cs := rfl

/-- Without a minus the magnitude is all there is. -/
theorem readNumeral_unsigned {c : Char} (hminus : c ≠ '-') (cs : List Char) :
    readNumeral (c :: cs) = readMagnitude false (c :: cs) := by
  unfold readNumeral
  simp [hminus, readMagnitude]

section

variable {rest : List Char} (hrest : Ends rest)

include hrest

/-- What ends a numeral ends its digits. -/
theorem readDigits_append (cs : List Char) :
    readDigits (cs ++ rest) = ((readDigits cs).1, (readDigits cs).2 ++ rest) := by
  induction cs with
  | nil =>
    rcases hrest.cases with rfl | ⟨c, tail, rfl, rfl | rfl | rfl⟩ <;> rfl
  | cons c cs ih =>
    rw [List.cons_append, readDigits, readDigits, ih]
    cases digit? c <;> rfl

/-- What ends a numeral ends its whole part. -/
theorem readWhole_append (cs : List Char) :
    readWhole (cs ++ rest) = (readWhole cs).map fun (ds, tail) => (ds, tail ++ rest) := by
  unfold readWhole
  rw [readDigits_append hrest]
  rcases readDigits cs with ⟨_ | ⟨_ | d, _ | ⟨e, ds⟩⟩, tail⟩ <;> rfl

/-- What ends a numeral ends its fraction, which is there or not as before. -/
theorem readFraction_append (cs : List Char) :
    readFraction (cs ++ rest) = (readFraction cs).map fun (ds, tail) => (ds, tail ++ rest) := by
  cases cs with
  | nil => rcases hrest.cases with rfl | ⟨c, tail, rfl, rfl | rfl | rfl⟩ <;> rfl
  | cons c cs =>
    by_cases hpoint : c = '.'
    · subst hpoint
      rw [List.cons_append, readFraction, readFraction, readDigits_append hrest]
      rcases readDigits cs with ⟨_ | ⟨d, ds⟩, tail⟩ <;> rfl
    · rw [List.cons_append, readFraction, readFraction] <;> simp [hpoint]

/-- What ends a numeral ends its exponent. -/
theorem readExponent_append (cs : List Char) :
    readExponent (cs ++ rest) = (readExponent cs).map fun (n, tail) => (n, tail ++ rest) := by
  cases cs with
  | nil => rcases hrest.cases with rfl | ⟨c, tail, rfl, rfl | rfl | rfl⟩ <;> rfl
  | cons c cs =>
    rw [List.cons_append]
    by_cases hletter : c = 'e' ∨ c = 'E'
    · cases cs with
      | nil =>
        rcases hletter with rfl | rfl <;>
          rcases hrest.cases with rfl | ⟨c, tail, rfl, rfl | rfl | rfl⟩ <;> rfl
      | cons d cs =>
        rw [List.cons_append]
        by_cases hminus : d = '-'
        · subst hminus
          rw [readExponent, readExponent, if_pos hletter, if_pos hletter, readDigits_append hrest]
          rcases readDigits cs with ⟨_ | ⟨d, ds⟩, tail⟩ <;> rfl
        by_cases hplus : d = '+'
        · subst hplus
          rw [readExponent, readExponent, if_pos hletter, if_pos hletter, readDigits_append hrest]
          rcases readDigits cs with ⟨_ | ⟨d, ds⟩, tail⟩ <;> rfl
        rw [readExponent_unsigned hletter hminus hplus, readExponent_unsigned hletter hminus hplus,
          ← List.cons_append, readDigits_append hrest]
        rcases readDigits (d :: cs) with ⟨_ | ⟨d, ds⟩, tail⟩ <;> rfl
    · unfold readExponent
      simp only [if_neg hletter, Option.map_some, List.cons_append]

/-- **A magnitude is read in the same way in front of what ends it.** -/
theorem readMagnitude_append {negative : Bool} {cs : List Char} {numeral : Decimal.Numeral}
    (h : readMagnitude negative cs = some (numeral, [])) :
    readMagnitude negative (cs ++ rest) = some (numeral, rest) := by
  unfold readMagnitude at h ⊢
  simp only [bind, Option.bind_eq_some_iff, Prod.exists] at h
  obtain ⟨whole, _, hwhole, fraction, _, hfraction, exponent, _, hexponent, ⟨⟩⟩ := h
  simp [readWhole_append hrest, hwhole, readFraction_append hrest, hfraction,
    readExponent_append hrest, hexponent]

/-- A numeral that takes up a whole text is read in front of what may stand behind it. -/
theorem readNumeral_append {cs : List Char} {numeral : Decimal.Numeral}
    (h : readNumeral cs = some (numeral, [])) :
    readNumeral (cs ++ rest) = some (numeral, rest) := by
  cases cs with
  | nil => cases h
  | cons c cs =>
    rw [List.cons_append]
    by_cases hminus : c = '-'
    · subst hminus
      rw [readNumeral_minus] at h ⊢
      exact readMagnitude_append hrest h
    · rw [readNumeral_unsigned hminus] at h ⊢
      exact readMagnitude_append hrest h

end

/-! ### Integers -/

/-- The number that a digit stands for. -/
def digitValue (c : Char) : ℕ :=
  c.toNat - 48

theorem digit?_of_isDigit {c : Char} (h : c.isDigit) : digit? c = some (digitValue c) := by
  have hrange : '0' ≤ c ∧ c ≤ '9' := by
    simpa [Char.isDigit, Char.le_def] using h
  exact if_pos hrange

/-- Digits are read to their end. -/
theorem readDigits_of_isDigit {cs : List Char} (h : ∀ c ∈ cs, c.isDigit) :
    readDigits cs = (cs.map digitValue, []) := by
  induction cs with
  | nil => rfl
  | cons c cs ih =>
    obtain ⟨hc, hcs⟩ := List.forall_mem_cons.mp h
    rw [readDigits, digit?_of_isDigit hc, ih hcs]
    rfl

/-- The digits of a natural number have no leading zero, so they are read as a whole part. -/
theorem readWhole_digitsText (n : ℕ) :
    readWhole (Decimal.digitsText n) = some ((Decimal.digitsText n).map digitValue, []) := by
  obtain ⟨c, cs, htext, hzero⟩ := Decimal.exists_digitsText n
  have hdigit : ∀ d ∈ c :: cs, d.isDigit :=
    fun d hd => Decimal.isDigit_of_mem_digitsText (htext ▸ hd)
  rcases Nat.eq_zero_or_pos n with rfl | hpos
  · rfl
  have hvalue : digitValue c ≠ 0 := by
    intro hvalue
    have hleast : 48 ≤ c.toNat :=
      (Char.isDigit_iff_toNat.mp (hdigit c (List.mem_cons_self ..))).1
    exact hzero hpos (Char.toNat_inj.mp (Nat.le_antisymm (Nat.sub_eq_zero_iff_le.mp hvalue) hleast))
  rw [htext, readWhole, readDigits_of_isDigit hdigit, List.map_cons]
  split
  case h_1 heq => cases heq
  case h_2 heq => exact absurd (List.cons.inj (Prod.mk.inj heq).1).1 hvalue
  case h_3 heq => rw [heq]

/-- The number that a list of digits stands for. -/
def numberOf (start : ℕ) (ds : List ℕ) : ℕ :=
  ds.foldl (fun n d => n * 10 + d) start

/-- The digits of a natural number stand for it. -/
theorem numberOf_digitsText (n : ℕ) :
    numberOf 0 ((Decimal.digitsText n).map digitValue) = n := by
  rw [numberOf, List.foldl_map]
  refine Eq.trans ?_ (Decimal.ofDigitChars_digitsText n)
  unfold Nat.ofDigitChars
  congr 1
  funext m c
  rw [Nat.mul_comm]
  rfl

/-- No digit is left out of a number that a word can hold. -/
theorem takeDigits_eq (ds : List ℕ) (start : ℕ) (h : numberOf start ds < 2 ^ 64) :
    Decimal.takeDigits start ds = (numberOf start ds, ds.length) := by
  have hmono : ∀ (ds : List ℕ) (start : ℕ), start ≤ numberOf start ds := by
    intro ds
    induction ds with
    | nil => exact fun start => Nat.le_refl start
    | cons d ds ih =>
      intro start
      exact Nat.le_trans (by omega) (ih (start * 10 + d))
  induction ds generalizing start with
  | nil => rfl
  | cons d ds ih =>
    have hnext : start * 10 + d < UInt64.size := Nat.lt_of_le_of_lt (hmono ds _) h
    rw [Decimal.takeDigits, if_pos hnext, ih _ h]
    rfl

/-- The digits that are taken stay within a word. -/
theorem takeDigits_lt (ds : List ℕ) {start : ℕ} (h : start < 2 ^ 64) :
    (Decimal.takeDigits start ds).1 < 2 ^ 64 := by
  induction ds generalizing start with
  | nil => exact h
  | cons d ds ih =>
    rw [Decimal.takeDigits]
    split
    case isTrue hnext => exact ih hnext
    case isFalse => exact h

/-- The value of a numeral without fraction and exponent, below the bound of a word. -/
theorem number?_whole (negative : Bool) {n : ℕ} (hn : n < 2 ^ 64) :
    (⟨negative, (Decimal.digitsText n).map digitValue, none, none⟩ : Decimal.Numeral).number? =
      if negative then
        if 0 < n ∧ n ≤ 2 ^ 63 then some (.integer (-n)) else some (.real (-Float.ofNat n))
      else some (.integer n) := by
  have htake := takeDigits_eq ((Decimal.digitsText n).map digitValue) 0
    (by rwa [numberOf_digitsText])
  rw [numberOf_digitsText] at htake
  unfold Decimal.Numeral.number?
  simp only [htake, Nat.sub_self]
  cases negative <;> rfl

end Fieldwork.Document

namespace Fieldwork

open Document

/-- A number that its text is read back as: an integer that a word can hold, or a real that the two
rounded steps of reading lead back to. -/
def Number.Survives : Number → Prop
  | .integer n => -2 ^ 63 ≤ n ∧ n < 2 ^ 64
  | .real x => ∃ numeral, readNumeral (numberText (.real x)) = some (numeral, []) ∧
      numeral.number? = some (.real x)

/-- Every integer that was read survives, so that only reals are lost. -/
theorem Number.survives_of_number? {numeral : Decimal.Numeral} {n : Int}
    (h : numeral.number? = some (.integer n)) : (Number.integer n).Survives := by
  have hlt : (Decimal.takeDigits 0 numeral.whole).1 < 2 ^ 64 := takeDigits_lt _ (by decide)
  have hhalf : Nat.pow 2 63 = 2 ^ 63 := rfl
  unfold Decimal.Numeral.number? at h
  simp only at h
  split at h
  -- digits alone, with and without a sign
  · split at h
    · split at h
      · cases h
        exact ⟨by omega, by omega⟩
      · cases h
    · cases h
      exact ⟨by omega, by exact_mod_cast hlt⟩
  -- a fraction, an exponent or digits beyond a word make a real
  · obtain ⟨_, -, ⟨⟩⟩ := Option.map_eq_some_iff.mp h

/-- **A number that survives is read back from its text.** -/
theorem Number.Survives.readNumeral {n : Number} (h : n.Survives) :
    ∃ numeral, Document.readNumeral (numberText n) = some (numeral, []) ∧
      numeral.number? = some n := by
  cases n with
  | real x => exact h
  | integer n =>
    obtain ⟨hleast, hmost⟩ := h
    have hmagnitude : ∀ negative, readMagnitude negative (Decimal.digitsText n.natAbs) =
        some (⟨negative, (Decimal.digitsText n.natAbs).map digitValue, none, none⟩, []) := by
      intro negative
      rw [readMagnitude, readWhole_digitsText]
      rfl
    by_cases hneg : n < 0
    · have htext : numberText (.integer n) = '-' :: Decimal.digitsText n.natAbs := if_pos hneg
      refine ⟨_, by rw [htext, readNumeral_minus, hmagnitude], ?_⟩
      rw [number?_whole true (by omega), if_pos rfl, if_pos (by omega)]
      congr 2
      omega
    · have htext : numberText (.integer n) = Decimal.digitsText n.natAbs := if_neg hneg
      obtain ⟨c, cs, hdigits, -⟩ := Decimal.exists_digitsText n.natAbs
      have hdigit : c.isDigit :=
        Decimal.isDigit_of_mem_digitsText (n := n.natAbs) (by simp [hdigits])
      have hminus : c ≠ '-' := by
        rintro rfl
        cases hdigit
      have hread := hmagnitude false
      rw [hdigits] at htext hread
      refine ⟨_, by rw [htext, readNumeral_unsigned hminus, hread], ?_⟩
      rw [← hdigits, number?_whole false (by omega), if_neg (by decide)]
      congr 2
      omega

/-- **An integer survives exactly when it is read from any text.** -/
theorem Number.survives_integer_iff (n : Int) :
    (Number.integer n).Survives ↔
      ∃ cs numeral, Document.readNumeral cs = some (numeral, []) ∧
        numeral.number? = some (.integer n) := by
  constructor
  · intro h
    exact ⟨_, h.readNumeral⟩
  · rintro ⟨-, numeral, -, hnumber⟩
    exact Number.survives_of_number? hnumber

namespace Document

/-! ## Values -/

/-- A character that no blank is skipped at and that closes no container. -/
def Starts (c : Char) : Prop :=
  isBlank c = false ∧ c ≠ ']' ∧ c ≠ '\x7d'

instance : DecidablePred Starts := fun _ => instDecidableAnd

theorem skipBlanks_cons {c : Char} (h : isBlank c = false) (cs : List Char) :
    skipBlanks (c :: cs) = c :: cs := by
  simp [skipBlanks, h]

/-! ### Numerals as values -/

/-- A numeral starts with its sign or a digit. -/
def StartsNumeral (c : Char) : Prop :=
  c = '-' ∨ ('0' ≤ c ∧ c ≤ '9')

instance : DecidablePred StartsNumeral := fun _ => instDecidableOr

theorem StartsNumeral.ne {c d : Char} (hc : StartsNumeral c) (hd : ¬ StartsNumeral d) : c ≠ d := by
  rintro rfl
  exact hd hc

/-- A numeral starts with no blank and with no closing bracket. -/
theorem StartsNumeral.starts {c : Char} (hc : StartsNumeral c) : Starts c := by
  have hblank : isBlank c = false := by
    simp [isBlank, hc.ne (d := ' ') (by decide), hc.ne (d := '\t') (by decide),
      hc.ne (d := '\n') (by decide), hc.ne (d := '\r') (by decide)]
  exact ⟨hblank, hc.ne (by decide), hc.ne (by decide)⟩

/-- What is read as a numeral starts as one. -/
theorem startsNumeral_of_readNumeral {cs : List Char} {r : Decimal.Numeral × List Char}
    (h : readNumeral cs = some r) : ∃ c tail, cs = c :: tail ∧ StartsNumeral c := by
  cases cs with
  | nil => cases h
  | cons c tail =>
    refine ⟨c, tail, rfl, or_iff_not_imp_left.mpr fun hminus => ?_⟩
    rw [readNumeral_unsigned hminus] at h
    obtain ⟨whole, hwhole, -⟩ := Option.bind_eq_some_iff.mp h
    by_contra hdigit
    have hnone : digit? c = none := if_neg hdigit
    rw [readWhole, readDigits, hnone] at hwhole
    cases hwhole

/-- At the start of a numeral, the value that is read is that of the numeral. -/
theorem readValue_numeral {c : Char} (hc : StartsNumeral c) (fuel depth : ℕ) (cs : List Char) :
    readValue (fuel + 1) depth (c :: cs) = (readNumeral (c :: cs)).map fun (numeral, rest) =>
      ((numeral.number?.map Document.number).getD .unreadable, rest) := by
  rw [readValue, skipBlanks_cons hc.starts.1]
  split
  case h_1 heq => cases heq
  case h_8 =>
    cases readNumeral (c :: cs) <;> rfl
  all_goals
    rename_i heq
    exact absurd (List.cons.inj heq).1 (hc.ne (by decide))

/-- **A number that survives is read back as a value.** -/
theorem readValue_number {n : Number} (h : n.Survives) (fuel depth : ℕ) {rest : List Char}
    (hrest : Ends rest) :
    readValue (fuel + 1) depth (numberText n ++ rest) = some (.number n, rest) := by
  obtain ⟨numeral, hread, hnumber⟩ := h.readNumeral
  obtain ⟨c, cs, htext, hc⟩ := startsNumeral_of_readNumeral hread
  have hwhole := readNumeral_append hrest hread
  rw [htext, List.cons_append] at hwhole ⊢
  rw [readValue_numeral hc, hwhole]
  simp [hnumber]

/-! ### Containers -/

mutual

/-- A document that its text is read back as inside `depth` open containers: its numbers are, and no
container is nested too deeply. -/
def Survives (depth : ℕ) : Document → Prop
  | .null | .bool _ | .string _ => True
  | .number n => n.Survives
  | .array items => depth < depthLimit ∧ SurvivesItems (depth + 1) items
  | .object members => depth < depthLimit ∧ SurvivesMembers (depth + 1) members
  | .unreadable => False

def SurvivesItems (depth : ℕ) : List Document → Prop
  | [] => True
  | d :: ds => Survives depth d ∧ SurvivesItems depth ds

def SurvivesMembers (depth : ℕ) : List (String × Document) → Prop
  | [] => True
  | (_, d) :: ds => Survives depth d ∧ SurvivesMembers depth ds

end

/-- A list is read as its items, inside one more container. -/
theorem readValue_array {fuel depth : ℕ} {c : Char} {cs rest : List Char} {items : List Document}
    (hc : Starts c) (h : readItems fuel (depth + 1) (c :: cs) = some (items, rest)) :
    readValue (fuel + 1) depth ('[' :: c :: cs) =
      some (enclose depth (some (.array items)), rest) := by
  obtain ⟨hblank, hbracket, -⟩ := hc
  rw [readValue, skipBlanks_cons (by decide)]
  simp only [skipBlanks_cons hblank]
  split
  case h_1 heq => exact absurd (List.cons.inj heq).1 hbracket
  case h_2 =>
    rw [h]
    rfl

/-- An object is read as its members, inside one more container. -/
theorem readValue_object {fuel depth : ℕ} {c : Char} {cs rest : List Char}
    {members : List (Option String × Document)} (hc : Starts c)
    (h : readMembers fuel (depth + 1) (c :: cs) = some (members, rest)) :
    readValue (fuel + 1) depth ('\x7b' :: c :: cs) =
      some (enclose depth (objectOf? members), rest) := by
  obtain ⟨hblank, -, hbrace⟩ := hc
  rw [readValue, skipBlanks_cons (by decide)]
  simp only [skipBlanks_cons hblank]
  split
  case h_1 heq => exact absurd (List.cons.inj heq).1 hbrace
  case h_2 =>
    rw [h]
    rfl

/-- A container is kept while the reader allows one more. -/
theorem enclose_of_lt {depth : ℕ} (h : depth < depthLimit) (d : Document) :
    enclose depth (some d) = d :=
  if_pos h

/-- Members that all have a name make an object. -/
theorem objectOf?_named (members : List (String × Document)) :
    objectOf? (members.map fun (name, d) => (some name, d)) = some (.object members) := by
  have hnamed : (members.map fun (name, d) => (some name, d)).mapM
      (fun member : Option String × Document => member.1.map fun name => (name, member.2)) =
        some members := by
    induction members with
    | nil => rfl
    | cons member members ih =>
      rw [List.map_cons, List.mapM_cons, ih]
      rfl
  rw [objectOf?]
  exact congrArg (Option.map Document.object) hnamed

theorem chars_null : chars .null = ['n', 'u', 'l', 'l'] := by
  rw [chars]
  rfl

theorem chars_true : chars (.bool true) = ['t', 'r', 'u', 'e'] := by
  rw [chars]
  rfl

theorem chars_false : chars (.bool false) = ['f', 'a', 'l', 's', 'e'] := by
  rw [chars]
  rfl

/-- A comma stands between an item and the next. -/
theorem itemsChars_cons (d e : Document) (ds : List Document) :
    itemsChars (d :: e :: ds) = chars d ++ ',' :: itemsChars (e :: ds) :=
  itemsChars.eq_3 d (e :: ds) (by simp)

/-- A comma stands between a member and the next. -/
theorem membersChars_cons (name : String) (d : Document) (m : String × Document)
    (ms : List (String × Document)) :
    membersChars ((name, d) :: m :: ms) =
      quoted name ++ ':' :: chars d ++ ',' :: membersChars (m :: ms) :=
  membersChars.eq_3 name d (m :: ms) (by simp)

/-- The text of a document starts with no blank and with no closing bracket. -/
theorem exists_chars {d : Document} {depth : ℕ} (h : d.Survives depth) :
    ∃ c cs, d.chars = c :: cs ∧ Starts c := by
  cases d with
  | null => exact ⟨_, _, chars_null, by decide⟩
  | bool b =>
    cases b with
    | true => exact ⟨_, _, chars_true, by decide⟩
    | false => exact ⟨_, _, chars_false, by decide⟩
  | number n =>
    obtain ⟨numeral, hread, -⟩ := Number.Survives.readNumeral h
    obtain ⟨c, cs, htext, hc⟩ := startsNumeral_of_readNumeral hread
    exact ⟨c, cs, by rw [chars, htext], hc.starts⟩
  | string s => exact ⟨_, _, by rw [chars, quoted]; rfl, by decide⟩
  | array items => exact ⟨_, _, by rw [chars]; rfl, by decide⟩
  | object members => exact ⟨_, _, by rw [chars]; rfl, by decide⟩
  | unreadable => cases h

/-- So does the text of a list's items. -/
theorem exists_itemsChars {d : Document} {ds : List Document} {depth : ℕ}
    (h : SurvivesItems depth (d :: ds)) :
    ∃ c cs, itemsChars (d :: ds) = c :: cs ∧ Starts c := by
  obtain ⟨c, cs, htext, hc⟩ := exists_chars h.1
  cases ds with
  | nil => exact ⟨c, cs, by rw [itemsChars, htext], hc⟩
  | cons e ds =>
    refine ⟨c, cs ++ ',' :: itemsChars (e :: ds), ?_, hc⟩
    rw [itemsChars_cons, htext, List.cons_append]

/-- The members of an object start with the quote of a name. -/
theorem exists_membersChars (name : String) (d : Document) (ms : List (String × Document)) :
    ∃ cs, membersChars ((name, d) :: ms) = '"' :: cs := by
  cases ms with
  | nil => exact ⟨_, by rw [membersChars, quoted]; rfl⟩
  | cons m ms => exact ⟨_, by rw [membersChars_cons, quoted]; rfl⟩

/-- The last item is read with the bracket behind it. -/
theorem readItems_last {fuel depth : ℕ} {cs rest : List Char} {d : Document}
    (h : readValue fuel depth cs = some (d, ']' :: rest)) :
    readItems (fuel + 1) depth cs = some ([d], rest) := by
  rw [readItems, h]
  rfl

/-- An item is read with the comma behind it, and then the others are. -/
theorem readItems_next {fuel depth : ℕ} {cs tail rest : List Char} {d : Document}
    {ds : List Document} (h : readValue fuel depth cs = some (d, ',' :: tail))
    (hrest : readItems fuel depth tail = some (ds, rest)) :
    readItems (fuel + 1) depth cs = some (d :: ds, rest) := by
  have hstep : readItems (fuel + 1) depth cs =
      (readItems fuel depth tail).bind fun found => some (d :: found.1, found.2) := by
    rw [readItems, h]
    rfl
  rw [hstep, hrest, Option.bind_some]

/-- The last member is read with the brace behind it. -/
theorem readMembers_last {fuel depth : ℕ} {cs rest : List Char} {d : Document} (name : String)
    (h : readValue fuel depth cs = some (d, '\x7d' :: rest)) :
    readMembers (fuel + 1) depth (quoted name ++ ':' :: cs) = some ([(some name, d)], rest) := by
  obtain ⟨text, hname, hread⟩ := readString_quoted name (':' :: cs)
  rw [hname, readMembers, skipBlanks_cons (by decide)]
  simp only [hread, bind, Option.bind_some, skipBlanks_cons (c := ':') (by decide), h]
  rfl

/-- A member is read with the comma behind it, and then the others are. -/
theorem readMembers_next {fuel depth : ℕ} {cs tail rest : List Char} {d : Document}
    {members : List (Option String × Document)} (name : String)
    (h : readValue fuel depth cs = some (d, ',' :: tail))
    (hrest : readMembers fuel depth tail = some (members, rest)) :
    readMembers (fuel + 1) depth (quoted name ++ ':' :: cs) =
      some ((some name, d) :: members, rest) := by
  obtain ⟨text, hname, hread⟩ := readString_quoted name (':' :: cs)
  rw [hname, readMembers, skipBlanks_cons (by decide)]
  simp only [hread, bind, Option.bind_some, skipBlanks_cons (c := ':') (by decide), h,
    skipBlanks_cons (c := ',') (by decide), hrest]
  rfl

/-! ### The text of a document

A value takes two calls for each of its characters at most, which is what the reader's fuel
grants. -/

mutual

/-- **The text of a document is read as the document**, with what follows left over. -/
theorem readValue_chars : (d : Document) → (fuel depth : ℕ) → (rest : List Char) →
    d.Survives depth → 2 * d.chars.length ≤ fuel → Ends rest →
    readValue fuel depth (d.chars ++ rest) = some (d, rest)
  | .null, fuel + 1, depth, rest, _, _, _ => by
    rw [chars_null]
    rfl
  | .bool true, fuel + 1, depth, rest, _, _, _ => by
    rw [chars_true]
    rfl
  | .bool false, fuel + 1, depth, rest, _, _, _ => by
    rw [chars_false]
    rfl
  | .number n, fuel + 1, depth, rest, h, _, hrest => by
    rw [chars]
    exact readValue_number h fuel depth hrest
  | .string s, fuel + 1, depth, rest, _, _, _ => by
    obtain ⟨cs, htext, hread⟩ := readString_quoted s rest
    rw [chars, htext, readValue, skipBlanks_cons (by decide)]
    simp [hread]
  | .array [], fuel + 1, depth, rest, h, _, _ => by
    have htext : chars (.array []) ++ rest = '[' :: ']' :: rest := by
      rw [chars, itemsChars]
      rfl
    have hread : readValue (fuel + 1) depth ('[' :: ']' :: rest) =
        some (enclose depth (some (.array [])), rest) := rfl
    rw [htext, hread, enclose_of_lt h.1]
  | .array (d :: ds), fuel + 1, depth, rest, h, hfuel, _ => by
    obtain ⟨hdepth, hitems⟩ := h
    have htext : chars (.array (d :: ds)) ++ rest =
        '[' :: (itemsChars (d :: ds) ++ ']' :: rest) := by
      rw [chars]
      simp
    have hlength : (chars (.array (d :: ds))).length = (itemsChars (d :: ds)).length + 2 := by
      rw [chars]
      simp
    -- the two brackets pay for the call that reads the items
    have hread := readItems_itemsChars d ds fuel (depth + 1) rest hitems (by omega)
    obtain ⟨c, cs, hchars, hc⟩ := exists_itemsChars hitems
    rw [htext]
    rw [hchars, List.cons_append] at hread ⊢
    rw [readValue_array hc hread, enclose_of_lt hdepth]
  | .object [], fuel + 1, depth, rest, h, _, _ => by
    have htext : chars (.object []) ++ rest = '\x7b' :: '\x7d' :: rest := by
      rw [chars, membersChars]
      rfl
    have hread : readValue (fuel + 1) depth ('\x7b' :: '\x7d' :: rest) =
        some (enclose depth (some (.object [])), rest) := rfl
    rw [htext, hread, enclose_of_lt h.1]
  | .object ((name, d) :: ms), fuel + 1, depth, rest, h, hfuel, _ => by
    obtain ⟨hdepth, hmembers⟩ := h
    have htext : chars (.object ((name, d) :: ms)) ++ rest =
        '\x7b' :: (membersChars ((name, d) :: ms) ++ '\x7d' :: rest) := by
      rw [chars]
      simp
    have hlength : (chars (.object ((name, d) :: ms))).length =
        (membersChars ((name, d) :: ms)).length + 2 := by
      rw [chars]
      simp
    have hread := readMembers_membersChars name d ms fuel (depth + 1) rest hmembers (by omega)
    obtain ⟨cs, hchars⟩ := exists_membersChars name d ms
    rw [htext]
    rw [hchars, List.cons_append] at hread ⊢
    rw [readValue_object (by decide) hread, objectOf?_named, enclose_of_lt hdepth]
  | d, 0, depth, rest, h, hfuel, _ => by
    obtain ⟨c, cs, htext, -⟩ := exists_chars h
    simp [htext] at hfuel

/-- The items of a list are read up to its bracket; the bracket pays for the last call. -/
theorem readItems_itemsChars : (d : Document) → (ds : List Document) → (fuel depth : ℕ) →
    (rest : List Char) → SurvivesItems depth (d :: ds) →
    2 * (itemsChars (d :: ds)).length + 1 ≤ fuel →
    readItems fuel depth (itemsChars (d :: ds) ++ ']' :: rest) = some (d :: ds, rest)
  | d, [], fuel + 1, depth, rest, h, hfuel => by
    rw [itemsChars] at hfuel ⊢
    exact readItems_last (readValue_chars d fuel depth _ h.1 (by omega) (by simp [Ends]))
  | d, e :: ds, fuel + 1, depth, rest, h, hfuel => by
    rw [itemsChars_cons, List.length_append, List.length_cons] at hfuel
    rw [itemsChars_cons, List.append_assoc, List.cons_append]
    exact readItems_next (readValue_chars d fuel depth _ h.1 (by omega) (by simp [Ends]))
      (readItems_itemsChars e ds fuel depth rest h.2 (by omega))

/-- The members of an object are read up to its brace. -/
theorem readMembers_membersChars : (name : String) → (d : Document) →
    (ms : List (String × Document)) → (fuel depth : ℕ) → (rest : List Char) →
    SurvivesMembers depth ((name, d) :: ms) →
    2 * (membersChars ((name, d) :: ms)).length + 1 ≤ fuel →
    readMembers fuel depth (membersChars ((name, d) :: ms) ++ '\x7d' :: rest) =
      some (((name, d) :: ms).map fun (name, d) => (some name, d), rest)
  | name, d, [], fuel + 1, depth, rest, h, hfuel => by
    rw [membersChars, List.length_append, List.length_cons] at hfuel
    rw [membersChars, List.append_assoc, List.cons_append]
    exact readMembers_last name
      (readValue_chars d fuel depth _ h.1 (by omega) (by simp [Ends]))
  | name, d, (n, e) :: ms, fuel + 1, depth, rest, h, hfuel => by
    rw [membersChars_cons, List.append_assoc, List.length_append, List.cons_append,
      List.length_cons, List.length_append, List.length_cons] at hfuel
    rw [membersChars_cons, List.append_assoc, List.append_assoc, List.cons_append,
      List.cons_append]
    exact readMembers_next name
      (readValue_chars d fuel depth _ h.1 (by omega) (by simp [Ends]))
      (readMembers_membersChars n e ms fuel depth rest h.2 (by omega))

end

/-- **A document that survives is read back from its text.** -/
theorem ofText?_text {d : Document} (h : d.Survives 0) : ofText? d.text = some d := by
  have hread := readValue_chars d (2 * d.chars.length + 2) 0 [] h (by omega) (by simp [Ends])
  rw [List.append_nil] at hread
  rw [ofText?, text, String.toList_ofList, hread]
  rfl

end Document

/-- A value is read back from its text when its document is. -/
theorem Json.ofText?_text {v : Json} (hcanonical : v.Canonical) (h : v.document.Survives 0) :
    Json.ofText? v.text = some v := by
  rw [Json.ofText?, Json.text, Document.ofText?_text h, Option.bind_some]
  exact v.json?_document hcanonical

end Fieldwork
