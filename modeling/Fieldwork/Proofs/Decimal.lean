import Fieldwork.Decimal.Layout
import Mathlib.Data.List.Basic

/-!
# The digits that numbers are written with

* `isDigit_of_mem_digitsText`, `exists_digitsText`: a whole number is written in digits, one at
  least, with no zero before others.
* `ofDigitChars_digitsText`: the digits stand for the number.
* `Layout.text_ne_nil`: every number has a text.
-/

namespace Fieldwork.Decimal

theorem isDigit_of_mem_digitsText {n : ℕ} {c : Char} (h : c ∈ digitsText n) : c.isDigit :=
  Nat.isDigit_of_mem_toDigits (by decide) (by decide) h

/-- The digits of a natural number are read back as it. -/
theorem ofDigitChars_digitsText (n : ℕ) : Nat.ofDigitChars 10 (digitsText n) 0 = n :=
  Nat.ofDigitChars_toDigits (by decide) (by decide)

/-- The digits of a number begin with a zero only where it is zero. -/
theorem exists_digitsText (n : ℕ) : ∃ c cs, digitsText n = c :: cs ∧ (0 < n → c ≠ '0') := by
  induction n using Nat.strongRecOn with
  | ind n ih =>
    by_cases hlt : n < 10
    · have hzero : ∀ n < 10, 0 < n → n.digitChar ≠ '0' := by decide
      exact ⟨_, _, Nat.toDigits_of_lt_base hlt, hzero n hlt⟩
    · have hten : 10 ≤ n := Nat.not_lt.mp hlt
      have htext : digitsText n = digitsText (n / 10) ++ [(n % 10).digitChar] :=
        Nat.toDigits_of_base_le (by decide) hten
      obtain ⟨c, cs, hcs, hzero⟩ := ih (n / 10) (Nat.div_lt_self (by omega) (by decide))
      rw [hcs, List.cons_append] at htext
      exact ⟨_, _, htext, fun _ => hzero (Nat.div_pos hten (by decide))⟩

/-- Digits with the point in its place are some text. -/
theorem placed_ne_nil {digits : List Char} (h : digits ≠ []) (exponent : Int) :
    placed digits exponent ≠ [] := by
  unfold placed
  split
  · simp [h]
  · dsimp only
    split <;> simp

/-- **No number is written as the empty text.** -/
theorem Layout.text_ne_nil (l : Layout) (x : Float) : l.text x ≠ [] := by
  have hmagnitude : ∀ d, l.magnitude d ≠ [] := by
    intro d
    have hplaced : placed (digitsText d.digits) d.exponent ≠ [] :=
      placed_ne_nil Nat.toDigits_ne_nil _
    have hboth : ∀ (inPlaces : Bool) (zero : List Char) (leading : Int),
        (if inPlaces then placed (digitsText d.digits) d.exponent ++ zero
          else scientific (digitsText d.digits) leading) ≠ [] := by
      intro inPlaces zero leading
      cases inPlaces <;> simp [hplaced, scientific]
    exact hboth _ _ _
  unfold text
  dsimp only
  split
  · decide
  · split <;> simp [hmagnitude]

end Fieldwork.Decimal
