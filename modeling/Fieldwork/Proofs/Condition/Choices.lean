import Fieldwork.Proofs.Condition.Compile
import Fieldwork.Store.Select

/-!
# Choices by id and by text

A rule on a field with choices may give a choice by its id or by its text. Compiling takes the first
choice that the value is the id or the text of, so an id that is also the text of an earlier choice
is taken for that text.

* `idOf_eq_meant_iff`: a value becomes the id that it means, unless it is such an id.
* `compile_choices_iff`: **the values of a rule compile to the ids that they mean**, and compile to
  themselves again, unless they are such ids.
* `id_taken_for_text`: an id that compiles to that of another choice.
-/

namespace Fieldwork

namespace Choice

variable {choices : List Choice} {s : String}

/-- The id that a value means: an id means itself, and any other text the first choice of that
text, if there is one. -/
def meant (choices : List Choice) : Json → Json
  | .string s =>
    if choices.any (·.id = s) then .string s
    else match choices.find? (·.text = s) with
      | some c => .string c.id
      | none => .string s
  | v => v

/-- The values of a list mean their ids one by one. -/
def allMeant (choices : List Choice) : Json → Json
  | .array items => .array (items.map (meant choices))
  | v => meant choices v

/-- The text is the id of a choice, and before all choices with that id it is the text of one. -/
def Overtaken (choices : List Choice) (s : String) : Prop :=
  ∃ front c back, choices = front ++ c :: back ∧ c.text = s ∧
    (∀ d ∈ front ++ [c], d.id ≠ s) ∧ ∃ d ∈ back, d.id = s

/-- What is overtaken is the id of a choice. -/
theorem Overtaken.exists_id (h : Overtaken choices s) : ∃ c ∈ choices, c.id = s := by
  obtain ⟨front, c, back, rfl, -, -, d, hd, hid⟩ := h
  exact ⟨d, by simp [hd], hid⟩

theorem not_overtaken_nil : ¬ Overtaken [] s := by
  rintro ⟨front, c, back, h, -⟩
  simp at h

/-- The first choice overtakes an id when it is labelled with it and a later choice has it. -/
theorem overtaken_cons (c : Choice) :
    Overtaken (c :: choices) s ↔
      c.id ≠ s ∧ (c.text = s ∧ (∃ d ∈ choices, d.id = s) ∨ Overtaken choices s) := by
  constructor
  · rintro ⟨front, d, back, heq, htext, hids, hlater⟩
    rcases front with _ | ⟨e, front⟩
    · cases heq
      exact ⟨hids c (by simp), .inl ⟨htext, hlater⟩⟩
    · cases heq
      refine ⟨hids c (by simp), .inr ⟨front, d, back, rfl, htext, fun e he => ?_, hlater⟩⟩
      exact hids e (List.mem_cons_of_mem c he)
  · rintro ⟨hid, ⟨htext, hlater⟩ | ⟨front, d, back, rfl, htext, hids, hlater⟩⟩
    · exact ⟨[], c, choices, rfl, htext, by simpa using hid, hlater⟩
    · refine ⟨c :: front, d, back, rfl, htext, fun e he => ?_, hlater⟩
      rcases List.mem_cons.mp he with rfl | he
      · exact hid
      · exact hids e he

/-! ## One text -/

/-- A text becomes the id of the first choice that has it as its id or its text. -/
theorem idOf_string (choices : List Choice) (s : String) :
    idOf choices (.string s) =
      ((choices.find? fun c => c.id = s ∨ c.text = s).map fun c => .string c.id).getD
        (.string s) := by
  unfold idOf
  dsimp only
  cases choices.find? fun c => c.id = s ∨ c.text = s <;> rfl

/-- A text means the choice with that id, or else the first one labelled with it. -/
theorem meant_string (choices : List Choice) (s : String) :
    meant choices (.string s) =
      if choices.any (·.id = s) then .string s
      else ((choices.find? (·.text = s)).map fun c => .string c.id).getD (.string s) := by
  unfold meant
  dsimp only
  cases choices.find? (·.text = s) <;> rfl

/-- **A text becomes the id that it means**, unless it is an id overtaken by a text. -/
theorem idOf_eq_meant_iff (choices : List Choice) (s : String) :
    idOf choices (.string s) = meant choices (.string s) ↔ ¬ Overtaken choices s := by
  rw [idOf_string, meant_string]
  induction choices with
  | nil => simp [not_overtaken_nil]
  | cons c choices ih =>
    rw [overtaken_cons]
    by_cases hid : c.id = s
    · simp [hid]
    · by_cases htext : c.text = s
      -- the first choice is found by its text, whether or not a later one has the id
      · by_cases hlater : ∃ d ∈ choices, d.id = s
        · simp [hid, htext, hlater]
        · have hnone : ¬ Overtaken choices s := fun h => hlater h.exists_id
          simp [hid, htext, hlater, hnone]
      · simpa [hid, htext] using ih

/-- What a text becomes means itself. -/
theorem meant_idOf (choices : List Choice) (v : Json) :
    meant choices (idOf choices v) = idOf choices v := by
  cases v with
  | string s =>
    rw [idOf_string]
    cases hfound : choices.find? fun c => c.id = s ∨ c.text = s with
    | some c =>
      have hmem := List.mem_of_find?_eq_some hfound
      have hany : choices.any (·.id = c.id) := List.any_eq_true.mpr ⟨c, hmem, by simp⟩
      rw [Option.map_some, Option.getD_some, meant_string, if_pos hany]
    | none =>
      -- no choice has the text in either place
      have hnone := List.find?_eq_none.mp hfound
      simp only [decide_eq_true_eq, not_or] at hnone
      have hany : ¬ choices.any (·.id = s) := by simpa using fun c hc => (hnone c hc).1
      have htext : choices.find? (·.text = s) = none := by
        simpa using fun c hc => (hnone c hc).2
      rw [Option.map_none, Option.getD_none, meant_string, if_neg hany, htext]
      rfl
  | _ => rfl

/-! ## Values of rules -/

/-- The value is a text, and an id overtaken by that of another choice. -/
def OvertakenValue (choices : List Choice) (v : Json) : Prop :=
  ∃ s, v = .string s ∧ Overtaken choices s

/-- A value becomes what it means, unless it is a text that is overtaken. -/
theorem idOf_eq_meant_iff_value (choices : List Choice) (v : Json) :
    idOf choices v = meant choices v ↔ ¬ OvertakenValue choices v := by
  unfold OvertakenValue
  cases v with
  | string s => simpa using idOf_eq_meant_iff choices s
  | _ => simp [idOf, meant]

/-- Two ways to map the values of a rule agree if they agree on each. -/
theorem normalise_eq_allMeant_iff (choices : List Choice) (v : Json) :
    normalise choices v = allMeant choices v ↔
      ∀ w ∈ v.listed, ¬ OvertakenValue choices w := by
  simp only [← idOf_eq_meant_iff_value]
  cases v with
  | array items =>
    rw [normalise, allMeant, Json.array.injEq, List.map_inj_left]
    rfl
  | _ => simp [normalise, allMeant, Json.listed]

/-- What a value compiles to means itself: it is made of ids and of what is no choice. -/
theorem allMeant_normalise (choices : List Choice) (v : Json) :
    allMeant choices (normalise choices v) = normalise choices v := by
  cases v with
  | array items => simp [normalise, allMeant, meant_idOf]
  | string s =>
    -- a text becomes a text, never a list
    obtain ⟨t, ht⟩ : ∃ t, idOf choices (.string s) = .string t := by
      rw [idOf_string]
      cases choices.find? fun c => c.id = s ∨ c.text = s <;> exact ⟨_, rfl⟩
    calc allMeant choices (idOf choices (.string s))
      _ = meant choices (idOf choices (.string s)) := by rw [ht]; rfl
      _ = idOf choices (.string s) := meant_idOf choices _
  | _ => rfl

end Choice

/-! ## Rules on fields with choices -/

/-- **A rule on a field compiles to one on its column**, with the ids of its values where the field
has choices. -/
theorem Rule.compile_field {o : Object} {u : User} {r : Rule} {f : Located} {column : Column}
    (hkey : Text.isUuid r.key) (hf : o.field r.key = .ok f) (hop : r.operator ≠ .haveNoRelation)
    (hcolumn : f.columnOf o u = .ok column) :
    r.compile o u = .ok (.rule column r.operator
      (if f.choices.isEmpty then r.value else Choice.normalise f.choices r.value)) :=
  (Rule.CompilesTo.field hkey hf hop hcolumn).compile_eq

/-- **The values of a rule compile to the ids that they mean**, unless one of them is an id that is
taken for the text of an earlier choice; with the same exception they compile to themselves
again. -/
theorem compile_choices_iff {o : Object} {u : User} {r : Rule} {f : Located} {column : Column}
    (hkey : Text.isUuid r.key) (hf : o.field r.key = .ok f) (hop : r.operator ≠ .haveNoRelation)
    (hchoices : f.choices ≠ []) (hcolumn : f.columnOf o u = .ok column) :
    ∃ value, r.compile o u = .ok (.rule column r.operator value) ∧
      (value = Choice.allMeant f.choices r.value ↔
        ∀ v ∈ r.value.listed, ¬ Choice.OvertakenValue f.choices v) ∧
      (Rule.compile o u { r with value } = .ok (.rule column r.operator value) ↔
        ∀ v ∈ value.listed, ¬ Choice.OvertakenValue f.choices v) := by
  have hcompile : ∀ v, Rule.compile o u { r with value := v } =
      .ok (.rule column r.operator (Choice.normalise f.choices v)) := by
    intro v
    have hfield := Rule.compile_field (r := { r with value := v }) hkey hf hop hcolumn
    rwa [if_neg (by simpa using hchoices)] at hfield
  refine ⟨_, hcompile r.value, Choice.normalise_eq_allMeant_iff f.choices r.value, ?_⟩
  -- a compiled value means itself, so it stays if its values compile to what they mean
  rw [hcompile, ← Choice.normalise_eq_allMeant_iff, Choice.allMeant_normalise]
  simp

/-! ### Stars from one to five -/

/-- Parts whose number of stars is a choice; the first choices are labelled one star up. -/
def ratedParts : Object :=
  { id := "parts", schema := "shop", table := "Parts", view := none, primaryKey := "uuid"
    fields :=
      [{ id := "00000000-0000-4000-8000-000000000001", column := "stars", schema := none
         table := none, multilingual := false, relation := none, default := none
         choices := [⟨"1", "2"⟩, ⟨"2", "3"⟩, ⟨"3", "best"⟩] }]
    condition := none }

def starsRule (value : Json) : Rule :=
  ⟨"00000000-0000-4000-8000-000000000001", .isIn, value⟩

theorem compile_choices_iff_stars :
    let value : Json := .array [.string "best", .string "1", .ofNat 2]
    let choices : List Choice := [⟨"1", "2"⟩, ⟨"2", "3"⟩, ⟨"3", "best"⟩]
    let column : Column := .physical (some "shop") (some "Parts") "stars"
    let stars : Located := ⟨starsRule value |>.key, "shop", "Parts", "stars", false, none, choices⟩
    Text.isUuid (starsRule value).key ∧ ratedParts.field (starsRule value).key = .ok stars ∧
      (starsRule value).operator ≠ .haveNoRelation ∧ stars.choices ≠ [] ∧
      stars.columnOf ratedParts {} = .ok column ∧
      ∃ compiled, (starsRule value).compile ratedParts {} = .ok (.rule column .isIn compiled) ∧
        (compiled = Choice.allMeant choices value ↔
          ∀ v ∈ value.listed, ¬ Choice.OvertakenValue choices v) ∧
        (Rule.compile ratedParts {} (starsRule compiled) = .ok (.rule column .isIn compiled) ↔
          ∀ v ∈ compiled.listed, ¬ Choice.OvertakenValue choices v) := by
  intro value choices column stars
  have hkey : Text.isUuid (starsRule value).key := by decide
  have hfield : ratedParts.field (starsRule value).key = .ok stars := rfl
  exact ⟨hkey, hfield, by decide, by decide, rfl,
    compile_choices_iff hkey hfield (by decide) (by decide) rfl⟩

/-- **An id is taken for a text.** Two stars are an id, and compile to one star, which is labelled
as two; three stars compile to two and these, compiled again, to one. -/
theorem id_taken_for_text :
    let column : Column := .physical (some "shop") (some "Parts") "stars"
    (∃ f, ratedParts.field (starsRule .null).key = .ok f ∧ ∃ c ∈ f.choices, c.id = "2") ∧
      (starsRule (.string "2")).compile ratedParts {} =
        .ok (.rule column .isIn (.string "1")) ∧
      (starsRule (.string "3")).compile ratedParts {} =
        .ok (.rule column .isIn (.string "2")) := by
  exact ⟨⟨_, rfl, ⟨"2", "3"⟩, by decide, rfl⟩, rfl, rfl⟩

end Fieldwork
