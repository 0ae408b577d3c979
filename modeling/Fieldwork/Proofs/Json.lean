import Fieldwork.Json.Value

/-!
# Values that are the same

* `same_refl`: every value is the same as itself, those with numbers in them included.
* `same_comm`, `same_trans`: being the same is an equivalence, though not equality.
-/

namespace Fieldwork

/-- A number is the same as itself: reals are compared by a whole number, not as floats. -/
theorem Number.same_refl (n : Number) : n.same n = true := by
  cases n with
  | integer n => exact beq_self_eq_true n
  | real x => exact beq_self_eq_true (Decimal.ulps x)

/-- An integer and a real are never the same, and two of a kind are compared by an equality. -/
theorem Number.same_comm (m n : Number) : m.same n = n.same m := by
  cases m with
  | integer a =>
    cases n with
    | integer b => exact Bool.beq_comm
    | real y => rfl
  | real x =>
    cases n with
    | integer b => rfl
    | real y => exact Bool.beq_comm

/-- Numbers that are the same are of one kind. -/
theorem Number.same_trans {k m n : Number} (h : k.same m = true) (h' : m.same n = true) :
    k.same n = true := by
  cases k with
  | integer a =>
    cases m with
    | integer b =>
      cases n with
      | integer c => exact beq_iff_eq.mpr ((beq_iff_eq.mp h).trans (beq_iff_eq.mp h'))
      | real z => cases h'
    | real y => cases h
  | real x =>
    cases m with
    | integer b => cases h
    | real y =>
      cases n with
      | integer c => cases h'
      | real z => exact beq_iff_eq.mpr ((beq_iff_eq.mp h).trans (beq_iff_eq.mp h'))

namespace Json

mutual

/-- **Every value is the same as itself.** -/
theorem same_refl : (v : Json) → same v v = true
  | .null => rfl
  | .bool b => beq_self_eq_true b
  | .number n => n.same_refl
  | .string s => beq_self_eq_true s
  | .array items => sameItems_refl items
  | .object members => sameMembers_refl members

/-- A list is the same as itself, item by item. -/
theorem sameItems_refl : (items : List Json) → sameItems items items = true
  | [] => rfl
  | v :: vs => by rw [sameItems, same_refl v, sameItems_refl vs]; rfl

/-- An object is the same as itself, name by name and value by value. -/
theorem sameMembers_refl : (members : List (String × Json)) → sameMembers members members = true
  | [] => rfl
  | (n, v) :: rest => by
    rw [sameMembers, same_refl v, sameMembers_refl rest, beq_self_eq_true n]
    rfl

end

mutual

/-- **Being the same does not depend on the order of the two values.** -/
theorem same_comm : (a b : Json) → same a b = same b a
  | .null, b => by cases b <;> rfl
  | .bool _, b => by
    cases b with
    | bool => exact Bool.beq_comm
    | _ => rfl
  | .number m, b => by
    cases b with
    | number n => exact m.same_comm n
    | _ => rfl
  | .string _, b => by
    cases b with
    | string => exact Bool.beq_comm
    | _ => rfl
  | .array as, b => by
    cases b with
    | array bs => exact sameItems_comm as bs
    | _ => rfl
  | .object as, b => by
    cases b with
    | object bs => exact sameMembers_comm as bs
    | _ => rfl

/-- Lists of different lengths are not the same either way round. -/
theorem sameItems_comm : (as bs : List Json) → sameItems as bs = sameItems bs as
  | [], bs => by cases bs <;> rfl
  | a :: as, bs => by
    cases bs with
    | nil => rfl
    | cons b bs => rw [sameItems, sameItems, same_comm a b, sameItems_comm as bs]

theorem sameMembers_comm : (as bs : List (String × Json)) → sameMembers as bs = sameMembers bs as
  | [], bs => by cases bs <;> rfl
  | (n, a) :: as, bs => by
    cases bs with
    | nil => rfl
    | cons b bs =>
      rw [sameMembers, sameMembers, same_comm a b.2, sameMembers_comm as bs, Bool.beq_comm]

end

mutual

/-- **Values that are the same as a third are the same**, by recursion on the first. -/
theorem same_trans : (a : Json) → {b c : Json} → same a b = true → same b c = true →
    same a c = true
  | .null, b, c, h, h' => by
    cases b with
    | null => exact h'
    | _ => cases h
  | .bool _, b, c, h, h' => by
    cases b with
    | bool =>
      cases c with
      | bool => exact beq_iff_eq.mpr ((beq_iff_eq.mp h).trans (beq_iff_eq.mp h'))
      | _ => cases h'
    | _ => cases h
  | .number m, b, c, h, h' => by
    cases b with
    | number =>
      cases c with
      | number => exact Number.same_trans h h'
      | _ => cases h'
    | _ => cases h
  | .string _, b, c, h, h' => by
    cases b with
    | string =>
      cases c with
      | string => exact beq_iff_eq.mpr ((beq_iff_eq.mp h).trans (beq_iff_eq.mp h'))
      | _ => cases h'
    | _ => cases h
  | .array as, b, c, h, h' => by
    cases b with
    | array =>
      cases c with
      | array => exact sameItems_trans as h h'
      | _ => cases h'
    | _ => cases h
  | .object as, b, c, h, h' => by
    cases b with
    | object =>
      cases c with
      | object => exact sameMembers_trans as h h'
      | _ => cases h'
    | _ => cases h

theorem sameItems_trans : (as : List Json) → {bs cs : List Json} → sameItems as bs = true →
    sameItems bs cs = true → sameItems as cs = true
  | [], bs, cs, h, h' => by
    cases bs with
    | nil => exact h'
    | cons b bs => cases h
  | a :: as, bs, cs, h, h' => by
    cases bs with
    | nil => cases h
    | cons b bs =>
      cases cs with
      | nil => cases h'
      | cons c cs =>
        obtain ⟨hfirst, hrest⟩ := (Bool.and_eq_true _ _).mp h
        obtain ⟨hfirst', hrest'⟩ := (Bool.and_eq_true _ _).mp h'
        exact (Bool.and_eq_true _ _).mpr
          ⟨same_trans a hfirst hfirst', sameItems_trans as hrest hrest'⟩

/-- The members of an object have the same names in the same order. -/
theorem sameMembers_trans : (as : List (String × Json)) → {bs cs : List (String × Json)} →
    sameMembers as bs = true → sameMembers bs cs = true → sameMembers as cs = true
  | [], bs, cs, h, h' => by
    cases bs with
    | nil => exact h'
    | cons b bs => cases h
  | (n, a) :: as, bs, cs, h, h' => by
    cases bs with
    | nil => cases h
    | cons b bs =>
      cases cs with
      | nil => cases h'
      | cons c cs =>
        simp only [sameMembers, Bool.and_eq_true, beq_iff_eq] at h h' ⊢
        exact ⟨⟨h.1.1.trans h'.1.1, same_trans a h.1.2 h'.1.2⟩, sameMembers_trans as h.2 h'.2⟩

end

instance : EquivBEq Json where
  rfl := same_refl _
  symm := fun h => (same_comm _ _).trans h
  trans := fun h h' => same_trans _ h h'

end Json

end Fieldwork
