import Fieldwork.Proofs.Sql.Meaning
import Fieldwork.Store.Select

/-!
# Missing values in SQL and in memory

A test that a rule is written as is evaluated in the three values of SQL: a comparison with NULL on
either side is unknown, and a list is compared item by item. The storage in memory decides the same
rule in two values. It asks first whether the column has a value, and not whether the operand has
one.

* `Test.value`: the value of a test, for given values of its expressions.
* `rule_agrees_iff`: **the storage in memory accepts a row exactly when the test of the rule holds
  in SQL**, but for the departures that `Operator.Departs` lists. All of them are comparisons with
  null or with no values at all.
* `unequal_to_null`: a value that is unequal to null, for memory alone.
-/

namespace Fieldwork

open Sql

/-! ## Values of tests -/

namespace Truth

/-- A truth that is known. -/
def ofBool : Bool → Truth
  | true => .yes
  | false => .no

@[simp] theorem ofBool_eq_yes (b : Bool) : ofBool b = .yes ↔ b = true := by
  cases b <;> simp [ofBool]

/-- An OR is true when one of its sides is. -/
theorem join_or_eq_yes (a b : Truth) : join .or a b = .yes ↔ a = .yes ∨ b = .yes := by
  cases a <;> cases b <;> simp [join]

/-- An AND is true when both of its sides are. -/
theorem join_and_eq_yes (a b : Truth) : join .and a b = .yes ↔ a = .yes ∧ b = .yes := by
  cases a <;> cases b <;> simp [join]

/-- One true value is enough for an OR. -/
theorem joinAll_or_eq_yes (ts : List Truth) : joinAll .or ts = .yes ↔ .yes ∈ ts := by
  induction ts with
  | nil => simp [joinAll, unit]
  | cons t ts ih => rw [joinAll, join_or_eq_yes, ih, List.mem_cons, eq_comm]

/-- An AND takes true values only. -/
theorem joinAll_and_eq_yes (ts : List Truth) : joinAll .and ts = .yes ↔ ∀ t ∈ ts, t = .yes := by
  induction ts with
  | nil => simp [joinAll, unit]
  | cons t ts ih => rw [joinAll, join_and_eq_yes, ih, List.forall_mem_cons]

end Truth

namespace Sql

/-- What a test is evaluated against. -/
structure Reading where
  /-- The value of an expression, none for NULL. -/
  value : Scalar → Option Json
  /-- Whether a value matches a pattern. -/
  like : Json → Json → Bool
  /-- Whether a value is missing from a column of a table. -/
  unlinked : Option Json → String → List String → Truth

/-- The value of a literal, if it is not null. -/
def Literal.value? : Literal → Option Json
  | .null => none
  | .bool b => some (.bool b)
  | .number n => some (.number n)
  | .text s => some (.string s)

/-- Values that are there are compared as they are in memory. -/
def Comparison.holds (like : Json → Json → Bool) : Comparison → Json → Json → Bool
  | .equal, a, b => a.looselyEqual b
  | .notEqual, a, b => !a.looselyEqual b
  | .less, a, b => a.order b == .lt
  | .greater, a, b => a.order b == .gt
  | .lessOrEqual, a, b => a.order b != .gt
  | .greaterOrEqual, a, b => a.order b != .lt
  | .like, a, b => like a b
  | .notLike, a, b => !like a b

/-- A comparison with NULL on either side is unknown. -/
def compared (holds : Json → Json → Bool) : Option Json → Option Json → Truth
  | some a, some b => .ofBool (holds a b)
  | _, _ => .unknown

/-- A value is in a list if it equals one of the items, and not in it if it is unequal to all. -/
def Test.value (reading : Reading) : Test → Truth
  | .truth b => .ofBool b
  | .compare operator left right =>
    compared (operator.holds reading.like) (reading.value left) right.value?
  | .isNull negated operand => .ofBool ((reading.value operand).isNone != negated)
  | .among false operand values =>
    Truth.joinAll .or (values.map fun l =>
      compared (Comparison.equal.holds reading.like) (reading.value operand) l.value?)
  | .among true operand values =>
    Truth.joinAll .and (values.map fun l =>
      compared (Comparison.notEqual.holds reading.like) (reading.value operand) l.value?)
  | .unlinked operand column table => reading.unlinked (reading.value operand) column table
  | .connect glue left right => Truth.join glue (left.value reading) (right.value reading)

end Sql

/-! ## Operands -/

namespace Json

/-- A list or an object stands in SQL as its JSON text, and texts are compared in lower case. -/
def Stands : Json → Prop
  | .array items => Text.lowercase (array items).text = (array items).text
  | .object members => Text.lowercase (object members).text = (object members).text
  | _ => True

theorem eq_null_of_isNull {v : Json} (h : v.isNull = true) : v = .null := by
  cases v <;> simp_all [isNull]

/-- Only what compares as the word null equals it loosely. -/
theorem looselyEqual_null (v : Json) : v.looselyEqual .null = (v.comparable == "null") := by
  cases v <;> rfl

/-- What an operand stands for compares as the operand does. -/
theorem literal_of_stands {operand : Json} (h : operand.Stands) (hnull : operand.isNull = false) :
    ∃ w, (Literal.ofJson operand).value? = some w ∧
      ∀ v : Json, v.looselyEqual w = v.looselyEqual operand ∧ v.order w = v.order operand := by
  have htext : ∀ {u : Json}, Text.lowercase u.text = u.text →
      (Json.string u.text).comparable = u.text := fun h => h
  cases operand with
  | null => cases hnull
  | bool b => exact ⟨.bool b, rfl, fun _ => ⟨rfl, rfl⟩⟩
  | number n => exact ⟨.number n, rfl, fun _ => ⟨rfl, rfl⟩⟩
  | string s => exact ⟨.string s, rfl, fun _ => ⟨rfl, rfl⟩⟩
  | array items =>
    refine ⟨.string (array items).text, rfl, fun v => ?_⟩
    cases v <;> simp only [looselyEqual, order, htext h] <;> exact ⟨rfl, rfl⟩
  | object members =>
    refine ⟨.string (object members).text, rfl, fun v => ?_⟩
    cases v <;> simp only [looselyEqual, order, htext h] <;> exact ⟨rfl, rfl⟩

/-! ### Empty texts -/

theorem text_ne_empty (v : Json) : v.text ≠ "" := by
  have hchars : v.document.chars ≠ [] := by
    cases v with
    | null => simp [document, Document.chars]
    | bool b => cases b <;> simp [document, Document.chars]
    | number n =>
      cases n with
      | integer n =>
        simp only [document, Document.chars, Document.numberText, Decimal.integerText]
        split <;> simp [Decimal.digitsText, Nat.toDigits_ne_nil]
      | real x => exact Decimal.jsonLayout.text_ne_nil x
    | string s => simp [document, Document.chars, Document.quoted]
    | array items => simp [document, Document.chars]
    | object members => simp [document, Document.chars]
  intro h
  exact hchars (String.ofList_eq_empty_iff.mp h)

theorem lowercase_eq_empty (s : String) : Text.lowercase s = "" ↔ s = "" := by
  constructor
  · intro h
    have hlowered : Text.lowerFrom [] s.toList = [] := String.ofList_eq_empty_iff.mp h
    cases hs : s.toList with
    | nil => exact String.toList_eq_nil_iff.mp hs
    | cons c cs =>
      rw [hs] at hlowered
      unfold Text.lowerFrom at hlowered
      dsimp only at hlowered
      split at hlowered
      · simp at hlowered
      · split at hlowered <;> simp at hlowered
  · rintro rfl
    rfl

/-- Only the empty text compares as the empty text. -/
theorem looselyEqual_empty (v : Json) : v.looselyEqual (.string "") = (v == .string "") := by
  have hempty : (Json.string "").comparable = "" := rfl
  cases v with
  | string s =>
    have hsame : (Json.string s == .string "") = (s == "") := rfl
    rw [looselyEqual, hempty, hsame, comparable]
    rw [Bool.eq_iff_iff, beq_iff_eq, beq_iff_eq]
    exact lowercase_eq_empty s
    all_goals simp
  | _ => exact beq_eq_false_iff_ne.mpr (text_ne_empty _)

end Json

namespace Operator

/-- The operators that are written as a pattern. -/
def isPattern : Operator → Bool
  | .contains | .notContains | .beginsWith | .endsWith => true
  | _ => false

/-- The values that a rule compares its column with, as they are given. -/
def compares (operator : Operator) (operand : Json) : List Json :=
  match operator with
  | .equals | .notEqual | .less | .greater | .lessOrEqual | .greaterOrEqual => [operand]
  | .isIn | .isNotIn => operand.listed
  | _ => []

/-- Where the storage in memory does not follow SQL. A column without a value is never outside of
a list, not even of one without items. Null as an operand is the text `null` for equality, and less
than every value for order. -/
inductive Departs : Operator → Option Json → Json → Prop
  | notAmongNone {operand : Json} : operand.listed = [] → Departs .isNotIn none operand
  | equals {v : Json} : v.comparable = "null" → Departs .equals (some v) .null
  | notEqual {v : Json} : v.comparable ≠ "null" → Departs .notEqual (some v) .null
  | greater {v : Json} : Departs .greater (some v) .null
  | greaterOrEqual {v : Json} : Departs .greaterOrEqual (some v) .null
  | among {v operand : Json} : .null ∈ operand.listed → v.comparable = "null" →
      (∀ item ∈ operand.listed, item.isNull = false → v.looselyEqual item = false) →
      Departs .isIn (some v) operand
  | notAmong {v operand : Json} : .null ∈ operand.listed →
      (∀ item ∈ operand.listed, v.looselyEqual item = false) → Departs .isNotIn (some v) operand

end Operator

/-! ## Rules -/

namespace Sql

variable (reading : Reading)

theorem compared_none_right (holds : Json → Json → Bool) (a : Option Json) :
    compared holds a none = .unknown := by
  cases a <;> rfl

def Comparison.isPattern : Comparison → Bool
  | .like | .notLike => true
  | _ => false

/-- A literal is compared as the value it was made from, unless that is null. -/
theorem compared_literal {c : Comparison} (hc : c.isPattern = false) (v : Json) {operand : Json}
    (h : operand.Stands) :
    compared (c.holds reading.like) (some v) (Literal.ofJson operand).value? = .yes ↔
      operand.isNull = false ∧ c.holds reading.like v operand = true := by
  by_cases hnull : operand.isNull = true
  · obtain rfl := Json.eq_null_of_isNull hnull
    rw [Literal.ofJson, Literal.value?, compared_none_right]
    simp [Json.isNull]
  · have hpresent : operand.isNull = false := Bool.eq_false_iff.mpr hnull
    obtain ⟨w, hw, hsame⟩ := Json.literal_of_stands h hpresent
    have hholds : c.holds reading.like v w = c.holds reading.like v operand := by
      cases c <;> simp_all [Comparison.holds, Comparison.isPattern]
    rw [hw, compared, Truth.ofBool_eq_yes, hholds]
    exact ⟨fun hyes => ⟨hpresent, hyes⟩, fun hand => hand.2⟩

end Sql

namespace Json

theorem present?_some {v : Json} (hv : v.isNull = false) : present? (some v) = some v := by
  cases v with
  | null => cases hv
  | _ => rfl

theorem columnOrder_some {v w : Json} (hv : v.isNull = false) (hw : w.isNull = false) :
    columnOrder (some v) (some w) = v.order w := by
  rw [columnOrder, present?_some hv, present?_some hw]

/-- Any value comes behind null. -/
theorem columnOrder_null {v : Json} (hv : v.isNull = false) :
    columnOrder (some v) (some .null) = .gt := by
  rw [columnOrder, present?_some hv]
  rfl

theorem isNull_of_present? {a : Option Json} {v : Json} (h : present? a = some v) :
    v.isNull = false := by
  match a with
  | some .null => cases h
  | none => cases h
  | some (.bool b) | some (.number n) | some (.string s) | some (.array items)
  | some (.object members) =>
    cases h
    rfl

end Json

namespace Operator

variable {reading : Reading} {operator : Operator} {e : Scalar} {v operand : Json}

/-- Without a value the column satisfies in SQL what it satisfies in memory, and is outside of a
list without items besides. -/
theorem value_of_none (hpattern : operator.isPattern = false) (he : reading.value e = none) :
    (operator.test e operand).value reading = .yes ↔
      operator.acceptsAbsence = true ∨ operator = .isNotIn ∧ operand.listed = [] := by
  cases operator with
  | contains | notContains | beginsWith | endsWith => cases hpattern
  | isIn =>
    simp [test, Test.value, acceptsAbsence, literalList_eq, Truth.joinAll_or_eq_yes, he, compared]
  | isNotIn =>
    simp [test, Test.value, acceptsAbsence, literalList_eq, Truth.joinAll_and_eq_yes, he, compared,
      List.eq_nil_iff_forall_not_mem]
  | _ => simp [test, Test.value, acceptsAbsence, he, compared, Truth.join_or_eq_yes,
      Truth.join_and_eq_yes]

/-- **A comparison agrees with its test unless it departs**: with null as its operand it is accepted
in memory and unknown in the text. -/
theorem compare_agrees_iff {c : Comparison} (hc : c.isPattern = false)
    (he : reading.value e = some v) (hstands : operand.Stands)
    (htest : operator.test e operand = .compare c e (.ofJson operand))
    (haccepts : operand.isNull = false →
      operator.accepts v operand = c.holds reading.like v operand)
    (hdeparts : operator.Departs (some v) operand ↔
      operand = .null ∧ operator.accepts v .null = true) :
    (operator.accepts v operand = true ↔ (operator.test e operand).value reading = .yes) ↔
      ¬ operator.Departs (some v) operand := by
  rw [htest, Test.value, he, compared_literal reading hc v hstands, hdeparts]
  by_cases hnull : operand.isNull = true
  · obtain rfl := Json.eq_null_of_isNull hnull
    simp [Json.isNull]
  · have hpresent : operand.isNull = false := Bool.eq_false_iff.mpr hnull
    have hne : operand ≠ .null := by
      rintro rfl
      exact hnull rfl
    rw [haccepts hpresent]
    simp [hpresent, hne]

/-- Null as an operand is less than every value that is there. -/
theorem order_agrees_iff {c : Comparison} (hc : c.isPattern = false)
    (he : reading.value e = some v) (hv : v.isNull = false)
    (hstands : ∀ item ∈ [operand], item.Stands) (accepted : Ordering → Bool)
    (htest : operator.test e operand = .compare c e (.ofJson operand))
    (haccepts : ∀ w, operator.accepts v w = accepted (Json.columnOrder (some v) (some w)))
    (hholds : ∀ w, c.holds reading.like v w = accepted (v.order w))
    (hdeparts : operator.Departs (some v) operand ↔ operand = .null ∧ accepted .gt = true) :
    (operator.accepts v operand = true ↔ (operator.test e operand).value reading = .yes) ↔
      ¬ operator.Departs (some v) operand := by
  refine compare_agrees_iff hc he (hstands operand (by simp)) htest (fun hw => ?_) ?_
  · rw [haccepts, hholds, Json.columnOrder_some hv hw]
  · rw [hdeparts, haccepts, Json.columnOrder_null hv]

/-- A value is in a list if an item that is there equals it. -/
theorem value_isIn (he : reading.value e = some v)
    (hstands : ∀ item ∈ operand.listed, item.Stands) :
    (isIn.test e operand).value reading = .yes ↔
      ∃ item ∈ operand.listed, item.isNull = false ∧ v.looselyEqual item = true := by
  rw [test, Test.value, Truth.joinAll_or_eq_yes, literalList_eq, List.map_map, he]
  refine List.mem_map.trans (exists_congr fun item => and_congr_right fun hmem => ?_)
  exact compared_literal reading rfl v (hstands item hmem)

/-- A value is outside of a list if every item is there and differs from it. -/
theorem value_isNotIn (he : reading.value e = some v)
    (hstands : ∀ item ∈ operand.listed, item.Stands) :
    (isNotIn.test e operand).value reading = .yes ↔
      ∀ item ∈ operand.listed, item.isNull = false ∧ v.looselyEqual item = false := by
  rw [test, Test.value, Truth.joinAll_and_eq_yes, literalList_eq, List.map_map, he,
    List.forall_mem_map]
  refine forall₂_congr fun item hmem => ?_
  refine (compared_literal reading rfl v (hstands item hmem)).trans ?_
  rw [Comparison.holds, Bool.not_eq_true']

/-- IN agrees with its test, unless a null is all in the list that the value equals. -/
theorem isIn_agrees_iff (he : reading.value e = some v)
    (hstands : ∀ item ∈ operand.listed, item.Stands) :
    (isIn.accepts v operand = true ↔ (isIn.test e operand).value reading = .yes) ↔
      ¬ isIn.Departs (some v) operand := by
  rw [value_isIn he hstands, accepts, List.any_eq_true]
  constructor
  · rintro hagree hdeparts
    cases hdeparts with
    | among hnull htext hothers =>
      have heq : v.looselyEqual .null = true := by rw [Json.looselyEqual_null, htext]; rfl
      obtain ⟨item, hmem, hpresent, hitem⟩ := hagree.mp ⟨.null, hnull, heq⟩
      rw [hothers item hmem hpresent] at hitem
      cases hitem
  · intro hdeparts
    constructor
    · rintro ⟨item, hmem, heq⟩
      by_contra hnone
      -- then no item but null equals the value, and null is the item that does
      have hothers : ∀ other ∈ operand.listed, other.isNull = false →
          v.looselyEqual other = false := by
        intro other hother hpresent
        exact Bool.eq_false_iff.mpr fun heq => hnone ⟨other, hother, hpresent, heq⟩
      have hnull : item.isNull = true := by
        by_contra hpresent
        rw [hothers item hmem (Bool.eq_false_iff.mpr hpresent)] at heq
        cases heq
      obtain rfl := Json.eq_null_of_isNull hnull
      rw [Json.looselyEqual_null, beq_iff_eq] at heq
      exact hdeparts (.among hmem heq hothers)
    · rintro ⟨item, hmem, -, heq⟩
      exact ⟨item, hmem, heq⟩

/-- NOT IN agrees with its test, unless there is a null in the list and nothing that the value
equals. -/
theorem isNotIn_agrees_iff (he : reading.value e = some v)
    (hstands : ∀ item ∈ operand.listed, item.Stands) :
    (isNotIn.accepts v operand = true ↔ (isNotIn.test e operand).value reading = .yes) ↔
      ¬ isNotIn.Departs (some v) operand := by
  rw [value_isNotIn he hstands, accepts, Bool.not_eq_true', List.any_eq_false]
  constructor
  · intro hagree hdeparts
    cases hdeparts with
    | notAmong hnull hothers =>
      have hpresent := hagree.mp (fun item hmem => Bool.eq_false_iff.mp (hothers item hmem))
      cases (hpresent .null hnull).1
  · intro hdeparts
    constructor
    · intro hall item hmem
      have hothers : ∀ other ∈ operand.listed, v.looselyEqual other = false :=
        fun other hother => Bool.eq_false_iff.mpr (hall other hother)
      refine ⟨Bool.eq_false_iff.mpr fun hnull => ?_, hothers item hmem⟩
      obtain rfl := Json.eq_null_of_isNull hnull
      exact hdeparts (.notAmong hmem hothers)
    · intro hall item hmem
      exact Bool.eq_false_iff.mp (hall item hmem).2

/-- A rule on a value that is there. -/
theorem accepts_agrees_iff (hpattern : operator.isPattern = false) (he : reading.value e = some v)
    (hv : v.isNull = false) (hstands : ∀ item ∈ operator.compares operand, item.Stands) :
    (operator.accepts v operand = true ↔ (operator.test e operand).value reading = .yes) ↔
      ¬ operator.Departs (some v) operand := by
  have hthere : (reading.value e).isNone = false := by rw [he]; rfl
  have hempty : compared (Comparison.equal.holds reading.like) (some v) (Literal.text "").value? =
      .ofBool (v == .string "") := congrArg Truth.ofBool (Json.looselyEqual_empty v)
  have hfilled : compared (Comparison.notEqual.holds reading.like) (some v)
      (Literal.text "").value? = .ofBool (!(v == .string "")) :=
    congrArg (fun b => Truth.ofBool (!b)) (Json.looselyEqual_empty v)
  cases operator with
  | contains | notContains | beginsWith | endsWith => cases hpattern
  | isIn => exact isIn_agrees_iff he hstands
  | isNotIn => exact isNotIn_agrees_iff he hstands
  | equals =>
    refine compare_agrees_iff (c := .equal) rfl he (hstands operand (by simp [compares])) rfl
      (fun _ => rfl) ⟨?_, ?_⟩
    · rintro ⟨⟩
      simp [accepts, Json.looselyEqual_null, *]
    · rintro ⟨rfl, hnull⟩
      rw [accepts, Json.looselyEqual_null, beq_iff_eq] at hnull
      exact .equals hnull
  | notEqual =>
    refine compare_agrees_iff (c := .notEqual) rfl he (hstands operand (by simp [compares])) rfl
      (fun _ => rfl) ⟨?_, ?_⟩
    · rintro ⟨⟩
      simp [accepts, Json.looselyEqual_null, *]
    · rintro ⟨rfl, hnull⟩
      rw [accepts, Json.looselyEqual_null, Bool.not_eq_true', beq_eq_false_iff_ne] at hnull
      exact .notEqual hnull
  | less =>
    refine order_agrees_iff (c := .less) rfl he hv hstands (· == .lt) rfl (fun _ => rfl)
      (fun _ => rfl) ⟨?_, ?_⟩
    · rintro ⟨⟩
    · rintro ⟨-, ⟨⟩⟩
  | greater =>
    refine order_agrees_iff (c := .greater) rfl he hv hstands (· == .gt) rfl (fun _ => rfl)
      (fun _ => rfl) ⟨?_, ?_⟩
    · rintro ⟨⟩
      exact ⟨rfl, rfl⟩
    · rintro ⟨rfl, -⟩
      exact .greater
  | lessOrEqual =>
    refine order_agrees_iff (c := .lessOrEqual) rfl he hv hstands (· != .gt) rfl (fun _ => rfl)
      (fun _ => rfl) ⟨?_, ?_⟩
    · rintro ⟨⟩
    · rintro ⟨-, ⟨⟩⟩
  | greaterOrEqual =>
    refine order_agrees_iff (c := .greaterOrEqual) rfl he hv hstands (· != .lt) rfl (fun _ => rfl)
      (fun _ => rfl) ⟨?_, ?_⟩
    · rintro ⟨⟩
      exact ⟨rfl, rfl⟩
    · rintro ⟨rfl, -⟩
      exact .greaterOrEqual
  | isNull | haveNoRelation =>
    refine iff_of_true ?_ (by rintro ⟨⟩)
    simp [accepts, test, Test.value, hthere]
  | isNotNull =>
    refine iff_of_true ?_ (by rintro ⟨⟩)
    simp [accepts, test, Test.value, hthere]
  | isEmpty =>
    refine iff_of_true ?_ (by rintro ⟨⟩)
    rw [test, Test.value, Test.value, Test.value, Truth.join_or_eq_yes, hthere, he, hempty]
    simp [accepts]
  | isNotEmpty =>
    refine iff_of_true ?_ (by rintro ⟨⟩)
    rw [test, Test.value, Test.value, Test.value, Truth.join_and_eq_yes, hthere, he, hfilled]
    simp [accepts]

/-- A rule on a column without a value. -/
theorem acceptsAbsence_agrees_iff (hpattern : operator.isPattern = false)
    (he : reading.value e = none) :
    (operator.acceptsAbsence = true ↔ (operator.test e operand).value reading = .yes) ↔
      ¬ operator.Departs none operand := by
  rw [value_of_none hpattern he]
  have hdeparts : operator.Departs none operand ↔ operator = .isNotIn ∧ operand.listed = [] := by
    constructor
    · rintro ⟨hnil⟩
      exact ⟨rfl, hnil⟩
    · rintro ⟨rfl, hnil⟩
      exact .notAmongNone hnil
  rw [hdeparts]
  constructor
  · rintro hagree ⟨rfl, hnil⟩
    cases hagree.mpr (Or.inr ⟨rfl, hnil⟩)
  · intro hnot
    simp [hnot]

end Operator

/-- **A row is accepted in memory exactly when the test of the rule holds in SQL**, for the rules
that match no pattern, unless the rule departs from SQL on the value of the column. -/
theorem rule_agrees_iff {reading : Reading} {tables : Tables} {r : Row} {column : Column}
    {operator : Operator} {operand : Json} (hpattern : operator.isPattern = false)
    (hcolumn : reading.value column.scalar = Json.present? (column.value? r))
    (hstands : ∀ item ∈ operator.compares operand, item.Stands) :
    (Predicate.holds tables r (.rule column operator operand) = true ↔
        (Predicate.rule column operator operand).test.value reading = .yes) ↔
      ¬ operator.Departs (Json.present? (column.value? r)) operand := by
  rw [Predicate.test, Predicate.holds]
  cases hx : Json.present? (column.value? r) with
  | none => exact Operator.acceptsAbsence_agrees_iff hpattern (hcolumn.trans hx)
  | some v =>
    exact Operator.accepts_agrees_iff hpattern (hcolumn.trans hx) (Json.isNull_of_present? hx)
      hstands

/-! ### Parts of size five -/

def sizeColumn : Column :=
  .physical none none "size"

def sizeFive : Row :=
  [("size", .ofNat 5)]

/-- Every expression has the size as its value. -/
def readFive : Reading :=
  { value := fun _ => some (.ofNat 5), like := fun _ _ => false, unlinked := fun _ _ _ => .unknown }

/-- A list that holds null beside the size. -/
theorem rule_agrees_iff_size :
    let operand : Json := .array [.null, .ofNat 5]
    Operator.isIn.isPattern = false ∧
    readFive.value sizeColumn.scalar = Json.present? (sizeColumn.value? sizeFive) ∧
    (∀ item ∈ Operator.isIn.compares operand, item.Stands) ∧
    ((Predicate.holds [] sizeFive (.rule sizeColumn .isIn operand) = true ↔
        (Predicate.rule sizeColumn .isIn operand).test.value readFive = .yes) ↔
      ¬ Operator.isIn.Departs (Json.present? (sizeColumn.value? sizeFive)) operand) := by
  intro operand
  have hstands : ∀ item ∈ Operator.isIn.compares operand, item.Stands := by
    intro item hmem
    rcases List.mem_pair.mp hmem with rfl | rfl <;> trivial
  exact ⟨rfl, rfl, hstands, rule_agrees_iff rfl rfl hstands⟩

/-- A size is unequal to null in memory; in SQL that is unknown. -/
theorem unequal_to_null :
    readFive.value sizeColumn.scalar = Json.present? (sizeColumn.value? sizeFive) ∧
    Predicate.holds [] sizeFive (.rule sizeColumn .notEqual .null) = true ∧
    (Predicate.rule sizeColumn .notEqual .null).test.value readFive = .unknown := by
  exact ⟨rfl, by decide, rfl⟩

end Fieldwork
