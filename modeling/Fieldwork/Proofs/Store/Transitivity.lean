import Fieldwork.Proofs.Confinement

/-!
# Sorts that put rows in order

The comparison of two rows is total, but not transitive on all rows. Sizes and texts put numbers in
orders of their own, and both show where a value that is no number stands between two numbers.

* `Json.transitiveOn_order_iff`: values are transitively ordered exactly when they are coherent,
  that is, when numbers with another value between them are ordered by size as by text.
* `exists_circle`: every sort by anything but codes of languages leads three rows in a circle.
* `sort_laws`: **a sort is transitive where the values of each of its columns are coherent**, and
  then the rows of every answer are in order; for one column this is exact.
* `equal_sizes_upset`: three rows found out of order, though there is an order for them.
-/

namespace Fieldwork

open Std

/-! ## Comparisons -/

section Comparison

variable {α : Type} {order : α → α → Ordering} {as : List α}

theorem transitiveOn_map {β : Type} (order : α → α → Ordering) (f : β → α) (bs : List β) :
    TransitiveOn (fun a b => order (f a) (f b)) bs ↔ TransitiveOn order (bs.map f) := by
  simp [TransitiveOn]

variable [OrientedCmp order]

theorem lt_of_not_isLE {a b : α} (h : ¬ (order a b).isLE) : order b a = .lt := by
  by_contra hne
  exact h (isLE_of_not_lt hne)

theorem isLE_swap_iff {a b : α} : (order a b).swap.isLE ↔ (order b a).isLE := by
  have hswap : order b a = (order a b).swap := OrientedCmp.eq_swap
  rw [hswap]

/-- A comparison is transitive if its opposite is. -/
theorem transitiveOn_swap_iff :
    TransitiveOn (fun a b => (order a b).swap) as ↔ TransitiveOn order as := by
  unfold TransitiveOn
  simp only [isLE_swap_iff]
  constructor
  · intro h a ha b hb c hc hab hbc
    exact h c hc b hb a ha hbc hab
  · intro h a ha b hb c hc hba hcb
    exact h c hc b hb a ha hcb hba

/-- **Two comparisons, one after the other**, are transitive where both are. -/
theorem TransitiveOn.then {next : α → α → Ordering} (h : TransitiveOn order as)
    (hnext : TransitiveOn next as) :
    TransitiveOn (fun a b => (order a b).then (next a b)) as := by
  intro a ha b hb c hc hab hbc
  simp only [Ordering.isLE_then_iff_and] at hab hbc ⊢
  have hac : (order a c).isLE := h a ha b hb c hc hab.1 hbc.1
  refine ⟨hac, or_iff_not_imp_left.mpr fun hlt => ?_⟩
  -- the outer two are equal in the first order, and so is the one between them
  have hca : (order c a).isLE := isLE_of_not_lt hlt
  have hba : (order b a).isLE := h b hb c hc a ha hbc.1 hca
  have hcb : (order c b).isLE := h c hc a ha b hb hca hab.1
  exact hnext a ha b hb c hc (hab.2.resolve_left (not_lt_of_isLE hba))
    (hbc.2.resolve_left (not_lt_of_isLE hcb))

/-- Two comparisons by which one value is not greater agree on it if they do so the other way. -/
theorem eq_of_isLE_of_isLE_iff {other : α → α → Ordering} [OrientedCmp other] {a b : α}
    (h : (order a b).isLE) (hother : (other a b).isLE)
    (hback : (order b a).isLE ↔ (other b a).isLE) : order a b = other a b := by
  by_cases hba : (order b a).isLE
  · rw [OrientedCmp.isLE_antisymm h hba, OrientedCmp.isLE_antisymm hother (hback.mp hba)]
  · rw [lt_of_not_isLE hba, lt_of_not_isLE (mt hback.mpr hba)]

/-- No comparison is transitive on three values that go in a circle. -/
theorem not_transitiveOn_of_circle {a b c : α} (hab : order a b = .lt) (hbc : order b c = .lt)
    (hca : order c a = .lt) : ¬ TransitiveOn order [a, b, c] := by
  intro h
  have hac : (order a c).isLE :=
    h a (by simp) b (by simp) c (by simp) (isLE_of_lt hab) (isLE_of_lt hbc)
  exact not_lt_of_isLE hac hca

end Comparison

/-! ## Values -/

namespace Json

/-- The order of two values by text, also of numbers. -/
def textOrder (a b : Json) : Ordering :=
  compareOn comparable a b

/-- Wherever a value that is no number stands between two others, these compare by text. -/
def Coherent (vs : List Json) : Prop :=
  ∀ a ∈ vs, ∀ b ∈ vs, ∀ v ∈ vs, v.number? = none → (a.order v).isLE → (v.order b).isLE →
    a.order b = a.textOrder b

instance (vs : List Json) : Decidable (Coherent vs) :=
  inferInstanceAs (Decidable (∀ a ∈ vs, ∀ b ∈ vs, ∀ v ∈ vs, v.number? = none →
    (a.order v).isLE → (v.order b).isLE → a.order b = a.textOrder b))

instance : TransCmp textOrder :=
  inferInstanceAs (TransCmp (compareOn comparable))

theorem order_of_number? {a b : Json} {x y : Number} (ha : a.number? = some x)
    (hb : b.number? = some y) : a.order b = compare x.size y.size := by
  cases a <;> cases ha
  cases b <;> cases hb
  rfl

theorem order_of_left {a : Json} (h : a.number? = none) (b : Json) :
    a.order b = a.textOrder b := by
  cases a with
  | number x => cases h
  | _ => rfl

theorem order_of_right {b : Json} (h : b.number? = none) (a : Json) :
    a.order b = a.textOrder b := by
  cases b with
  | number y => cases h
  | _ => cases a <;> rfl

/-- **Values are transitively ordered exactly when they are coherent.** -/
theorem transitiveOn_order_iff {vs : List Json} : TransitiveOn order vs ↔ Coherent vs := by
  constructor
  · intro h a ha b hb v hv hother hav hvb
    have hab : (a.order b).isLE := h a ha v hv b hb hav hvb
    have htext : (a.textOrder b).isLE := by
      rw [order_of_right hother] at hav
      rw [order_of_left hother] at hvb
      exact TransCmp.isLE_trans hav hvb
    -- neither order tells the two apart unless the other does
    have hback : (b.order a).isLE ↔ (b.textOrder a).isLE := by
      constructor
      · intro hba
        have hbv : (b.order v).isLE := h b hb a ha v hv hba hav
        have hva : (v.order a).isLE := h v hv b hb a ha hvb hba
        rw [order_of_right hother] at hbv
        rw [order_of_left hother] at hva
        exact TransCmp.isLE_trans hbv hva
      · intro hba
        rw [order_of_right hother] at hav
        rw [order_of_left hother] at hvb
        refine h b hb v hv a ha ?_ ?_
        · rw [order_of_right hother]
          exact TransCmp.isLE_trans hba hav
        · rw [order_of_left hother]
          exact TransCmp.isLE_trans hvb hba
    exact eq_of_isLE_of_isLE_iff hab htext hback
  · intro h a ha b hb c hc hab hbc
    by_contra hac
    have hca : c.order a = .lt := lt_of_not_isLE hac
    -- a value that is no number lets the two beside it compare by text, as it does itself
    cases hx : a.number? with
    | none =>
      have hcb := h c hc b hb a ha hx (isLE_of_lt hca) hab
      rw [order_of_left hx] at hab
      rw [order_of_right hx] at hca
      exact not_lt_of_isLE hbc (hcb.trans (TransCmp.lt_of_lt_of_isLE hca hab))
    | some x =>
      cases hy : b.number? with
      | none =>
        rw [h a ha c hc b hb hy hab hbc] at hac
        rw [order_of_right hy] at hab
        rw [order_of_left hy] at hbc
        exact hac (TransCmp.isLE_trans hab hbc)
      | some y =>
        cases hz : c.number? with
        | none =>
          have hba := h b hb a ha c hc hz hbc (isLE_of_lt hca)
          rw [order_of_right hz] at hbc
          rw [order_of_left hz] at hca
          exact not_lt_of_isLE hab (hba.trans (TransCmp.lt_of_isLE_of_lt hbc hca))
        | some z =>
          rw [order_of_number? hx hy] at hab
          rw [order_of_number? hy hz] at hbc
          rw [order_of_number? hx hz] at hac
          exact hac (TransOrd.isLE_trans hab hbc)

end Json

/-! ## Columns -/

namespace Column

/-- The values of a column that are there, row by row. -/
def valuesIn (c : Column) (rows : List Row) : List Json :=
  rows.filterMap fun r => Json.present? (c.value? r)

/-- The values of the column are coherent in these rows. -/
def Coherent (c : Column) (rows : List Row) : Prop :=
  Json.Coherent (c.valuesIn rows)

theorem mem_valuesIn {c : Column} {rows : List Row} {v : Json} :
    v ∈ c.valuesIn rows ↔ ∃ r ∈ rows, Json.present? (c.value? r) = some v :=
  List.mem_filterMap

end Column

/-- Values that are missing come first and upset no order. -/
theorem Json.transitiveOn_columnOrder_iff {vs : List (Option Json)} :
    TransitiveOn columnOrder vs ↔ TransitiveOn order (vs.filterMap present?) := by
  constructor
  · intro h a ha b hb c hc
    obtain ⟨x, hx, hax⟩ := List.mem_filterMap.mp ha
    obtain ⟨y, hy, hby⟩ := List.mem_filterMap.mp hb
    obtain ⟨z, hz, hcz⟩ := List.mem_filterMap.mp hc
    have hxyz := h x hx y hy z hz
    unfold columnOrder at hxyz
    rwa [hax, hby, hcz] at hxyz
  · intro h x hx y hy z hz
    unfold columnOrder
    cases hax : present? x with
    | none => cases present? z <;> simp
    | some a =>
      cases hby : present? y with
      | none => simp
      | some b =>
        cases hcz : present? z with
        | none => simp
        | some c =>
          exact h a (List.mem_filterMap.mpr ⟨x, hx, hax⟩) b (List.mem_filterMap.mpr ⟨y, hy, hby⟩) c
            (List.mem_filterMap.mpr ⟨z, hz, hcz⟩)

/-- **A sort by one column is transitive exactly on coherent values**, in either direction. -/
theorem SortTerm.transitiveOn_order_iff (term : SortTerm) (rows : List Row) :
    TransitiveOn term.order rows ↔ term.column.Coherent rows := by
  have hvalues : TransitiveOn Json.columnOrder (rows.map term.column.value?) ↔
      term.column.Coherent rows := by
    rw [Json.transitiveOn_columnOrder_iff, List.filterMap_map, Json.transitiveOn_order_iff]
    rfl
  rw [← hvalues]
  unfold SortTerm.order
  cases term.direction with
  | ascending => exact transitiveOn_map Json.columnOrder _ rows
  | descending =>
    exact (transitiveOn_map (fun x y => (Json.columnOrder x y).swap) _ rows).trans
      transitiveOn_swap_iff

instance (term : SortTerm) : OrientedCmp term.order where
  eq_swap := term.order_swap _ _

/-- **A sort is transitive where the values of each of its columns are coherent.** -/
theorem transitiveOn_rowOrder {terms : List SortTerm} {rows : List Row}
    (h : ∀ term ∈ terms, term.column.Coherent rows) : TransitiveOn (rowOrder terms) rows := by
  induction terms with
  | nil =>
    intro a _ b _ c _ _ _
    rfl
  | cons term rest ih =>
    have hterm : TransitiveOn term.order rows :=
      (term.transitiveOn_order_iff rows).mpr (h term (List.mem_cons_self ..))
    have hrest : TransitiveOn (rowOrder rest) rows :=
      ih fun other hother => h other (List.mem_cons_of_mem _ hother)
    exact hterm.then hrest

/-- The rows that an answer is read from are in order, if there is one for the stored rows. -/
theorem Plan.inOrder_origins {p : Plan} {tables : Tables} {stored : List Row}
    (h : TransitiveOn (rowOrder p.sort) stored) :
    InOrder (rowOrder p.sort) (p.origins tables stored) := by
  have hsorted : InOrder (rowOrder p.sort) (p.sorted (p.matched tables stored)) :=
    inOrder_sortByInsertion (h.subset (List.filter_sublist.subset))
  refine hsorted.sublist ?_
  unfold origins page
  cases p.limit with
  | none => exact List.drop_sublist _ _
  | some limit => exact (List.take_sublist _ _).trans (List.drop_sublist _ _)

/-! ## All rows -/

namespace Column

/-- The column is the code of a language, looked up among the translations in that language. -/
def IsCode (c : Column) : Prop :=
  ∃ payload language, c = .translated payload language "language_code"

def recordOf (language name : String) (v : Json) : Json :=
  .object (Record.insert name v [("language_code", .string language)])

/-- A row that holds the value in that column; a translation stands beside the code of its
language. -/
def rowOf (c : Column) (v : Json) : Row :=
  match c with
  | .physical _ _ name => [(name, v)]
  | .translated payload language name => [(payload.rowKey, .array [recordOf language name v])]

theorem get?_code_recordOf {name : String} (h : name ≠ "language_code") (language : String)
    (v : Json) : (recordOf language name v).get? "language_code" = some (.string language) :=
  Record.get?_insert_of_ne h.symm v _

theorem value?_rowOf {c : Column} (h : ¬ c.IsCode) (v : Json) : c.value? (c.rowOf v) = some v := by
  cases c with
  | physical schema table name => simp [value?, rowOf, Record.get?]
  | translated payload language name =>
    have hname : name ≠ "language_code" := by
      rintro rfl
      exact h ⟨payload, language, rfl⟩
    have htext : (recordOf language name v).get? name = some v := Record.get?_insert_self name v _
    simp [value?, rowOf, Payload.records?, Record.get?, Json.array?, get?_code_recordOf hname,
      Json.string?, htext]

/-- The value of a code is the code itself. -/
theorem value?_code {payload : Payload} {language : String} {r : Row} {v : Json}
    (h : (translated payload language "language_code").value? r = some v) :
    v = .string language := by
  obtain ⟨records, -, h⟩ := Option.bind_eq_some_iff.mp h
  obtain ⟨record, hrecord, hv⟩ := Option.bind_eq_some_iff.mp h
  have hcode := List.find?_some hrecord
  rw [hv] at hcode
  cases v <;> simp_all [Json.string?]

theorem coherent_of_isCode {c : Column} (h : c.IsCode) (rows : List Row) : c.Coherent rows := by
  obtain ⟨payload, language, rfl⟩ := h
  intro a ha b _ _ _ _ _ _
  obtain ⟨r, -, hr⟩ := mem_valuesIn.mp ha
  refine Json.order_of_left ?_ b
  cases hvalue : (translated payload language "language_code").value? r with
  | none => rw [hvalue] at hr; cases hr
  | some v =>
    rw [hvalue, value?_code hvalue] at hr
    cases hr
    rfl

/-- Two numbers and a text that go in a circle: 2 before 10 by size, 10 before `1x` and that before
2 by text. -/
def circle : List Json :=
  [.ofNat 2, .ofNat 10, .string "1x"]

theorem circle_columnOrder :
    Json.columnOrder (some (.ofNat 2)) (some (.ofNat 10)) = .lt ∧
      Json.columnOrder (some (.ofNat 10)) (some (.string "1x")) = .lt ∧
      Json.columnOrder (some (.string "1x")) (some (.ofNat 2)) = .lt := by
  decide +kernel

theorem records?_of_circle {v : Json} (h : v ∈ circle) (payload : Payload) (name : String) :
    payload.records? [(name, v)] = none := by
  have hnone : v.array? = none ∧ ∀ raw, v = .string raw → Json.ofText? raw = none := by
    have hraw : Json.ofText? "1x" = none := by decide +kernel
    simp only [circle, List.mem_cons, List.not_mem_nil, or_false] at h
    rcases h with rfl | rfl | rfl <;> simp [Json.ofNat, Json.array?, hraw]
  unfold Payload.records? Record.get?
  by_cases hname : name = payload.rowKey
  · rw [if_pos hname]
    cases v with
    | string raw => simp [hnone.2 raw rfl]
    | _ => exact hnone.1
  · rw [if_neg hname]
    rfl

/-- A code tells no rows of the circle apart. -/
theorem value?_code_rowOf {c code : Column} (hc : ¬ c.IsCode) (hcode : code.IsCode) {v w : Json}
    (hv : v ∈ circle) (hw : w ∈ circle) : code.value? (c.rowOf v) = code.value? (c.rowOf w) := by
  obtain ⟨payload, language, rfl⟩ := hcode
  cases c with
  | physical schema table name =>
    simp [value?, rowOf, records?_of_circle hv, records?_of_circle hw]
  | translated other spoken name =>
    have hname : name ≠ "language_code" := by
      rintro rfl
      exact hc ⟨other, spoken, rfl⟩
    have hcode := get?_code_recordOf hname spoken
    by_cases hkey : other.rowKey = payload.rowKey
    · rcases eq_or_ne spoken language with rfl | hspoken
      · simp [value?, rowOf, Payload.records?, Record.get?, hkey, Json.array?, Json.string?, hcode]
      · simp [value?, rowOf, Payload.records?, Record.get?, hkey, Json.array?, Json.string?, hcode,
          hspoken]
    · simp [value?, rowOf, Payload.records?, Record.get?, hkey]

end Column

theorem SortTerm.order_of_value?_eq (term : SortTerm) {a b : Row}
    (h : term.column.value? a = term.column.value? b) : term.order a b = .eq := by
  have hsame : Json.columnOrder (term.column.value? b) (term.column.value? b) = .eq :=
    ReflCmp.compare_self
  unfold SortTerm.order
  rw [h, hsame]
  cases term.direction <;> rfl

theorem SortTerm.order_rowOf (term : SortTerm) (h : ¬ term.column.IsCode) (v w : Json) :
    term.order (term.column.rowOf v) (term.column.rowOf w) =
      match term.direction with
      | .ascending => Json.columnOrder (some v) (some w)
      | .descending => Json.columnOrder (some w) (some v) := by
  have hcolumn : Json.columnOrder (term.column.value? (term.column.rowOf v))
      (term.column.value? (term.column.rowOf w)) = Json.columnOrder (some v) (some w) := by
    rw [Column.value?_rowOf h, Column.value?_rowOf h]
  have hswap : Json.columnOrder (some w) (some v) = (Json.columnOrder (some v) (some w)).swap :=
    OrientedCmp.eq_swap
  unfold SortTerm.order
  cases term.direction with
  | ascending => exact hcolumn
  | descending => exact (congrArg Ordering.swap hcolumn).trans hswap.symm

/-- A sort that asks for anything but codes leads three rows in a circle. -/
theorem exists_circle {terms : List SortTerm} (h : ∃ term ∈ terms, ¬ term.column.IsCode) :
    ∃ c : Column, ¬ c.IsCode ∧ ∃ x ∈ Column.circle, ∃ y ∈ Column.circle, ∃ z ∈ Column.circle,
      rowOrder terms (c.rowOf x) (c.rowOf y) = .lt ∧
      rowOrder terms (c.rowOf y) (c.rowOf z) = .lt ∧
      rowOrder terms (c.rowOf z) (c.rowOf x) = .lt := by
  induction terms with
  | nil => simp at h
  | cons term rest ih =>
    by_cases hcode : term.column.IsCode
    -- a code decides nothing, so the circle is that of the rest
    · have hrest : ∃ other ∈ rest, ¬ other.column.IsCode := by
        obtain ⟨other, hother, hnot⟩ := h
        rcases List.mem_cons.mp hother with rfl | hother
        · exact absurd hcode hnot
        · exact ⟨other, hother, hnot⟩
      obtain ⟨c, hc, x, hx, y, hy, z, hz, hxy, hyz, hzx⟩ := ih hrest
      have hsame : ∀ v ∈ Column.circle, ∀ w ∈ Column.circle,
          rowOrder (term :: rest) (c.rowOf v) (c.rowOf w) =
            rowOrder rest (c.rowOf v) (c.rowOf w) := by
        intro v hv w hw
        rw [rowOrder, term.order_of_value?_eq (Column.value?_code_rowOf hc hcode hv hw)]
        rfl
      exact ⟨c, hc, x, hx, y, hy, z, hz, (hsame x hx y hy).trans hxy, (hsame y hy z hz).trans hyz,
        (hsame z hz x hx).trans hzx⟩
    · obtain ⟨hnumbers, hmixed, htexts⟩ := Column.circle_columnOrder
      have hlt : ∀ v w, (match term.direction with
            | .ascending => Json.columnOrder (some v) (some w)
            | .descending => Json.columnOrder (some w) (some v)) = .lt →
          rowOrder (term :: rest) (term.column.rowOf v) (term.column.rowOf w) = .lt := by
        intro v w hvw
        rw [rowOrder, term.order_rowOf hcode, hvw]
        rfl
      refine ⟨term.column, hcode, ?_⟩
      cases hdirection : term.direction with
      | ascending =>
        rw [hdirection] at hlt
        exact ⟨.ofNat 2, by simp [Column.circle], .ofNat 10, by simp [Column.circle],
          .string "1x", by simp [Column.circle], hlt _ _ hnumbers, hlt _ _ hmixed, hlt _ _ htexts⟩
      | descending =>
        rw [hdirection] at hlt
        exact ⟨.string "1x", by simp [Column.circle], .ofNat 10, by simp [Column.circle],
          .ofNat 2, by simp [Column.circle], hlt _ _ hmixed, hlt _ _ hnumbers, hlt _ _ htexts⟩

/-! ## Sorts -/

/-- What can be relied on of a sort. -/
structure SortLaws (terms : List SortTerm) : Prop where
  /-- Any two rows compare, and the other way round they compare the other way round. -/
  total : ∀ a b, rowOrder terms a b = (rowOrder terms b a).swap
  transitive : ∀ rows, (∀ term ∈ terms, term.column.Coherent rows) →
    TransitiveOn (rowOrder terms) rows
  /-- On other rows a sort by one column is not transitive, in neither direction. -/
  one_column : ∀ term, terms = [term] →
    ∀ rows, TransitiveOn (rowOrder terms) rows ↔ term.column.Coherent rows
  /-- Codes of languages, each looked up in its own language, are all that no row upsets. -/
  all_rows : (∀ rows, TransitiveOn (rowOrder terms) rows) ↔ ∀ term ∈ terms, term.column.IsCode
  /-- The stored rows that an answer is read from stand in the order of its sort. -/
  in_order : ∀ (p : Plan) tables stored, p.sort = terms → TransitiveOn (rowOrder terms) stored →
    InOrder (rowOrder terms) (p.origins tables stored)

/-- **What a sort can be relied on for**, whatever its columns hold. -/
theorem sort_laws (terms : List SortTerm) : SortLaws terms where
  total a b := OrientedCmp.eq_swap
  transitive rows h := transitiveOn_rowOrder h
  one_column := by
    rintro term rfl rows
    have horder : rowOrder [term] = term.order := by
      funext a b
      exact Ordering.then_eq
    rw [horder]
    exact term.transitiveOn_order_iff rows
  all_rows := by
    constructor
    · intro h
      by_contra hcodes
      have hother : ∃ term ∈ terms, ¬ term.column.IsCode := by simpa using hcodes
      obtain ⟨c, -, x, -, y, -, z, -, hxy, hyz, hzx⟩ := exists_circle hother
      exact not_transitiveOn_of_circle hxy hyz hzx (h _)
    · intro h rows
      exact transitiveOn_rowOrder fun term hterm => Column.coherent_of_isCode (h term hterm) rows
  in_order := by
    rintro p tables stored rfl h
    exact Plan.inOrder_origins h

namespace Object

/-- Parts on sale, of the sizes given. -/
def stockOf (sizes : List Json) : Session Memory Unit :=
  { storage := .ofTable "Parts" (sizes.map (part true)), bus := () }

def sizeOrder : List SortTerm :=
  [⟨.physical (some "shop") (some "Parts") "size", .ascending⟩]

/-- Of two numbers and a text behind both the order is known. -/
theorem sort_laws_large :
    let rows : List Row := [.ofNat 10, .string "large", .null, .ofNat 2].map (part true)
    TransitiveOn (rowOrder sizeOrder) rows ∧
      ∀ (p : Plan) tables, p.sort = sizeOrder →
        InOrder (rowOrder sizeOrder) (p.origins tables rows) := by
  intro rows
  have hlaws := sort_laws sizeOrder
  have hcoherent : ∀ term ∈ sizeOrder, term.column.Coherent rows := by
    intro term hterm
    rw [List.mem_singleton.mp hterm]
    have hsizes : Json.Coherent [.ofNat 10, .string "large", .ofNat 2] := by decide +kernel
    exact hsizes
  have htransitive := hlaws.transitive rows hcoherent
  exact ⟨htransitive, fun p tables hp => hlaws.in_order p tables rows hp htransitive⟩

/-- **Equal as text, and yet not in order**: by text a size `10` in letters is the number 10, and
comes before the number 9 that comes before it by size. One order has every row in its place, but
another is found. -/
theorem equal_sizes_upset :
    bySize.sortTerms parts {} = .ok sizeOrder ∧
      parts.found bySize {} none (stockOf [.ofNat 10, .ofNat 9, .string "10"]) =
        .ok ([.ofNat 9, .ofNat 10, .string "10"].map (part true)) ∧
      ¬ InOrder (rowOrder sizeOrder) ([.ofNat 9, .ofNat 10, .string "10"].map (part true)) ∧
      InOrder (rowOrder sizeOrder) ([.string "10", .ofNat 9, .ofNat 10].map (part true)) := by
  have hsizes : rowOrder sizeOrder (part true (.ofNat 9)) (part true (.ofNat 10)) = .lt := by
    decide +kernel
  have hequal : rowOrder sizeOrder (part true (.string "10")) (part true (.ofNat 10)) = .eq := by
    decide +kernel
  have htexts : rowOrder sizeOrder (part true (.string "10")) (part true (.ofNat 9)) = .lt := by
    decide +kernel
  refine ⟨rfl, ?_, ?_, ?_⟩
  · refine (found_eq_ok_iff bySize_plain _).mpr ⟨_, sizeOrder, _, rfl, rfl, rfl, ?_⟩
    rw [List.filter_eq_self.mpr (by decide +kernel)]
    simp [sortByInsertion, insertFromEnd, hsizes, hequal]
  · intro h
    have hback : (rowOrder sizeOrder (part true (.ofNat 9)) (part true (.string "10"))).isLE :=
      (List.pairwise_cons.mp h).1 _ (by simp)
    exact not_lt_of_isLE hback htexts
  · simp [InOrder, hsizes, hequal, htexts]

end Object

end Fieldwork
