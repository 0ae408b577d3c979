import Fieldwork.Store.Select
import Mathlib.Data.List.Induction

/-!
# Sorting rows

What the sort of a query promises depends on the comparison it is given. Comparing two rows the
other way round gives the opposite (`rowOrder_oriented`), but the comparison of three rows need not
be transitive, because two numbers are compared by size and a number and a string as text.

* `sortByInsertion_perm`: a sort loses no value and adds none.
* `inOrder_sortByInsertion`: it puts values in order on which the comparison is transitive.
* `inOrder_iff_filter`: its result is in order exactly when sorting commutes with every selection.
-/

namespace Fieldwork

open Std

/-- No value comes behind one that it is less than. -/
def InOrder {α : Type} (order : α → α → Ordering) (as : List α) : Prop :=
  as.Pairwise fun a b => (order a b).isLE

section Insertion

variable {α : Type} {order : α → α → Ordering}

theorem InOrder.sublist {as bs : List α} (h : InOrder order bs) (hs : as.Sublist bs) :
    InOrder order as :=
  List.Pairwise.sublist hs h

/-- The last value is put into the sorted rest. -/
theorem sortByInsertion_concat (order : α → α → Ordering) (as : List α) (a : α) :
    sortByInsertion order (as ++ [a]) =
      (insertFromEnd order a (sortByInsertion order as).reverse).reverse := by
  unfold sortByInsertion
  rw [List.foldl_append, List.reverse_reverse]
  rfl

theorem insertFromEnd_perm (order : α → α → Ordering) (a : α) (l : List α) :
    (insertFromEnd order a l).Perm (a :: l) := by
  induction l with
  | nil => exact List.Perm.refl _
  | cons b l ih =>
    unfold insertFromEnd
    by_cases hab : order a b = .lt
    · rw [if_pos hab]
      exact (ih.cons b).trans (List.Perm.swap a b l)
    · rw [if_neg hab]

theorem sublist_insertFromEnd (order : α → α → Ordering) (a : α) (l : List α) :
    l.Sublist (insertFromEnd order a l) := by
  induction l with
  | nil => exact List.nil_sublist _
  | cons b l ih =>
    unfold insertFromEnd
    by_cases hab : order a b = .lt
    · rw [if_pos hab]
      exact ih.cons_cons b
    · rw [if_neg hab]
      exact List.sublist_cons_self a (b :: l)

theorem sortByInsertion_perm (order : α → α → Ordering) (as : List α) :
    (sortByInsertion order as).Perm as := by
  induction as using List.reverseRecOn with
  | nil => exact List.Perm.refl _
  | append_singleton as a ih =>
    rw [sortByInsertion_concat]
    have hins := insertFromEnd_perm order a (sortByInsertion order as).reverse
    have hrest : (a :: (sortByInsertion order as).reverse).Perm (a :: as) :=
      ((List.reverse_perm _).trans ih).cons a
    exact ((List.reverse_perm _).trans (hins.trans hrest)).trans
      (List.perm_append_singleton a as).symm

@[simp] theorem mem_sortByInsertion {as : List α} {a : α} :
    a ∈ sortByInsertion order as ↔ a ∈ as :=
  (sortByInsertion_perm order as).mem_iff

/-- The values sorted so far keep their order when one more is put in. -/
theorem sortByInsertion_sublist_concat (order : α → α → Ordering) (as : List α) (a : α) :
    (sortByInsertion order as).Sublist (sortByInsertion order (as ++ [a])) := by
  rw [sortByInsertion_concat]
  have h := (sublist_insertFromEnd order a (sortByInsertion order as).reverse).reverse
  rwa [List.reverse_reverse] at h

/-- A value that is not kept leaves no trace among the kept ones. -/
theorem filter_insertFromEnd_of_not {keep : α → Bool} {a : α} (ha : keep a = false) (l : List α) :
    (insertFromEnd order a l).filter keep = l.filter keep := by
  induction l with
  | nil => simp [insertFromEnd, ha]
  | cons b l ih =>
    unfold insertFromEnd
    by_cases hab : order a b = .lt
    · rw [if_pos hab, List.filter_cons, List.filter_cons, ih]
    · rw [if_neg hab, List.filter_cons_of_neg (by simp [ha])]

/-! ## Order -/

/-- The comparison is transitive on the values. -/
def TransitiveOn (order : α → α → Ordering) (as : List α) : Prop :=
  ∀ a ∈ as, ∀ b ∈ as, ∀ c ∈ as, (order a b).isLE → (order b c).isLE → (order a c).isLE

theorem TransitiveOn.subset {as bs : List α} (h : TransitiveOn order bs) (hs : as ⊆ bs) :
    TransitiveOn order as := by
  intro a ha b hb c hc
  exact h a (hs ha) b (hs hb) c (hs hc)

theorem isLE_of_lt {a b : α} (h : order a b = .lt) : (order a b).isLE := by
  rw [h]
  rfl

variable [OrientedCmp order]

theorem isLE_of_not_lt {a b : α} (h : order a b ≠ .lt) : (order b a).isLE := by
  have hswap : order b a = (order a b).swap := OrientedCmp.eq_swap
  rw [hswap]
  cases hab : order a b with
  | lt => exact absurd hab h
  | eq => rfl
  | gt => rfl

theorem not_lt_of_isLE {a b : α} (h : (order b a).isLE) : order a b ≠ .lt := by
  intro hab
  have hswap : order b a = (order a b).swap := OrientedCmp.eq_swap
  rw [hswap, hab] at h
  exact absurd h (by decide)

/-- A value put into a list that descends leaves it descending. -/
theorem descending_insertFromEnd {a : α} {l : List α} (ht : TransitiveOn order (a :: l))
    (hl : l.Pairwise fun x y => (order y x).isLE) :
    (insertFromEnd order a l).Pairwise fun x y => (order y x).isLE := by
  induction l with
  | nil => exact List.pairwise_singleton _ _
  | cons b l ih =>
    obtain ⟨hb, hrest⟩ := List.pairwise_cons.mp hl
    unfold insertFromEnd
    by_cases hab : order a b = .lt
    · rw [if_pos hab]
      refine List.Pairwise.cons ?_ (ih (ht.subset ?_) hrest)
      · intro x hx
        rcases List.mem_cons.mp ((insertFromEnd_perm order a l).mem_iff.mp hx) with rfl | hx
        · exact isLE_of_lt hab
        · exact hb x hx
      · exact List.cons_subset_cons a (List.subset_cons_self b l)
    -- the place of `a` is right here, and `b` links it to all behind
    · rw [if_neg hab]
      refine List.Pairwise.cons ?_ hl
      intro x hx
      have hba : (order b a).isLE := isLE_of_not_lt hab
      rcases List.mem_cons.mp hx with rfl | hx
      · exact hba
      · exact ht x (by simp [hx]) b (by simp) a (by simp) (hb x hx) hba

/-- **A transitive comparison sorts.** -/
theorem inOrder_sortByInsertion {as : List α} (ht : TransitiveOn order as) :
    InOrder order (sortByInsertion order as) := by
  induction as using List.reverseRecOn with
  | nil => exact List.Pairwise.nil
  | append_singleton as a ih =>
    have hsorted : InOrder order (sortByInsertion order as) :=
      ih (ht.subset (List.subset_append_left _ _))
    rw [sortByInsertion_concat]
    refine List.pairwise_reverse.mpr (descending_insertFromEnd (ht.subset ?_) ?_)
    · intro x hx
      rcases List.mem_cons.mp hx with rfl | hx
      · simp
      · simpa using Or.inl hx
    · rw [List.pairwise_reverse]
      exact hsorted

/-! ## Sorting and selecting -/

/-- A value that no other is greater than goes to the front. -/
theorem insertFromEnd_of_le {a : α} {l : List α} (h : ∀ b ∈ l, (order b a).isLE) :
    insertFromEnd order a l = a :: l := by
  cases l with
  | nil => rfl
  | cons b l =>
    unfold insertFromEnd
    rw [if_neg (not_lt_of_isLE (h b (by simp)))]

/-- A kept value finds the same place among the kept ones, when the outcome descends. -/
theorem filter_insertFromEnd_of_keep {keep : α → Bool} {a : α} (ha : keep a = true) {l : List α}
    (hd : (insertFromEnd order a l).Pairwise fun x y => (order y x).isLE) :
    insertFromEnd order a (l.filter keep) = (insertFromEnd order a l).filter keep := by
  induction l with
  | nil => simp [insertFromEnd, ha]
  | cons b l ih =>
    unfold insertFromEnd at hd
    by_cases hab : order a b = .lt
    · rw [if_pos hab] at hd
      have hl := ih (List.pairwise_cons.mp hd).2
      by_cases hb : keep b = true
      · rw [List.filter_cons_of_pos hb, insertFromEnd, insertFromEnd, if_pos hab, if_pos hab,
          List.filter_cons_of_pos hb, hl]
      · rw [List.filter_cons_of_neg hb, insertFromEnd, if_pos hab, List.filter_cons_of_neg hb, hl]
    -- `a` comes before all of `b :: l`, so it comes before the kept ones among them
    · rw [if_neg hab] at hd
      have hle := (List.pairwise_cons.mp hd).1
      rw [insertFromEnd_of_le hle, List.filter_cons_of_pos ha, insertFromEnd_of_le]
      intro c hc
      exact hle c (List.mem_filter.mp hc).1

/-- **A result in order is selected from and sorted alike.** -/
theorem sortByInsertion_filter {keep : α → Bool} {as : List α}
    (h : InOrder order (sortByInsertion order as)) :
    sortByInsertion order (as.filter keep) = (sortByInsertion order as).filter keep := by
  induction as using List.reverseRecOn with
  | nil => rfl
  | append_singleton as a ih =>
    have hrest := ih (h.sublist (sortByInsertion_sublist_concat order as a))
    rw [sortByInsertion_concat] at h ⊢
    have hd := List.pairwise_reverse.mp h
    by_cases ha : keep a = true
    · rw [List.filter_append, List.filter_cons_of_pos ha, List.filter_nil, sortByInsertion_concat,
        hrest, ← List.filter_reverse, filter_insertFromEnd_of_keep ha hd, List.filter_reverse]
    · rw [List.filter_append, List.filter_cons_of_neg ha, List.filter_nil, List.append_nil, hrest,
        List.filter_reverse, filter_insertFromEnd_of_not (by simpa using ha), List.filter_reverse,
        List.reverse_reverse]

/-- Any comparison is transitive on two values. -/
theorem transitiveOn_of_two {as : List α} {x y : α} (h : ∀ a ∈ as, a = x ∨ a = y) :
    TransitiveOn order as := by
  have hself : ∀ a, (order a a).isLE := by
    intro a
    have hrefl : order a a = .eq := ReflCmp.compare_self
    rw [hrefl]
    rfl
  intro a ha b hb c hc hab hbc
  rcases h a ha with rfl | rfl <;> rcases h b hb with rfl | rfl <;> rcases h c hc with rfl | rfl <;>
    first | exact hself _ | assumption

/-- **A result is in order exactly when sorting commutes with every selection.** -/
theorem inOrder_iff_filter {as : List α} :
    InOrder order (sortByInsertion order as) ↔
      ∀ keep : α → Bool,
        sortByInsertion order (as.filter keep) = (sortByInsertion order as).filter keep := by
  classical
  refine ⟨fun h keep => sortByInsertion_filter h, fun h => ?_⟩
  refine List.pairwise_iff_forall_sublist.mpr fun {x y} hxy => ?_
  -- selecting the two values in question leaves nothing that could upset their order
  let keep : α → Bool := fun a => a = x ∨ a = y
  have hsorted : InOrder order (sortByInsertion order (as.filter keep)) :=
    inOrder_sortByInsertion (transitiveOn_of_two fun a ha => by
      simpa [keep] using (List.mem_filter.mp ha).2)
  have hsub : [x, y].Sublist ((sortByInsertion order as).filter keep) := by
    have := hxy.filter keep
    rwa [List.filter_cons_of_pos (by simp [keep]), List.filter_cons_of_pos (by simp [keep]),
      List.filter_nil] at this
  rw [h keep] at hsorted
  exact List.pairwise_iff_forall_sublist.mp hsorted hsub

/-- What `kept`, the sorted values of a selection, is next to `all`, the values sorted. -/
structure SortedSelection (order : α → α → Ordering) (as : List α) (keep : α → Bool)
    (kept all : List α) : Prop where
  /-- The same values as often, in whatever order. -/
  perm : kept.Perm (all.filter keep)
  same_order : InOrder order all → kept = all.filter keep
  /-- Where the values are not in order, some selection of them is upset. -/
  in_order_iff : InOrder order all ↔
    ∀ select : α → Bool, sortByInsertion order (as.filter select) = all.filter select
  in_order : TransitiveOn order as → InOrder order all

theorem sortedSelection (as : List α) (keep : α → Bool) :
    SortedSelection order as keep (sortByInsertion order (as.filter keep))
      (sortByInsertion order as) where
  perm :=
    (sortByInsertion_perm order _).trans ((sortByInsertion_perm order as).filter keep).symm
  same_order := sortByInsertion_filter
  in_order_iff := inOrder_iff_filter
  in_order := inOrder_sortByInsertion

end Insertion

/-! ## The order of rows -/

instance Json.order_oriented : OrientedCmp Json.order where
  eq_swap {a b} := by
    have htext := OrientedOrd.eq_swap (a := a.comparable) (b := b.comparable)
    cases a with
    -- two numbers go by size, every other pair by text
    | number x =>
      cases b with
      | number y => exact OrientedOrd.eq_swap (a := x.size) (b := y.size)
      | _ => exact htext
    | _ => cases b <;> exact htext

instance Json.columnOrder_oriented : OrientedCmp Json.columnOrder where
  eq_swap {a b} := by
    unfold Json.columnOrder
    rcases Json.present? a with _ | x <;> rcases Json.present? b with _ | y
    · rfl
    · rfl
    · rfl
    · exact @OrientedCmp.eq_swap _ Json.order _ x y

theorem SortTerm.order_swap (term : SortTerm) (a b : Row) :
    term.order a b = (term.order b a).swap := by
  unfold SortTerm.order
  have hswap : Json.columnOrder (term.column.value? a) (term.column.value? b) =
      (Json.columnOrder (term.column.value? b) (term.column.value? a)).swap := OrientedCmp.eq_swap
  cases term.direction with
  | ascending => exact hswap
  | descending => exact congrArg Ordering.swap hswap

/-- **Rows compare the other way round when they are exchanged**, whatever their columns hold. -/
instance rowOrder_oriented (terms : List SortTerm) : OrientedCmp (rowOrder terms) where
  eq_swap {a b} := by
    induction terms with
    | nil => rfl
    | cons term rest ih =>
      rw [rowOrder, rowOrder, Ordering.swap_then, ← ih, ← SortTerm.order_swap]

end Fieldwork
