import Fieldwork.Store.Memory
import Mathlib.Data.List.Forall2

/-!
# What an update does to the tables

* `Memory.tables_update`: an update that succeeds writes its values over the first row with its id,
  and one that fails changes nothing.
* `Tables.keeps_foldl_write`: updates one after another keep the number and the order of the rows.
-/

namespace Fieldwork

/-! ## Writing over the first row with an id -/

/-- The rows with values written over the first one that has the id under the key. -/
def overlayFirst (key : String) (id : Json) (values : Row) (rows : List Row) : List Row :=
  match rows.findIdx? fun r => (Record.get? r key).any (· == id) with
  | some place => rows.modify place (Record.overlay · values)
  | none => rows

namespace Tables

/-- The tables with the first such row of one of them written over. -/
def overlayFirst (tables : Tables) (table key : String) (id : Json) (values : Row) : Tables :=
  match Record.get? tables table with
  | some rows => Record.insert table (Fieldwork.overlayFirst key id values rows) tables
  | none => tables

/-- The tables after an update that finds its row. -/
def write (tables : Tables) (u : Update) : Tables :=
  tables.overlayFirst u.table u.primaryKey u.id u.values

end Tables

/-- An update is meant for the rows that have its key. -/
theorem Update.targets_eq (u : Update) :
    u.targets = fun r => (Record.get? r u.primaryKey).any (· == u.id) := by
  funext r
  unfold Update.targets
  cases Record.get? r u.primaryKey <;> rfl

/-- An update that finds its row writes over the first that it is meant for. -/
theorem Update.writeFirst?_eq_some {u : Update} {rows rows' : List Row} {r : Row}
    (h : u.writeFirst? rows = some (r, rows')) :
    rows' = overlayFirst u.primaryKey u.id u.values rows := by
  unfold overlayFirst
  rw [← u.targets_eq]
  induction rows generalizing rows' with
  | nil => cases h
  | cons first rows ih =>
    rw [Update.writeFirst?] at h
    rw [List.findIdx?_cons]
    by_cases ht : u.targets first = true
    · rw [if_pos ht] at h
      cases h
      rw [if_pos ht]
      rfl
    · rw [if_neg ht] at h
      obtain ⟨⟨written, after⟩, hafter, heq⟩ := Option.map_eq_some_iff.mp h
      cases heq
      rw [if_neg ht, ih hafter]
      cases rows.findIdx? u.targets <;> rfl

/-- A successful update leaves the tables that writing it makes. -/
theorem Update.run_eq_ok {u : Update} {tables tables' : Tables} {r : Row}
    (h : u.run tables = .ok (r, tables')) : tables' = tables.write u := by
  unfold Update.run at h
  unfold Tables.write Tables.overlayFirst
  cases hrows : Record.get? tables u.table with
  | none => rw [hrows] at h; cases h
  | some rows =>
    rw [hrows] at h
    cases hwrite : u.writeFirst? rows with
    | none => simp only [hwrite] at h; cases h
    | some found =>
      obtain ⟨written, after⟩ := found
      simp only [hwrite] at h
      cases h
      rw [Update.writeFirst?_eq_some hwrite]

/-- **An update that succeeds writes over its row, and one that fails changes nothing.** -/
theorem Memory.tables_update (m : Memory) (u : Update) :
    (m.update u).2.tables =
      match (m.update u).1 with
      | .ok _ => m.tables.write u
      | .error _ => m.tables := by
  unfold Memory.update
  cases m.failing with
  | succ n => rfl
  | zero =>
    cases hrun : u.run m.tables with
    | error fault => rfl
    | ok found => exact Update.run_eq_ok hrun

/-! ## What is kept -/

/-- The row after some of the values were written over it, in their order. -/
def Overlaid (values : List Row) (r r' : Row) : Prop :=
  ∃ hits : List Row, hits.Sublist values ∧ r' = hits.foldl Record.overlay r

namespace Overlaid

variable {first rest : List Row} {values r r' r'' : Row}

theorem refl (values : List Row) (r : Row) : Overlaid values r r :=
  ⟨[], List.nil_sublist _, rfl⟩

/-- A row that is written over once. -/
theorem once (values r : Row) : Overlaid [values] r (Record.overlay r values) :=
  ⟨[values], List.Sublist.refl _, rfl⟩

/-- What is written over twice is written over by all that both times brought. -/
theorem trans (h : Overlaid first r r') (h' : Overlaid rest r' r'') :
    Overlaid (first ++ rest) r r'' := by
  obtain ⟨hits, hsub, rfl⟩ := h
  obtain ⟨hits', hsub', rfl⟩ := h'
  exact ⟨hits ++ hits', hsub.append hsub', (List.foldl_append ..).symm⟩

/-- The same for rows place by place. -/
theorem trans_rows {before mid after : List Row} (h : List.Forall₂ (Overlaid first) before mid)
    (h' : List.Forall₂ (Overlaid rest) mid after) :
    List.Forall₂ (Overlaid (first ++ rest)) before after := by
  induction h generalizing after with
  | nil => cases h'; exact .nil
  | cons hrow _ ih =>
    cases h' with
    | cons hrow' hrows' => exact .cons (hrow.trans hrow') (ih hrows')

end Overlaid

/-- Writing over one row leaves each row in its place. -/
theorem overlaid_overlayFirst (key : String) (id : Json) (values : Row) (rows : List Row) :
    List.Forall₂ (Overlaid [values]) rows (overlayFirst key id values rows) := by
  have hsame (rows : List Row) : List.Forall₂ (Overlaid [values]) rows rows :=
    List.forall₂_same.mpr fun r _ => Overlaid.refl _ r
  unfold overlayFirst
  cases rows.findIdx? _ with
  | none => exact hsame rows
  | some place =>
    simp only
    induction rows generalizing place with
    | nil => rw [List.modify_nil]; exact .nil
    | cons r rows ih =>
      cases place with
      | zero => exact .cons (Overlaid.once values r) (hsame rows)
      | succ place => exact .cons (Overlaid.refl _ r) (ih place)

namespace Tables

/-- Values are written over rows of that table only, and each row stays in its place. -/
structure Keeps (table : String) (values : List Row) (before after : Tables) : Prop where
  rows : Option.Rel (List.Forall₂ (Overlaid values)) (Record.get? before table)
    (Record.get? after table)
  others : ∀ name, name ≠ table → Record.get? after name = Record.get? before name

theorem Keeps.refl (table : String) (tables : Tables) : Keeps table [] tables tables where
  rows := by
    cases Record.get? tables table with
    | none => exact .none
    | some rows => exact .some (List.forall₂_same.mpr fun r _ => Overlaid.refl _ r)
  others _ _ := rfl

/-- Two stretches of writes to a table make one. -/
theorem Keeps.trans {table : String} {first rest : List Row} {before mid after : Tables}
    (h : Keeps table first before mid) (h' : Keeps table rest mid after) :
    Keeps table (first ++ rest) before after where
  rows := by
    have hrows := h.rows
    have hrows' := h'.rows
    generalize Record.get? before table = rows₁ at hrows ⊢
    generalize Record.get? mid table = rows₂ at hrows hrows'
    generalize Record.get? after table = rows₃ at hrows' ⊢
    cases hrows with
    | none => cases hrows'; exact .none
    | some hfirst => cases hrows' with
      | some hrest => exact .some (Overlaid.trans_rows hfirst hrest)
  others name hname := (h'.others name hname).trans (h.others name hname)

/-- **A write keeps all rows in their places**, but for the values it writes. -/
theorem keeps_write (tables : Tables) (u : Update) :
    Keeps u.table [u.values] tables (tables.write u) := by
  unfold write overlayFirst
  cases hrows : Record.get? tables u.table with
  | none =>
    refine ⟨?_, fun _ _ => rfl⟩
    rw [hrows]
    exact .none
  | some rows =>
    refine ⟨?_, fun name hname => Record.get?_insert_of_ne hname _ _⟩
    rw [hrows, Record.get?_insert_self]
    exact .some (overlaid_overlayFirst ..)

/-- **Updates of one table keep the number and the order of its rows**, and all other tables. -/
theorem keeps_foldl_write {table : String} {updates : List Update}
    (h : ∀ u ∈ updates, u.table = table) (tables : Tables) :
    Keeps table (updates.map Update.values) tables (updates.foldl write tables) := by
  induction updates generalizing tables with
  | nil => exact Keeps.refl table tables
  | cons u updates ih =>
    have hfirst : Keeps table [u.values] tables (tables.write u) := by
      rw [← h u (List.mem_cons_self ..)]
      exact keeps_write tables u
    exact hfirst.trans (ih (fun v hv => h v (List.mem_cons_of_mem _ hv)) (tables.write u))

end Tables

end Fieldwork
