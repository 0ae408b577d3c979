import Fieldwork.Proofs.Chain.Replay
import Fieldwork.Proofs.Record

/-!
# What a row update assigns

An assignment names a field, and a write names columns. The values of an update go to the columns
of their fields, the last one for each column, and before they are written a null gives way to a
default. The default is looked up under the column: it is that of the first field in it, which need
not be the field that the null was assigned by.

* `columnValues_of_resolved`: the values of an update, column by column.
* `get?_normalise`: what normalising makes of the value of a column.
* `writeAndAnnounce_delivers`: every attempt at a write and its announcement have the same values.
* `assignments_written_iff`: **a row update writes the columns of its fields and no others, under
  each of them the value assigned last**, and announces the same; a null gives way to the default of
  its own field exactly if every field that a null was assigned by has the same default as the first
  field in its column.
* `null_kept_under_other_field`: an update that loses a default.
-/

namespace Fieldwork

open Program

/-! ## Values by column -/

/-- A null gives way to the default of the field. -/
def Field.filled (f : Field) (v : Json) : Json :=
  if v.isNull then f.default.getD v else v

/-- The first field in a column. -/
def Object.columnField? (o : Object) (column : String) : Option Field :=
  o.fields.find? fun f => f.column = column

namespace RowUpdate

variable {o : Object}

/-- The values of assignments with the fields they are assigned by, each under the column of its
field. -/
def placed (o : Object) (assignments : List Assignment) : List (String × Field × Json) :=
  assignments.filterMap fun a =>
    (o.fields.find? fun f => f.id = a.field).map fun f => (f.column, f, a.value)

/-- The fields of the assignments are known. -/
def Resolved (o : Object) (assignments : List Assignment) : Prop :=
  ∀ a ∈ assignments, (o.field? a.field).isSome

/-- **The values of an update** are written over each other in their order. -/
theorem columnValues_of_resolved {assignments : List Assignment} (h : Resolved o assignments)
    (values : Row) :
    columnValues o assignments values =
      .ok (Record.overlay values
        ((placed o assignments).map fun entry => (entry.1, entry.2.2))) := by
  induction assignments generalizing values with
  | nil => rfl
  | cons a rest ih =>
    obtain ⟨ha, hrest⟩ := List.forall_mem_cons.mp h
    obtain ⟨located, hlocated⟩ := Option.isSome_iff_exists.mp ha
    obtain ⟨f, hf, rfl⟩ := Option.map_eq_some_iff.mp hlocated
    have hfield : o.field a.field = .ok (o.locate f) := by
      unfold Object.field
      rw [hlocated]
    have hplaced : placed o (a :: rest) = (f.column, f, a.value) :: placed o rest := by
      unfold placed
      rw [List.filterMap_cons, hf]
      rfl
    rw [columnValues, hfield, hplaced]
    exact ih hrest _

end RowUpdate

/-- **What normalising makes of the value of a column.** -/
theorem Object.get?_normalise (o : Object) {values : Row} (h : Record.Ordered values)
    (column : String) :
    Record.get? (o.normalise values) column =
      (Record.get? values column).bind (o.writtenValue? column) := by
  have hentries : o.normalise values = Record.ofList (values.filterMap fun entry =>
      (o.writtenValue? entry.1 entry.2).map fun v => (entry.1, v)) := rfl
  rw [hentries, Record.ofList_of_ordered (h.filterMap o.writtenValue?), Record.get?_filterMap _ h]

theorem Object.writtenValue?_of_columnField? {o : Object} {column : String} {f : Field}
    (h : o.columnField? column = some f) (v : Json) :
    o.writtenValue? column v = some (f.filled v) := by
  unfold writtenValue?
  unfold columnField? at h
  rw [h]
  rfl

namespace RowUpdate

variable {o : Object} {assignments : List Assignment}

theorem placed_column {column : String} {f : Field} {v : Json}
    (h : (column, f, v) ∈ placed o assignments) : f ∈ o.fields ∧ f.column = column := by
  obtain ⟨a, -, ha⟩ := List.mem_filterMap.mp h
  obtain ⟨g, hg, heq⟩ := Option.map_eq_some_iff.mp ha
  cases heq
  exact ⟨List.mem_of_find?_eq_some hg, rfl⟩

/-- A column that is assigned to has a field in it. -/
theorem columnField?_of_last? {column : String} {f : Field} {v : Json}
    (h : Record.last? column (placed o assignments) = some (f, v)) :
    ∃ g, o.columnField? column = some g := by
  obtain ⟨hmem, hcolumn⟩ := placed_column (Record.mem_of_last? h)
  exact Option.isSome_iff_exists.mp (List.find?_isSome.mpr ⟨f, hmem, decide_eq_true hcolumn⟩)

/-- The columns that are assigned to are those of the fields. -/
theorem mem_columns_placed_iff {column : String} :
    column ∈ (placed o assignments).map Prod.fst ↔
      ∃ a ∈ assignments, ∃ f, o.field? a.field = some f ∧ f.column = column := by
  constructor
  · intro h
    obtain ⟨entry, hentry, rfl⟩ := List.mem_map.mp h
    obtain ⟨a, ha, hfield⟩ := List.mem_filterMap.mp hentry
    obtain ⟨g, hg, rfl⟩ := Option.map_eq_some_iff.mp hfield
    refine ⟨a, ha, o.locate g, ?_, rfl⟩
    unfold Object.field?
    rw [hg]
    rfl
  · rintro ⟨a, ha, located, hlocated, rfl⟩
    obtain ⟨g, hg, rfl⟩ := Option.map_eq_some_iff.mp hlocated
    refine List.mem_map.mpr ⟨(g.column, g, a.value), List.mem_filterMap.mpr ⟨a, ha, ?_⟩, rfl⟩
    rw [hg]
    rfl

/-- The values that are sent: those assigned last, normalised. -/
def sent (o : Object) (assignments : List Assignment) : Row :=
  o.normalise (Record.overlay [] ((placed o assignments).map fun entry => (entry.1, entry.2.2)))

/-- **The values that are sent, column by column.** -/
theorem get?_sent (o : Object) (assignments : List Assignment) (column : String) :
    Record.get? (sent o assignments) column =
      (Record.last? column (placed o assignments)).bind fun entry =>
        (o.columnField? column).map fun f => f.filled entry.2 := by
  unfold sent
  rw [o.get?_normalise (Record.ordered_overlay List.Pairwise.nil _), Record.get?_overlay,
    Record.last?_map fun entry : Field × Json => entry.2]
  cases hlast : Record.last? column (placed o assignments) with
  | none => rfl
  | some entry =>
    obtain ⟨f, v⟩ := entry
    obtain ⟨g, hg⟩ := columnField?_of_last? hlast
    rw [hg, Option.map_some, Option.some_or, Option.bind_some,
      Object.writtenValue?_of_columnField? hg]
    rfl

theorem get?_sent_of_last? {column : String} {f : Field} {v : Json}
    (h : Record.last? column (placed o assignments) = some (f, v)) :
    ∃ g, o.columnField? column = some g ∧
      Record.get? (sent o assignments) column = some (g.filled v) := by
  obtain ⟨g, hg⟩ := columnField?_of_last? h
  refine ⟨g, hg, ?_⟩
  rw [get?_sent, h, hg]
  rfl

/-- No assignment is dropped, and nothing else is sent. -/
theorem mem_names_sent_iff {column : String} :
    column ∈ (sent o assignments).names ↔
      ∃ a ∈ assignments, ∃ f, o.field? a.field = some f ∧ f.column = column := by
  rw [← mem_columns_placed_iff, ← Record.isSome_last?_iff, ← Record.isSome_get?_iff]
  cases hlast : Record.last? column (placed o assignments) with
  | none =>
    rw [get?_sent, hlast]
    rfl
  | some entry =>
    obtain ⟨g, -, hget⟩ := get?_sent_of_last? hlast
    rw [hget]
    rfl

/-- A null gives way to the default of its own field exactly where the first field in the column
has the same. -/
theorem get?_sent_filled_iff :
    (∀ column f v, Record.last? column (placed o assignments) = some (f, v) →
      Record.get? (sent o assignments) column = some (f.filled v)) ↔
    ∀ column f g, Record.last? column (placed o assignments) = some (f, .null) →
      o.columnField? column = some g → g.default.getD .null = f.default.getD .null := by
  constructor
  · intro h column f g hlast hg
    obtain ⟨g', hg', hget⟩ := get?_sent_of_last? hlast
    rw [hg] at hg'
    cases hg'
    rw [h column f .null hlast] at hget
    exact (Option.some.inj hget).symm
  · intro h column f v hlast
    obtain ⟨g, hg, hget⟩ := get?_sent_of_last? hlast
    rw [hget]
    cases v with
    | null => exact congrArg some (h column f g hlast hg)
    | _ => rfl

end RowUpdate

/-! ## What is asked of the services -/

/-- One write is asked for, once or several times, and only that one is announced; it is, if it
succeeds. -/
structure Delivers (scope : Option Scope) (w : Update) (cs : List Entry) : Prop where
  sent : ∃ out, .updated w scope out ∈ cs
  only : ∀ w' sc out, .updated w' sc out ∈ cs → w' = w ∧ sc = scope
  announced : ∀ topic payload out, .requested topic payload out ∈ cs → Announces payload w
  told : ∀ row, .updated w scope (.ok row) ∈ cs →
    ∃ topic payload out, .requested topic payload out ∈ cs

namespace Delivers

variable {scope : Option Scope} {w : Update} {cs : List Entry}

/-- Attempts at a write that all fail. -/
theorem refused {fault : Fault} (h : Attempts scope w (.error fault) cs) : Delivers scope w cs := by
  obtain ⟨faults, last, rfl, hlast⟩ := h
  cases last with
  | ok row => cases hlast
  | error f =>
    have hall : ∀ e ∈ faults.map (fun g => Entry.updated w scope (.error g)) ++
        [.updated w scope (.error f)], ∃ g, e = .updated w scope (.error g) := by
      intro e he
      simp only [List.mem_append, List.mem_map, List.mem_singleton] at he
      rcases he with ⟨g, -, rfl⟩ | rfl
      · exact ⟨g, rfl⟩
      · exact ⟨f, rfl⟩
    refine ⟨⟨.error f, by simp⟩, fun w' sc out he => ?_, fun topic payload out he => ?_,
      fun row he => ?_⟩
    · obtain ⟨g, heq⟩ := hall _ he
      cases heq
      exact ⟨rfl, rfl⟩
    · obtain ⟨g, heq⟩ := hall _ he
      cases heq
    · obtain ⟨g, heq⟩ := hall _ he
      cases heq

/-- Attempts at a write and a request that announces it. -/
theorem followed {out : Except Fault Row} (h : Attempts scope w out cs) {topic : String}
    {payload : Json} (hp : Announces payload w) (reply : Except Fault Json) :
    Delivers scope w (cs ++ [.requested topic payload reply]) := by
  obtain ⟨faults, last, rfl, -⟩ := h
  refine ⟨⟨last, by simp⟩, fun w' sc out' he => ?_, fun topic' payload' out' he => ?_,
    fun row he => ⟨topic, payload, reply, by simp⟩⟩
  · simp only [List.mem_append, List.mem_map, List.mem_singleton] at he
    rcases he with (⟨g, -, heq⟩ | heq) | heq <;> cases heq <;> exact ⟨rfl, rfl⟩
  · simp only [List.mem_append, List.mem_map, List.mem_singleton] at he
    rcases he with (⟨g, -, heq⟩ | heq) | heq <;> cases heq
    exact hp

end Delivers

variable {σ β : Type}

/-- **Every attempt at a write and its announcement have the same values.** -/
theorem writeAndAnnounce_delivers (current : Active) (env : Surroundings σ β) (id : Json)
    (values : Row) :
    (RowUpdate.writeAndAnnounce current env id values).Logs fun _ added =>
      Delivers env.scope (current.object.update id values) (calls added) := by
  have hann := announces_announcement current.object id values
  have hwrite := attemptFrom_attempts (β := β) env.request.policy RowUpdate.label current.object
    env.request.storage id values env.scope (env.request.policy.maxAttempts.toNat - 1) 1
  have hsend := send_request env.request env.request.topic
    (RowUpdate.announcement current.object id values)
  have hreply : ∀ reply, (ofExcept (σ := σ) (β := β)
      (RowUpdate.replied current env.request.topic reply)).Logs fun _ added => added = [] :=
    fun reply => Logs.of_exec_eq (fun _ => exec_ofExcept _ _) rfl
  refine Logs.mono (hwrite.bind fun _ => hsend.bind hreply) ?_
  rintro out added (⟨fault, -, hattempts⟩ | ⟨row, first, rest, rfl, hattempts, hrest⟩)
  · exact .refused hattempts
  rw [calls_append]
  rcases hrest with ⟨fault, -, ⟨reply, rfl⟩, -⟩ | ⟨_, _, _, rfl, ⟨⟨reply, rfl⟩, -⟩, rfl⟩
  · exact .followed hattempts hann reply
  · exact .followed hattempts hann reply

/-- The columns in the SET list of an update. -/
def Update.columns (w : Update) : List String :=
  w.statement.assignments.map Prod.fst

theorem columns_update (o : Object) (id : Json) (values : Row) :
    (o.update id values).columns = Record.names values := by
  unfold Update.columns Update.statement Record.names
  rw [List.map_map]
  rfl

theorem RowUpdate.keyOf_of_get? {o : Object} {data : Row} {id : Json}
    (h : Record.get? data o.primaryKey = some id) (hnull : id ≠ .null) :
    keyOf o data = .ok id := by
  unfold keyOf
  rw [h]
  cases id with
  | null => exact absurd rfl hnull
  | _ => rfl

/-- **A row update writes exactly what its assignments say.** It sends one write, with the columns
of its fields and no others, and under each column the value that was assigned to it last. A null
gives way to the default of the first field in the column; so it gives way to that of the field
that it was assigned by, wherever the two have the same default, and only there. -/
theorem assignments_written_iff (u : RowUpdate) (current : Active) (env : Surroundings σ β)
    (s : Session σ β) (hsome : u.assignments ≠ [])
    (hknown : RowUpdate.Resolved current.object u.assignments) {id : Json}
    (hid : Record.get? current.data current.object.primaryKey = some id) (hnull : id ≠ .null) :
    ∃ values added, (exec (u.perform current env) s).2.log = s.log ++ added ∧
      Delivers env.scope (current.object.update id values) (calls added) ∧
      (current.object.update id values).columns ≠ [] ∧
      (current.object.update id values).columns.Nodup ∧
      (∀ column, column ∈ (current.object.update id values).columns ↔
        ∃ a ∈ u.assignments, ∃ f, current.object.field? a.field = some f ∧ f.column = column) ∧
      (∀ column f v,
        Record.last? column (RowUpdate.placed current.object u.assignments) = some (f, v) →
        ∃ g, current.object.columnField? column = some g ∧
          Record.get? values column = some (g.filled v)) ∧
      ((∀ column f v,
        Record.last? column (RowUpdate.placed current.object u.assignments) = some (f, v) →
        Record.get? values column = some (f.filled v)) ↔
      ∀ column f g,
        Record.last? column (RowUpdate.placed current.object u.assignments) = some (f, .null) →
        current.object.columnField? column = some g →
        g.default.getD .null = f.default.getD .null) := by
  have hcolumns : ∀ column,
      column ∈ (current.object.update id (RowUpdate.sent current.object u.assignments)).columns ↔
        ∃ a ∈ u.assignments, ∃ f, current.object.field? a.field = some f ∧ f.column = column :=
    fun column => by rw [columns_update, RowUpdate.mem_names_sent_iff]
  obtain ⟨added, hlog, hdelivers⟩ := writeAndAnnounce_delivers current env id
    (RowUpdate.sent current.object u.assignments) s
  refine ⟨_, added, ?_, hdelivers, ?_, ?_, hcolumns,
    fun column f v => RowUpdate.get?_sent_of_last?, RowUpdate.get?_sent_filled_iff⟩
  · rw [RowUpdate.exec_perform, if_neg (by simpa using hsome),
      RowUpdate.columnValues_of_resolved hknown]
    simp only [RowUpdate.keyOf_of_get? hid hnull]
    exact hlog
  -- the column of the first assignment is written
  · obtain ⟨a, ha⟩ := List.exists_mem_of_ne_nil _ hsome
    obtain ⟨f, hf⟩ := Option.isSome_iff_exists.mp (hknown a ha)
    exact List.ne_nil_of_mem ((hcolumns f.column).mpr ⟨a, ha, f, hf, rfl⟩)
  · rw [columns_update]
    exact (Record.ordered_ofList _).nodup_names

/-! ## A size in two fields -/

/-- The size of the box that a part comes in: two, where nothing else is known. -/
def boxSize : Field :=
  ⟨"box size", "size", none, some "Boxes", false, none, [], some (.ofNat 2)⟩

/-- Parts with a size of their own, which has no default, and one of their box. -/
def Object.boxed : Object :=
  { Object.coded with
    fields := [⟨"size", "size", none, none, false, none, [], none⟩, boxSize,
      ⟨"note", "note", none, none, false, none, [], some (.string "new")⟩] }

def boxedPart : Active :=
  { context :=
      { label := "find", object := some Object.boxed, data := some (Object.codedPart "a" 5) }
    object := Object.boxed
    data := Object.codedPart "a" 5 }

def boxedParts : Session Memory Responder :=
  { storage := .ofTable "Parts" [Object.codedPart "a" 5], bus := .echo }

/-- A size is set twice, the second time as that of the box, and the note is cleared. -/
def repack : RowUpdate :=
  ⟨[⟨"size", .ofNat 7⟩, ⟨"note", .null⟩, ⟨"box size", .ofNat 3⟩]⟩

/-- Both columns are written: the last size, and the note that new parts have. -/
theorem assignments_written_iff_repack :
    repack.assignments ≠ [] ∧ RowUpdate.Resolved Object.boxed repack.assignments ∧
    Record.get? boxedPart.data "uuid" = some (.string "a") ∧ Json.string "a" ≠ .null ∧
    ∃ values added, (exec (repack.perform boxedPart shop) boxedParts).2.log = added ∧
      Delivers none (Object.boxed.update (.string "a") values) (calls added) ∧
      "size" ∈ (Object.boxed.update (.string "a") values).columns ∧
      "note" ∈ (Object.boxed.update (.string "a") values).columns ∧
      Record.get? values "size" = some (.ofNat 3) ∧
      Record.get? values "note" = some (.string "new") := by
  have hsome : repack.assignments ≠ [] := List.cons_ne_nil _ _
  have hknown : RowUpdate.Resolved Object.boxed repack.assignments := by
    intro a ha
    simp only [repack, List.mem_cons, List.not_mem_nil, or_false] at ha
    rcases ha with rfl | rfl | rfl <;> rfl
  have hid : Record.get? boxedPart.data "uuid" = some (.string "a") := rfl
  have hnull : Json.string "a" ≠ .null := nofun
  obtain ⟨values, added, hlog, hdelivers, -, -, hcolumns, hlast, -⟩ :=
    assignments_written_iff repack boxedPart shop boxedParts hsome hknown hid hnull
  refine ⟨hsome, hknown, hid, hnull, values, added, hlog, hdelivers,
    (hcolumns "size").mpr ⟨_, List.mem_cons_self .., _, rfl, rfl⟩,
    (hcolumns "note").mpr ⟨⟨"note", .null⟩, by simp [repack], _, rfl, rfl⟩, ?_, ?_⟩
  · obtain ⟨g, hg, hsize⟩ := hlast "size" _ _ rfl
    cases hg
    exact hsize
  · obtain ⟨g, hg, hnote⟩ := hlast "note" _ _ rfl
    cases hg
    exact hnote

/-- **A null stays where the default is that of another field.** The size of the box is cleared, for
which its default is two. The part's own size comes first in the column and has no default, so the
null is written, and announced. -/
theorem null_kept_under_other_field :
    Record.last? "size" (RowUpdate.placed Object.boxed [⟨"box size", .null⟩]) =
      some (boxSize, .null) ∧
    boxSize.filled .null = .ofNat 2 ∧
    ∃ row reply, calls (exec ((RowUpdate.mk [⟨"box size", .null⟩]).perform boxedPart shop)
        boxedParts).2.log =
      [.updated (Object.boxed.update (.string "a") [("size", .null)]) none (.ok row),
        .requested defaultTopic
          (RowUpdate.announcement Object.boxed (.string "a") [("size", .null)]) reply] :=
  ⟨rfl, rfl, _, _, rfl⟩

end Fieldwork
