import Fieldwork.Proofs.Chain.Course
import Fieldwork.Proofs.Store.Update

/-!
# The requests on the bus replay the store

Every write of a chain of row updates is announced with its row and its values, so the requests on
the bus are a record of what happened to the tables.

* `Cumulative.retry`: what holds across an attempt holds across all of them.
* `run_announces`: the announcements of a run are those of its writes, in order.
* `run_rewrites`: the tables change by the writes in the log and by nothing else.
* `run_replays`: **the announcements replay the tables**, whether the run succeeds or fails.
-/

namespace Fieldwork

open Program

variable {σ β α : Type}

/-! ## Writes and announcements in a log -/

/-- The updates that were made, in order. -/
def written (log : List Entry) : List Update :=
  log.filterMap fun
    | .updated u _ (.ok _) => some u
    | _ => none

/-- What was sent over the bus, in order. -/
def announced (log : List Entry) : List Json :=
  log.filterMap fun
    | .requested _ payload _ => some payload
    | _ => none

theorem written_append (a b : List Entry) : written (a ++ b) = written a ++ written b :=
  List.filterMap_append

theorem announced_append (a b : List Entry) : announced (a ++ b) = announced a ++ announced b :=
  List.filterMap_append

/-- Reports are no writes. -/
theorem written_calls (log : List Entry) : written (calls log) = written log := by
  unfold written calls
  rw [List.filterMap_filter]
  congr 1
  funext e
  cases e <;> rfl

/-- Reports are no announcements. -/
theorem announced_calls (log : List Entry) : announced (calls log) = announced log := by
  unfold announced calls
  rw [List.filterMap_filter]
  congr 1
  funext e
  cases e <;> rfl

/-- A step announces the write it made, if it made one. -/
theorem announces_of_stepCalls {scope : Option Scope} {out : Except Fault Context} {cs : List Entry}
    (h : StepCalls scope out cs) :
    List.Forall₂ (fun u payload => Announces payload u) (written cs) (announced cs) := by
  have hfailures (w : Update) (faults : List Fault) :
      written (faults.map fun f => .updated w scope (.error f)) = [] ∧
        announced (faults.map fun f => .updated w scope (.error f)) = [] := by
    simp [written, announced]
  cases h with
  | idle => exact .nil
  | @refused w faults last f =>
    rw [written_append, announced_append, (hfailures w faults).1, (hfailures w faults).2]
    exact .nil
  | @announced w faults row topic payload reply _ hp _ =>
    rw [written_append, announced_append, (hfailures w faults).1, (hfailures w faults).2]
    exact .cons hp .nil

/-- **Every write of a run is announced**, in order and with what it wrote. -/
theorem run_announces (updates : List RowUpdate) (env : Surroundings σ β) :
    ∀ c, (Chain.run env (RowUpdate.chain updates) c).Logs fun _ added =>
      List.Forall₂ (fun u payload => Announces payload u) (written added) (announced added) := by
  have hstep (u : RowUpdate) (c : Context) : (u.operation.step env c).Logs fun _ added =>
      List.Forall₂ (fun u payload => Announces payload u) (written added) (announced added) := by
    refine (step_calls u env c).mono fun out added h => ?_
    rw [← announced_calls, ← written_calls]
    exact announces_of_stepCalls h
  induction updates with
  | nil => exact fun c => Logs.of_exec_eq (fun _ => rfl) .nil
  | cons u updates ih =>
    intro c
    refine ((hstep u c).bind ih).mono ?_
    rintro out added (⟨fault, -, h⟩ | ⟨next, first, rest, rfl, hfirst, hrest⟩)
    · exact h
    · rw [announced_append, written_append]
      exact List.rel_append hfirst hrest

/-! ## Attempts -/

/-- What holds across every attempt holds across the attempts together. -/
theorem Program.Cumulative.retry {R : Session σ β → Session σ β → Prop} (hR : Cumulative R)
    (policy : RetryPolicy) (label : String) {operation : Program σ β α}
    (hop : ∀ s, R s (exec operation s).2) (spare : ℕ) :
    ∀ attempt s, R s (exec (policy.attemptFrom label operation attempt spare) s).2 := by
  induction spare with
  | zero =>
    intro attempt s
    rw [RetryPolicy.attemptFrom]
    refine hR.bind (hop s) ?_
    rintro (fault | a) s' -
    · simp only
      split
      · exact hR.bind (hR.report s' _) fun _ s'' _ => hR.refl s''
      · exact hR.refl s'
    · exact hR.refl s'
  | succ spare ih =>
    intro attempt s
    rw [RetryPolicy.attemptFrom]
    refine hR.bind (hop s) ?_
    rintro (fault | a) s' -
    -- a transient fault is reported before the attempts that remain
    · simp only
      split
      · exact hR.bind (hR.report s' _) fun _ s'' _ => ih (attempt + 1) s''
      · exact hR.refl s'
    · exact hR.refl s'

/-! ## What is written -/

/-- The update is of a row of the object. -/
def Update.IsOf (o : Object) (u : Update) : Prop :=
  u.table = o.table ∧ u.primaryKey = o.primaryKey

/-- Between the sessions the tables have changed by the updates in the log, all of rows of the
object. -/
def Rewrites (o : Object) (s s' : Session Memory β) : Prop :=
  ∃ added, s'.log = s.log ++ added ∧ (∀ u ∈ written added, u.IsOf o) ∧
    s'.storage.tables = (written added).foldl Tables.write s.storage.tables

namespace Rewrites

variable {o : Object}

/-- Entries that record no update go with tables that stay as they are. -/
theorem of_unwritten {s s' : Session Memory β} {added : List Entry}
    (hlog : s'.log = s.log ++ added) (hadded : written added = [])
    (htables : s'.storage.tables = s.storage.tables) : Rewrites o s s' := by
  refine ⟨added, hlog, ?_, ?_⟩
  · rw [hadded]
    exact fun u hu => absurd hu List.not_mem_nil
  · rw [hadded]
    exact htables

theorem cumulative (o : Object) : Cumulative (Rewrites (β := β) o) where
  refl s := of_unwritten (List.append_nil _).symm rfl rfl
  trans := by
    rintro s s' s'' ⟨first, hlog, hof, htables⟩ ⟨rest, hlog', hof', htables'⟩
    refine ⟨first ++ rest, by rw [hlog', hlog, List.append_assoc], ?_, ?_⟩
    · rw [written_append]
      exact List.forall_mem_append.mpr ⟨hof, hof'⟩
    · rw [written_append, List.foldl_append, htables', htables]
  report s event := of_unwritten rfl rfl rfl

end Rewrites

/-- An attempt writes what it was given, or it fails and leaves every table as it was. -/
theorem exec_updateRow_memory (o : Object) (id : Json) (values : Row) (scope : Option Scope)
    (s : Session Memory β) :
    ∃ out : Except Fault Row,
      (exec (o.updateRow Memory.storage id values scope) s).1 =
          out.mapError (Fault.withSql (o.update id values).sql) ∧
      (exec (o.updateRow Memory.storage id values scope) s).2.log =
          s.log ++ [.updated (o.update id values) scope out] ∧
      (exec (o.updateRow Memory.storage id values scope) s).2.storage.tables =
        match out with
        | .ok _ => s.storage.tables.write (o.update id values)
        | .error _ => s.storage.tables :=
  ⟨_, rfl, rfl, Memory.tables_update s.storage (o.update id values)⟩

/-- A write that fails changes no table. -/
theorem tables_of_failed_updateRow {o : Object} {id : Json} {values : Row} {scope : Option Scope}
    {s s' : Session Memory β} {fault : Fault}
    (h : exec (o.updateRow Memory.storage id values scope) s = (.error fault, s')) :
    s'.storage.tables = s.storage.tables := by
  obtain ⟨out, hout, -, htables⟩ := exec_updateRow_memory o id values scope s
  rw [h] at hout htables
  cases out with
  | ok row => cases hout
  | error fault' => exact htables

namespace Rewrites

/-- A write adds itself to what the log says of the tables, if it succeeds. -/
theorem updateRow (o : Object) (id : Json) (values : Row) (scope : Option Scope)
    (s : Session Memory β) :
    Rewrites o s (exec (o.updateRow Memory.storage id values scope) s).2 := by
  obtain ⟨out, -, hlog, htables⟩ := exec_updateRow_memory o id values scope s
  cases out with
  | error fault => exact of_unwritten hlog rfl htables
  | ok row =>
    refine ⟨_, hlog, ?_, htables⟩
    exact List.forall_mem_singleton.mpr ⟨rfl, rfl⟩

variable {env : Surroundings Memory β}

/-- An announcement changes no table. -/
theorem writeAndAnnounce (henv : env.request.storage = Memory.storage) (current : Active)
    (id : Json) (values : Row) (s : Session Memory β) :
    Rewrites current.object s
      (exec (RowUpdate.writeAndAnnounce current env id values) s).2 := by
  have hR := cumulative (β := β) current.object
  unfold RowUpdate.writeAndAnnounce
  refine hR.bind (hR.retry _ _ (fun s => ?_) _ _ s) ?_
  · rw [henv]
    exact updateRow current.object id values env.scope s
  -- a round trip does not reach the storage, whatever comes back
  intro row s' _
  refine hR.bind (of_unwritten rfl rfl rfl) ?_
  intro reply s'' _
  exact hR.refl s''

theorem step (henv : env.request.storage = Memory.storage) (u : RowUpdate) {c : Context}
    {o : Object} (ho : c.object = some o) (s : Session Memory β) :
    Rewrites o s (exec (u.operation.step env c) s).2 := by
  refine (cumulative o).step u.operation fun object data hobject => ?_
  obtain rfl : o = object := Option.some.inj (ho.symm.trans hobject)
  change Rewrites o s (exec (u.perform ⟨c, o, data⟩ env) s).2
  rcases u.perform_cases ⟨c, o, data⟩ env s with hnext | ⟨fault, hfault⟩ | ⟨id, values, hwrite⟩
  · rw [hnext]
    exact (cumulative o).refl s
  · rw [hfault]
    exact (cumulative o).refl s
  · rw [hwrite]
    exact writeAndAnnounce henv ⟨c, o, data⟩ id values s

end Rewrites

/-- A row update passes its object on. -/
theorem object_of_step {u : RowUpdate} {env : Surroundings σ β} {c next : Context}
    {s s' : Session σ β} (h : exec (u.operation.step env c) s = (.ok next, s')) :
    next.object = c.object := by
  rcases c.incomplete_or with hlack | ⟨o, data, ho, hd⟩
  · rw [exec_step_incomplete _ env hlack] at h
    cases h
    rfl
  · have hop : u.operation.perform (σ := σ) (β := β) = u.perform := rfl
    rw [exec_step _ env ho hd, hop] at h
    rcases hexec : exec (u.perform ⟨c, o, data⟩ env) s with ⟨fault | made, s''⟩
    · rw [hexec] at h
      cases h
    · rw [hexec] at h
      cases h
      obtain ⟨data', rfl⟩ := RowUpdate.successor_of_perform hexec
      rfl

/-! ## A whole run -/

/-- **The tables after a run are those before it, with what the log says written over them.** -/
theorem run_rewrites {env : Surroundings Memory β} (henv : env.request.storage = Memory.storage)
    (updates : List RowUpdate) {o : Object} :
    ∀ {c : Context}, c.object = some o → ∀ s,
      Rewrites o s (exec (Chain.run env (RowUpdate.chain updates) c) s).2 := by
  induction updates with
  | nil => exact fun _ s => (Rewrites.cumulative o).refl s
  | cons u updates ih =>
    intro c ho s
    refine (Rewrites.cumulative o).bind (Rewrites.step henv u ho s) fun next s' hnext => ?_
    exact ih ((object_of_step hnext).trans ho) s'

/-- Applies an announcement: its values are written over the first row of the object's table that
has its id. -/
def Object.replay (o : Object) (tables : Tables) (payload : Json) : Tables :=
  match payload.get? "ID", payload.get? "values" with
  | some id, some (.object values) => tables.overlayFirst o.table o.primaryKey id values
  | _, _ => tables

/-- Replaying an announcement writes what was announced. -/
theorem Announces.replay {o : Object} {payload : Json} {u : Update} (h : Announces payload u)
    (hu : u.IsOf o) (tables : Tables) : o.replay tables payload = tables.write u := by
  unfold Object.replay Tables.write
  rw [h.1, h.2, hu.1, hu.2]

/-- The announcements in a log tell how the tables came about. -/
structure Replays (o : Object) (before : Tables) (log : List Entry) (after : Tables) : Prop where
  replayed : (announced log).foldl o.replay before = after
  /-- Each write is of a row of the object and is announced, in the same order. -/
  writes : List.Forall₂ (fun u payload => u.IsOf o ∧ Announces payload u) (written log)
    (announced log)
  /-- Every row stays in its place. -/
  keeps : before.Keeps o.table ((written log).map Update.values) after

/-- Announcements of all writes, applied in order, do what the writes did. -/
theorem foldl_replay {o : Object} {updates : List Update} {payloads : List Json}
    (h : List.Forall₂ (fun u payload => u.IsOf o ∧ Announces payload u) updates payloads)
    (tables : Tables) : payloads.foldl o.replay tables = updates.foldl Tables.write tables := by
  induction h generalizing tables with
  | nil => rfl
  | cons hfirst _ ih => rw [List.foldl_cons, List.foldl_cons, hfirst.2.replay hfirst.1, ih]

/-- **The announcements of a run replay the tables**, whether the run succeeds or fails. -/
theorem run_replays {env : Surroundings Memory β} (henv : env.request.storage = Memory.storage)
    (updates : List RowUpdate) {o : Object} {start : Context} (ho : start.object = some o)
    (s : Session Memory β) :
    (∃ added, (exec (Chain.run env (RowUpdate.chain updates) start) s).2.log = s.log ++ added ∧
      Replays o s.storage.tables added
        (exec (Chain.run env (RowUpdate.chain updates) start) s).2.storage.tables) ∧
    ∀ id values (t t' : Session Memory β) fault,
      exec (o.updateRow env.request.storage id values env.scope) t = (.error fault, t') →
        t'.storage.tables = t.storage.tables := by
  refine ⟨?_, ?_⟩
  · obtain ⟨added, hlog, hof, htables⟩ := run_rewrites henv updates ho s
    obtain ⟨added', hlog', hannounces⟩ := run_announces updates env start s
    -- both accounts are of the entries that this run added
    obtain rfl : added' = added := List.append_cancel_left (hlog'.symm.trans hlog)
    have hwrites := (List.forall₂_and_left _ _).mpr ⟨hof, hannounces⟩
    refine ⟨added', hlog, ?_, hwrites, ?_⟩
    · rw [foldl_replay hwrites, htables]
    · rw [htables]
      exact Tables.keeps_foldl_write (fun u hu => (hof u hu).1) _
  · intro id values t t' fault h
    rw [henv] at h
    exact tables_of_failed_updateRow h

/-! ## A part under another code -/

/-- Parts whose code, their key, can be set like their size. -/
def Object.coded : Object :=
  { Object.parts with
    fields := [⟨"size", "size", none, none, false, none, [], none⟩,
      ⟨"code", "uuid", none, none, false, none, [], none⟩] }

def Object.codedPart (code : String) (size : ℕ) : Row :=
  [("size", .ofNat size), ("uuid", .string code)]

/-- Two such parts, in a table that others have locked once more. -/
def lockedParts : Session Memory Responder :=
  { storage :=
      { tables := [("Parts", [Object.codedPart "a" 2, Object.codedPart "c" 9])], failing := 1 }
    bus := .echo }

/-- The first update gives the part another code, under which the second one finds it. -/
def recode : List RowUpdate :=
  [⟨[⟨"size", .ofNat 3⟩, ⟨"code", .string "b"⟩]⟩, ⟨[⟨"size", .ofNat 4⟩]⟩]

def codedStart : Context :=
  { label := "start", object := some Object.coded, data := some (Object.codedPart "a" 2) }

theorem run_replays_recode :
    shop.request.storage = Memory.storage ∧ codedStart.object = some Object.coded ∧
    (∃ added, (exec (Chain.run shop (RowUpdate.chain recode) codedStart) lockedParts).2.log =
        added ∧
      Replays Object.coded lockedParts.storage.tables added
        [("Parts", [Object.codedPart "b" 4, Object.codedPart "c" 9])]) ∧
    ∃ fault t, exec (Object.coded.updateRow Memory.storage (.string "a") [] none) lockedParts =
        (.error fault, t) ∧ t.storage.tables = lockedParts.storage.tables := by
  have hstorage : shop.request.storage = Memory.storage := rfl
  have hobject : codedStart.object = some Object.coded := rfl
  obtain ⟨hrun, hfailed⟩ := run_replays hstorage recode hobject lockedParts
  exact ⟨hstorage, hobject, hrun, _, _, rfl, hfailed (.string "a") [] lockedParts _ _ rfl⟩

end Fieldwork
