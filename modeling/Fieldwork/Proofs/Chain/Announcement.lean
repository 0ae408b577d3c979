import Fieldwork.Chain.RowUpdate
import Fieldwork.Proofs.Chain.Run
import Fieldwork.Proofs.Condition.Compile
import Mathlib.Data.List.Chain

/-!
# A write is announced before anything else happens

A chain of row updates asks its services for writes and round trips only, in a fixed
order: attempts at one write until it succeeds or is given up, and right after a success
the announcement of that very write.

* `attemptFrom_attempts`: the attempts at a write repeat it unchanged.
* `step_calls`: what one step may ask of the services.
* `run_writes_then_notifies`: **every run of a chain writes first and then notifies**,
  whatever the storage and the bus answer, and a step that fails after its own write fails
  with a notification fault.
-/

namespace Fieldwork

open Program

def Entry.isCall : Entry → Bool
  | .selected .. | .updated .. | .requested .. => true
  | .performed _ | .reported _ => false

/-- The entries of a log that ask something of a service. -/
def calls (log : List Entry) : List Entry :=
  log.filter Entry.isCall

theorem calls_append (a b : List Entry) : calls (a ++ b) = calls a ++ calls b :=
  List.filter_append ..

/-- The payload names the row and the values of a write. -/
def Announces (payload : Json) (w : Update) : Prop :=
  payload.get? "ID" = some w.id ∧ payload.get? "values" = some (.object w.values)

/-- Writes come first and are announced at once, in the scope the chain was given. -/
structure WriteThenNotify (scope : Option Scope) (cs : List Entry) : Prop where
  no_select : ∀ plan sc out, Entry.selected plan sc out ∉ cs
  in_scope : ∀ w sc out, Entry.updated w sc out ∈ cs → sc = scope
  /-- A request is about the write right before it. -/
  request_after_write : ∀ i topic payload out, cs[i]? = some (.requested topic payload out) →
    ∃ j w row, i = j + 1 ∧ cs[j]? = some (.updated w scope (.ok row)) ∧ Announces payload w
  /-- One request follows a write that succeeded. -/
  write_then_request : ∀ i w sc row, cs[i]? = some (.updated w sc (.ok row)) →
    (∃ topic payload out, cs[i + 1]? = some (.requested topic payload out)) ∧
      ∀ topic payload out, cs[i + 2]? ≠ some (.requested topic payload out)
  /-- A write that failed is repeated as it was, or nothing follows. -/
  failure_then_retry : ∀ i w sc fault, cs[i]? = some (.updated w sc (.error fault)) →
    cs.length = i + 1 ∨ ∃ out, cs[i + 1]? = some (.updated w sc out)

/-! ## Calls one after another -/

/-- Which call may come right after which. -/
def Entry.LeadsTo : Entry → Entry → Prop
  | .updated w _ (.ok _), .requested _ payload _ => Announces payload w
  | .updated w sc (.error _), .updated w' sc' _ => w' = w ∧ sc' = sc
  | .requested .., .updated .. => True
  | _, _ => False

/-- Each call leads to the next, the first one is a write, and no success is left unannounced. -/
structure Linked (scope : Option Scope) (cs : List Entry) : Prop where
  chain : cs.IsChain Entry.LeadsTo
  head : ∀ c ∈ cs.head?, ∃ w out, c = .updated w scope out
  last : ∀ c ∈ cs.getLast?, ∀ w sc row, c ≠ .updated w sc (.ok row)
  served : ∀ c ∈ cs, (∃ w out, c = .updated w scope out) ∨
    ∃ topic payload out, c = .requested topic payload out

namespace Linked

variable {scope : Option Scope} {cs ds : List Entry}

theorem nil : Linked scope [] :=
  ⟨.nil, by simp, by simp, by simp⟩

/-- Calls that end in a request may be followed by further ones. -/
theorem append (hc : Linked scope cs) (hd : Linked scope ds)
    (hend : ∀ c ∈ cs.getLast?, ∃ topic payload out, c = .requested topic payload out) :
    Linked scope (cs ++ ds) := by
  refine ⟨List.isChain_append.2 ⟨hc.chain, hd.chain, ?_⟩, ?_, ?_, ?_⟩
  · intro a ha b hb
    obtain ⟨topic, payload, out, rfl⟩ := hend a ha
    obtain ⟨w, out', rfl⟩ := hd.head b hb
    trivial
  · intro c h
    cases cs with
    | nil => exact hd.head c h
    | cons a cs => exact hc.head c h
  · intro c h
    cases hds : ds.getLast? with
    | none => simp [List.getLast?_append, hds] at h; exact hc.last c h
    | some d => simp [List.getLast?_append, hds] at h; exact hd.last c (by rw [hds, h]; rfl)
  · intro c h
    rcases List.mem_append.1 h with h | h
    · exact hc.served c h
    · exact hd.served c h

theorem leadsTo_getElem? (h : Linked scope cs) {i : ℕ} {a b : Entry} (ha : cs[i]? = some a)
    (hb : cs[i + 1]? = some b) : a.LeadsTo b := by
  obtain ⟨hi, rfl⟩ := List.getElem?_eq_some_iff.1 ha
  obtain ⟨hi', rfl⟩ := List.getElem?_eq_some_iff.1 hb
  exact h.chain.getElem i hi'

/-- A call is the last one or leads to the next. -/
theorem last_or_next (h : Linked scope cs) {i : ℕ} {a : Entry} (ha : cs[i]? = some a) :
    (cs.length = i + 1 ∧ a ∈ cs.getLast?) ∨ ∃ b, cs[i + 1]? = some b ∧ a.LeadsTo b := by
  have hi : i < cs.length := (List.getElem?_eq_some_iff.1 ha).1
  rcases Nat.lt_or_ge (i + 1) cs.length with hlt | hge
  · have hb : cs[i + 1]? = some cs[i + 1] := List.getElem?_eq_getElem hlt
    exact Or.inr ⟨_, hb, h.leadsTo_getElem? ha hb⟩
  · have hlen : cs.length = i + 1 := by omega
    refine Or.inl ⟨hlen, ?_⟩
    rw [List.getLast?_eq_getElem?, hlen, Nat.add_sub_cancel, ha]
    rfl

theorem writeThenNotify (h : Linked scope cs) : WriteThenNotify scope cs where
  no_select plan sc out hmem := by
    rcases h.served _ hmem with ⟨w, out, heq⟩ | ⟨topic, payload, out, heq⟩ <;> cases heq
  in_scope w sc out hmem := by
    rcases h.served _ hmem with ⟨w', out', heq⟩ | ⟨topic, payload, out', heq⟩ <;> cases heq
    rfl
  request_after_write i topic payload out hi := by
    cases i with
    -- the first call is a write
    | zero =>
      obtain ⟨w, out', heq⟩ := h.head _ (by rw [List.head?_eq_getElem?, hi]; rfl)
      cases heq
    | succ j =>
      have hj : j < cs.length := by have := (List.getElem?_eq_some_iff.1 hi).1; omega
      have ha : cs[j]? = some cs[j] := List.getElem?_eq_getElem hj
      have hlead := h.leadsTo_getElem? ha hi
      rcases h.served _ (List.getElem_mem hj) with ⟨w, out', heq⟩ | ⟨topic', payload', out', heq⟩
      · rw [heq] at hlead ha
        cases out' with
        | ok row => exact ⟨j, w, row, rfl, ha, hlead⟩
        | error fault => exact hlead.elim
      · rw [heq] at hlead
        exact hlead.elim
  write_then_request i w sc row hi := by
    rcases h.last_or_next hi with ⟨-, hlast⟩ | ⟨b, hb, hlead⟩
    · exact absurd rfl (h.last _ hlast w sc row)
    · have hreq : ∃ topic payload out, b = .requested topic payload out := by
        rcases h.served b (List.mem_of_getElem? hb) with ⟨w', out', rfl⟩ | hreq
        · exact hlead.elim
        · exact hreq
      obtain ⟨topic, payload, out, rfl⟩ := hreq
      refine ⟨⟨topic, payload, out, hb⟩, ?_⟩
      intro topic' payload' out' hb'
      exact h.leadsTo_getElem? hb hb'
  failure_then_retry i w sc fault hi := by
    rcases h.last_or_next hi with ⟨hlen, -⟩ | ⟨b, hb, hlead⟩
    · exact Or.inl hlen
    · right
      rcases h.served b (List.mem_of_getElem? hb) with ⟨w', out', rfl⟩ | ⟨_, _, _, rfl⟩
      · obtain ⟨rfl, rfl⟩ : w' = w ∧ scope = sc := hlead
        exact ⟨out', hb⟩
      · exact hlead.elim

end Linked

/-! ## What one step asks for -/

/-- The attempts at a write: all but the last one failed for a while. -/
def Attempts (scope : Option Scope) (w : Update) (out : Except Fault Row) (cs : List Entry) :
    Prop :=
  ∃ (faults : List Fault) (last : Except Fault Row),
    cs = faults.map (fun f => .updated w scope (.error f)) ++ [.updated w scope last] ∧
      out = last.mapError (Fault.withSql w.sql)

/-- **What one step may ask of the services**, by its outcome: nothing, a write that is given
up, or a write that succeeds and its announcement. -/
inductive StepCalls (scope : Option Scope) : Except Fault Context → List Entry → Prop where
  | idle {out : Except Fault Context} : StepCalls scope out []
  | refused {w : Update} {faults : List Fault} {last f : Fault} :
      StepCalls scope (.error f)
        (faults.map (fun g => .updated w scope (.error g)) ++ [.updated w scope (.error last)])
  | announced {w : Update} {faults : List Fault} {row : Row} {topic : String} {payload : Json}
      {reply : Except Fault Json} {out : Except Fault Context} (hp : Announces payload w)
      (hout : ∀ f, out = .error f → f.kind = .notification) :
      StepCalls scope out
        (faults.map (fun g => .updated w scope (.error g)) ++
          [.updated w scope (.ok row), .requested topic payload reply])

variable {σ β : Type}

theorem exec_updateRow (o : Object) (storage : Storage σ) (id : Json) (values : Row)
    (scope : Option Scope) (s : Session σ β) :
    exec (o.updateRow storage id values scope) s =
      ((storage.update (o.update id values) scope s.storage).1.mapError
          (Fault.withSql (o.update id values).sql),
       { s with
         storage := (storage.update (o.update id values) scope s.storage).2
         log := s.log ++ [.updated (o.update id values) scope
           (storage.update (o.update id values) scope s.storage).1] }) := rfl

/-- The attempts at a write repeat it unchanged, in the same scope. -/
theorem attemptFrom_attempts (p : RetryPolicy) (label : String) (o : Object)
    (storage : Storage σ) (id : Json) (values : Row) (scope : Option Scope) (spare : ℕ) :
    ∀ attempt, (p.attemptFrom (β := β) label (o.updateRow storage id values scope) attempt
      spare).Logs fun out added => Attempts scope (o.update id values) out (calls added) := by
  induction spare with
  | zero =>
    intro attempt s
    rw [RetryPolicy.attemptFrom, exec_bind, exec_outcome, exec_updateRow]
    rcases storage.update (o.update id values) scope s.storage with ⟨fault | row, next⟩
    · simp only [mapError_error]
      by_cases ht : (fault.withSql (o.update id values).sql).isTransient = true
      · rw [if_pos ht, exec_bind, exec_report]
        exact ⟨_, List.append_assoc .., [], .error fault, rfl, rfl⟩
      · rw [if_neg ht]
        exact ⟨_, rfl, [], .error fault, rfl, rfl⟩
    · exact ⟨_, rfl, [], .ok row, rfl, rfl⟩
  | succ spare ih =>
    intro attempt s
    rw [RetryPolicy.attemptFrom, exec_bind, exec_outcome, exec_updateRow]
    rcases storage.update (o.update id values) scope s.storage with ⟨fault | row, next⟩
    · simp only [mapError_error]
      by_cases ht : (fault.withSql (o.update id values).sql).isTransient = true
      · -- the first failure comes before the attempts that remain
        rw [if_pos ht, exec_bind, exec_report]
        simp only
        obtain ⟨added, hlog, faults, last, hcs, hout⟩ := ih (attempt + 1) _
        refine ⟨_, hlog.trans (by rw [List.append_assoc, List.append_assoc]), fault :: faults,
          last, ?_, hout⟩
        rw [calls_append, calls_append, hcs]
        rfl
      · rw [if_neg ht]
        exact ⟨_, rfl, [], .error fault, rfl, rfl⟩
    · exact ⟨_, rfl, [], .ok row, rfl, rfl⟩

theorem kind_asNotification (topic : String) (f : Fault) :
    (f.asNotification topic).kind = .notification := by
  cases f <;> rfl

/-- A round trip is one request, and its faults are notification faults. -/
theorem send_request (r : Request σ β) (topic : String) (payload : Json) :
    (r.send topic payload).Logs fun out added =>
      (∃ reply, added = [.requested topic payload reply]) ∧
        ∀ f, out = .error f → f.kind = .notification := by
  intro s
  refine ⟨_, rfl, ⟨_, rfl⟩, ?_⟩
  intro f hf
  change (r.bus.request topic payload s.bus).1.mapError (Fault.asNotification topic) = _ at hf
  rcases h : (r.bus.request topic payload s.bus).1 with g | reply
  · rw [h] at hf; cases hf; exact kind_asNotification topic g
  · rw [h] at hf; cases hf

theorem announces_announcement (o : Object) (id : Json) (values : Row) :
    Announces (RowUpdate.announcement o id values) (o.update id values) := by
  refine ⟨?_, ?_⟩ <;>
    simp [RowUpdate.announcement, Json.get?, Record.ofList, Record.overlay, Object.update,
      Record.get?_insert_of_ne]

namespace RowUpdate

/-- What comes back from a round trip makes the next context, if it is a row. -/
def replied (current : Active) (topic : String) : Json → Except Fault Context
  | .object updated => .ok ((current.context.successor label).withData updated)
  | reply => .error (.notification topic ("expected the updated row, got " ++ reply.text))

/-- The part of a row update that uses the services, once the row and the values are known. -/
def writeAndAnnounce (current : Active) (env : Surroundings σ β) (id : Json) (values : Row) :
    Program σ β Context := do
  let r := env.request
  let _ ← r.policy.run label (current.object.updateRow r.storage id values env.scope)
  let reply ← r.send r.topic (announcement current.object id values)
  Program.ofExcept (replied current r.topic reply)

/-- A row update has nothing to write, cannot be resolved, or writes and announces. -/
theorem exec_perform (u : RowUpdate) (current : Active) (env : Surroundings σ β)
    (s : Session σ β) :
    exec (u.perform current env) s =
      if u.assignments.isEmpty then (.ok (current.context.successor label), s)
      else match columnValues current.object u.assignments [] with
        | .error fault => (.error fault, s)
        | .ok values => match keyOf current.object current.data with
          | .error fault => (.error fault, s)
          | .ok id =>
            exec (writeAndAnnounce current env id (current.object.normalise values)) s := by
  unfold perform
  by_cases hempty : u.assignments.isEmpty = true
  · rw [if_pos hempty, if_pos hempty, exec_pure]
  rw [if_neg hempty, if_neg hempty]
  simp only [exec_bind, exec_ofExcept]
  rcases columnValues current.object u.assignments [] with fault | values
  · rfl
  rcases keyOf current.object current.data with fault | id
  · rfl
  simp only [writeAndAnnounce, exec_bind]
  rcases exec (env.request.policy.run label _) s with ⟨fault | row, s'⟩
  · rfl
  simp only
  rcases exec (env.request.send _ _) s' with ⟨fault | reply, s''⟩
  · rfl
  cases reply <;> rfl

end RowUpdate

/-- A write and its announcement: attempts at the write and, if one succeeds, one request. -/
theorem writeAndAnnounce_calls (current : Active) (env : Surroundings σ β) (id : Json)
    (values : Row) :
    (RowUpdate.writeAndAnnounce current env id values).Logs fun out added =>
      StepCalls env.scope out (calls added) := by
  have hann := announces_announcement current.object id values
  have hwrite := attemptFrom_attempts (β := β) env.request.policy RowUpdate.label current.object
    env.request.storage id values env.scope (env.request.policy.maxAttempts.toNat - 1) 1
  have hsend := send_request env.request env.request.topic
    (RowUpdate.announcement current.object id values)
  have hreply : ∀ reply, (ofExcept (σ := σ) (β := β)
      (RowUpdate.replied current env.request.topic reply)).Logs
      fun out added => added = [] ∧ ∀ f, out = .error f → f.kind = .notification := by
    intro reply
    refine Logs.of_exec_eq (fun _ => exec_ofExcept _ _) ⟨rfl, ?_⟩
    intro f hf
    cases reply <;> cases hf <;> rfl
  refine Logs.mono (hwrite.bind fun _ => hsend.bind hreply) ?_
  rintro out added (⟨fault, rfl, faults, last, hcs, hlast⟩ |
    ⟨row, first, rest, rfl, ⟨faults, last, hcs, hlast⟩, hrest⟩)
  -- the write was given up, so its last attempt failed
  · cases last with
    | error f => rw [hcs]; exact .refused
    | ok row => cases hlast
  -- the write succeeded: the request fails, or its reply is or is not a row
  · cases last with
    | error f => cases hlast
    | ok row' =>
      rw [calls_append, hcs, List.append_assoc]
      rcases hrest with ⟨fault, rfl, ⟨reply, rfl⟩, hkind⟩ |
        ⟨reply, round, tail, rfl, ⟨⟨reply', rfl⟩, -⟩, rfl, hkind⟩
      · refine .announced hann ?_
        intro f hf
        cases hf
        exact hkind fault rfl
      · exact .announced hann hkind

/-- **What one step of the chain may ask for**, whatever context it gets. -/
theorem step_calls (u : RowUpdate) (env : Surroundings σ β) (c : Context) :
    (u.operation.step env c).Logs fun out added => StepCalls env.scope out (calls added) := by
  intro s
  rcases ho : c.object with _ | object
  · unfold Operation.step; rw [ho]; exact ⟨_, rfl, .idle⟩
  rcases hd : c.data with _ | data
  · unfold Operation.step; rw [ho, hd]; exact ⟨_, rfl, .idle⟩
  have hperform : ∃ added, (exec (u.perform ⟨c, object, data⟩ env) s).2.log = s.log ++ added ∧
      StepCalls env.scope (exec (u.perform ⟨c, object, data⟩ env) s).1 (calls added) := by
    rw [RowUpdate.exec_perform]
    split
    · exact ⟨[], by simp, .idle⟩
    split
    · exact ⟨[], by simp, .idle⟩
    split
    · exact ⟨[], by simp, .idle⟩
    · exact writeAndAnnounce_calls _ _ _ _ s
  obtain ⟨added, hlog, hcalls⟩ := hperform
  have hop : u.operation.perform (σ := σ) (β := β) = u.perform := rfl
  rw [exec_step _ _ ho hd, hop]
  rcases hp : exec (u.perform ⟨c, object, data⟩ env) s with ⟨fault | next, s'⟩
  -- the report of the fault is no call
  · rw [hp] at hlog hcalls
    refine ⟨added ++ [.reported (.stepFailed RowUpdate.label fault.message)], ?_, ?_⟩
    · rw [← List.append_assoc, ← hlog]
      rfl
    · show StepCalls env.scope (.error fault) (calls (added ++ _))
      rw [calls_append]
      simpa [calls, Entry.isCall] using hcalls
  · rw [hp] at hlog hcalls
    exact ⟨added, hlog, hcalls⟩

/-! ## What a whole chain asks for -/

/-- Failed attempts at a write lead to each other and to the attempt after them. -/
theorem chain_failures {scope : Option Scope} {w : Update} {out : Except Fault Row}
    {tail : List Entry} (h : (Entry.updated w scope out :: tail).IsChain Entry.LeadsTo)
    (faults : List Fault) :
    (faults.map (fun f => Entry.updated w scope (.error f)) ++
      .updated w scope out :: tail).IsChain Entry.LeadsTo := by
  induction faults with
  | nil => exact h
  | cons f faults ih =>
    cases faults with
    | nil => exact List.isChain_cons_cons.2 ⟨⟨rfl, rfl⟩, h⟩
    | cons g faults => exact List.isChain_cons_cons.2 ⟨⟨rfl, rfl⟩, ih⟩

theorem head_failures {scope : Option Scope} {w : Update} {out : Except Fault Row}
    {tail : List Entry} (faults : List Fault) :
    ∀ c ∈ (faults.map (fun f => Entry.updated w scope (.error f)) ++
      .updated w scope out :: tail).head?, ∃ w' out', c = .updated w' scope out' := by
  intro c hc
  cases faults with
  | nil => cases hc; exact ⟨_, _, rfl⟩
  | cons f faults => cases hc; exact ⟨_, _, rfl⟩

theorem StepCalls.linked {scope : Option Scope} {out : Except Fault Context} {cs : List Entry}
    (h : StepCalls scope out cs) : Linked scope cs := by
  cases h with
  | idle => exact Linked.nil
  | refused =>
    refine ⟨chain_failures (.singleton _) _, head_failures _, ?_, ?_⟩
    · intro c hc w sc row heq
      rw [List.getLast?_concat] at hc
      cases hc; cases heq
    · intro c hc
      rw [List.mem_append, List.mem_map, List.mem_singleton] at hc
      rcases hc with ⟨f, -, rfl⟩ | rfl <;> exact Or.inl ⟨_, _, rfl⟩
  | @announced w faults row topic payload reply _ hp _ =>
    have hlead : (Entry.updated w scope (.ok row)).LeadsTo (.requested topic payload reply) := hp
    refine ⟨chain_failures (List.isChain_pair.2 hlead) _, head_failures _, ?_, ?_⟩
    · intro c hc w sc row heq
      rw [List.getLast?_append_of_ne_nil _ (by simp)] at hc
      cases hc; cases heq
    · intro c hc
      rw [List.mem_append, List.mem_map, List.mem_pair] at hc
      rcases hc with ⟨f, -, rfl⟩ | rfl | rfl
      · exact Or.inl ⟨_, _, rfl⟩
      · exact Or.inl ⟨_, _, rfl⟩
      · exact Or.inr ⟨_, _, _, rfl⟩

/-- The calls of a step that hands on a context end in a request. -/
theorem StepCalls.ends_in_request {scope : Option Scope} {c : Context} {cs : List Entry}
    (h : StepCalls scope (.ok c) cs) :
    ∀ e ∈ cs.getLast?, ∃ topic payload out, e = .requested topic payload out := by
  intro e he
  cases h with
  | idle => cases he
  | announced hp _ =>
    rw [List.getLast?_append_of_ne_nil _ (by simp)] at he
    cases he
    exact ⟨_, _, _, rfl⟩

/-- The steps that stand for row updates. -/
def RowUpdate.chain (updates : List RowUpdate) : Chain σ β :=
  updates.map RowUpdate.operation

theorem run_linked (updates : List RowUpdate) (env : Surroundings σ β) :
    ∀ c, (Chain.run env (RowUpdate.chain updates) c).Logs fun _ added =>
      Linked env.scope (calls added) := by
  induction updates with
  | nil => intro c; exact Logs.of_exec_eq (fun _ => rfl) Linked.nil
  | cons u updates ih =>
    intro c
    refine Logs.mono ((step_calls u env c).bind ih) ?_
    rintro out added (⟨fault, -, hstep⟩ | ⟨next, first, rest, rfl, hstep, hrest⟩)
    · exact hstep.linked
    · rw [calls_append]
      exact hstep.linked.append hrest hstep.ends_in_request

/-- **Every run of a chain of row updates writes first and then notifies**, whatever the storage
and the bus answer; and if it fails in a step whose own write had succeeded, it fails with a
notification fault. -/
theorem run_writes_then_notifies (updates : List RowUpdate) (env : Surroundings σ β)
    (start : Context) (s : Session σ β) :
    (∃ added, (exec (Chain.run env (RowUpdate.chain updates) start) s).2.log = s.log ++ added ∧
      WriteThenNotify env.scope (calls added)) ∧
    ∀ f, (exec (Chain.run env (RowUpdate.chain updates) start) s).1 = .error f →
      ∃ done u rest c mid, updates = done ++ u :: rest ∧
        exec (Chain.run env (RowUpdate.chain done) start) s = (.ok c, mid) ∧
        exec (u.operation.step env c) mid =
          exec (Chain.run env (RowUpdate.chain updates) start) s ∧
        ((∃ w sc row, .updated w sc (.ok row) ∈
          (exec (u.operation.step env c) mid).2.log.drop mid.log.length) →
            f.kind = .notification) := by
  refine ⟨?_, ?_⟩
  · obtain ⟨added, hlog, hlinked⟩ := run_linked updates env start s
    exact ⟨added, hlog, hlinked.writeThenNotify⟩
  intro f hf
  obtain ⟨done, op, rest, c, mid, hsplit, hdone, heq⟩ := run_error env _ start s f hf
  obtain ⟨doneU, tail, hupd, rfl, htail⟩ := List.map_eq_append_iff.1 hsplit
  obtain ⟨u, restU, rfl, rfl, -⟩ := List.map_eq_cons_iff.1 htail
  refine ⟨doneU, u, restU, c, mid, hupd, hdone, heq, ?_⟩
  rintro ⟨w, sc, row, hmem⟩
  obtain ⟨added, hlog, hstep⟩ := step_calls u env c mid
  rw [hlog, List.drop_left] at hmem
  rw [heq, hf] at hstep
  have hcall : Entry.updated w sc (.ok row) ∈ calls added := List.mem_filter.2 ⟨hmem, rfl⟩
  -- of the three ways a step can go, only an announced write has a success in its calls
  generalize hcs : calls added = cs at hstep hcall
  cases hstep with
  | idle => cases hcall
  | refused => simp at hcall
  | announced _ hout => exact hout f rfl

end Fieldwork
