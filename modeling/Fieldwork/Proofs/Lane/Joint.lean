import Fieldwork.Lane.Basic

/-!
# Looking up roles and accounts at the same time

The users of a lane come from two inquiries that know nothing of each other: one for the roles and
then for their members, one for the accounts. Each waits for its look-ups one after the other, and
between the two any order of the answers is possible. Such an order is a list of turns. A directory
answers a look-up alike whenever it is asked, so nothing but the turns is left open.

* `joins_joint`: whatever the turns are, the inquiries give what each of them gives alone, or the
  fault of one of them.
* `gives_users`: the search of a lane is the one order in which the roles come first.
* `usersInTurns_eq_ok`, `usersInTurns_eq_error`: the turns make no difference where no look-up
  fails, and where one fails the fault of a look-up is all there is.
-/

namespace Fieldwork

/-- An inquiry that is done or waits for the answer to a look-up. -/
inductive Inquiry (α : Type) where
  | done (a : α)
  | users (c : Condition) (next : List SiteUser → Inquiry α)
  | roles (c : Condition) (next : List Role → Inquiry α)

/-- Which of two inquiries gets its answer. -/
inductive Turn where
  | left
  | right

namespace Inquiry

variable {α β : Type} (d : Directory)

/-- What becomes of an inquiry with the answer that it waits for. -/
def answer? : Inquiry α → Option (Except Fault (Inquiry α))
  | done _ => none
  | users c next => some ((d.users c).map next)
  | roles c next => some ((d.roles c).map next)

/-- What an inquiry comes to by itself. -/
def outcome : Inquiry α → Except Fault α
  | done a => .ok a
  | users c next => (d.users c).bind fun found => (next found).outcome
  | roles c next => (d.roles c).bind fun found => (next found).outcome

/-- Two inquiries at the same time. Each turn brings the answer that one of them waits for, if it
waits at all, and a failed look-up ends both. After the turns the first one goes on and then the
second. -/
def joint : List Turn → Inquiry α → Inquiry β → Except Fault (α × β)
  | [], p, q => (p.outcome d).bind fun a => (q.outcome d).map fun b => (a, b)
  | .left :: turns, p, q =>
    match p.answer? d with
    | none => joint turns p q
    | some answer => answer.bind fun p => joint turns p q
  | .right :: turns, p, q =>
    match q.answer? d with
    | none => joint turns p q
    | some answer => answer.bind fun q => joint turns p q

variable {d}

/-- An inquiry that is answered goes on from the answer. -/
theorem outcome_of_answer? {p : Inquiry α} {answer : Except Fault (Inquiry α)}
    (h : p.answer? d = some answer) : p.outcome d = answer.bind (outcome d) := by
  cases p with
  | done a => cases h
  | users c next =>
    cases h
    rw [outcome]
    cases d.users c <;> rfl
  | roles c next =>
    cases h
    rw [outcome]
    cases d.roles c <;> rfl

theorem outcome_users_done (c : Condition) : (users c done).outcome d = d.users c := by
  rw [outcome]
  cases d.users c <;> rfl

/-- What may come of two inquiries: what each comes to, or the fault of one of them. -/
def Joins (d : Directory) (p : Inquiry α) (q : Inquiry β) : Except Fault (α × β) → Prop
  | .ok (a, b) => p.outcome d = .ok a ∧ q.outcome d = .ok b
  | .error f => p.outcome d = .error f ∨ q.outcome d = .error f

section

variable {p : Inquiry α} {q : Inquiry β} {out : Except Fault (α × β)}

theorem Joins.congr {p' : Inquiry α} {q' : Inquiry β} (hp : p.outcome d = p'.outcome d)
    (hq : q.outcome d = q'.outcome d) (h : Joins d p' q' out) : Joins d p q out := by
  cases out with
  | ok pair => exact ⟨hp.trans h.1, hq.trans h.2⟩
  | error f => exact h.imp hp.trans hq.trans

/-- **No turn changes what may come of the inquiries.** -/
theorem joins_joint (turns : List Turn) (p : Inquiry α) (q : Inquiry β) :
    Joins d p q (joint d turns p q) := by
  induction turns generalizing p q with
  | nil =>
    unfold joint
    cases hp : p.outcome d with
    | error f => exact Or.inl hp
    | ok a =>
      cases hq : q.outcome d with
      | error f => exact Or.inr hq
      | ok b => exact ⟨hp, hq⟩
  | cons turn turns ih =>
    cases turn with
    | left =>
      unfold joint
      -- an answer moves one of the two on, towards the same outcome as before
      cases hanswer : p.answer? d with
      | none => exact ih p q
      | some answer =>
        have hp := outcome_of_answer? hanswer
        cases answer with
        | error f => exact Or.inl hp
        | ok p' => exact (ih p' q).congr hp rfl
    | right =>
      unfold joint
      cases hanswer : q.answer? d with
      | none => exact ih p q
      | some answer =>
        have hq := outcome_of_answer? hanswer
        cases answer with
        | error f => exact Or.inr hq
        | ok q' => exact (ih p q').congr rfl hq

/-- **Two inquiries that succeed give both results**, whichever of them is asked first. -/
theorem joint_eq_ok {a : α} {b : β} (hp : p.outcome d = .ok a) (hq : q.outcome d = .ok b)
    (turns : List Turn) : joint d turns p q = .ok (a, b) := by
  have hjoins := joins_joint (d := d) turns p q
  cases hout : joint d turns p q with
  | ok pair =>
    rw [hout] at hjoins
    obtain ⟨hp', hq'⟩ := hjoins
    cases hp.symm.trans hp'
    cases hq.symm.trans hq'
    rfl
  | error f =>
    rw [hout] at hjoins
    rcases hjoins with hf | hf
    · cases hp.symm.trans hf
    · cases hq.symm.trans hf

end

end Inquiry

/-! ## Searches -/

namespace Search

variable {α β : Type}

/-- What a search gives, whatever look-ups were made before. -/
def Gives (search : Search α) (out : Except Fault α) : Prop :=
  ∀ log, (search.run log).map Prod.fst = out

theorem gives_pure (a : α) : Gives (pure a) (.ok a) := fun _ => rfl

/-- A look-up of users gives what the directory has. -/
theorem gives_findUsers (d : Directory) (c : Condition) : Gives (d.findUsers c) (d.users c) := by
  intro log
  change ((d.users c).bind fun found => .ok (found, log ++ [c])).map Prod.fst = d.users c
  cases d.users c <;> rfl

/-- A look-up of roles gives what the directory has. -/
theorem gives_findRoles (d : Directory) (c : Condition) : Gives (d.findRoles c) (d.roles c) := by
  intro log
  change ((d.roles c).bind fun found => .ok (found, log ++ [c])).map Prod.fst = d.roles c
  cases d.roles c <;> rfl

/-- A search that goes on from another gives what follows from its result. -/
theorem Gives.bind {search : Search α} {out : Except Fault α} {next : α → Search β}
    {result : α → Except Fault β} (h : Gives search out) (hnext : ∀ a, Gives (next a) (result a)) :
    Gives (search >>= next) (out.bind result) := by
  intro log
  rw [← h log, StateT.run_bind]
  cases search.run log with
  | error f => rfl
  | ok pair => exact hnext pair.1 pair.2

end Search

/-! ## The inquiries of a lane -/

/-- The names of the members of roles, each once. -/
def memberNames (roles : List Role) : List String :=
  firstByKey (fun name => name) ((roles.flatMap Role.members).map Member.username) []

namespace Lane

variable (l : Lane) (d : Directory)

/-- The look-up of users by their accounts, if accounts are used and there are any. -/
def accountInquiry : Inquiry (List SiteUser) :=
  if l.useAccount && !l.accounts.isEmpty then .users (.oneOf "uuid" l.accounts) .done
  else .done []

/-- The look-up of roles, and then of the users that are named in them. -/
def roleInquiry : Inquiry (List SiteUser) :=
  if l.useRole && !l.roles.isEmpty then
    .roles (.oneOf "uuid" l.roles) fun roles =>
      match memberNames roles with
      | [] => .done []
      | names => .users (.oneOf "username" names) .done
  else .done []

/-- The users of a lane when its look-ups are answered in these turns, those for the roles on the
left. -/
def usersInTurns (turns : List Turn) : Except Fault (List SiteUser) :=
  (Inquiry.joint d turns l.roleInquiry l.accountInquiry).map fun (byRole, byAccount) =>
    firstByKey SiteUser.uuid (byRole ++ byAccount) []

/-- A look-up of the lane fails. -/
inductive Fails (f : Fault) : Prop where
  | roles (huse : l.useRole = true) (hlisted : l.roles ≠ [])
      (hfails : d.roles (.oneOf "uuid" l.roles) = .error f)
  | members {roles : List Role} (huse : l.useRole = true) (hlisted : l.roles ≠ [])
      (hroles : d.roles (.oneOf "uuid" l.roles) = .ok roles) (hnames : memberNames roles ≠ [])
      (hfails : d.users (.oneOf "username" (memberNames roles)) = .error f)
  | accounts (huse : l.useAccount = true) (hlisted : l.accounts ≠ [])
      (hfails : d.users (.oneOf "uuid" l.accounts) = .error f)

variable {l d}

theorem asked_iff {use : Bool} {ids : List String} :
    (use && !ids.isEmpty) = true ↔ use = true ∧ ids ≠ [] := by
  rw [Bool.and_eq_true, Bool.not_eq_true', List.isEmpty_eq_false_iff]

/-- Accounts that are not used, or not there, give nobody. -/
theorem outcome_accountInquiry :
    l.accountInquiry.outcome d =
      if l.useAccount = true ∧ l.accounts ≠ [] then d.users (.oneOf "uuid" l.accounts)
      else .ok [] := by
  unfold accountInquiry
  simp only [asked_iff]
  split
  · exact Inquiry.outcome_users_done _
  · rfl

/-- Roles that are not used, or not there, or without members give nobody. -/
theorem outcome_roleInquiry :
    l.roleInquiry.outcome d =
      if l.useRole = true ∧ l.roles ≠ [] then
        (d.roles (.oneOf "uuid" l.roles)).bind fun roles =>
          if memberNames roles = [] then .ok []
          else d.users (.oneOf "username" (memberNames roles))
      else .ok [] := by
  unfold roleInquiry
  simp only [asked_iff]
  split
  · rw [Inquiry.outcome]
    congr 1
    funext roles
    cases hnames : memberNames roles with
    | nil => rfl
    | cons name names => exact Inquiry.outcome_users_done _
  · rfl

/-- The search by account gives what its look-up gives. -/
theorem gives_accountUsers : Search.Gives (l.accountUsers d) (l.accountInquiry.outcome d) := by
  rw [outcome_accountInquiry]
  unfold accountUsers
  simp only [asked_iff]
  split
  · exact Search.gives_findUsers d _
  · exact Search.gives_pure []

/-- The search by role gives what its two look-ups give. -/
theorem gives_roleUsers : Search.Gives (l.roleUsers d) (l.roleInquiry.outcome d) := by
  rw [outcome_roleInquiry]
  unfold roleUsers
  simp only [asked_iff]
  split
  · refine (Search.gives_findRoles d _).bind fun roles => ?_
    unfold memberNames
    cases firstByKey (fun name => name) ((roles.flatMap Role.members).map Member.username) [] with
    | nil => exact Search.gives_pure []
    | cons name names => exact Search.gives_findUsers d _
  · exact Search.gives_pure []

/-- **The search of a lane looks up the roles first** and then the accounts. -/
theorem gives_users : Search.Gives (l.users d) (l.usersInTurns d []) := by
  have hturns : l.usersInTurns d [] = (l.roleInquiry.outcome d).bind fun byRole =>
      (l.accountInquiry.outcome d).bind fun byAccount =>
        .ok (firstByKey SiteUser.uuid (byRole ++ byAccount) []) := by
    unfold usersInTurns Inquiry.joint
    cases l.roleInquiry.outcome d with
    | error f => rfl
    | ok byRole => cases l.accountInquiry.outcome d <;> rfl
  rw [hturns]
  exact gives_roleUsers.bind fun byRole => gives_accountUsers.bind fun byAccount =>
    Search.gives_pure _

/-- A fault of a lane is that of one of its two searches. -/
theorem fails_iff {f : Fault} :
    l.Fails d f ↔ l.roleInquiry.outcome d = .error f ∨ l.accountInquiry.outcome d = .error f := by
  constructor
  · intro h
    cases h with
    | roles huse hlisted hfails =>
      refine Or.inl ?_
      rw [outcome_roleInquiry, if_pos ⟨huse, hlisted⟩, hfails]
      rfl
    | members huse hlisted hroles hnames hfails =>
      refine Or.inl ?_
      rw [outcome_roleInquiry, if_pos ⟨huse, hlisted⟩, hroles]
      exact (if_neg hnames).trans hfails
    | accounts huse hlisted hfails =>
      refine Or.inr ?_
      rw [outcome_accountInquiry, if_pos ⟨huse, hlisted⟩, hfails]
  · rintro (h | h)
    · rw [outcome_roleInquiry] at h
      split at h
      next hasked =>
        cases hroles : d.roles (.oneOf "uuid" l.roles) with
        | error g =>
          rw [hroles] at h
          cases h
          exact .roles hasked.1 hasked.2 hroles
        | ok roles =>
          rw [hroles, Except.bind] at h
          split at h
          next => cases h
          next hnames => exact .members hasked.1 hasked.2 hroles hnames h
      next => cases h
    · rw [outcome_accountInquiry] at h
      split at h
      next hasked => exact .accounts hasked.1 hasked.2 h
      next => cases h

/-- **The turns make no difference where no look-up fails.** -/
theorem usersInTurns_eq_ok (h : ∀ f, ¬l.Fails d f) :
    ∃ byRole byAccount, l.roleInquiry.outcome d = .ok byRole ∧
      l.accountInquiry.outcome d = .ok byAccount ∧
      ∀ turns, l.usersInTurns d turns =
        .ok (firstByKey SiteUser.uuid (byRole ++ byAccount) []) := by
  cases hrole : l.roleInquiry.outcome d with
  | error f => exact absurd (fails_iff.mpr (Or.inl hrole)) (h f)
  | ok byRole =>
    cases haccount : l.accountInquiry.outcome d with
    | error f => exact absurd (fails_iff.mpr (Or.inr haccount)) (h f)
    | ok byAccount =>
      refine ⟨byRole, byAccount, rfl, rfl, fun turns => ?_⟩
      rw [usersInTurns, Inquiry.joint_eq_ok hrole haccount]
      rfl

/-- **Where a look-up fails, the fault of a look-up is all there is**, whatever the turns are. -/
theorem usersInTurns_eq_error (h : ∃ f, l.Fails d f) (turns : List Turn) :
    ∃ f, l.Fails d f ∧ l.usersInTurns d turns = .error f := by
  obtain ⟨f, hf⟩ := h
  have hjoins := Inquiry.joins_joint (d := d) turns l.roleInquiry l.accountInquiry
  unfold usersInTurns
  cases hout : Inquiry.joint d turns l.roleInquiry l.accountInquiry with
  | error g =>
    rw [hout] at hjoins
    exact ⟨g, fails_iff.mpr hjoins, rfl⟩
  | ok pair =>
    rw [hout] at hjoins
    rcases fails_iff.mp hf with hrole | haccount
    · cases hrole.symm.trans hjoins.1
    · cases haccount.symm.trans hjoins.2

end Lane

end Fieldwork
