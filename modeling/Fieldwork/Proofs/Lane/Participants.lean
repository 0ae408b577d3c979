import Fieldwork.Lane.Roster
import Fieldwork.Proofs.Documents
import Fieldwork.Proofs.Json
import Fieldwork.Proofs.Lane.Joint

/-!
# The users of a lane in a roster

A roster looks a user up by the members of its document, and a user that was read from a document
has its uuid and its username there. So the two inquiries of a lane give the users who qualify
through a role and those whose accounts are listed, each in the order of the roster. Of the two
after each other the first of each uuid is kept.

* `firstByKey_eq_eraseDupsBy`: keeping the first of each key is leaving out repetitions.
* `byRole_eq`, `byAccount_eq`: what the inquiries give when no look-up fails.
* `users_of_roster`: the users of a lane are all who qualify, each once, in whatever turns the
  look-ups are answered.
-/

namespace Fieldwork

/-! ## First of each key -/

section FirstByKey

variable {α : Type} (key : α → String) (as : List α) (seen : List String)

/-- The first of each key are what is left without repetitions. -/
theorem loop_eraseDupsBy_eq (before : List α)
    (hseen : ∀ k, k ∈ seen ↔ k ∈ before.map key) :
    List.eraseDupsBy.loop (fun a b => key a == key b) as before =
      before.reverse ++ firstByKey key as seen := by
  -- what was kept so far is held backwards, and its keys are those that were seen
  induction as generalizing seen before with
  | nil => exact (List.append_nil _).symm
  | cons a as ih =>
    have hany : before.any (fun b => key a == key b) = seen.contains (key a) := by
      rw [Bool.eq_iff_iff, List.contains_iff_mem, hseen, List.any_eq_true, List.mem_map]
      simp only [beq_iff_eq, @eq_comm _ (key a)]
    rw [List.eraseDupsBy.loop, firstByKey, hany]
    cases seen.contains (key a) with
    | true => exact ih seen before hseen
    | false =>
      have hseen' : ∀ k, k ∈ key a :: seen ↔ k ∈ (a :: before).map key := by
        intro k
        rw [List.map_cons, List.mem_cons, List.mem_cons, hseen]
      refine (ih (key a :: seen) (a :: before) hseen').trans ?_
      simp

/-- **Keeping the first of each key is leaving out repetitions.** -/
theorem firstByKey_eq_eraseDupsBy :
    firstByKey key as [] = as.eraseDupsBy fun a b => key a == key b :=
  (loop_eraseDupsBy_eq key as [] [] (by simp)).symm

variable {key as seen}

/-- The keys that are kept are those that occur and were not seen before. -/
theorem mem_map_firstByKey {k : String} :
    k ∈ (firstByKey key as seen).map key ↔ k ∈ as.map key ∧ k ∉ seen := by
  induction as generalizing seen with
  | nil => simp [firstByKey]
  | cons a as ih =>
    rw [firstByKey]
    split
    next hseen =>
      rw [List.contains_iff_mem] at hseen
      rw [ih, List.map_cons, List.mem_cons]
      constructor
      · exact fun h => ⟨Or.inr h.1, h.2⟩
      · rintro ⟨rfl | hmem, hnot⟩
        · exact absurd hseen hnot
        · exact ⟨hmem, hnot⟩
    next hseen =>
      rw [List.contains_iff_mem] at hseen
      rw [List.map_cons, List.map_cons, List.mem_cons, List.mem_cons, ih, List.mem_cons]
      by_cases hk : k = key a
      · simp [hk, hseen]
      · simp [hk]

theorem mem_firstByKey_self {name : String} {names : List String} :
    name ∈ firstByKey (fun name => name) names [] ↔ name ∈ names := by
  have hkey := @mem_map_firstByKey String (fun name => name) names [] name
  rw [List.map_id', List.map_id'] at hkey
  exact hkey.trans (and_iff_left List.not_mem_nil)

/-- No key is kept twice. -/
theorem nodup_map_firstByKey : ((firstByKey key as seen).map key).Nodup := by
  induction as generalizing seen with
  | nil => exact List.nodup_nil
  | cons a as ih =>
    rw [firstByKey]
    split
    · exact ih
    · rw [List.map_cons, List.nodup_cons, mem_map_firstByKey]
      exact ⟨fun h => h.2 (List.mem_cons_self ..), ih⟩

/-- Each is the first of its key. -/
theorem find?_of_mem_firstByKey {a : α} (h : a ∈ firstByKey key as seen) :
    as.find? (fun b => key b = key a) = some a := by
  induction as generalizing seen with
  | nil => cases h
  | cons first as ih =>
    have hskip : key first ≠ key a → as.find? (fun b => key b = key a) = some a →
        (first :: as).find? (fun b => key b = key a) = some a := by
      intro hne hfind
      rwa [List.find?_cons_of_neg (by simpa using hne)]
    rw [firstByKey] at h
    split at h
    -- what is dropped has a key that was seen, and the key of what is kept was not
    next hseen =>
      rw [List.contains_iff_mem] at hseen
      have hnot : key a ∉ seen := (mem_map_firstByKey.mp (List.mem_map_of_mem h)).2
      exact hskip (fun heq => hnot (heq ▸ hseen)) (ih h)
    next =>
      rcases List.mem_cons.mp h with rfl | hmem
      · exact List.find?_cons_of_pos (by simp)
      · have hnot : key a ∉ key first :: seen :=
          (mem_map_firstByKey.mp (List.mem_map_of_mem hmem)).2
        exact hskip (fun heq => hnot (heq ▸ List.mem_cons_self ..)) (ih hmem)

end FirstByKey

/-! ## Records of a roster -/

/-- A record is admitted by a list of words when its own is among them. -/
theorem Condition.admits_oneOf {fields : Row} {key word : String}
    (h : Record.get? fields key = some (.string word)) (words : List String) :
    admits (.object fields) (.oneOf key words) = true ↔ word ∈ words := by
  have hget : (Json.object fields).get? key = some (.string word) := h
  have hany : admits (.object fields) (.oneOf key words) =
      (words.map Json.string).any (· == Json.string word) := by
    rw [oneOf, admits, Rule.admits, hget]
  rw [hany, List.any_map, List.any_eq_true]
  constructor
  · rintro ⟨other, hmem, hsame⟩
    have heq : other = word := beq_iff_eq.mp hsame
    exact heq ▸ hmem
  · exact fun hmem => ⟨word, hmem, beq_self_eq_true (Json.string word)⟩

/-- What a roster sees of a user that was read. -/
theorem SiteUser.json?_document {u : SiteUser} (h : ∃ d, ofDocument? d = some u) :
    ∃ fields, u.document.json? = some (.object fields) ∧
      Record.get? fields "uuid" = some (.string u.uuid) ∧
      Record.get? fields "username" = some (.string u.username) := by
  obtain ⟨d, hd⟩ := h
  obtain ⟨hcanonical, hnames⟩ := extra_of_ofDocument? hd
  have hmembers : Document.jsonMembers? (("uuid", .string u.uuid) ::
      ("username", .string u.username) :: Json.documentMembers u.extra) =
        some (("uuid", .string u.uuid) :: ("username", .string u.username) :: u.extra) := by
    simp [Document.jsonMembers?, Document.json?,
      Json.jsonMembers?_documentMembers u.extra hcanonical.2]
  have hlast : ∀ name, ¬isExtra name → Record.last? name u.extra = none := by
    intro name hname
    rw [← Option.not_isSome_iff_eq_none, Record.isSome_last?_iff]
    exact fun hmem => hname (hnames name hmem)
  refine ⟨Record.ofList (("uuid", .string u.uuid) :: ("username", .string u.username) :: u.extra),
    ?_, ?_, ?_⟩
  · rw [document, Document.json?, hmembers, Option.map_some]
  · rw [Record.ofList, Record.get?_overlay, Record.last?_cons, Record.last?_cons,
      hlast "uuid" (by simp [isExtra])]
    rfl
  · rw [Record.ofList, Record.get?_overlay, Record.last?_cons, Record.last?_cons,
      hlast "username" (by simp [isExtra])]
    rfl

/-- A member of a role can be looked at as a value. -/
theorem Member.json?_document (m : Member) : ∃ v, m.document.json? = some v := by
  cases m with
  | name => exact ⟨_, rfl⟩
  | record => exact ⟨_, rfl⟩

theorem Member.jsonItems?_document (members : List Member) :
    ∃ items, Document.jsonItems? (members.map document) = some items := by
  induction members with
  | nil => exact ⟨[], rfl⟩
  | cons m members ih =>
    obtain ⟨v, hv⟩ := m.json?_document
    obtain ⟨items, hitems⟩ := ih
    refine ⟨v :: items, ?_⟩
    rw [List.map_cons, Document.jsonItems?, hv, hitems]
    rfl

/-- What a roster sees of a role, whatever its members are. -/
theorem Role.json?_document (role : Role) :
    ∃ fields, role.document.json? = some (.object fields) ∧
      Record.get? fields "uuid" = some (.string role.uuid) := by
  obtain ⟨items, hitems⟩ := Member.jsonItems?_document role.members
  have hmembers : Document.jsonMembers? [("uuid", .string role.uuid),
      ("users", .array (role.members.map Member.document))] =
        some [("uuid", .string role.uuid), ("users", .array items)] := by
    simp [Document.jsonMembers?, Document.json?, hitems]
  refine ⟨Record.ofList [("uuid", .string role.uuid), ("users", .array items)], ?_, ?_⟩
  · rw [document, Document.json?, hmembers, Option.map_some]
  · rw [Record.ofList, Record.get?_overlay]
    rfl

namespace Roster

variable {r : Roster}

/-- Users and roles are looked up by their names and ids. -/
theorem matching_oneOf {α : Type} {document : α → Document} {records : List α} {key : String}
    {name : α → String}
    (h : ∀ a ∈ records, ∃ fields, (document a).json? = some (.object fields) ∧
      Record.get? fields key = some (.string (name a))) (words : List String) :
    matching document (.oneOf key words) records = records.filter fun a => name a ∈ words := by
  refine List.filter_congr fun a ha => ?_
  obtain ⟨fields, hjson, hget⟩ := h a ha
  rw [hjson, Option.any_some, Bool.eq_iff_iff, Condition.admits_oneOf hget, decide_eq_true_iff]

/-- A look-up of users that succeeds gives all that match. -/
theorem eq_of_findUsers {c : Condition} {us : List SiteUser} (h : r.findUsers c = .ok us) :
    us = matching SiteUser.document c r.users := by
  unfold findUsers at h
  split at h
  · split at h
    · cases h
    · cases h
      rfl
  · cases h
    rfl

/-- A look-up of roles that succeeds gives all that match. -/
theorem eq_of_findRoles {c : Condition} {roles : List Role} (h : r.findRoles c = .ok roles) :
    roles = matching Role.document c r.roles := by
  unfold findRoles at h
  split at h
  · cases h
  · cases h
    rfl

end Roster

/-- The names of the members of some roles, each once. -/
theorem mem_memberNames {name : String} {roles : List Role} :
    name ∈ memberNames roles ↔ ∃ role ∈ roles, ∃ m ∈ role.members, m.username = name := by
  rw [memberNames, mem_firstByKey_self]
  simp only [List.mem_map, List.mem_flatMap]
  constructor
  · rintro ⟨m, ⟨role, hrole, hm⟩, hname⟩
    exact ⟨role, hrole, m, hm, hname⟩
  · rintro ⟨role, hrole, m, hm, hname⟩
    exact ⟨m, ⟨role, hrole, hm⟩, hname⟩

/-! ## Who qualifies -/

namespace Lane

variable (l : Lane)

/-- The user is a member of a role that the lane lists. -/
def ThroughRole (roles : List Role) (u : SiteUser) : Prop :=
  l.useRole = true ∧ ∃ role ∈ roles, role.uuid ∈ l.roles ∧
    ∃ m ∈ role.members, m.username = u.username

/-- The lane lists the account of the user. -/
def ThroughAccount (u : SiteUser) : Prop :=
  l.useAccount = true ∧ u.uuid ∈ l.accounts

instance (roles : List Role) : DecidablePred (l.ThroughRole roles) := fun u =>
  inferInstanceAs (Decidable (l.useRole = true ∧ ∃ role ∈ roles, role.uuid ∈ l.roles ∧
    ∃ m ∈ role.members, m.username = u.username))

instance : DecidablePred l.ThroughAccount := fun u =>
  inferInstanceAs (Decidable (l.useAccount = true ∧ u.uuid ∈ l.accounts))

/-- All who qualify, those through a role first, in the order of the roster. -/
def candidates (r : Roster) : List SiteUser :=
  r.users.filter (fun u => l.ThroughRole r.roles u) ++ r.users.filter fun u => l.ThroughAccount u

/-- The users of a lane: all who qualify, each uuid once. -/
structure Lists (r : Roster) (us : List SiteUser) : Prop where
  distinct : (us.map SiteUser.uuid).Nodup
  /-- A uuid is listed when some user with it qualifies. -/
  qualified : ∀ uuid, uuid ∈ us.map SiteUser.uuid ↔
    ∃ u ∈ r.users, u.uuid = uuid ∧ (l.ThroughRole r.roles u ∨ l.ThroughAccount u)
  /-- They stand in the order of the candidates without repetitions, -/
  order : us = (l.candidates r).eraseDupsBy fun a b => a.uuid == b.uuid
  /-- and of several with one uuid it is the first that is listed. -/
  first : ∀ u ∈ us, (l.candidates r).find? (fun v => v.uuid = u.uuid) = some u

variable {l} {r : Roster}

/-- **The first of each candidate is what a lane lists.** -/
theorem lists_firstByKey : l.Lists r (firstByKey SiteUser.uuid (l.candidates r) []) where
  distinct := nodup_map_firstByKey
  qualified := by
    intro uuid
    rw [mem_map_firstByKey, List.mem_map]
    simp only [candidates, List.mem_append, List.mem_filter, decide_eq_true_eq, ← and_or_left]
    constructor
    · rintro ⟨⟨u, ⟨hu, hqualifies⟩, huuid⟩, -⟩
      exact ⟨u, hu, huuid, hqualifies⟩
    · rintro ⟨u, hu, huuid, hqualifies⟩
      exact ⟨⟨u, ⟨hu, hqualifies⟩, huuid⟩, List.not_mem_nil⟩
  order := firstByKey_eq_eraseDupsBy SiteUser.uuid _
  first := fun u hu => find?_of_mem_firstByKey hu

section Read

variable (hread : ∀ u ∈ r.users, ∃ d, SiteUser.ofDocument? d = some u)
include hread

/-- Those found by their role are the users with a role of the lane. -/
theorem byRole_eq {byRole : List SiteUser}
    (h : l.roleInquiry.outcome r.directory = .ok byRole) :
    byRole = r.users.filter fun u => l.ThroughRole r.roles u := by
  rw [outcome_roleInquiry] at h
  split at h
  next hasked =>
    obtain ⟨huse, -⟩ := hasked
    cases hroles : r.directory.roles (.oneOf "uuid" l.roles) with
    | error f => rw [hroles] at h; cases h
    | ok roles =>
      rw [hroles, Except.bind] at h
      have hlisted : roles = r.roles.filter fun role => role.uuid ∈ l.roles :=
        (Roster.eq_of_findRoles hroles).trans
          (Roster.matching_oneOf (fun role _ => role.json?_document) l.roles)
      have hthrough : ∀ u, u.username ∈ memberNames roles ↔ l.ThroughRole r.roles u := by
        intro u
        simp only [mem_memberNames, hlisted, List.mem_filter, decide_eq_true_eq, ThroughRole, huse,
          true_and, and_assoc]
      -- without members nobody is looked up, which comes to the same
      have hbyRole : byRole = r.users.filter fun u => u.username ∈ memberNames roles := by
        split at h
        next hnone =>
          cases h
          simp [hnone]
        next =>
          refine (Roster.eq_of_findUsers h).trans (Roster.matching_oneOf (fun u hu => ?_) _)
          obtain ⟨fields, hjson, -, husername⟩ := SiteUser.json?_document (hread u hu)
          exact ⟨fields, hjson, husername⟩
      simp only [hbyRole, hthrough]
  -- nothing was looked up, and nobody qualifies
  next hasked =>
    cases h
    refine (List.filter_eq_nil_iff.mpr fun u _ => ?_).symm
    rw [decide_eq_true_iff]
    rintro ⟨huse, role, -, hlisted, -⟩
    exact hasked ⟨huse, List.ne_nil_of_mem hlisted⟩

/-- Those found by their account are the users that the lane names. -/
theorem byAccount_eq {byAccount : List SiteUser}
    (h : l.accountInquiry.outcome r.directory = .ok byAccount) :
    byAccount = r.users.filter fun u => l.ThroughAccount u := by
  rw [outcome_accountInquiry] at h
  split at h
  next hasked =>
    obtain ⟨huse, -⟩ := hasked
    have hbyAccount : byAccount = r.users.filter fun u => u.uuid ∈ l.accounts := by
      refine (Roster.eq_of_findUsers h).trans (Roster.matching_oneOf (fun u hu => ?_) _)
      obtain ⟨fields, hjson, huuid, -⟩ := SiteUser.json?_document (hread u hu)
      exact ⟨fields, hjson, huuid⟩
    simp only [hbyAccount, ThroughAccount, huse, true_and]
  next hasked =>
    cases h
    refine (List.filter_eq_nil_iff.mpr fun u _ => ?_).symm
    rw [decide_eq_true_iff]
    rintro ⟨huse, hlisted⟩
    exact hasked ⟨huse, List.ne_nil_of_mem hlisted⟩

end Read

/-- **The users of a lane are all who qualify, each once.** Those who qualify through a role come
first and then those whose accounts are listed, in the order of the roster, and it makes no
difference in which turns the look-ups are answered. When a look-up fails there are no users, only
the fault of a look-up. -/
theorem users_of_roster (l : Lane) (r : Roster) (log : List Condition)
    (hread : ∀ u ∈ r.users, ∃ d, SiteUser.ofDocument? d = some u) :
    ((∀ f, ¬l.Fails r.directory f) → ∃ us, l.Lists r us ∧
      ((l.users r.directory).run log).map Prod.fst = .ok us ∧
      ∀ turns, l.usersInTurns r.directory turns = .ok us) ∧
    ((∃ f, l.Fails r.directory f) →
      (∃ f, l.Fails r.directory f ∧
        ((l.users r.directory).run log).map Prod.fst = .error f) ∧
      ∀ turns, ∃ f, l.Fails r.directory f ∧ l.usersInTurns r.directory turns = .error f) := by
  rw [gives_users log]
  constructor
  · intro hnone
    obtain ⟨byRole, byAccount, hrole, haccount, hturns⟩ := usersInTurns_eq_ok hnone
    rw [byRole_eq hread hrole, byAccount_eq hread haccount] at hturns
    exact ⟨_, lists_firstByKey, hturns [], hturns⟩
  · intro hfails
    exact ⟨usersInTurns_eq_error hfails [], usersInTurns_eq_error hfails⟩

/-- A lane with a role and two accounts. -/
def staffed : Lane :=
  { id := "lane", useRole := true, roles := ["R1"], useAccount := true, accounts := ["u2", "u1"] }

/-- Two users have one uuid, and only the second of them is a member of the role. -/
def staff : Roster :=
  { users := [⟨"u1", "alice", []⟩, ⟨"u2", "bob", []⟩, ⟨"u1", "carol", []⟩]
    roles := [⟨"R1", [.name "bob", .record "carol", .name "dave"]⟩] }

/-- The user who qualifies through the role is listed for the uuid, and while the roles cannot be
looked up nobody is. -/
theorem users_of_roster_staff :
    (∀ u ∈ staff.users, ∃ d, SiteUser.ofDocument? d = some u) ∧
    (∃ us, staffed.Lists staff us ∧ us.map SiteUser.username = ["bob", "carol"] ∧
      ∀ turns, staffed.usersInTurns staff.directory turns = .ok us) ∧
    ∀ turns, ∃ f, staffed.usersInTurns { staff with rolesUnavailable := true }.directory turns =
      .error f := by
  have hread : ∀ u ∈ staff.users, ∃ d, SiteUser.ofDocument? d = some u := by
    have hextra : ∀ u ∈ staff.users, u.extra = [] := by simp [staff]
    refine fun u hu => ⟨u.document, SiteUser.ofDocument?_document ?_ ?_⟩
    · rw [hextra u hu]
      exact ⟨List.Pairwise.nil, trivial⟩
    · simp [hextra u hu]
  have hnone : ∀ f, ¬staffed.Fails staff.directory f := by
    rintro f (⟨-, -, hfails⟩ | ⟨-, -, -, -, hfails⟩ | ⟨-, -, hfails⟩) <;> cases hfails
  have hfails : ∃ f, staffed.Fails { staff with rolesUnavailable := true }.directory f :=
    ⟨_, .roles rfl (by decide) rfl⟩
  obtain ⟨us, hlists, -, hturns⟩ := (users_of_roster staffed staff [] hread).1 hnone
  refine ⟨hread, ⟨us, hlists, ?_, hturns⟩, fun turns => ?_⟩
  · cases (hturns []).symm.trans (by rfl : _ = Except.ok _)
    rfl
  · obtain ⟨f, -, hf⟩ := ((users_of_roster staffed { staff with rolesUnavailable := true } []
      hread).2 hfails).2 turns
    exact ⟨f, hf⟩

end Lane

end Fieldwork
