import Mathlib.Data.List.Forall2
import Fieldwork.Proofs.Condition.Compile

/-!
# The rules of a condition

Compiling keeps the tree of a condition but for the parts that hold no rule, and puts what a rule
compiles to alone in the place of each rule.

* `leaves_compile`: the leaves of what a condition compiles to are its rules compiled, from left to
  right, and the fault is that of the first rule that has one.
* `compile_eq_some_iff`: what is left of a condition is the condition pruned, rule by rule.
* `compile_keeps_rules`: **compiling keeps exactly the rules of a condition**, each in its place.
-/

namespace Fieldwork

section Traversal

variable {α β ε : Type} {f : α → Except ε β}

/-- A traversal that succeeds gives one value for each element. -/
theorem mapM_eq_ok_iff_forall₂ (as : List α) (bs : List β) :
    as.mapM f = .ok bs ↔ List.Forall₂ (fun a b => f a = .ok b) as bs := by
  induction as generalizing bs with
  | nil => simp [pure, Except.pure, eq_comm]
  | cons a as ih =>
    simp only [List.mapM_cons, bind_eq_ok_iff, List.forall₂_cons_left_iff, ih]
    constructor
    · rintro ⟨b, hb, rest, hrest, heq⟩
      cases heq
      exact ⟨b, rest, hb, hrest, rfl⟩
    · rintro ⟨b, rest, hb, hrest, rfl⟩
      exact ⟨b, hb, rest, hrest, rfl⟩

/-- A traversal succeeds when every element does. -/
theorem exists_mapM_eq_ok_iff (as : List α) :
    (∃ bs, as.mapM f = .ok bs) ↔ ∀ a ∈ as, ∃ b, f a = .ok b := by
  induction as with
  | nil => simp [pure, Except.pure]
  | cons a as ih =>
    rw [List.forall_mem_cons, ← ih]
    simp only [List.mapM_cons, bind_eq_ok_iff]
    constructor
    · rintro ⟨_, b, hb, bs, hbs, -⟩
      exact ⟨⟨b, hb⟩, bs, hbs⟩
    · rintro ⟨⟨b, hb⟩, bs, hbs⟩
      exact ⟨b :: bs, b, hb, bs, hbs, rfl⟩

end Traversal

/-! ## Leaves -/

namespace Predicate

mutual

/-- The parts of a predicate that are no groups, from left to right. -/
def leaves : Predicate → List Predicate
  | .group _ members => leavesAll members
  | p => [p]

def leavesAll : List Predicate → List Predicate
  | [] => []
  | p :: ps => leaves p ++ leavesAll ps

end

/-- The leaves of what is left of a condition, if anything is. -/
def leavesOf : Option Predicate → List Predicate
  | none => []
  | some p => p.leaves

/-- The leaves of two lists are those of the first and then those of the second. -/
theorem leavesAll_append (ps qs : List Predicate) :
    leavesAll (ps ++ qs) = leavesAll ps ++ leavesAll qs := by
  induction ps with
  | nil => rfl
  | cons p ps ih => rw [List.cons_append, leavesAll, leavesAll, ih, List.append_assoc]

theorem leavesAll_toList (p : Option Predicate) : leavesAll p.toList = leavesOf p := by
  cases p with
  | none => rfl
  | some p => exact List.append_nil _

/-- Gathering predicates into a group keeps their leaves. -/
theorem leavesOf_gather (glue : Glue) (ps : List Predicate) :
    leavesOf (gather glue ps) = leavesAll ps := by
  cases ps <;> rfl

end Predicate

namespace Condition

variable {o : Object} {u : User}

/-- A rule compiles to a single leaf. -/
theorem leaves_of_compile_rule {r : Rule} {p : Predicate} (h : r.compile o u = .ok p) :
    p.leaves = [p] := by
  rcases Rule.compile_shape h with ⟨column, operator, value, rfl⟩ | ⟨column, target, rfl⟩ <;> rfl

mutual

/-- **The leaves of what a condition compiles to are its rules compiled**, from left to right; and
where a rule does not compile, the first of them is what compiling the condition fails with. -/
theorem leaves_compile (o : Object) (u : User) :
    (c : Condition) →
      (c.compile o u).map Predicate.leavesOf = c.rules.mapM (Rule.compile o u)
  | .rule r => by
    rw [compile_rule, rules, List.mapM_cons, List.mapM_nil]
    cases hr : r.compile o u with
    | error fault => rfl
    | ok p => exact congrArg Except.ok (leaves_of_compile_rule hr)
  | .group glue members => by
    rw [compile_group, rules, ← leavesAll_compileAll o u members]
    cases compileAll o u members with
    | error fault => rfl
    | ok ps => exact congrArg Except.ok (Predicate.leavesOf_gather glue ps)

/-- The members of a group leave the leaves of their rules, in order. -/
theorem leavesAll_compileAll (o : Object) (u : User) :
    (cs : List Condition) →
      (compileAll o u cs).map Predicate.leavesAll = (rulesAll cs).mapM (Rule.compile o u)
  | [] => rfl
  | c :: cs => by
    rw [compileAll_cons, rulesAll, List.mapM_append, ← leaves_compile o u c,
      ← leavesAll_compileAll o u cs]
    rcases c.compile o u with fault | p
    · rfl
    · rcases compileAll o u cs with fault | ps
      · rfl
      · refine congrArg Except.ok ?_
        rw [Predicate.leavesAll_append, Predicate.leavesAll_toList]

end

/-! ## Pruned conditions -/

mutual

/-- The condition without its members that hold no rule, at any depth. -/
def pruned : Condition → Condition
  | .rule r => .rule r
  | .group glue members => .group glue (prunedAll members)

def prunedAll : List Condition → List Condition
  | [] => []
  | c :: cs => if c.rules = [] then prunedAll cs else pruned c :: prunedAll cs

end

mutual

/-- The predicate is the tree of the condition with each rule compiled. -/
inductive Resolves (o : Object) (u : User) : Condition → Predicate → Prop
  | rule {r : Rule} {p : Predicate} : r.compile o u = .ok p → Resolves o u (.rule r) p
  | group {glue : Glue} {members : List Condition} {ps : List Predicate} :
      ResolvesAll o u members ps → Resolves o u (.group glue members) (.group glue ps)

inductive ResolvesAll (o : Object) (u : User) : List Condition → List Predicate → Prop
  | nil : ResolvesAll o u [] []
  | cons {c : Condition} {cs : List Condition} {p : Predicate} {ps : List Predicate} :
      Resolves o u c p → ResolvesAll o u cs ps → ResolvesAll o u (c :: cs) (p :: ps)

end

/-- What is gathered is a group of some members. -/
theorem gather_eq_some_iff (glue : Glue) (ps : List Predicate) (p : Predicate) :
    Predicate.gather glue ps = some p ↔ ps ≠ [] ∧ p = .group glue ps := by
  cases ps <;> simp [Predicate.gather, eq_comm]

mutual

/-- **What is left of a condition is the condition pruned, rule by rule.** -/
theorem compile_eq_some_iff (o : Object) (u : User) :
    (c : Condition) → ∀ p, (c.compile o u = .ok (some p) ↔
      c.rules ≠ [] ∧ Resolves o u c.pruned p)
  | .rule r => by
    intro p
    rw [compile_rule, rules, pruned]
    constructor
    · intro h
      obtain ⟨q, hq, heq⟩ := map_eq_ok_iff.mp h
      cases heq
      exact ⟨List.cons_ne_nil _ _, .rule hq⟩
    · rintro ⟨-, ⟨hp⟩⟩
      rw [hp]
      rfl
  | .group glue members => by
    intro p
    rw [compile_group, rules, pruned, map_eq_ok_iff]
    constructor
    · rintro ⟨ps, hps, heq⟩
      obtain ⟨hne, rfl⟩ := (gather_eq_some_iff glue ps p).mp heq
      refine ⟨fun hnil => hne ?_, .group ((compileAll_eq_ok_iff o u members ps).mp hps)⟩
      -- members without a rule leave nothing
      have hnone := (compileAll_eq_nil_iff o u members).mpr hnil
      rw [hps] at hnone
      exact Except.ok.inj hnone
    · rintro ⟨hrules, hres⟩
      cases hres with
      | group hall =>
        rename_i ps
        have hps := (compileAll_eq_ok_iff o u members ps).mpr hall
        refine ⟨ps, hps, (gather_eq_some_iff glue ps _).mpr ⟨?_, rfl⟩⟩
        rintro rfl
        exact hrules ((compileAll_eq_nil_iff o u members).mp hps)

/-- Members compile to what those with rules in them resolve to. -/
theorem compileAll_eq_ok_iff (o : Object) (u : User) :
    (cs : List Condition) → ∀ ps, (compileAll o u cs = .ok ps ↔ ResolvesAll o u (prunedAll cs) ps)
  | [] => by
    intro ps
    rw [prunedAll]
    constructor
    · intro h
      cases h
      exact .nil
    · rintro ⟨⟩
      rfl
  | c :: cs => by
    intro ps
    rw [compileAll_cons, prunedAll]
    by_cases hrules : c.rules = []
    -- a member without a rule compiles to nothing
    · rw [if_pos hrules, (compile_eq_none_iff o u c).mpr hrules, ← compileAll_eq_ok_iff o u cs]
      cases compileAll o u cs <;> simp [Except.bind, Except.map]
    · rw [if_neg hrules]
      constructor
      · intro h
        obtain ⟨p, hp, h⟩ := bind_eq_ok_iff.mp h
        obtain ⟨qs, hqs, rfl⟩ := map_eq_ok_iff.mp h
        cases p with
        | none => exact absurd ((compile_eq_none_iff o u c).mp hp) hrules
        | some p =>
          exact .cons ((compile_eq_some_iff o u c p).mp hp).2
            ((compileAll_eq_ok_iff o u cs qs).mp hqs)
      · rintro ⟨⟩
        rename_i p qs hp hqs
        rw [(compile_eq_some_iff o u c p).mpr ⟨hrules, hp⟩,
          (compileAll_eq_ok_iff o u cs qs).mpr hqs]
        rfl

end

/-- A rule compiles on its own as it does anywhere else. -/
theorem compile_rule_eq_some_iff {r : Rule} {p : Predicate} :
    (Condition.rule r).compile o u = .ok (some p) ↔ r.compile o u = .ok p := by
  rw [compile_rule, map_eq_ok_iff]
  simp

/-- **Compiling keeps exactly the rules of a condition.** It succeeds when each rule compiles on its
own, and leaves nothing when there is none. Otherwise it gives the condition pruned, each rule by
what it compiles to alone: so the leaves are the rules one by one, and no group is empty. -/
theorem compile_keeps_rules (o : Object) (u : User) (c : Condition) :
    ((∃ kept, c.compile o u = .ok kept) ↔
      ∀ r ∈ c.rules, ∃ p, (Condition.rule r).compile o u = .ok (some p)) ∧
    (c.compile o u = .ok none ↔ c.rules = []) ∧
    (∀ p, c.compile o u = .ok (some p) ↔ c.rules ≠ [] ∧ Resolves o u c.pruned p) ∧
    ∀ p, c.compile o u = .ok (some p) →
      List.Forall₂ (fun r leaf => (Condition.rule r).compile o u = .ok (some leaf)) c.rules
        p.leaves ∧
      p.filled := by
  simp only [compile_rule_eq_some_iff]
  refine ⟨?_, compile_eq_none_iff o u c, compile_eq_some_iff o u c, fun p hp => ⟨?_, ?_⟩⟩
  · rw [← exists_mapM_eq_ok_iff, ← leaves_compile]
    cases c.compile o u <;> simp [Except.map]
  · rw [← mapM_eq_ok_iff_forall₂, ← leaves_compile, hp]
    rfl
  · exact compile_filled o u c p hp

/-- Parts without a note that are larger than three, among groups that hold no rule. -/
theorem compile_keeps_rules_parts :
    let parts : Object :=
      { id := "parts", schema := "shop", table := "Parts", view := none, primaryKey := "uuid"
        fields := [], condition := none }
    let c : Condition :=
      .group .and [.rule ⟨"note", .isEmpty, .null⟩, .group .or [.group .and []],
        .group .or [.group .and [], .rule ⟨"size", .greater, .ofNat 3⟩]]
    let p : Predicate :=
      .group .and [.rule (.ofPath "note") .isEmpty .null,
        .group .or [.rule (.ofPath "size") .greater (.ofNat 3)]]
    c.compile parts {} = .ok (some p) ∧ Resolves parts {} c.pruned p ∧
      List.Forall₂ (fun r leaf => (Condition.rule r).compile parts {} = .ok (some leaf)) c.rules
        p.leaves ∧
      p.filled := by
  intro parts c p
  have hp : c.compile parts {} = .ok (some p) := rfl
  obtain ⟨-, -, hsome, hkept⟩ := compile_keeps_rules parts {} c
  exact ⟨hp, ((hsome p).mp hp).2, hkept p hp⟩

end Condition

end Fieldwork
