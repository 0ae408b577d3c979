import Fieldwork.Predicate.Basic

/-!
# Compiling conditions

Compiling leaves out the parts of a condition that hold no rule and keeps the shape of the rest.

* `Rule.compile_eq_ok_iff`, `Rule.compile_eq_error_iff`: what a rule compiles to and why not.
* `compile_rule`, `compile_group`, `compileAll_cons`: the outcome, constructor by constructor.
* `compile_eq_none_iff`: exactly the conditions without a rule compile to nothing.
* `compile_filled`: what a condition compiles to has no empty group in it.
-/

namespace Fieldwork

section Outcomes

variable {α β ε : Type}

/-- A sequence succeeds when both of its parts do. -/
theorem bind_eq_ok_iff {x : Except ε α} {f : α → Except ε β} {b : β} :
    x >>= f = .ok b ↔ ∃ a, x = .ok a ∧ f a = .ok b := by
  cases x <;> simp [bind, Except.bind]

/-- A sequence fails in its first part or in the second. -/
theorem bind_eq_error_iff {x : Except ε α} {f : α → Except ε β} {e : ε} :
    x >>= f = .error e ↔ x = .error e ∨ ∃ a, x = .ok a ∧ f a = .error e := by
  cases x <;> simp [bind, Except.bind]

/-- A mapped outcome succeeds when the outcome does. -/
theorem map_eq_ok_iff {x : Except ε α} {f : α → β} {b : β} :
    x.map f = .ok b ↔ ∃ a, x = .ok a ∧ f a = b := by
  cases x <;> simp [Except.map]

/-- Mapping a result keeps the fault. -/
theorem map_eq_error_iff {x : Except ε α} {f : α → β} {e : ε} :
    x.map f = .error e ↔ x = .error e := by
  cases x <;> simp [Except.map]

theorem mapError_error (f : ε → β) (e : ε) :
    (Except.error e : Except ε α).mapError f = .error (f e) := rfl

theorem mapError_ok (f : ε → β) (a : α) : (Except.ok a : Except ε α).mapError f = .ok a := rfl

/-- Mapping a fault keeps the result. -/
theorem mapError_eq_ok_iff {x : Except ε α} {f : ε → β} {a : α} :
    x.mapError f = .ok a ↔ x = .ok a := by
  cases x <;> simp [mapError_error, mapError_ok]

/-- A mapped fault is that of a fault. -/
theorem mapError_eq_error_iff {x : Except ε α} {f : ε → β} {b : β} :
    x.mapError f = .error b ↔ ∃ e, x = .error e ∧ b = f e := by
  cases x <;> simp [mapError_error, mapError_ok, eq_comm]

end Outcomes

/-! ## Conditions without rules -/

/-- What a group of that glue comes to when these members are left of it. -/
def Predicate.gather (glue : Glue) : List Predicate → Option Predicate
  | [] => none
  | p :: ps => some (.group glue (p :: ps))

namespace Condition

mutual

/-- The rules of a condition, from left to right. -/
def rules : Condition → List Rule
  | .rule r => [r]
  | .group _ members => rulesAll members

def rulesAll : List Condition → List Rule
  | [] => []
  | c :: cs => rules c ++ rulesAll cs

end

variable {o : Object} {u : User}

/-- A condition of one rule compiles to what the rule does. -/
theorem compile_rule (r : Rule) :
    (Condition.rule r).compile o u = (r.compile o u).map some := by
  unfold compile
  cases r.compile o u <;> rfl

/-- A group gathers what its members compile to. -/
theorem compile_group (glue : Glue) (members : List Condition) :
    (Condition.group glue members).compile o u =
      (compileAll o u members).map (Predicate.gather glue) := by
  unfold compile
  rcases compileAll o u members with fault | _ | ⟨p, ps⟩ <;> rfl

/-- Members compile from left to right, and those without rules leave nothing. -/
theorem compileAll_cons (c : Condition) (cs : List Condition) :
    compileAll o u (c :: cs) =
      (c.compile o u).bind fun p => (compileAll o u cs).map fun ps => p.toList ++ ps := by
  rw [compileAll]
  rcases c.compile o u with fault | p
  · rfl
  · cases compileAll o u cs <;> rfl

/-- Only nothing is gathered into nothing. -/
theorem gather_eq_none_iff (glue : Glue) (ps : List Predicate) :
    Predicate.gather glue ps = none ↔ ps = [] := by
  cases ps <;> simp [Predicate.gather]

mutual

/-- **Exactly the conditions without a rule compile to nothing**, however deep their groups. -/
theorem compile_eq_none_iff (o : Object) (u : User) :
    (c : Condition) → (c.compile o u = .ok none ↔ c.rules = [])
  | .rule r => by
    rw [compile_rule, rules]
    cases r.compile o u <;> simp [Except.map]
  | .group glue members => by
    rw [compile_group, rules, ← compileAll_eq_nil_iff o u members]
    cases compileAll o u members <;> simp [Except.map, gather_eq_none_iff]

/-- Members leave nothing when there is no rule in any of them. -/
theorem compileAll_eq_nil_iff (o : Object) (u : User) :
    (cs : List Condition) → (compileAll o u cs = .ok [] ↔ rulesAll cs = [])
  | [] => by simp [compileAll, rulesAll, pure, Except.pure]
  | c :: cs => by
    have hc := compile_eq_none_iff o u c
    have hcs := compileAll_eq_nil_iff o u cs
    rw [compileAll_cons, rulesAll, List.append_eq_nil_iff, ← hc, ← hcs]
    rcases c.compile o u with fault | _ | p <;> cases compileAll o u cs <;>
      simp [Except.bind, Except.map]

end

end Condition

/-! ## Groups without members -/

namespace Predicate

mutual

/-- No group in the condition is empty. -/
def filled : Predicate → Bool
  | .group _ members => !members.isEmpty && filledAll members
  | _ => true

def filledAll : List Predicate → Bool
  | [] => true
  | p :: ps => filled p && filledAll ps

end

/-- Every predicate of two lists is filled when all of either are. -/
theorem filledAll_append (ps qs : List Predicate) :
    filledAll (ps ++ qs) = (filledAll ps && filledAll qs) := by
  induction ps with
  | nil => rfl
  | cons p ps ih => rw [List.cons_append, filledAll, filledAll, ih, Bool.and_assoc]

end Predicate

/-! ## Compiled rules -/

namespace Rule

variable {o : Object} {u : User} {r : Rule} {p : Predicate} {fault : Fault}

/-- What a rule compiles to: the column that its key spells, or the relation or the column of the
field that its key names. -/
inductive CompilesTo (o : Object) (u : User) (r : Rule) : Predicate → Prop
  | path : ¬ Text.isUuid r.key → CompilesTo o u r (.rule (.ofPath r.key) r.operator r.value)
  | noRelation {f : Located} {target : Relation} : Text.isUuid r.key → o.field r.key = .ok f →
      r.operator = .haveNoRelation → f.relation = some target →
      CompilesTo o u r (.noRelation f.column target)
  | field {f : Located} {column : Column} : Text.isUuid r.key → o.field r.key = .ok f →
      r.operator ≠ .haveNoRelation → f.columnOf o u = .ok column →
      CompilesTo o u r (.rule column r.operator
        (if f.choices.isEmpty then r.value else Choice.normalise f.choices r.value))

/-- Why a rule does not compile. Only a rule whose key is a field id can fail. -/
inductive FailsWith (o : Object) (u : User) (r : Rule) : Fault → Prop
  | unknown {fault : Fault} : Text.isUuid r.key → o.field r.key = .error fault →
      FailsWith o u r fault
  | notRelation {f : Located} : Text.isUuid r.key → o.field r.key = .ok f →
      r.operator = .haveNoRelation → f.relation = none →
      FailsWith o u r (.condition (.notRelation f.id))
  | column {f : Located} {fault : Fault} : Text.isUuid r.key → o.field r.key = .ok f →
      r.operator ≠ .haveNoRelation → f.columnOf o u = .error fault → FailsWith o u r fault

/-- What the relation says of a rule is what the function computes. -/
theorem CompilesTo.compile_eq (h : r.CompilesTo o u p) : r.compile o u = .ok p := by
  unfold compile
  cases h with
  | path hkey =>
    rw [if_neg hkey]
    rfl
  | noRelation hkey hf hop hrelation =>
    rw [if_pos hkey, hf]
    simp [bind, Except.bind, hop, hrelation, pure, Except.pure]
  | field hkey hf hop hcolumn =>
    rw [if_pos hkey, hf]
    simp [bind, Except.bind, hop, hcolumn, pure, Except.pure]

/-- The same for a rule that fails. -/
theorem FailsWith.compile_eq (h : r.FailsWith o u fault) : r.compile o u = .error fault := by
  unfold compile
  cases h with
  | unknown hkey hf =>
    rw [if_pos hkey, hf]
    rfl
  | notRelation hkey hf hop hrelation =>
    rw [if_pos hkey, hf]
    simp [bind, Except.bind, hop, hrelation, throw, throwThe, MonadExceptOf.throw]
  | column hkey hf hop hcolumn =>
    rw [if_pos hkey, hf]
    simp [bind, Except.bind, hop, hcolumn]

/-- **Every rule compiles to a predicate or fails with a fault**, case by case of the checks it
passes. -/
theorem compilesTo_or_failsWith (o : Object) (u : User) (r : Rule) :
    (∃ p, r.CompilesTo o u p) ∨ ∃ fault, r.FailsWith o u fault := by
  by_cases hkey : Text.isUuid r.key
  · cases hf : o.field r.key with
    | error fault => exact .inr ⟨_, .unknown hkey hf⟩
    | ok f =>
      by_cases hop : r.operator = .haveNoRelation
      · cases hrelation : f.relation with
        | none => exact .inr ⟨_, .notRelation hkey hf hop hrelation⟩
        | some target => exact .inl ⟨_, .noRelation hkey hf hop hrelation⟩
      · cases hcolumn : f.columnOf o u with
        | error fault => exact .inr ⟨_, .column hkey hf hop hcolumn⟩
        | ok column => exact .inl ⟨_, .field hkey hf hop hcolumn⟩
  · exact .inl ⟨_, .path hkey⟩

/-- **What a rule compiles to**, case by case. -/
theorem compile_eq_ok_iff : r.compile o u = .ok p ↔ r.CompilesTo o u p := by
  refine ⟨fun h => ?_, CompilesTo.compile_eq⟩
  rcases compilesTo_or_failsWith o u r with ⟨q, hq⟩ | ⟨fault, hfault⟩
  · cases h.symm.trans hq.compile_eq
    exact hq
  · cases h.symm.trans hfault.compile_eq

/-- **Why a rule does not compile**, case by case. -/
theorem compile_eq_error_iff : r.compile o u = .error fault ↔ r.FailsWith o u fault := by
  refine ⟨fun h => ?_, FailsWith.compile_eq⟩
  rcases compilesTo_or_failsWith o u r with ⟨p, hp⟩ | ⟨other, hother⟩
  · cases h.symm.trans hp.compile_eq
  · cases h.symm.trans hother.compile_eq
    exact hother

/-- A rule compiles to no group. -/
theorem compile_shape (h : r.compile o u = .ok p) :
    (∃ column operator value, p = .rule column operator value) ∨
      ∃ column target, p = .noRelation column target := by
  cases compile_eq_ok_iff.mp h with
  | path => exact .inl ⟨_, _, _, rfl⟩
  | noRelation => exact .inr ⟨_, _, rfl⟩
  | field => exact .inl ⟨_, _, _, rfl⟩

end Rule

namespace Condition

variable {o : Object} {u : User}

/-- A rule compiles to no group, so to no empty one. -/
theorem filled_of_compile_rule {r : Rule} {p : Predicate} (h : r.compile o u = .ok p) :
    p.filled := by
  rcases Rule.compile_shape h with ⟨column, operator, value, rfl⟩ | ⟨column, target, rfl⟩ <;> rfl

mutual

/-- **A condition that compiles has no empty group**, because those are left out. -/
theorem compile_filled (o : Object) (u : User) :
    (c : Condition) → ∀ p, c.compile o u = .ok (some p) → p.filled
  | .rule r => by
    intro p h
    rw [compile_rule] at h
    obtain ⟨q, hq, heq⟩ := map_eq_ok_iff.mp h
    cases heq
    exact filled_of_compile_rule hq
  | .group glue members => by
    intro p h
    rw [compile_group] at h
    obtain ⟨ps, hps, heq⟩ := map_eq_ok_iff.mp h
    have hfilled := compileAll_filled o u members ps hps
    cases ps with
    -- a group of which nothing is left is left out itself
    | nil => exact absurd heq (by simp [Predicate.gather])
    | cons q ps =>
      cases heq
      exact hfilled

/-- No member compiles to anything with an empty group in it. -/
theorem compileAll_filled (o : Object) (u : User) :
    (cs : List Condition) → ∀ ps, compileAll o u cs = .ok ps → Predicate.filledAll ps
  | [] => by
    intro ps h
    cases h
    rfl
  | c :: cs => by
    intro ps h
    rw [compileAll_cons] at h
    obtain ⟨p, hp, h⟩ := bind_eq_ok_iff.mp h
    obtain ⟨qs, hqs, rfl⟩ := map_eq_ok_iff.mp h
    have hrest := compileAll_filled o u cs qs hqs
    cases p with
    | none => exact hrest
    | some p =>
      rw [Predicate.filledAll_append, hrest, Bool.and_true]
      simpa [Predicate.filledAll] using compile_filled o u c p hp

end

end Condition

end Fieldwork
