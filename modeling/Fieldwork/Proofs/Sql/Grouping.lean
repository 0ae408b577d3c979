import Mathlib.Logic.Relation
import Fieldwork.Proofs.Find
import Fieldwork.Proofs.Sql.Written

/-!
# Redundant grouping

A condition can be grouped in more than one way: a group without rules places no constraint, and one
in which a single member has rules constrains as that member does. The groups are not alike in a
plan, but no trace of them is left in the SQL.

* `Condition.Regroups`: one step of redundant grouping, at any depth of a condition.
* `Condition.written_of_regroups`: a step changes neither the test that is written of a condition
  nor the fault of a rule in it.
* `Condition.written_merge`: what is written of two conditions joined.
* `redundant_grouping_unseen`: **redundant grouping never shows in the SQL** of a find or a count.
-/

namespace Fieldwork

open Sql

namespace Condition

/-! ## Steps of grouping -/

/-- A part without rules is put among the members of a group, or a condition is put into a group in
which no other member has a rule, or this is done to one member of a group. -/
inductive Regroups : Condition → Condition → Prop
  | insert (glue : Glue) (before after : List Condition) {c : Condition} :
      c.rules = [] →
      Regroups (.group glue (before ++ after)) (.group glue (before ++ c :: after))
  | wrap (glue : Glue) (before after : List Condition) (c : Condition) :
      rulesAll before = [] → rulesAll after = [] →
      Regroups c (.group glue (before ++ c :: after))
  | inside (glue : Glue) (before after : List Condition) {c d : Condition} :
      Regroups c d →
      Regroups (.group glue (before ++ c :: after)) (.group glue (before ++ d :: after))

/-- The conditions become equal by such steps and their inverses. -/
abbrev Regrouped : Condition → Condition → Prop :=
  Relation.EqvGen Regroups

/-! ## What is written of a condition -/

variable {o : Object} {u : User}

/-- Tests joined by a glue, if there are any. -/
def joined (glue : Glue) : List Test → Option Test
  | [] => none
  | t :: ts => some (joinTests glue (t :: ts))

/-- The test that is written of a condition, if it has a rule. -/
def written (o : Object) (u : User) (c : Condition) : Except Fault (Option Test) :=
  (c.compile o u).map (Option.map Predicate.test)

def writtenAll (o : Object) (u : User) (cs : List Condition) : Except Fault (List Test) :=
  (compileAll o u cs).map Predicate.tests

theorem joined_toList (glue : Glue) (t : Option Test) : joined glue t.toList = t := by
  cases t <;> rfl

theorem map_test_gather (glue : Glue) (ps : List Predicate) :
    (Predicate.gather glue ps).map Predicate.test = joined glue (Predicate.tests ps) := by
  cases ps <;> rfl

theorem written_of_ruleless {c : Condition} (h : c.rules = []) : c.written o u = .ok none := by
  rw [written, (compile_eq_none_iff o u c).mpr h]
  rfl

theorem writtenAll_of_ruleless {cs : List Condition} (h : rulesAll cs = []) :
    writtenAll o u cs = .ok [] := by
  rw [writtenAll, (compileAll_eq_nil_iff o u cs).mpr h]
  rfl

theorem written_group (glue : Glue) (cs : List Condition) :
    (Condition.group glue cs).written o u = (writtenAll o u cs).map (joined glue) := by
  unfold written writtenAll
  rw [compile_group]
  cases compileAll o u cs with
  | error fault => rfl
  | ok ps => exact congrArg Except.ok (map_test_gather glue ps)

theorem writtenAll_cons (c : Condition) (cs : List Condition) :
    writtenAll o u (c :: cs) =
      (c.written o u).bind fun t => (writtenAll o u cs).map fun ts => t.toList ++ ts := by
  unfold written writtenAll
  rw [compileAll_cons]
  rcases c.compile o u with fault | p
  · rfl
  · cases compileAll o u cs with
    | error fault => rfl
    | ok ps => cases p <;> rfl

theorem writtenAll_append (cs ds : List Condition) :
    writtenAll o u (cs ++ ds) =
      (writtenAll o u cs).bind fun ts => (writtenAll o u ds).map fun us => ts ++ us := by
  induction cs with
  | nil =>
    have hnil : writtenAll o u [] = .ok [] := rfl
    rw [List.nil_append, hnil]
    cases writtenAll o u ds <;> rfl
  | cons c cs ih =>
    rw [List.cons_append, writtenAll_cons, writtenAll_cons, ih]
    rcases c.written o u with fault | t
    · rfl
    · cases writtenAll o u cs with
      | error fault => rfl
      | ok ts =>
        cases writtenAll o u ds with
        | error fault => rfl
        | ok us => exact congrArg Except.ok (List.append_assoc t.toList ts us).symm

/-- **A step of grouping changes nothing that is written**, nor the fault of a rule. -/
theorem written_of_regroups {c d : Condition} (h : Regroups c d) :
    c.written o u = d.written o u := by
  induction h with
  | @insert glue before after c hc =>
    have hafter : writtenAll o u (c :: after) = writtenAll o u after := by
      rw [writtenAll_cons, written_of_ruleless hc]
      cases writtenAll o u after <;> rfl
    rw [written_group, written_group, writtenAll_append, writtenAll_append, hafter]
  | wrap glue before after c hbefore hafter =>
    rw [written_group, writtenAll_append, writtenAll_of_ruleless hbefore, writtenAll_cons,
      writtenAll_of_ruleless hafter]
    cases c.written o u with
    | error fault => rfl
    | ok t =>
      have hone : joined glue ([] ++ (t.toList ++ [])) = t := by
        rw [List.nil_append, List.append_nil, joined_toList]
      exact congrArg Except.ok hone.symm
  | inside glue before after _ ih =>
    rw [written_group, written_group, writtenAll_append, writtenAll_append, writtenAll_cons,
      writtenAll_cons, ih]

theorem written_of_regrouped {c d : Condition} (h : Regrouped c d) :
    c.written o u = d.written o u := by
  induction h with
  | rel _ _ h => exact written_of_regroups h
  | refl _ => rfl
  | symm _ _ _ ih => exact ih.symm
  | trans _ _ _ _ _ ih ih' => exact ih.trans ih'

/-! ## Joined conditions -/

/-- What is written of a condition that may be missing. -/
def writtenOption (o : Object) (u : User) (c : Option Condition) : Except Fault (Option Test) :=
  (compileOption o u c).map (Option.map Predicate.test)

/-- **What is written of two conditions joined** depends on what is written of each. -/
theorem written_merge (o : Object) (u : User) (base caller : Option Condition) :
    writtenOption o u (merge base caller) =
      (writtenOption o u base).bind fun s => (writtenOption o u caller).map fun t =>
        joined .and (s.toList ++ t.toList) := by
  unfold writtenOption
  rw [map_compileOption_merge fun _ => rfl]
  rcases compileOption o u base with fault | p
  · rfl
  · rcases compileOption o u caller with fault | q
    · rfl
    · cases p <;> cases q <;> rfl

end Condition

/-! ## Queries -/

variable {o : Object} {options : Options} {u : User}

namespace Plan

/-- The plan with another condition. -/
def filteredBy (p : Plan) (c : Option Predicate) : Plan :=
  { p with condition := c }

/-- The text of a plan has no more of its condition than the test. -/
theorem sql_filteredBy (p : Plan) {a b : Option Predicate}
    (h : a.map Predicate.test = b.map Predicate.test) :
    (p.filteredBy a).sql = (p.filteredBy b).sql := by
  unfold filteredBy sql query selection
  simp only [h]
  rfl

/-- Conditions of one test make no difference to a sort but in the plan: its faults show the text of
the query so far. -/
theorem map_compileSort_filteredBy {α : Type} {a b : Option Predicate}
    (h : a.map Predicate.test = b.map Predicate.test) {f : Plan → α}
    (hf : ∀ p : Plan, f (p.filteredBy a) = f (p.filteredBy b)) (entries : List SortEntry)
    (p : Plan) :
    (compileSort o u entries (p.filteredBy a)).map f =
      (compileSort o u entries (p.filteredBy b)).map f := by
  induction entries generalizing p with
  | nil => exact congrArg Except.ok (hf p)
  | cons entry rest ih =>
    unfold compileSort
    rw [p.sql_filteredBy h]
    cases compileTerm o u entry with
    | error fault => rfl
    | ok term => exact ih { p with sort := p.sort ++ [term] }

/-- The text of a query goes by what is written of its condition, whatever is made of its rows. -/
theorem text_of_written (options other : Options) (hsort : options.sort = other.sort)
    (h : Condition.writtenOption o u (options.mergedCondition o) =
      Condition.writtenOption o u (other.mergedCondition o)) (finish : Plan → Plan)
    (hfinish : ∀ p a, finish (filteredBy p a) = (finish p).filteredBy a) :
    (compileRows o options u).map (fun rows => (finish rows).sql) =
      (compileRows o other u).map fun rows => (finish rows).sql := by
  have hrows : ∀ options : Options, compileRows o options u =
      ((Condition.compileOption o u (options.mergedCondition o)).mapError
        (Fault.withSql (Plan.sql { source := o.source }))).bind fun c =>
          compileSort o u options.sort (filteredBy { source := o.source } c) := by
    intro options
    unfold compileRows compileCondition
    cases options.mergedCondition o <;> rfl
  unfold Condition.writtenOption at h
  rw [hrows, hrows, hsort]
  cases hc : Condition.compileOption o u (options.mergedCondition o) with
  | error fault =>
    rw [hc] at h
    rw [map_eq_error_iff.mp h.symm]
  | ok a =>
    rw [hc] at h
    obtain ⟨b, hd, hab⟩ := map_eq_ok_iff.mp h.symm
    rw [hd]
    refine map_compileSort_filteredBy hab.symm ?_ other.sort { source := o.source }
    intro p
    rw [hfinish, hfinish]
    exact (finish p).sql_filteredBy hab.symm

end Plan

/-- The text of a find, or why there is none. -/
def findText (o : Object) (options : Options) (u : User) : Except Fault String :=
  (Plan.compile o options u).map Plan.sql

/-- The text of the count that goes with it, or why there is none. -/
def countText (o : Object) (options : Options) (u : User) : Except Fault String :=
  (Plan.compileCount o options u).map Plan.sql

/-- The options with another condition of the caller. -/
def Options.filteredBy (options : Options) (c : Option Condition) : Options :=
  { options with condition := c }

/-- Conditions of which the same is written make the same texts, and fail alike. -/
theorem texts_of_written {c d : Option Condition}
    (h : Condition.writtenOption o u c = Condition.writtenOption o u d) (options : Options) :
    findText o (options.filteredBy c) u = findText o (options.filteredBy d) u ∧
      countText o (options.filteredBy c) u = countText o (options.filteredBy d) u := by
  have hmerged : Condition.writtenOption o u ((options.filteredBy c).mergedCondition o) =
      Condition.writtenOption o u ((options.filteredBy d).mergedCondition o) := by
    unfold Options.mergedCondition
    rw [Condition.written_merge, Condition.written_merge]
    exact congrArg (Except.bind _) (funext fun s => congrArg (Except.map _) h)
  constructor
  · let finish (rows : Plan) : Plan :=
      { rows with
        offset := options.offset
        limit := options.limit
        rowNumberSeed := if options.includeRowNumber then some (options.offset.getD 0) else none
        projection := options.projection o }
    have hfind : ∀ c, findText o (options.filteredBy c) u =
        (Plan.compileRows o (options.filteredBy c) u).map fun rows => (finish rows).sql := by
      intro c
      unfold findText Plan.compile
      cases Plan.compileRows o (options.filteredBy c) u <;> rfl
    rw [hfind, hfind]
    exact Plan.text_of_written (options.filteredBy c) (options.filteredBy d) rfl hmerged finish
      fun _ _ => rfl
  · let finish (rows : Plan) : Plan := { rows with projection := .count }
    have hcount : ∀ c, countText o (options.filteredBy c) u =
        (Plan.compileRows o (options.filteredBy c).forCount u).map fun rows =>
          (finish rows).sql := by
      intro c
      unfold countText Plan.compileCount
      cases Plan.compileRows o (options.filteredBy c).forCount u <;> rfl
    rw [hcount, hcount]
    exact Plan.text_of_written (options.filteredBy c).forCount (options.filteredBy d).forCount rfl
      hmerged finish fun _ _ => rfl

/-- **Redundant grouping never shows in the SQL.** Conditions that become equal by putting in or
taking out parts without rules, and by putting a part into a group where no other has a rule or
taking it out of one, make the same find and the same count, to the letter, or the same fault; next
to any condition of the object. A condition without a rule is like none at all. -/
theorem redundant_grouping_unseen (o : Object) (options : Options) (u : User) :
    (∀ c d, Condition.Regrouped c d →
      findText o (options.filteredBy (some c)) u = findText o (options.filteredBy (some d)) u ∧
        countText o (options.filteredBy (some c)) u =
          countText o (options.filteredBy (some d)) u) ∧
    ∀ c : Condition, c.rules = [] →
      findText o (options.filteredBy (some c)) u = findText o (options.filteredBy none) u ∧
        countText o (options.filteredBy (some c)) u = countText o (options.filteredBy none) u := by
  constructor
  · intro c d h
    have hwritten : Condition.writtenOption o u (some c) = Condition.writtenOption o u (some d) :=
      Condition.written_of_regrouped h
    exact texts_of_written hwritten options
  · intro c h
    have hwritten : Condition.writtenOption o u (some c) = Condition.writtenOption o u none :=
      Condition.written_of_ruleless h
    exact texts_of_written hwritten options

/-! ### Large parts or parts without a note -/

namespace Object

def largeOrBare : Condition :=
  .group .or [.rule ⟨"size", .greater, .ofNat 3⟩, .rule ⟨"note", .isEmpty, .null⟩]

/-- The same parts, asked for with three groups too many. -/
def largeOrBareGrouped : Condition :=
  .group .or [.group .and [], .group .and [.rule ⟨"size", .greater, .ofNat 3⟩],
    .rule ⟨"note", .isEmpty, .null⟩, .group .or [.group .and []]]

theorem largeOrBare_regrouped : Condition.Regrouped largeOrBare largeOrBareGrouped := by
  let size : Condition := .rule ⟨"size", .greater, .ofNat 3⟩
  let note : Condition := .rule ⟨"note", .isEmpty, .null⟩
  have hwrap : Condition.Regroups (.group .or [size, note])
      (.group .or [.group .and [size], note]) :=
    .inside .or [] [note] (.wrap .and [] [] size rfl rfl)
  have hfront : Condition.Regroups (.group .or [.group .and [size], note])
      (.group .or [.group .and [], .group .and [size], note]) :=
    .insert .or [] [.group .and [size], note] rfl
  have hback : Condition.Regroups (.group .or [.group .and [], .group .and [size], note])
      largeOrBareGrouped :=
    .insert .or [.group .and [], .group .and [size], note] [] rfl
  exact .trans _ _ _ (.rel _ _ hwrap) (.trans _ _ _ (.rel _ _ hfront) (.rel _ _ hback))

/-- No trace of the groups is left beside the condition of the object. -/
theorem redundant_grouping_unseen_parts :
    Condition.Regrouped largeOrBare largeOrBareGrouped ∧
      findText parts (({} : Options).filteredBy (some largeOrBare)) {} =
        findText parts (({} : Options).filteredBy (some largeOrBareGrouped)) {} ∧
      countText parts (({} : Options).filteredBy (some largeOrBareGrouped)) {} =
        .ok ("SELECT COUNT(*) AS `count` FROM `Parts` " ++
          "WHERE `open` = TRUE AND (`size` > 3 OR (`note` IS NULL OR `note` = ''))") := by
  obtain ⟨hfind, hcount⟩ := (redundant_grouping_unseen parts {} {}).1 _ _ largeOrBare_regrouped
  refine ⟨largeOrBare_regrouped, hfind, hcount.symm.trans ?_⟩
  decide +kernel

end Object

end Fieldwork
