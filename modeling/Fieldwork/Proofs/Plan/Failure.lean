import Fieldwork.Model
import Fieldwork.Proofs.Condition.Choices
import Fieldwork.Proofs.Condition.Rules
import Fieldwork.Proofs.Plan.Compile
import Fieldwork.Proofs.Session

/-!
# Why a query does not compile

The parts of a query are resolved one after another: the rules of its condition from left to right,
those of the object before those of the caller, then the entries of its sort. The first part that
has a fault decides, and the query text that the fault is given is that of the parts before it.

* `mapM_eq_error_iff`: a traversal fails with the fault of the first element that has one.
* `compileTerm_eq_error_iff`: what is wrong with a sort entry.
* `compileCondition_eq_error_iff`, `compileSort_eq_error_iff`: what the two stages fail with.
* `Object.findFails_of_compile`: a find whose query does not compile logs the reports of compiling
  it and asks the storage nothing.
* `first_fault_reported`: **a query that does not compile reports the first of its faults** with the
  query as far as it had come.
-/

namespace Fieldwork

section Traversal

variable {α β ε : Type} {f : α → Except ε β}

theorem exists_eq_error_iff {x : Except ε α} : (∃ e, x = .error e) ↔ ¬ ∃ a, x = .ok a := by
  cases x <;> simp

/-- The element at that place is the first one that fails, with that fault. -/
structure FirstFault (f : α → Except ε β) (as : List α) (i : ℕ) (e : ε) : Prop where
  fails : ∃ a, as[i]? = some a ∧ f a = .error e
  before : ∀ a ∈ as.take i, ∃ b, f a = .ok b

theorem firstFault_zero {a : α} {as : List α} {e : ε} (h : f a = .error e) :
    FirstFault f (a :: as) 0 e :=
  ⟨⟨a, rfl, h⟩, by simp⟩

theorem firstFault_succ_iff {a : α} {as : List α} {i : ℕ} {e : ε} :
    FirstFault f (a :: as) (i + 1) e ↔ (∃ b, f a = .ok b) ∧ FirstFault f as i e := by
  constructor
  · rintro ⟨hfails, hbefore⟩
    rw [List.take_succ_cons, List.forall_mem_cons] at hbefore
    exact ⟨hbefore.1, hfails, hbefore.2⟩
  · rintro ⟨ha, hfails, hbefore⟩
    refine ⟨hfails, ?_⟩
    rw [List.take_succ_cons, List.forall_mem_cons]
    exact ⟨ha, hbefore⟩

/-- **A traversal fails with the fault of the first element that has one.** -/
theorem mapM_eq_error_iff (as : List α) (e : ε) :
    as.mapM f = .error e ↔ ∃ i, FirstFault f as i e := by
  induction as with
  | nil =>
    rw [List.mapM_nil]
    constructor
    · rintro ⟨⟩
    · rintro ⟨i, ⟨a, ha, -⟩, -⟩
      cases ha
  | cons a as ih =>
    rw [List.mapM_cons, bind_eq_error_iff]
    constructor
    · rintro (ha | ⟨b, hb, hrest⟩)
      · exact ⟨0, firstFault_zero ha⟩
      · rw [bind_eq_error_iff, ih] at hrest
        rcases hrest with ⟨i, hi⟩ | ⟨bs, -, hnone⟩
        · exact ⟨i + 1, firstFault_succ_iff.mpr ⟨⟨b, hb⟩, hi⟩⟩
        · cases hnone
    · rintro ⟨_ | i, hi⟩
      · obtain ⟨_, heq, ha⟩ := hi.fails
        cases heq
        exact Or.inl ha
      · obtain ⟨⟨b, hb⟩, hi⟩ := firstFault_succ_iff.mp hi
        exact Or.inr ⟨b, hb, bind_eq_error_iff.mpr (Or.inl (ih.mpr ⟨i, hi⟩))⟩

end Traversal

/-! ## Faults of the parts -/

/-- The fault is that of a part of a query, which has no query text of its own. -/
def Fault.OfPart (f : Fault) : Prop :=
  (∃ object field, f = .unknownField object field) ∨ ∃ reason, f = .condition reason

/-- A part's fault is wrapped in the text of the query, and is found under it again. -/
theorem Fault.OfPart.withSql {f : Fault} (h : f.OfPart) (text : String) :
    f.withSql text = .withQuery f text ∧ (Fault.withQuery f text).cause = f := by
  rcases h with ⟨object, field, rfl⟩ | ⟨reason, rfl⟩ <;> exact ⟨rfl, rfl⟩

variable {o : Object} {options : Options} {u : User}

theorem Object.field_eq_error_iff {id : String} {fault : Fault} :
    o.field id = .error fault ↔ o.field? id = none ∧ fault = .unknownField o.id id := by
  unfold Object.field
  cases o.field? id <;> simp [eq_comm]

theorem Object.field_eq_ok_iff {id : String} {f : Located} :
    o.field id = .ok f ↔ o.field? id = some f := by
  unfold Object.field
  cases o.field? id <;> simp

theorem Located.columnOf_eq_error_iff {f : Located} {fault : Fault} :
    f.columnOf o u = .error fault ↔ f.multilingual = true ∧ u.languageCode = none ∧
      fault = .condition (.noLanguage f.id) := by
  unfold Located.columnOf
  by_cases hmultilingual : f.multilingual = true
  · rw [if_pos hmultilingual, Located.translated]
    cases u.languageCode with
    | none => simp [hmultilingual, eq_comm (a := fault)]
    | some language => simp
  · rw [if_neg hmultilingual]
    simp [hmultilingual]

/-- **What is wrong with a sort entry**: its field is unknown, or multilingual while the user has no
language. -/
theorem Plan.compileTerm_eq_error_iff {entry : SortEntry} {fault : Fault} :
    Plan.compileTerm o u entry = .error fault ↔
      o.field? entry.field = none ∧ fault = .unknownField o.id entry.field ∨
      ∃ f, o.field? entry.field = some f ∧ f.multilingual = true ∧ u.languageCode = none ∧
        fault = .condition (.noLanguage f.id) := by
  unfold Plan.compileTerm
  rw [bind_eq_error_iff, Object.field_eq_error_iff]
  simp only [bind_eq_error_iff, Object.field_eq_ok_iff, Located.columnOf_eq_error_iff]
  refine or_congr_right (exists_congr fun f => and_congr_right fun _ => ?_)
  simp [pure, Except.pure]

theorem Plan.exists_compileTerm_eq_error_iff {entry : SortEntry} :
    (∃ fault, Plan.compileTerm o u entry = .error fault) ↔ o.field? entry.field = none ∨
      ∃ f, o.field? entry.field = some f ∧ f.multilingual = true ∧ u.languageCode = none := by
  simp only [Plan.compileTerm_eq_error_iff]
  constructor
  · rintro ⟨_, ⟨hunknown, -⟩ | ⟨f, hf, hmultilingual, hlanguage, -⟩⟩
    · exact Or.inl hunknown
    · exact Or.inr ⟨f, hf, hmultilingual, hlanguage⟩
  · rintro (hunknown | ⟨f, hf, hmultilingual, hlanguage⟩)
    · exact ⟨_, Or.inl ⟨hunknown, rfl⟩⟩
    · exact ⟨_, Or.inr ⟨f, hf, hmultilingual, hlanguage, rfl⟩⟩

theorem Plan.ofPart_of_compileTerm {entry : SortEntry} {fault : Fault}
    (h : Plan.compileTerm o u entry = .error fault) : fault.OfPart := by
  rcases Plan.compileTerm_eq_error_iff.mp h with ⟨-, rfl⟩ | ⟨f, -, -, -, rfl⟩
  · exact Or.inl ⟨_, _, rfl⟩
  · exact Or.inr ⟨_, rfl⟩

theorem Rule.ofPart_of_compile {r : Rule} {fault : Fault} (h : r.compile o u = .error fault) :
    fault.OfPart := by
  cases Rule.compile_eq_error_iff.mp h with
  | unknown _ hf =>
    obtain ⟨-, rfl⟩ := Object.field_eq_error_iff.mp hf
    exact Or.inl ⟨_, _, rfl⟩
  | notRelation => exact Or.inr ⟨_, rfl⟩
  | column _ _ _ hcolumn =>
    obtain ⟨-, -, rfl⟩ := Located.columnOf_eq_error_iff.mp hcolumn
    exact Or.inr ⟨_, rfl⟩

/-! ## Rules in their order -/

namespace Condition

/-- The rules of a condition that may be missing. -/
def rulesOf : Option Condition → List Rule
  | none => []
  | some c => c.rules

theorem rules_of_isEmpty {c : Condition} (h : c.isEmpty = true) : c.rules = [] := by
  cases c with
  | rule r => cases h
  | group glue members =>
    cases members with
    | nil => rfl
    | cons c cs => cases h

theorem rulesOf_filter (c : Option Condition) :
    rulesOf (c.filter (!·.isEmpty)) = rulesOf c := by
  cases c with
  | none => rfl
  | some c =>
    cases hempty : c.isEmpty with
    | true => simp [Option.filter, hempty, rulesOf, rules_of_isEmpty hempty]
    | false => simp [Option.filter, hempty]

/-- Merging keeps all rules, those of the first condition in front. -/
theorem rulesOf_merge (base caller : Option Condition) :
    rulesOf (merge base caller) = rulesOf base ++ rulesOf caller := by
  rw [← rulesOf_filter base, ← rulesOf_filter caller]
  unfold merge
  generalize base.filter (!·.isEmpty) = b
  generalize caller.filter (!·.isEmpty) = c
  cases b <;> cases c <;> simp [rulesOf, rules, rulesAll]

/-- A condition fails with the fault of the first of its rules that has one. -/
theorem compileOption_eq_error_iff (c : Option Condition) (fault : Fault) :
    compileOption o u c = .error fault ↔
      ∃ i, FirstFault (Rule.compile o u) (rulesOf c) i fault := by
  rw [← mapM_eq_error_iff]
  cases c with
  | none => simp [compileOption, rulesOf, pure, Except.pure]
  | some c =>
    rw [compileOption, rulesOf, ← leaves_compile]
    cases c.compile o u <;> simp [Except.map]

end Condition

/-- The rules that a query is filtered by, those of the object before those of the caller. -/
def Options.rules (options : Options) (o : Object) : List Rule :=
  Condition.rulesOf (if options.skipExistingConditions then none else o.condition) ++
    Condition.rulesOf options.condition

theorem Options.rulesOf_mergedCondition :
    Condition.rulesOf (options.mergedCondition o) = options.rules o :=
  Condition.rulesOf_merge _ _

namespace Plan

/-- The text of a query of which nothing is known but its source. -/
def bareText (source : String) : String :=
  "SELECT * FROM " ++ String.ofList (Sql.Token.nameChars source)

theorem sql_bare (source : String) : Plan.sql { source } = bareText source := by
  have htokens : (Plan.query { source }).tokens =
      [.word "SELECT", .blank, .mark "*", .blank, .word "FROM", .blank, .name source] := rfl
  apply String.toList_inj.mp
  rw [Plan.sql, Sql.Query.text, Sql.textOf, htokens, bareText, String.toList_append]
  simp [Sql.Token.chars]

/-- A condition that fails does so before anything else of the query is known. -/
theorem compileCondition_eq_error_iff {fault : Fault} :
    compileCondition o options u = .error fault ↔
      ∃ i f, FirstFault (Rule.compile o u) (options.rules o) i f ∧
        fault = .withQuery f (bareText o.source) := by
  have hcompile : compileCondition o options u =
      (Condition.compileOption o u (options.mergedCondition o)).mapError
        (Fault.withSql (bareText o.source)) := by
    rw [compileCondition, ← sql_bare]
    cases options.mergedCondition o <;> rfl
  rw [hcompile, mapError_eq_error_iff]
  simp only [Condition.compileOption_eq_error_iff, Options.rulesOf_mergedCondition]
  constructor
  · rintro ⟨f, ⟨i, hfirst⟩, rfl⟩
    obtain ⟨r, -, hr⟩ := hfirst.fails
    exact ⟨i, f, hfirst, ((Rule.ofPart_of_compile hr).withSql _).1⟩
  · rintro ⟨i, f, hfirst, rfl⟩
    obtain ⟨r, -, hr⟩ := hfirst.fails
    exact ⟨f, ⟨i, hfirst⟩, ((Rule.ofPart_of_compile hr).withSql _).1.symm⟩

/-- A sort fails with its first entry that has a fault, when the entries before it are resolved. -/
theorem compileSort_eq_error_iff (entries : List SortEntry) (p : Plan) (fault : Fault) :
    compileSort o u entries p = .error fault ↔
      ∃ i f terms, FirstFault (compileTerm o u) entries i f ∧
        (entries.take i).mapM (compileTerm o u) = .ok terms ∧
        fault = .withQuery f { p with sort := p.sort ++ terms }.sql := by
  induction entries generalizing p with
  | nil =>
    rw [compileSort]
    constructor
    · rintro ⟨⟩
    · rintro ⟨i, f, terms, ⟨⟨a, ha, -⟩, -⟩, -⟩
      cases ha
  | cons entry rest ih =>
    rw [compileSort, bind_eq_error_iff, mapError_eq_error_iff]
    simp only [mapError_eq_ok_iff, ih]
    constructor
    · rintro (⟨f, hf, rfl⟩ | ⟨term, hterm, i, f, terms, hfirst, hterms, rfl⟩)
      · refine ⟨0, f, [], firstFault_zero hf, rfl, ?_⟩
        rw [List.append_nil]
        exact ((ofPart_of_compileTerm hf).withSql _).1
      · refine ⟨i + 1, f, term :: terms, firstFault_succ_iff.mpr ⟨⟨term, hterm⟩, hfirst⟩, ?_, ?_⟩
        · rw [List.take_succ_cons, List.mapM_cons, hterm, hterms]
          rfl
        · rw [List.append_assoc]
          rfl
    · rintro ⟨_ | i, f, terms, hfirst, hterms, rfl⟩
      · obtain ⟨_, heq, hf⟩ := hfirst.fails
        cases heq
        rw [List.take_zero, List.mapM_nil] at hterms
        cases hterms
        refine Or.inl ⟨f, hf, ?_⟩
        rw [List.append_nil]
        exact ((ofPart_of_compileTerm hf).withSql _).1.symm
      · obtain ⟨-, hfirst⟩ := firstFault_succ_iff.mp hfirst
        rw [List.take_succ_cons, List.mapM_cons] at hterms
        obtain ⟨term, hterm, hterms⟩ := bind_eq_ok_iff.mp hterms
        obtain ⟨others, hothers, heq⟩ := bind_eq_ok_iff.mp hterms
        cases heq
        refine Or.inr ⟨term, hterm, i, f, others, hfirst, hothers, ?_⟩
        rw [List.append_assoc]
        rfl

end Plan

/-- The same query with only so many entries of its sort, and without numbers, page and columns. -/
def Options.sortedBy (options : Options) (i : ℕ) : Options :=
  { options with
    sort := options.sort.take i
    offset := none
    limit := none
    columnNames := none
    includeRowNumber := false
    includeColumns := true }

namespace Plan

/-- **A query fails with the first of its faults**, wrapped in the text of the query as far as it
had come. -/
theorem compile_eq_error_iff {fault : Fault} :
    compile o options u = .error fault ↔
      (∃ i f, FirstFault (Rule.compile o u) (options.rules o) i f ∧
        fault = .withQuery f (bareText o.source)) ∨
      ∃ i f p, FirstFault (compileTerm o u) options.sort i f ∧
        compile o (options.sortedBy i) u = .ok p ∧ fault = .withQuery f p.sql := by
  have hrows : compile o options u = .error fault ↔ compileRows o options u = .error fault := by
    rw [compile, bind_eq_error_iff]
    simp [pure, Except.pure]
  rw [hrows, compileRows, bind_eq_error_iff, compileCondition_eq_error_iff]
  refine or_congr_right ?_
  simp only [compileCondition_eq_ok_iff, compileSort_eq_error_iff, compile_eq_ok_iff]
  constructor
  · rintro ⟨condition, hcondition, i, f, terms, hfirst, hterms, rfl⟩
    exact ⟨i, f, _, hfirst, ⟨condition, terms, hcondition, hterms, rfl⟩, rfl⟩
  · rintro ⟨i, f, p, hfirst, ⟨condition, terms, hcondition, hterms, rfl⟩, rfl⟩
    exact ⟨condition, hcondition, i, f, terms, hfirst, hterms, rfl⟩

/-- **A count fails with the first fault of its condition**, beside the bare query. -/
theorem compileCount_eq_error_iff {fault : Fault} :
    compileCount o options u = .error fault ↔
      ∃ i f, FirstFault (Rule.compile o u) (options.rules o) i f ∧
        fault = .withQuery f (bareText o.source) := by
  have hrules : options.forCount.rules o = options.rules o := rfl
  have hsort : options.forCount.sort = [] := rfl
  rw [compileCount, bind_eq_error_iff, compileRows, bind_eq_error_iff,
    compileCondition_eq_error_iff, hrules]
  simp [hsort, compileSort, pure, Except.pure]

/-- A query fails when its condition does or an entry of its sort. -/
theorem exists_compile_eq_error_iff :
    (∃ fault, compile o options u = .error fault) ↔
      (∃ f, Condition.compileOption o u (options.mergedCondition o) = .error f) ∨
      ∃ entry ∈ options.sort, ∃ f, compileTerm o u entry = .error f := by
  have hparts : (∃ p, compile o options u = .ok p) ↔
      (∃ p, Condition.compileOption o u (options.mergedCondition o) = .ok p) ∧
        ∃ terms, options.sortTerms o u = .ok terms := by
    simp only [compile_eq_ok_iff]
    constructor
    · rintro ⟨_, condition, terms, hcondition, hterms, -⟩
      exact ⟨⟨condition, hcondition⟩, terms, hterms⟩
    · rintro ⟨⟨condition, hcondition⟩, terms, hterms⟩
      exact ⟨_, condition, terms, hcondition, hterms, rfl⟩
  simp only [exists_eq_error_iff, hparts, Options.sortTerms, exists_mapM_eq_ok_iff, not_and_or,
    not_forall, exists_prop]

end Plan

/-! ## Reports -/

/-- A condition that fails is reported once, with the whole of it. -/
theorem Options.report_of_error {f : Fault}
    (h : Condition.compileOption o u (options.mergedCondition o) = .error f) :
    ∃ c, options.mergedCondition o = some c ∧ options.report o u =
      [.conditionFailed f.message o.id c.document.text (u.username.getD "")
        (u.languageCode.getD "")] := by
  unfold report
  cases hmerged : options.mergedCondition o with
  | none => rw [hmerged] at h; cases h
  | some c =>
    rw [hmerged, Condition.compileOption] at h
    refine ⟨c, rfl, ?_⟩
    simp only [Condition.report, h]

theorem Options.report_of_ok {p : Option Predicate}
    (h : Condition.compileOption o u (options.mergedCondition o) = .ok p) :
    options.report o u = [] := by
  unfold report
  cases hmerged : options.mergedCondition o with
  | none => rfl
  | some c =>
    rw [hmerged, Condition.compileOption] at h
    simp only [Condition.report, h]

/-- Whatever it is asked of, a find of these options ends with that fault: it logs those events and
leaves the storage and the bus alone. -/
def Object.FindFails (o : Object) (options : Options) (u : User) (fault : Fault)
    (events : List Event) : Prop :=
  ∀ (σ β : Type) (storage : Storage σ) (scope : Option Scope) (s : Session σ β),
    Program.exec (o.find storage options u scope) s =
      (.error fault, { s with log := s.log ++ events.map .reported })

/-- The reports of a query that does not compile are all that its find does. -/
theorem Object.findFails_of_compile {fault : Fault} (h : Plan.compile o options u = .error fault) :
    o.FindFails options u fault (options.report o u) := by
  intro σ β storage scope s
  rw [find, Program.exec_bind_ok (Program.exec_reportAll _ s), h]
  exact Program.exec_bind_error (Program.exec_ofExcept _ _)

/-- **A query that does not compile reports the first of its faults.** It fails when its condition
does or an entry of its sort cannot be resolved. The fault of a condition is that of its first rule
with a fault, beside the bare query, and is reported once. Otherwise the fault is that of the first
entry with one, beside the query that the entries before it make, and nothing is reported. A find
logs these reports and does nothing else. -/
theorem first_fault_reported (o : Object) (options : Options) (u : User) :
    ((∃ fault, Plan.compile o options u = .error fault) ↔
      (∃ f, Condition.compileOption o u (options.mergedCondition o) = .error f) ∨
      ∃ entry ∈ options.sort, o.field? entry.field = none ∨
        ∃ f, o.field? entry.field = some f ∧ f.multilingual = true ∧ u.languageCode = none) ∧
    ∀ fault, Plan.compile o options u = .error fault →
      (∃ i f event, Condition.compileOption o u (options.mergedCondition o) = .error f ∧
        FirstFault (Rule.compile o u) (options.rules o) i f ∧ fault.cause = f ∧
        fault.sql? = some ("SELECT * FROM " ++ String.ofList (Sql.Token.nameChars o.source)) ∧
        options.report o u = [event] ∧ event.level = .error ∧
        o.FindFails options u fault [event]) ∨
      ∃ i f condition p, Condition.compileOption o u (options.mergedCondition o) = .ok condition ∧
        FirstFault (Plan.compileTerm o u) options.sort i f ∧ fault.cause = f ∧
        Plan.compile o (options.sortedBy i) u = .ok p ∧ fault.sql? = some p.sql ∧
        options.report o u = [] ∧ o.FindFails options u fault [] := by
  constructor
  · simp only [Plan.exists_compile_eq_error_iff, Plan.exists_compileTerm_eq_error_iff]
  · intro fault hfault
    have hfind : o.FindFails options u fault (options.report o u) :=
      Object.findFails_of_compile hfault
    rcases Plan.compile_eq_error_iff.mp hfault with ⟨i, f, hfirst, rfl⟩ | ⟨i, f, p, hfirst, hp, rfl⟩
    · have hcondition : Condition.compileOption o u (options.mergedCondition o) = .error f := by
        rw [Condition.compileOption_eq_error_iff, Options.rulesOf_mergedCondition]
        exact ⟨i, hfirst⟩
      obtain ⟨r, -, hr⟩ := hfirst.fails
      obtain ⟨c, -, hreport⟩ := Options.report_of_error hcondition
      rw [hreport] at hfind
      exact Or.inl ⟨i, f, _, hcondition, hfirst, ((Rule.ofPart_of_compile hr).withSql _).2, rfl,
        hreport, rfl, hfind⟩
    · obtain ⟨condition, terms, hcondition, -, -⟩ := (Plan.compile_eq_ok_iff p).mp hp
      obtain ⟨entry, -, hentry⟩ := hfirst.fails
      have hreport : options.report o u = [] := Options.report_of_ok hcondition
      rw [hreport] at hfind
      exact Or.inr ⟨i, f, condition, p, hcondition, hfirst,
        ((Plan.ofPart_of_compileTerm hentry).withSql _).2, hp, rfl, hreport, hfind⟩

/-! ### Parts by their stars -/

/-- Parts on a page, by stars and then by a colour that they have not. -/
def byColour : Options :=
  { condition := some (.rule ⟨"open", .equals, .bool true⟩)
    sort := [⟨"00000000-0000-4000-8000-000000000001", .descending⟩, ⟨"colour", .ascending⟩]
    offset := some 5 }

/-- The same parts, of a shape that they have not either. -/
def byShape : Options :=
  { byColour with
    condition := some (.group .or [.rule ⟨"open", .equals, .bool true⟩,
      .rule ⟨"00000000-0000-4000-8000-000000000002", .equals, .string "round"⟩]) }

/-- The colour is the second entry of the sort: the query goes as far as the stars, without a
page. The shape comes before both, so nothing of that query is known but its source. -/
theorem first_fault_reported_colour :
    (let fault : Fault := .withQuery (.unknownField "parts" "colour")
      "SELECT * FROM `Parts` WHERE `open` = TRUE ORDER BY `shop`.`Parts`.`stars` DESC"
    Plan.compile ratedParts byColour {} = .error fault ∧
      ∃ i f condition p,
        Condition.compileOption ratedParts {} (byColour.mergedCondition ratedParts) =
          .ok condition ∧
        FirstFault (Plan.compileTerm ratedParts {}) byColour.sort i f ∧ fault.cause = f ∧
        Plan.compile ratedParts (byColour.sortedBy i) {} = .ok p ∧ fault.sql? = some p.sql ∧
        byColour.report ratedParts {} = [] ∧ ratedParts.FindFails byColour {} fault []) ∧
    (let shape : Fault := .unknownField "parts" "00000000-0000-4000-8000-000000000002"
    let fault : Fault := .withQuery shape "SELECT * FROM `Parts`"
    Plan.compile ratedParts byShape {} = .error fault ∧
      ∃ i event,
        Condition.compileOption ratedParts {} (byShape.mergedCondition ratedParts) =
          .error shape ∧
        FirstFault (Rule.compile ratedParts {}) (byShape.rules ratedParts) i shape ∧
        byShape.report ratedParts {} = [event] ∧ event.level = .error ∧
        ratedParts.FindFails byShape {} fault [event]) := by
  constructor
  · intro fault
    have hcompile : Plan.compile ratedParts byColour {} = .error fault := by rfl
    refine ⟨hcompile, ?_⟩
    rcases (first_fault_reported ratedParts byColour {}).2 fault hcompile with
      ⟨-, f, -, hcondition, -⟩ | hsort
    · have hok : Condition.compileOption ratedParts {} (byColour.mergedCondition ratedParts) =
          .ok (some (.rule (.ofPath "open") .equals (.bool true))) := by rfl
      rw [hok] at hcondition
      cases hcondition
    · exact hsort
  · intro shape fault
    have hcompile : Plan.compile ratedParts byShape {} = .error fault := by rfl
    refine ⟨hcompile, ?_⟩
    rcases (first_fault_reported ratedParts byShape {}).2 fault hcompile with
      ⟨i, f, event, hcondition, hfirst, rfl, -, hreport, hlevel, hfind⟩ |
      ⟨-, -, condition, -, hcondition, -⟩
    · exact ⟨i, event, hcondition, hfirst, hreport, hlevel, hfind⟩
    · have herror : Condition.compileOption ratedParts {} (byShape.mergedCondition ratedParts) =
          .error shape := by rfl
      rw [herror] at hcondition
      cases hcondition

end Fieldwork
