import Fieldwork.Proofs.Plan.Failure

/-!
# Users and their language

Of a user a query shows the language only, in the columns that are looked up among translations.
Two users who have one get the same query, each with look-ups in their own language; one who has
none gets a query where nothing is looked up, and then everyone gets it.

* `Carries`: what the fields of an object stand for is known for one user from what it is for the
  other. From there it is carried over to rules, conditions, sorts and queries.
* `compile_error_of_language`: what fails for a user with a language fails for everyone.
* `user_shows_by_language`: **the user shows in a query by the language only.**
-/

namespace Fieldwork

/-! ## Columns exchanged -/

/-- The column, looked up in that language if it is looked up among translations. -/
def Column.inLanguage (language : String) : Column → Column
  | .translated payload _ name => .translated payload language name
  | .physical schema table name => .physical schema table name

namespace Predicate

mutual

/-- The columns that rules compare are exchanged, and all else is kept. -/
def mapColumns (f : Column → Column) : Predicate → Predicate
  | .rule column operator value => .rule (f column) operator value
  | .noRelation column target => .noRelation column target
  | .group glue members => .group glue (mapColumnsAll f members)

def mapColumnsAll (f : Column → Column) : List Predicate → List Predicate
  | [] => []
  | p :: ps => mapColumns f p :: mapColumnsAll f ps

end

mutual

/-- The columns that rules compare, from left to right. -/
def columns : Predicate → List Column
  | .rule column _ _ => [column]
  | .noRelation _ _ => []
  | .group _ members => columnsAll members

def columnsAll : List Predicate → List Column
  | [] => []
  | p :: ps => columns p ++ columnsAll ps

end

mutual

/-- The columns of a renamed condition are the renamed columns. -/
theorem columns_mapColumns (f : Column → Column) :
    (p : Predicate) → (p.mapColumns f).columns = p.columns.map f
  | .rule _ _ _ => rfl
  | .noRelation _ _ => rfl
  | .group _ members => columnsAll_mapColumnsAll f members

theorem columnsAll_mapColumnsAll (f : Column → Column) :
    (ps : List Predicate) → columnsAll (mapColumnsAll f ps) = (columnsAll ps).map f
  | [] => rfl
  | p :: ps => by
    rw [mapColumnsAll, columnsAll, columnsAll, columns_mapColumns f p,
      columnsAll_mapColumnsAll f ps, List.map_append]

end

mutual

/-- Renaming nothing changes nothing. -/
theorem mapColumns_id : (p : Predicate) → p.mapColumns id = p
  | .rule _ _ _ => rfl
  | .noRelation _ _ => rfl
  | .group glue members => congrArg (Predicate.group glue) (mapColumnsAll_id members)

theorem mapColumnsAll_id : (ps : List Predicate) → mapColumnsAll id ps = ps
  | [] => rfl
  | p :: ps => by rw [mapColumnsAll, mapColumns_id p, mapColumnsAll_id ps]

end

end Predicate

/-- The same term on another column. -/
def SortTerm.mapColumn (f : Column → Column) (term : SortTerm) : SortTerm :=
  { term with column := f term.column }

namespace Plan

/-- The columns of the condition and of the sort are exchanged, and all else is kept. -/
def mapColumns (f : Column → Column) (p : Plan) : Plan :=
  { p with
    condition := p.condition.map (Predicate.mapColumns f)
    sort := p.sort.map (SortTerm.mapColumn f) }

/-- The columns of the condition and of the sort. -/
def columns (p : Plan) : List Column :=
  p.condition.toList.flatMap Predicate.columns ++ p.sort.map SortTerm.column

/-- The plan with every translation looked up in that language. -/
def inLanguage (language : String) (p : Plan) : Plan :=
  p.mapColumns (Column.inLanguage language)

theorem columns_mapColumns (f : Column → Column) (p : Plan) :
    (p.mapColumns f).columns = p.columns.map f := by
  have hsort : (p.sort.map (SortTerm.mapColumn f)).map SortTerm.column =
      (p.sort.map SortTerm.column).map f := by
    rw [List.map_map, List.map_map]
    rfl
  unfold columns mapColumns
  rw [hsort, List.map_append]
  congr 1
  cases p.condition with
  | none => rfl
  | some c => simp [Predicate.columns_mapColumns]

theorem mapColumns_id (p : Plan) : p.mapColumns id = p := by
  have hcondition : p.condition.map (Predicate.mapColumns id) = p.condition := by
    cases p.condition with
    | none => rfl
    | some c => exact congrArg some (Predicate.mapColumns_id c)
  have hsort : p.sort.map (SortTerm.mapColumn id) = p.sort := List.map_id p.sort
  unfold mapColumns
  rw [hcondition, hsort]

end Plan

/-! ## From one user to another -/

variable {o : Object} {options : Options} {u v : User} {f : Column → Column}

/-- What a field stands for when `u` asks becomes by `f` what it stands for when `v` asks. -/
structure Carries (o : Object) (u v : User) (f : Column → Column) : Prop where
  physical : ∀ schema table name, f (.physical schema table name) = .physical schema table name
  columnOf : ∀ (l : Located) (c : Column), l.columnOf o u = .ok c → l.columnOf o v = .ok (f c)

/-- For a user with a language, translations are looked up in that language. -/
theorem carries_inLanguage (o : Object) (u : User) {language : String}
    (hv : v.languageCode = some language) : Carries o u v (Column.inLanguage language) where
  physical _ _ _ := rfl
  columnOf l c hc := by
    unfold Located.columnOf Located.translated at hc ⊢
    rw [hv]
    by_cases hmultilingual : l.multilingual = true
    · rw [if_pos hmultilingual] at hc ⊢
      cases hu : u.languageCode with
      | none => rw [hu] at hc; cases hc
      | some other => rw [hu] at hc; cases hc; rfl
    · rw [if_neg hmultilingual] at hc ⊢
      cases hc
      rfl

/-- What stands for a field without a language stands for it with any. -/
theorem carries_id (o : Object) (v : User) (hu : u.languageCode = none) : Carries o u v id where
  physical _ _ _ := rfl
  columnOf l c hc := by
    unfold Located.columnOf Located.translated at hc ⊢
    rw [hu] at hc
    by_cases hmultilingual : l.multilingual = true
    · rw [if_pos hmultilingual] at hc
      cases hc
    · rw [if_neg hmultilingual] at hc ⊢
      exact hc

/-- A written reference is never a translated column. -/
theorem Column.ofPath_physical (path : String) :
    ∃ schema table name, Column.ofPath path = .physical schema table name := by
  unfold Column.ofPath
  split <;> exact ⟨_, _, _, rfl⟩

namespace Carries

/-- A rule compiles to the same for the other user, but for its column. -/
theorem rule (h : Carries o u v f) {r : Rule} {p : Predicate} (hp : r.compile o u = .ok p) :
    r.compile o v = .ok (p.mapColumns f) := by
  refine Rule.compile_eq_ok_iff.mpr ?_
  cases Rule.compile_eq_ok_iff.mp hp with
  | path hkey =>
    obtain ⟨schema, table, name, hpath⟩ := Column.ofPath_physical r.key
    have hsame : f (.ofPath r.key) = .ofPath r.key := by rw [hpath, h.physical]
    rw [Predicate.mapColumns, hsame]
    exact .path hkey
  -- a missing relation is about a column of the table itself
  | noRelation hkey hf hop hrelation => exact .noRelation hkey hf hop hrelation
  | field hkey hf hop hcolumn => exact .field hkey hf hop (h.columnOf _ _ hcolumn)

mutual

/-- **A condition compiles to the same for the other user, column by column.** -/
theorem condition (h : Carries o u v f) :
    (c : Condition) → ∀ p, c.compile o u = .ok p →
      c.compile o v = .ok (p.map (Predicate.mapColumns f))
  | .rule r => by
    intro p hp
    rw [Condition.compile_rule] at hp ⊢
    obtain ⟨q, hq, rfl⟩ := map_eq_ok_iff.mp hp
    rw [h.rule hq]
    rfl
  | .group glue members => by
    intro p hp
    rw [Condition.compile_group] at hp ⊢
    obtain ⟨ps, hps, rfl⟩ := map_eq_ok_iff.mp hp
    rw [h.conditions members ps hps]
    cases ps <;> rfl

/-- The members of a group do, one by one. -/
theorem conditions (h : Carries o u v f) :
    (cs : List Condition) → ∀ ps, Condition.compileAll o u cs = .ok ps →
      Condition.compileAll o v cs = .ok (Predicate.mapColumnsAll f ps)
  | [] => by
    intro ps hps
    cases hps
    rfl
  | c :: cs => by
    intro ps hps
    rw [Condition.compileAll_cons] at hps ⊢
    obtain ⟨p, hp, hps⟩ := bind_eq_ok_iff.mp hps
    obtain ⟨qs, hqs, rfl⟩ := map_eq_ok_iff.mp hps
    rw [h.condition c p hp, h.conditions cs qs hqs]
    cases p <;> rfl

end

/-- So does a sort term. -/
theorem term (h : Carries o u v f) {entry : SortEntry} {t : SortTerm}
    (ht : Plan.compileTerm o u entry = .ok t) :
    Plan.compileTerm o v entry = .ok (t.mapColumn f) := by
  unfold Plan.compileTerm at ht ⊢
  obtain ⟨l, hl, ht⟩ := bind_eq_ok_iff.mp ht
  obtain ⟨c, hc, ht⟩ := bind_eq_ok_iff.mp ht
  cases ht
  exact bind_eq_ok_iff.mpr ⟨l, hl, bind_eq_ok_iff.mpr ⟨f c, h.columnOf l c hc, rfl⟩⟩

/-- **A query is carried over with its columns.** -/
theorem query (h : Carries o u v f) {p : Plan} (hp : Plan.compile o options u = .ok p) :
    Plan.compile o options v = .ok (p.mapColumns f) := by
  obtain ⟨condition, terms, hcondition, hterms, rfl⟩ := (Plan.compile_eq_ok_iff p).mp hp
  refine (Plan.compile_eq_ok_iff _).mpr
    ⟨condition.map (Predicate.mapColumns f), terms.map (SortTerm.mapColumn f), ?_, ?_, rfl⟩
  · cases hmerged : options.mergedCondition o with
    | none =>
      rw [hmerged] at hcondition
      cases hcondition
      rfl
    | some c =>
      rw [hmerged] at hcondition
      exact h.condition c condition hcondition
  · have hall := (mapM_eq_ok_iff_forall₂ _ _).mp hterms
    refine (mapM_eq_ok_iff_forall₂ _ _).mpr ?_
    rw [List.forall₂_map_right_iff]
    exact hall.imp fun entry t ht => h.term ht

end Carries

/-! ## Faults -/

/-- What fails with a language known fails for everyone. -/
theorem Rule.compile_error_of_language {language : String} (hu : u.languageCode = some language)
    {r : Rule} {fault : Fault} (h : r.compile o u = .error fault) (v : User) :
    r.compile o v = .error fault := by
  refine Rule.compile_eq_error_iff.mpr ?_
  cases Rule.compile_eq_error_iff.mp h with
  | unknown hkey hf => exact .unknown hkey hf
  | notRelation hkey hf hop hrelation => exact .notRelation hkey hf hop hrelation
  | column _ _ _ hcolumn =>
    obtain ⟨-, hnone, -⟩ := Located.columnOf_eq_error_iff.mp hcolumn
    rw [hu] at hnone
    cases hnone

/-- With a language, only an unknown field is wrong with a sort entry, and it is so for everyone. -/
theorem Plan.compileTerm_error_of_language {language : String}
    (hu : u.languageCode = some language) {entry : SortEntry} {fault : Fault}
    (h : Plan.compileTerm o u entry = .error fault) (v : User) :
    Plan.compileTerm o v entry = .error fault := by
  rcases Plan.compileTerm_eq_error_iff.mp h with hunknown | ⟨l, -, -, hnone, -⟩
  · exact Plan.compileTerm_eq_error_iff.mpr (Or.inl hunknown)
  · rw [hu] at hnone
    cases hnone

/-- The first fault of one traversal is that of another which passes and fails where it does. -/
theorem FirstFault.transfer {α β ε : Type} {g h : α → Except ε β} {as : List α} {i : ℕ} {e : ε}
    (hfirst : FirstFault g as i e) (hok : ∀ a b, g a = .ok b → ∃ c, h a = .ok c)
    (herror : ∀ a e, g a = .error e → h a = .error e) : FirstFault h as i e where
  fails := by
    obtain ⟨a, ha, hfail⟩ := hfirst.fails
    exact ⟨a, ha, herror a e hfail⟩
  before := by
    intro a ha
    obtain ⟨b, hb⟩ := hfirst.before a ha
    exact hok a b hb

/-- **What fails for one user with a language fails for the other**, from the same cause. -/
theorem Plan.compile_error_of_language {l m : String} (hu : u.languageCode = some l)
    (hv : v.languageCode = some m) {fault : Fault} (h : Plan.compile o options u = .error fault) :
    ∃ other, Plan.compile o options v = .error other ∧ other.cause = fault.cause ∧
      other.kind = fault.kind := by
  have hcarries := carries_inLanguage o u hv
  rcases Plan.compile_eq_error_iff.mp h with ⟨i, f, hfirst, rfl⟩ | ⟨i, f, p, hfirst, hp, rfl⟩
  · have hother := hfirst.transfer (fun r p hp => ⟨_, hcarries.rule hp⟩)
      fun r e he => Rule.compile_error_of_language hu he v
    exact ⟨_, Plan.compile_eq_error_iff.mpr (Or.inl ⟨i, f, hother, rfl⟩), rfl, rfl⟩
  · have hother := hfirst.transfer (fun entry t ht => ⟨_, hcarries.term ht⟩)
      fun entry e he => Plan.compileTerm_error_of_language hu he v
    exact ⟨_, Plan.compile_eq_error_iff.mpr (Or.inr ⟨i, f, _, hother, hcarries.query hp, rfl⟩),
      rfl, rfl⟩

/-! ## The user of a query -/

/-- A query looks translations up in its own user's language only. -/
theorem Plan.language_of_compile {language : String} (hu : u.languageCode = some language)
    {p : Plan} (hp : Plan.compile o options u = .ok p) {payload : Payload} {k name : String}
    (hk : .translated payload k name ∈ p.columns) : k = language := by
  -- the query is carried over to its own user
  have hself := (carries_inLanguage o u hu).query hp
  rw [hp] at hself
  rw [Except.ok.inj hself, Plan.columns_mapColumns] at hk
  obtain ⟨c, -, hc⟩ := List.mem_map.mp hk
  cases c with
  | physical schema table name => cases hc
  | translated payload language name => cases hc; rfl

/-- **The user shows in a query by the language only.** Of two users with a language either both
get a query or neither does, and then from the same cause. The plans differ in the languages that
translations are looked up in, in conditions and sorts alike, which are those of the users. What a
user without a language gets, everyone gets, to the letter. -/
theorem user_shows_by_language (o : Object) (options : Options) :
    (∀ u v l m, u.languageCode = some l → v.languageCode = some m →
      (∀ p, Plan.compile o options u = .ok p →
        Plan.compile o options v = .ok (p.inLanguage m) ∧
        ∀ payload k name, .translated payload k name ∈ p.columns → k = l) ∧
      ∀ fault, Plan.compile o options u = .error fault →
        ∃ other, Plan.compile o options v = .error other ∧ other.cause = fault.cause ∧
          other.kind = fault.kind) ∧
    ∀ u v p, u.languageCode = none → Plan.compile o options u = .ok p →
      Plan.compile o options v = .ok p := by
  refine ⟨fun u v l m hu hv => ⟨fun p hp => ⟨?_, ?_⟩, fun fault hfault => ?_⟩, ?_⟩
  · exact (carries_inLanguage o u hv).query hp
  · intro payload k name hk
    exact Plan.language_of_compile hu hp hk
  · exact Plan.compile_error_of_language hu hv hfault
  · intro u v p hu hp
    have hcarried := (carries_id o v hu).query hp
    rwa [Plan.mapColumns_id] at hcarried

/-! ### Parts by their titles -/

/-- Parts whose title is kept in several languages. -/
def titledParts : Object :=
  { id := "parts", schema := "shop", table := "Parts", view := none, primaryKey := "uuid"
    fields :=
      [{ id := "00000000-0000-4000-8000-000000000001", column := "title", schema := none
         table := none, multilingual := true, relation := none, default := none, choices := [] }]
    condition := some (.rule ⟨"open", .equals, .bool true⟩) }

/-- Parts with a bolt in their title, sorted by title. -/
def boltsByTitle : Options :=
  { condition := some (.rule ⟨"00000000-0000-4000-8000-000000000001", .contains, .string "bolt"⟩)
    sort := [⟨"00000000-0000-4000-8000-000000000001", .ascending⟩]
    includeRowNumber := false }

def titleIn (language : String) : Column :=
  .translated (.qualified "Parts") language "title"

/-- The query for open parts with a bolt in their title in that language. -/
def boltsIn (language : String) : Plan :=
  { source := "Parts"
    condition := some (.group .and
      [.rule (.ofPath "open") .equals (.bool true),
        .rule (titleIn language) .contains (.string "bolt")])
    sort := [⟨titleIn language, .ascending⟩] }

/-- An English and a German user get the same query, each with their own titles, and neither gets
one by colour. The parts that are open are the same for everyone. -/
theorem user_shows_by_language_titles :
    let ann : User := { username := some "ann", languageCode := some "en" }
    let uwe : User := { username := some "uwe", languageCode := some "de" }
    (Plan.compile titledParts boltsByTitle ann = .ok (boltsIn "en") ∧
      Plan.compile titledParts boltsByTitle uwe = .ok (boltsIn "de")) ∧
      (titleIn "en" ∈ (boltsIn "en").columns ∧
        ∀ payload k name, .translated payload k name ∈ (boltsIn "en").columns → k = "en") ∧
      (∃ fault, Plan.compile titledParts byColour ann = .error fault ∧
        ∃ other, Plan.compile titledParts byColour uwe = .error other ∧
          other.cause = fault.cause ∧ other.kind = fault.kind) ∧
      ∃ p, Plan.compile titledParts {} {} = .ok p ∧ Plan.compile titledParts {} uwe = .ok p := by
  intro ann uwe
  have htitles := (user_shows_by_language titledParts boltsByTitle).1 ann uwe "en" "de" rfl rfl
  have hcolours := (user_shows_by_language titledParts byColour).1 ann uwe "en" "de" rfl rfl
  have hopen := (user_shows_by_language titledParts {}).2 {} uwe
  have hann : Plan.compile titledParts boltsByTitle ann = .ok (boltsIn "en") := rfl
  have hfault : ∃ fault, Plan.compile titledParts byColour ann = .error fault := ⟨_, rfl⟩
  obtain ⟨fault, hfault⟩ := hfault
  obtain ⟨huwe, hlanguage⟩ := htitles.1 _ hann
  exact ⟨⟨hann, huwe⟩, ⟨by decide, hlanguage⟩, ⟨fault, hfault, hcolours.2 fault hfault⟩,
    _, rfl, hopen _ rfl rfl⟩

end Fieldwork
