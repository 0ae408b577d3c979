import Fieldwork.Predicate.Sql
import Fieldwork.Proofs.Decimal
import Fieldwork.Proofs.Json.Text
import Fieldwork.Proofs.Record
import Fieldwork.Store.Select
import Mathlib.Data.List.Nodup

/-!
# Looking up a translation

The look-up of a translated text searches the translations of a row for the language, cuts the path
to what it finds to four characters, and reads the text from the record that they lead to. It is
evaluated here with the functions of MySQL: `JSON_SEARCH` gives the path of the first string that is
equal to a text, `JSON_EXTRACT` follows a path, in which a name in quotation marks is a JSON string.

* `Scalar.value?`: the value of an expression on a row.
* `value?_lookup`: the look-up as a search and two paths.
* `lookup_reads_iff`: **the look-up reads the text that memory does** exactly when the first record
  with the language as any of its texts is among the first ten, and the column in quotation marks
  is the name of that text in it.
* `lookup_misreads`: three look-ups that read nothing, or the text of another record.
-/

namespace Fieldwork

open Sql

/-! ## Paths -/

/-- One step from a JSON value into it. -/
inductive Leg where
  | item (n : ℕ)
  | member (name : String)
  deriving DecidableEq, Repr

namespace Leg

def isNameChar (c : Char) : Bool :=
  c.isAlphanum || c = '_' || c = '$'

/-- Other names are written in quotation marks. -/
def isBare (name : List Char) : Bool :=
  name ≠ [] && name.all isNameChar && !(name.head?.any Char.isDigit)

def chars : Leg → List Char
  | .item n => '[' :: Decimal.digitsText n ++ [']']
  | .member name => '.' :: if isBare name.toList then name.toList else Document.quoted name

/-- The leg at the front of a path and the rest. -/
def read? : List Char → Option (Leg × List Char)
  | '[' :: rest =>
    match Document.readDigits rest with
    | (d :: ds, ']' :: rest) => some (.item (Document.natOfDigits (d :: ds)), rest)
    | _ => none
  | '.' :: '"' :: rest =>
    match Document.readString rest with
    | some (some name, rest) => some (.member name, rest)
    | _ => none
  | '.' :: rest =>
    let name := rest.takeWhile isNameChar
    if isBare name then some (.member (String.ofList name), rest.dropWhile isNameChar) else none
  | _ => none

end Leg

def pathText (legs : List Leg) : String :=
  String.ofList ('$' :: legs.flatMap Leg.chars)

/-- The legs of a path; each has a character of its own. -/
def readLegs : ℕ → List Char → Option (List Leg)
  | _, [] => some []
  | 0, _ :: _ => none
  | fuel + 1, c :: cs => do
    let (leg, rest) ← Leg.read? (c :: cs)
    let legs ← readLegs fuel rest
    return leg :: legs

def readPath? : List Char → Option (List Leg)
  | '$' :: rest => readLegs rest.length rest
  | _ => none

namespace Json

/-- The value that the legs lead to. A value that is no list has no items, not even itself as the
only one; the path of a column ends with a name, so nothing depends on that. -/
def follow : Json → List Leg → Option Json
  | v, [] => some v
  | v, .item n :: legs => do
    let items ← v.array?
    let item ← items[n]?
    follow item legs
  | v, .member name :: legs => do
    let member ← v.get? name
    follow member legs

mutual

/-- The way to the first string that is equal to a text. -/
def search? (s : String) : Json → Option (List Leg)
  | .string t => if t = s then some [] else none
  | .array items => searchItems s 0 items
  | .object members => searchMembers s members
  | _ => none

def searchItems (s : String) : ℕ → List Json → Option (List Leg)
  | _, [] => none
  | n, v :: vs =>
    match search? s v with
    | some legs => some (.item n :: legs)
    | none => searchItems s (n + 1) vs

def searchMembers (s : String) : List (String × Json) → Option (List Leg)
  | [] => none
  | (name, v) :: members =>
    match search? s v with
    | some legs => some (.member name :: legs)
    | none => searchMembers s members

end

/-- A string is unquoted to its text, every other value to its JSON text. -/
def unquoted : Json → String
  | .string s => s
  | v => v.text

end Json

/-! ## Values of expressions -/

namespace Sql

inductive Datum where
  | text (s : String)
  | number (n : Number)
  | json (v : Json)

namespace Datum

/-- A column holds a JSON value as such or as its text. -/
def ofJson? : Json → Option Datum
  | .null => none
  | .number n => some (.number n)
  | .string s => some (.text s)
  | v => some (.json v)

/-- The JSON value that a function is given. -/
def json? : Datum → Option Json
  | .text s => Json.ofText? s
  | .number _ => none
  | .json v => some v

end Datum

def Literal.datum? : Literal → Option Datum
  | .null => none
  | .bool b => some (.number (.integer (if b then 1 else 0)))
  | .number n => some (.number n)
  | .text s => some (.text s)

/-- What a function gives for the arguments; none stands for NULL and for an error. -/
def Function.result? : Function → List Datum → Option Datum
  | .jsonSearch, [document, .text "one", .text s] => do
    let v ← document.json?
    let legs ← v.search? s
    return .json (.string (pathText legs))
  | .jsonExtract, [document, .text path] => do
    let v ← document.json?
    let legs ← readPath? path.toList
    let found ← v.follow legs
    return .json found
  | .jsonUnquote, [.json v] => some (.text v.unquoted)
  | .substring, [.text s, .number (.integer start), .number (.integer count)] =>
    if 1 ≤ start then
      some (.text (String.ofList ((s.toList.drop (start.toNat - 1)).take count.toNat)))
    else none
  | _, _ => none

namespace Scalar

mutual

/-- The value of an expression on a row, where a column is found by its own name. -/
def value? (r : Row) : Scalar → Option Datum
  | .column path => do
    let name ← path.getLast?
    let v ← Record.get? r name
    Datum.ofJson? v
  | .literal l => l.datum?
  | .call function arguments => do
    let data ← values? r arguments
    function.result? data

def values? (r : Row) : List Scalar → Option (List Datum)
  | [] => some []
  | e :: es => do
    let d ← value? r e
    let ds ← values? r es
    return d :: ds

end

end Scalar

end Sql

/-! ## The look-up as a search and two paths -/

namespace Sql

section Calls

variable {d : Datum} {v : Json}

theorem result?_search (h : d.json? = some v) (s : String) :
    Function.jsonSearch.result? [d, .text "one", .text s] =
      (v.search? s).map fun legs => .json (.string (pathText legs)) := by
  simp only [Function.result?, h, Option.map_eq_bind]
  rfl

theorem result?_extract (h : d.json? = some v) (s : String) :
    Function.jsonExtract.result? [d, .text s] =
      (readPath? s.toList).bind fun legs => (v.follow legs).map .json := by
  simp only [Function.result?, h, Option.map_eq_bind]
  rfl

/-- The first characters of a text. -/
theorem result?_cut (s : String) (count : ℕ) :
    Function.substring.result? [.text s, .number (.integer 1), .number (.integer count)] =
      some (.text (String.ofList (s.toList.take count))) := rfl

variable {r : Row}

theorem Scalar.value?_call (function : Function) (arguments : List Scalar) :
    (Scalar.call function arguments).value? r = (values? r arguments).bind function.result? := by
  rw [value?]
  rfl

theorem Scalar.value?_literal (l : Literal) : (Scalar.literal l).value? r = l.datum? := rfl

theorem Scalar.values?_cons (e : Scalar) (es : List Scalar) :
    values? r (e :: es) = (e.value? r).bind fun d => (values? r es).map (d :: ·) := by
  rw [values?, Option.bind_eq_bind]
  simp only [Option.map_eq_bind]
  rfl

end Calls

end Sql

namespace Payload

/-- The translations are in one column, as a list or as the text of one. -/
def column : Payload → Scalar
  | .flattened table => .column [flatName table]
  | .qualified table => .column [table, "translations"]

theorem value?_column (payload : Payload) (r : Row) :
    payload.column.value? r = (Record.get? r payload.rowKey).bind Datum.ofJson? := by
  cases payload <;> rfl

/-- A function in SQL reads the records that memory does. -/
theorem exists_datum {payload : Payload} {r : Row} {records : List Json}
    (h : payload.records? r = some records) :
    ∃ d, payload.column.value? r = some d ∧ d.json? = some (.array records) := by
  rw [value?_column]
  unfold records? at h
  cases hv : Record.get? r payload.rowKey with
  | none => rw [hv] at h; cases h
  | some v =>
    rw [hv] at h
    cases v with
    | string raw =>
      obtain ⟨document, hdocument, harray⟩ := Option.bind_eq_some_iff.mp h
      cases document with
      | array items => cases harray; exact ⟨_, rfl, hdocument⟩
      | _ => cases harray
    | array items => cases h; exact ⟨_, rfl, rfl⟩
    | _ => cases h

/-- **The look-up is a search, a cut path to a record, and the path of the column in it.** -/
theorem value?_lookup {payload : Payload} {r : Row} {records : List Json} (language name : String)
    (h : payload.records? r = some records) :
    (payload.lookup language name).value? r =
      (((Json.array records).search? language).bind fun found =>
        (readPath? ((pathText found).toList.take 4)).bind fun path =>
        ((Json.array records).follow path).bind fun record =>
        (readPath? ("$.\"" ++ name ++ "\"").toList).bind fun legs =>
        (record.follow legs).map fun v => .text v.unquoted) := by
  obtain ⟨d, hd, hjson⟩ := exists_datum h
  have hlookup : payload.lookup language name =
      .call .jsonUnquote [.call .jsonExtract
        [.call .jsonExtract [payload.column, .call .substring
          [.call .jsonUnquote [.call .jsonSearch
            [payload.column, .literal (.text "one"), .literal (.text language)]],
           .literal (.number (.integer 1)), .literal (.number (.integer 4))]],
         .literal (.text ("$.\"" ++ name ++ "\""))]] := by
    cases payload <;> rfl
  have hextract : ∀ v s, Function.jsonExtract.result? [.json v, .text s] =
      (readPath? s.toList).bind fun legs => (v.follow legs).map .json :=
    fun v s => result?_extract rfl s
  have hcut : ∀ s, Function.substring.result?
      [.text s, .number (.integer 1), .number (.integer 4)] =
        some (.text (String.ofList (s.toList.take 4))) := fun s => result?_cut s 4
  have hunquote : ∀ v, Function.jsonUnquote.result? [.json v] = some (.text v.unquoted) :=
    fun _ => rfl
  have hpath : ∀ path, (Json.string path).unquoted = path := fun _ => rfl
  have hvalues : Scalar.values? r [] = some [] := rfl
  simp only [hlookup, Scalar.value?_call, Scalar.values?_cons, hvalues, hd, Scalar.value?_literal,
    Literal.datum?, result?_search hjson, result?_extract hjson, hextract, hcut, hunquote, hpath,
    Option.bind_some, Option.map_eq_bind, Option.bind_assoc, String.toList_ofList,
    Function.comp_def]

end Payload

/-! ## What the search finds -/

namespace Json

/-- An object whose members are texts. -/
def HasTexts (record : Json) : Prop :=
  ∃ members, record = .object members ∧ ∀ entry ∈ members, ∃ s, entry.2 = .string s

/-- The text is that of some member. -/
def Holds (record : Json) (s : String) : Prop :=
  ∃ members, record = .object members ∧ ∃ name, (name, .string s) ∈ members

variable {s : String}

theorem searchMembers_isSome_iff {members : List (String × Json)}
    (h : ∀ entry ∈ members, ∃ t, entry.2 = .string t) :
    (searchMembers s members).isSome ↔ ∃ name, (name, .string s) ∈ members := by
  induction members with
  | nil => simp [searchMembers]
  | cons entry members ih =>
    obtain ⟨⟨t, ht⟩, hmembers⟩ := List.forall_mem_cons.mp h
    obtain ⟨name, v⟩ := entry
    subst ht
    by_cases heq : t = s
    · subst heq
      simp only [searchMembers, search?, if_true, Option.isSome_some, true_iff]
      exact ⟨name, List.mem_cons_self ..⟩
    · simp only [searchMembers, search?, if_neg heq, ih hmembers, List.mem_cons]
      simp [Ne.symm heq]

theorem search?_isSome_iff {record : Json} (h : record.HasTexts) :
    (record.search? s).isSome ↔ record.Holds s := by
  obtain ⟨members, rfl, htexts⟩ := h
  rw [search?, searchMembers_isSome_iff htexts]
  simp [Holds]

end Json

/-- The record at that place is the first one that holds the text. -/
structure FirstHolding (records : List Json) (s : String) (j : ℕ) : Prop where
  holds : ∃ record, records[j]? = some record ∧ record.Holds s
  before : ∀ record ∈ records.take j, ¬ record.Holds s

theorem exists_firstHolding {records : List Json} {s : String} {i : ℕ} {record : Json}
    (hi : records[i]? = some record) (h : record.Holds s) : ∃ j, FirstHolding records s j := by
  induction records generalizing i with
  | nil => cases hi
  | cons first rest ih =>
    by_cases hfirst : first.Holds s
    · exact ⟨0, ⟨first, rfl, hfirst⟩, by simp⟩
    · cases i with
      | zero => cases hi; exact absurd h hfirst
      | succ i =>
        obtain ⟨j, hholds, hbefore⟩ := ih hi
        refine ⟨j + 1, hholds, ?_⟩
        rw [List.take_succ_cons, List.forall_mem_cons]
        exact ⟨hfirst, hbefore⟩

/-- **The search finds the first record that holds the text**, in whatever member it does. -/
theorem searchItems_of_firstHolding {records : List Json} {s : String} {j : ℕ}
    (htexts : ∀ record ∈ records, record.HasTexts) (h : FirstHolding records s j) (n : ℕ) :
    ∃ legs, Json.searchItems s n records = some (.item (n + j) :: legs) := by
  induction records generalizing j n with
  | nil =>
    obtain ⟨record, hrecord, -⟩ := h.holds
    cases hrecord
  | cons first rest ih =>
    obtain ⟨hfirst, hrest⟩ := List.forall_mem_cons.mp htexts
    obtain ⟨⟨record, hrecord, hholds⟩, hbefore⟩ := h
    cases j with
    | zero =>
      cases hrecord
      obtain ⟨legs, hlegs⟩ := Option.isSome_iff_exists.mp
        ((Json.search?_isSome_iff hfirst).mpr hholds)
      exact ⟨legs, by simp only [Json.searchItems, hlegs]; rfl⟩
    | succ j =>
      rw [List.take_succ_cons, List.forall_mem_cons] at hbefore
      have hnone : first.search? s = none :=
        Option.not_isSome_iff_eq_none.mp (mt (Json.search?_isSome_iff hfirst).mp hbefore.1)
      obtain ⟨legs, hlegs⟩ := ih hrest ⟨⟨record, hrecord, hholds⟩, hbefore.2⟩ (n + 1)
      refine ⟨legs, ?_⟩
      rw [Json.searchItems, hnone]
      simp only [hlegs, Nat.add_right_comm, Nat.add_assoc]

/-! ## The path to the record -/

theorem readLegs_cons (fuel : ℕ) (c : Char) (cs : List Char) :
    readLegs (fuel + 1) (c :: cs) =
      (Leg.read? (c :: cs)).bind fun (leg, rest) => (readLegs fuel rest).map (leg :: ·) := by
  rw [readLegs, Option.bind_eq_bind]
  simp only [Option.map_eq_bind]
  rfl

/-- Four characters hold the path of an item as long as its place has one digit. -/
theorem readPath?_cut (j : ℕ) (legs : List Leg) :
    readPath? ((pathText (.item j :: legs)).toList.take 4) =
      if j < 10 then some [.item j] else none := by
  have hpath : (pathText (.item j :: legs)).toList =
      '$' :: '[' :: (Decimal.digitsText j ++ ']' :: legs.flatMap Leg.chars) := by
    rw [pathText, String.toList_ofList, List.flatMap_cons, Leg.chars]
    simp
  rw [hpath]
  by_cases hj : j < 10
  · have hread : ∀ n < 10, readPath? ['$', '[', n.digitChar, ']'] = some [.item n] := by decide
    have hdigit : Decimal.digitsText j = [j.digitChar] := Nat.toDigits_of_lt_base hj
    rw [if_pos hj, hdigit]
    exact hread j hj
  · have hten : 10 ≤ j := Nat.not_lt.mp hj
    have htext : Decimal.digitsText j = Decimal.digitsText (j / 10) ++ [(j % 10).digitChar] :=
      Nat.toDigits_of_base_le (by decide) hten
    have htwo : ∃ c d cs, Decimal.digitsText j = c :: d :: cs := by
      obtain ⟨c, cs, hcs, -⟩ := Decimal.exists_digitsText (j / 10)
      rw [htext, hcs]
      cases cs with
      | nil => exact ⟨_, _, [], rfl⟩
      | cons d cs => exact ⟨_, _, _, rfl⟩
    obtain ⟨c, d, cs, hdigits⟩ := htwo
    have hcd : ∀ x ∈ [c, d], x.isDigit := by
      intro x hx
      refine Decimal.isDigit_of_mem_digitsText (n := j) ?_
      rw [hdigits]
      exact List.mem_append_left cs hx
    have hread : Document.readDigits [c, d] = ([c, d].map Document.digitValue, []) :=
      Document.readDigits_of_isDigit hcd
    rw [if_neg hj, hdigits]
    have hleg : Leg.read? ['[', c, d] = none := by
      rw [Leg.read?, hread]
      rfl
    change readLegs 3 ['[', c, d] = none
    rw [readLegs_cons, hleg, Option.bind_none]

/-! ## The path of the column -/

theorem Json.follow_string (s : String) (leg : Leg) (legs : List Leg) :
    (Json.string s).follow (leg :: legs) = none := by
  cases leg <;> rfl

theorem Json.HasTexts.get? {record : Json} (h : record.HasTexts) {name : String} {v : Json}
    (hv : record.get? name = some v) : ∃ s, v = .string s := by
  obtain ⟨members, rfl, htexts⟩ := h
  exact htexts _ (Record.mem_of_get? hv)

/-- A text leads nowhere, so nothing is found where a path goes on behind a member. -/
theorem Json.HasTexts.follow_on {record : Json} (h : record.HasTexts) (name : String) (leg : Leg)
    (legs : List Leg) : record.follow (.member name :: leg :: legs) = none := by
  rw [Json.follow, Option.bind_eq_bind]
  cases hv : record.get? name with
  | none => rfl
  | some v =>
    obtain ⟨s, rfl⟩ := h.get? hv
    rw [Option.bind_some, Json.follow_string]

theorem exists_cons_of_readLegs {fuel : ℕ} {c : Char} {cs : List Char} {legs : List Leg}
    (h : readLegs fuel (c :: cs) = some legs) : ∃ leg rest, legs = leg :: rest := by
  cases fuel with
  | zero => cases h
  | succ fuel =>
    rw [readLegs_cons] at h
    obtain ⟨⟨leg, rest⟩, -, hrest⟩ := Option.bind_eq_some_iff.mp h
    obtain ⟨legs, -, rfl⟩ := Option.map_eq_some_iff.mp hrest
    exact ⟨leg, legs, rfl⟩

/-- The path of a column leads to the member whose name is read from the column in quotation
marks. -/
theorem follow_column_iff {record : Json} (h : record.HasTexts) (name : String) (v : Json) :
    (readPath? ("$.\"" ++ name ++ "\"").toList).bind record.follow = some v ↔
      ∃ key, Document.readString (name.toList ++ ['"']) = some (some key, []) ∧
        record.get? key = some v := by
  have hpath : ("$.\"" ++ name ++ "\"").toList = '$' :: '.' :: '"' :: (name.toList ++ ['"']) := by
    simp [String.toList_append]
  rw [hpath, readPath?, List.length_cons, readLegs_cons, Leg.read?]
  rcases Document.readString (name.toList ++ ['"']) with _ | ⟨_ | key, rest⟩
  · simp
  · simp
  · cases rest with
    | nil => simp [readLegs, Json.follow]
    | cons c cs =>
      simp only [Option.bind_some]
      cases hlegs : readLegs ('"' :: (name.toList ++ ['"'])).length (c :: cs) with
      | none => simp
      | some legs =>
        obtain ⟨leg, rest, rfl⟩ := exists_cons_of_readLegs hlegs
        simp [h.follow_on]

/-! ## The look-up and memory -/

/-- Records of texts, each with a language of its own. -/
structure WellKept (records : List Json) : Prop where
  texts : ∀ record ∈ records, record.HasTexts
  spoken : ∀ record ∈ records, ∃ language, record.get? "language_code" = some (.string language)
  distinct : records.Pairwise fun a b => a.get? "language_code" ≠ b.get? "language_code"

theorem Json.holds_of_get? {record : Json} {name s : String}
    (h : record.get? name = some (.string s)) : record.Holds s := by
  cases record with
  | object members => exact ⟨members, rfl, name, Record.mem_of_get? h⟩
  | _ => cases h

section Lookup

variable {payload : Payload} {r : Row} {records : List Json} {language name s : String}

/-- Memory reads the record of the language, wherever it is. -/
theorem value?_translated (hrecords : payload.records? r = some records)
    (hkept : WellKept records) {record : Json} (hmem : record ∈ records)
    (hlanguage : record.get? "language_code" = some (.string language)) :
    (Column.translated payload language name).value? r = record.get? name := by
  have hspeaks : (record.get? "language_code").bind Json.string? = some language := by
    rw [hlanguage]
    rfl
  have hfound : records.find? (fun t =>
      (t.get? "language_code").bind Json.string? = some language) = some record := by
    cases hfind : records.find? fun t =>
        (t.get? "language_code").bind Json.string? = some language with
    | none =>
      have hnone := List.find?_eq_none.mp hfind record hmem
      exact absurd (decide_eq_true hspeaks) hnone
    | some other =>
      have hother := List.find?_some hfind
      obtain ⟨code, hcode⟩ := hkept.spoken other (List.mem_of_find?_eq_some hfind)
      have hsame : other.get? "language_code" = record.get? "language_code" := by
        have hstring := of_decide_eq_true hother
        rw [hcode] at hstring
        cases hstring
        rw [hcode, hlanguage]
      have hnodup : (records.map fun t => t.get? "language_code").Nodup :=
        List.pairwise_map.mpr hkept.distinct
      rw [List.inj_on_of_nodup_map hnodup (List.mem_of_find?_eq_some hfind) hmem hsame]
  unfold Column.value?
  simp only [hrecords, hfound, Option.bind_eq_bind, Option.bind_some]

/-- The look-up reads from the first record that holds the language, if that is among the first
ten. -/
theorem lookup_eq_some_iff (hrecords : payload.records? r = some records)
    (htexts : ∀ record ∈ records, record.HasTexts) {j : ℕ} {first : Json}
    (hj : FirstHolding records language j) (hfirst : records[j]? = some first) :
    (payload.lookup language name).value? r = some (.text s) ↔
      j < 10 ∧ ∃ key, Document.readString (name.toList ++ ['"']) = some (some key, []) ∧
        first.get? key = some (.string s) := by
  have hrecord := htexts first (List.mem_of_getElem? hfirst)
  obtain ⟨legs, hsearch⟩ := searchItems_of_firstHolding htexts hj 0
  rw [payload.value?_lookup language name hrecords, Json.search?, hsearch, Nat.zero_add,
    Option.bind_some, readPath?_cut]
  by_cases hten : j < 10
  · have hfollow : (Json.array records).follow [.item j] = some first := by
      simp [Json.follow, Json.array?, hfirst]
    have hmap : ((readPath? ("$.\"" ++ name ++ "\"").toList).bind fun legs =>
        (first.follow legs).map fun v => Datum.text v.unquoted) =
          ((readPath? ("$.\"" ++ name ++ "\"").toList).bind first.follow).map fun v =>
            Datum.text v.unquoted := Option.map_bind.symm
    rw [if_pos hten, Option.bind_some, hfollow, Option.bind_some, hmap, Option.map_eq_some_iff]
    simp only [follow_column_iff hrecord, hten, true_and]
    constructor
    · rintro ⟨v, ⟨key, hkey, hv⟩, hs⟩
      obtain ⟨t, rfl⟩ := hrecord.get? hv
      cases hs
      exact ⟨key, hkey, hv⟩
    · rintro ⟨key, hkey, hv⟩
      exact ⟨.string s, ⟨key, hkey, hv⟩, rfl⟩
  · simp [hten]

/-- A column without characters to escape is its own name in quotation marks. -/
theorem readString_plain (h : ∀ c ∈ name.toList, Document.escaped c = [c]) :
    Document.readString (name.toList ++ ['"']) = some (some name, []) := by
  have hplain : name.toList.flatMap Document.escaped = name.toList := by
    rw [List.flatMap_congr h, List.flatMap_singleton']
  have hread := Document.readString_escaped name.toList []
  rwa [hplain, String.ofList_toList] at hread

/-- **When the look-up reads what memory does.** Memory finds the record of the language and reads
the text of the column in it. The look-up reads that text exactly when the first record that holds
the language as any of its texts is among the first ten, and has the text under the name that is
read from the column in quotation marks. So it does for every language among the first ten that is
no text of a record before its own, in every column without characters to escape. -/
theorem lookup_reads_iff (hrecords : payload.records? r = some records)
    (hkept : WellKept records) {i : ℕ} {record : Json} (hi : records[i]? = some record)
    (hlanguage : record.get? "language_code" = some (.string language))
    (hname : record.get? name = some (.string s)) :
    (Column.translated payload language name).value? r = some (.string s) ∧
    ((Column.translated payload language name).scalar.value? r = some (.text s) ↔
      ∃ j first key, j < 10 ∧ FirstHolding records language j ∧ records[j]? = some first ∧
        Document.readString (name.toList ++ ['"']) = some (some key, []) ∧
        first.get? key = some (.string s)) ∧
    (i < 10 → (∀ earlier ∈ records.take i, ¬ earlier.Holds language) →
      (∀ c ∈ name.toList, Document.escaped c = [c]) →
      (Column.translated payload language name).scalar.value? r = some (.text s)) := by
  have hholds : record.Holds language := Json.holds_of_get? hlanguage
  refine ⟨?_, ⟨?_, ?_⟩, ?_⟩
  · rw [value?_translated hrecords hkept (List.mem_of_getElem? hi) hlanguage, hname]
  · intro hvalue
    obtain ⟨j, hj⟩ := exists_firstHolding hi hholds
    obtain ⟨first, hfirst, -⟩ := hj.holds
    obtain ⟨hten, key, hkey, htext⟩ :=
      (lookup_eq_some_iff hrecords hkept.texts hj hfirst).mp hvalue
    exact ⟨j, first, key, hten, hj, hfirst, hkey, htext⟩
  · rintro ⟨j, first, key, hten, hj, hfirst, hkey, htext⟩
    exact (lookup_eq_some_iff hrecords hkept.texts hj hfirst).mpr ⟨hten, key, hkey, htext⟩
  · intro hten hbefore hplain
    exact (lookup_eq_some_iff hrecords hkept.texts ⟨⟨record, hi, hholds⟩, hbefore⟩ hi).mpr
      ⟨hten, name, readString_plain hplain, hname⟩

end Lookup

/-! ### Labels of parts -/

/-- A language, the name of a text and the text. -/
abbrev Label := String × String × String

def Label.record (l : Label) : Json :=
  .object [("language_code", .string l.1), (l.2.1, .string l.2.2)]

/-- A part with its labels. -/
def labelled (labels : List Label) : Row :=
  [("translations", .array (labels.map Label.record))]

theorem wellKept_labels {labels : List Label} (h : (labels.map Prod.fst).Nodup) :
    WellKept (labels.map Label.record) where
  texts record hmem := by
    obtain ⟨l, -, rfl⟩ := List.mem_map.mp hmem
    exact ⟨_, rfl, by simp⟩
  spoken record hmem := by
    obtain ⟨l, -, rfl⟩ := List.mem_map.mp hmem
    exact ⟨l.1, rfl⟩
  distinct := by
    rw [List.pairwise_map]
    refine (List.pairwise_map.mp h).imp fun hne hsame => hne ?_
    injection hsame with hcode
    injection hcode

def bolt : List Label :=
  [("de", "title", "Bolzen"), ("en", "title", "Bolt")]

/-- The second title is read as in memory. -/
theorem lookup_reads_iff_bolt :
    WellKept (bolt.map Label.record) ∧
      (Column.translated (.qualified "Parts") "en" "title").scalar.value? (labelled bolt) =
        some (.text "Bolt") := by
  have hkept : WellKept (bolt.map Label.record) := wellKept_labels (by decide)
  have hrecords : (Payload.qualified "Parts").records? (labelled bolt) =
      some (bolt.map Label.record) := rfl
  have hi : (bolt.map Label.record)[1]? = some (Label.record ("en", "title", "Bolt")) := rfl
  have hgerman : ¬ (Label.record ("de", "title", "Bolzen")).Holds "en" := by
    rw [← Json.search?_isSome_iff (hkept.texts _ (List.mem_cons_self ..))]
    decide
  have hplain : ∀ c ∈ ['t', 'i', 't', 'l', 'e'], Document.escaped c = [c] := by
    simp [Document.escaped]
  exact ⟨hkept, (lookup_reads_iff hrecords hkept hi rfl rfl).2.2 (by decide)
    (List.forall_mem_singleton.mpr hgerman) hplain⟩

/-- The text of a label that memory reads is not what the look-up reads. -/
def Misread (labels : List Label) (language name : String) : Prop :=
  let column : Column := .translated (.qualified "Parts") language name
  WellKept (labels.map Label.record) ∧ ∃ s, column.value? (labelled labels) = some (.string s) ∧
    column.scalar.value? (labelled labels) ≠ some (.text s)

/-- The same title in eleven languages. -/
def titles : List Label :=
  ["de", "en", "es", "fi", "fr", "it", "nl", "no", "pl", "pt", "sv"].map (·, "title", "Bolt")

/-- The text of an eleventh language is not read, nor that beside a title which is the code of the
language, nor that of a column named after inches. -/
theorem lookup_misreads :
    Misread titles "sv" "title" ∧
      Misread [("de", "title", "en"), ("en", "title", "Bolt")] "en" "title" ∧
      Misread [("en", "size\"", "Bolt")] "en" "size\"" := by
  refine ⟨⟨wellKept_labels (by decide), "Bolt", rfl, ?_⟩,
    ⟨wellKept_labels (by decide), "Bolt", rfl, ?_⟩, wellKept_labels (by decide), "Bolt", rfl, ?_⟩
  · have hnone : (Column.translated (.qualified "Parts") "sv" "title").scalar.value?
        (labelled titles) = none := rfl
    simp [hnone]
  · have hcode : (Column.translated (.qualified "Parts") "en" "title").scalar.value?
        (labelled [("de", "title", "en"), ("en", "title", "Bolt")]) = some (.text "en") := rfl
    simp [hcode]
  · have hnone : (Column.translated (.qualified "Parts") "en" "size\"").scalar.value?
        (labelled [("en", "size\"", "Bolt")]) = none := rfl
    simp [hnone]

end Fieldwork
