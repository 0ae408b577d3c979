import Fieldwork.Proofs.Decimal
import Fieldwork.Sql.Statement

/-!
# Reading SQL text back

A lexer for the text of statements, one character at a time. A string stands in single quotes with
backslash escapes or doubled quotes, an identifier in backticks with doubled backticks. Outside of
them only words, numbers, blanks and a few signs are known: the signs that could begin a comment or
end a statement are refused.

* `lex_name`, `lex_text`: whatever characters a name or a text has, its written form is read as one
  lexeme with those characters.
* `lex_signedRun`, `isSignedRun_numberChars`: a number is one lexeme, whatever its kind and value.
-/

namespace Fieldwork.Sql

/-- What a text is read as, piece by piece. -/
inductive Lexeme where
  /-- A keyword, function or variable. -/
  | word (s : String)
  | number (s : String)
  /-- An identifier, without its quotes. -/
  | name (s : String)
  /-- A string, without its quotes and escapes. -/
  | text (s : String)
  /-- Punctuation or an operator in signs. -/
  | mark (s : String)
  deriving DecidableEq, Repr

/-- A run of letters, digits and the like is a number if it starts as one. -/
def Lexeme.ofRun (cs : List Char) : Lexeme :=
  match cs with
  | c :: _ => if c.isDigit ∨ c = '-' then .number (String.ofList cs) else .word (String.ofList cs)
  | [] => .word ""

/-- Where the lexer is; what it has read of a lexeme is kept in reverse. -/
inductive Mode where
  | idle
  | run (read : List Char)
  | minus
  | name (read : List Char)
  /-- Behind a backtick in a name: its end, or the first of two. -/
  | nameTick (read : List Char)
  | text (read : List Char)
  | textEscape (read : List Char)
  /-- Behind a quote in a text: its end, or the first of two. -/
  | textQuote (read : List Char)
  /-- Behind a sign that can be the first of two. -/
  | sign (c : Char)

def startsRun (c : Char) : Bool :=
  c.isAlphanum || c == '@'

def continuesRun (c : Char) : Bool :=
  c.isAlphanum || c == '_' || c == '.'

/-- The characters that an escaped one stands for; a pattern keeps its escaped wildcards. -/
def unescaped (c : Char) : List Char :=
  match c with
  | '0' => ['\x00']
  | 'b' => ['\x08']
  | 't' => ['\t']
  | 'n' => ['\n']
  | 'r' => ['\r']
  | 'z' | 'Z' => ['\x1a']
  | '%' => ['\\', '%']
  | '_' => ['\\', '_']
  | c => [c]

/-- The two signs that make one operator. -/
def paired (first second : Char) : Bool :=
  [(':', '='), ('<', '='), ('<', '>'), ('>', '=')].contains (first, second)

namespace Mode

/-- What the first character of a lexeme gives and leads to. -/
def start (c : Char) : Option (List Lexeme × Mode) :=
  if c = ' ' ∨ c = '\t' ∨ c = '\n' ∨ c = '\r' then some ([], idle)
  else if startsRun c then some ([], run [c])
  else match c with
    | '-' => some ([], minus)
    | '\x60' => some ([], name [])
    | '\'' => some ([], text [])
    | ':' | '<' | '>' => some ([], sign c)
    | '(' | ')' | ',' | '.' | '*' | '=' | '+' => some ([.mark (String.singleton c)], idle)
    | _ => none

/-- A lexeme that ends before a character, and what that character gives. -/
def ended (l : Lexeme) (c : Char) : Option (List Lexeme × Mode) :=
  (start c).map fun (read, next) => (l :: read, next)

def step : Mode → Char → Option (List Lexeme × Mode)
  | idle, c => start c
  | run read, c =>
    if continuesRun c then some ([], run (c :: read)) else ended (.ofRun read.reverse) c
  | minus, c => if c.isAlphanum then some ([], run [c, '-']) else none
  | name read, c => some ([], if c = '\x60' then nameTick read else name (c :: read))
  | nameTick read, c =>
    if c = '\x60' then some ([], name ('\x60' :: read))
    else ended (.name (String.ofList read.reverse)) c
  | text read, c =>
    some ([], if c = '\\' then textEscape read else if c = '\'' then textQuote read
      else text (c :: read))
  | textEscape read, c => some ([], text ((unescaped c).reverse ++ read))
  | textQuote read, c =>
    if c = '\'' then some ([], text ('\'' :: read))
    else ended (.text (String.ofList read.reverse)) c
  | sign first, c =>
    if paired first c then some ([.mark (String.ofList [first, c])], idle)
    else if first = ':' then none
    else ended (.mark (String.singleton first)) c

/-- What is read at the end of the text, if it may end there. -/
def finish : Mode → Option (List Lexeme)
  | idle => some []
  | run read => some [.ofRun read.reverse]
  | nameTick read => some [.name (String.ofList read.reverse)]
  | textQuote read => some [.text (String.ofList read.reverse)]
  | sign c => if c = ':' then none else some [.mark (String.singleton c)]
  | minus | name _ | text _ | textEscape _ => none

end Mode

/-- The lexemes of the characters, from a mode on. -/
def lexFrom : Mode → List Char → Option (List Lexeme)
  | m, [] => m.finish
  | m, c :: cs => (m.step c).bind fun (read, next) => (lexFrom next cs).map (read ++ ·)

/-- The lexemes of a text, if it is made of nothing else. -/
def lex (s : String) : Option (List Lexeme) :=
  lexFrom .idle s.toList

/-! ## Runs of the lexer -/

/-- A character that completes no lexeme. -/
theorem lexFrom_within {m next : Mode} {c : Char} (h : m.step c = some ([], next))
    (cs : List Char) : lexFrom m (c :: cs) = lexFrom next cs := by
  rw [lexFrom, h]
  cases hrest : lexFrom next cs <;> simp [hrest]

/-- A character that is a lexeme by itself or completes one. -/
theorem lexFrom_complete {m : Mode} {l : Lexeme} {c : Char} (h : m.step c = some ([l], .idle))
    (cs : List Char) : lexFrom m (c :: cs) = (lexFrom .idle cs).map (l :: ·) := by
  rw [lexFrom, h]
  rfl

/-- A lexeme that is complete at the end of the text, or before the character that follows. -/
theorem lexFrom_ended {m : Mode} {l : Lexeme} {cs : List Char} (hfinish : m.finish = some [l])
    (hstep : ∀ c ∈ cs.head?, m.step c = Mode.ended l c) :
    lexFrom m cs = (lexFrom .idle cs).map (l :: ·) := by
  cases cs with
  | nil => rw [lexFrom, hfinish]; rfl
  | cons c cs =>
    rw [lexFrom, lexFrom, hstep c rfl, Mode.ended, Mode.step]
    rcases Mode.start c with _ | ⟨read, next⟩
    · rfl
    · cases hrest : lexFrom next cs <;> simp [hrest]

/-! ### Names -/

/-- Inside backticks a doubled one is part of the name, and a single one ends it. -/
theorem lexFrom_name (cs read rest : List Char) :
    lexFrom (.name read)
        (cs.flatMap (fun c => if c = '\x60' then ['\x60', '\x60'] else [c]) ++ '\x60' :: rest) =
      lexFrom (.nameTick (cs.reverse ++ read)) rest := by
  induction cs generalizing read with
  | nil => exact lexFrom_within rfl rest
  | cons c cs ih =>
    rw [List.flatMap_cons, List.reverse_cons, List.append_assoc, List.append_assoc,
      List.singleton_append, ← ih (c :: read)]
    by_cases hc : c = '\x60'
    -- a doubled backtick is read as one, by way of the mode behind a backtick
    · subst hc
      have htick : (Mode.name read).step '\x60' = some ([], .nameTick read) := rfl
      have hdouble : (Mode.nameTick read).step '\x60' = some ([], .name ('\x60' :: read)) := rfl
      exact (lexFrom_within htick _).trans (lexFrom_within hdouble _)
    · rw [if_neg hc]
      have hplain : (Mode.name read).step c = some ([], .name (c :: read)) := by
        simp [Mode.step, hc]
      exact lexFrom_within hplain _

/-- **A name is one lexeme**, unless another backtick follows it. -/
theorem lex_name (s : String) {rest : List Char} (h : rest.head? ≠ some '\x60') :
    lexFrom .idle (Token.nameChars s ++ rest) = (lexFrom .idle rest).map (.name s :: ·) := by
  have hopen : Mode.idle.step '\x60' = some ([], .name []) := rfl
  unfold Token.nameChars
  rw [List.cons_append, List.cons_append, List.append_assoc, List.singleton_append,
    lexFrom_within hopen, lexFrom_name]
  refine lexFrom_ended (by simp [Mode.finish]) fun c hc => ?_
  have hne : c ≠ '\x60' := fun heq => h (heq ▸ hc)
  simp [Mode.step, hne]

/-! ### Texts -/

/-- An escape is undone. -/
theorem lexFrom_escape {c e : Char} (hun : unescaped e = [c]) (read rest : List Char) :
    lexFrom (.text read) ('\\' :: e :: rest) = lexFrom (.text (c :: read)) rest := by
  have hslash : (Mode.text read).step '\\' = some ([], .textEscape read) := rfl
  have hback : (Mode.textEscape read).step e = some ([], .text (c :: read)) := by
    simp [Mode.step, hun]
  rw [lexFrom_within hslash, lexFrom_within hback]

/-- An escape inside a text stands for its character. -/
theorem lexFrom_escaped (c : Char) (read rest : List Char) :
    lexFrom (.text read) (Token.escaped c ++ rest) = lexFrom (.text (c :: read)) rest := by
  unfold Token.escaped
  split
  all_goals try exact lexFrom_escape rfl read rest
  -- what is left is a character that is written as it is
  case _ hslash _ hquote _ _ _ _ _ _ =>
    have hplain : (Mode.text read).step c = some ([], .text (c :: read)) := by
      rw [Mode.step, if_neg hslash, if_neg hquote]
    exact lexFrom_within hplain rest

/-- A text is read up to its quote, since the quotes in it are escaped. -/
theorem lexFrom_text (cs read rest : List Char) :
    lexFrom (.text read) (cs.flatMap Token.escaped ++ '\'' :: rest) =
      lexFrom (.textQuote (cs.reverse ++ read)) rest := by
  induction cs generalizing read with
  | nil => exact lexFrom_within rfl rest
  | cons c cs ih =>
    rw [List.flatMap_cons, List.reverse_cons, List.append_assoc, List.append_assoc,
      List.singleton_append, lexFrom_escaped, ih]

/-- **A text is one lexeme**, unless another quote follows it. -/
theorem lex_text (s : String) {rest : List Char} (h : rest.head? ≠ some '\'') :
    lexFrom .idle (Token.textChars s ++ rest) = (lexFrom .idle rest).map (.text s :: ·) := by
  have hopen : Mode.idle.step '\'' = some ([], .text []) := rfl
  unfold Token.textChars
  rw [List.cons_append, List.cons_append, List.append_assoc, List.singleton_append,
    lexFrom_within hopen, lexFrom_text]
  refine lexFrom_ended (by simp [Mode.finish]) fun c hc => ?_
  have hne : c ≠ '\'' := fun heq => h (heq ▸ hc)
  simp [Mode.step, hne]

/-! ### Words and numbers -/

/-- What can follow every lexeme: the end of the text, a blank, a parenthesis or a comma. -/
def Breaks (rest : List Char) : Prop :=
  ∀ c ∈ rest.head?, c = ' ' ∨ c = '(' ∨ c = ')' ∨ c = ','

theorem Breaks.ne {rest : List Char} (h : Breaks rest) {c : Char}
    (hc : c ≠ ' ' ∧ c ≠ '(' ∧ c ≠ ')' ∧ c ≠ ',') : rest.head? ≠ some c := by
  intro hhead
  rcases h c hhead with rfl | rfl | rfl | rfl <;> simp at hc

/-- A run goes on up to what breaks it. -/
theorem lexFrom_run {cs : List Char} (hcs : ∀ c ∈ cs, continuesRun c) (read : List Char)
    {rest : List Char} (hrest : Breaks rest) :
    lexFrom (.run read) (cs ++ rest) =
      (lexFrom .idle rest).map (.ofRun (read.reverse ++ cs) :: ·) := by
  induction cs generalizing read with
  | nil =>
    rw [List.append_nil, List.nil_append]
    refine lexFrom_ended rfl fun c hc => ?_
    have hstop : continuesRun c = false := by
      rcases hrest c hc with rfl | rfl | rfl | rfl <;> rfl
    simp [Mode.step, hstop]
  | cons c cs ih =>
    have hstep : (Mode.run read).step c = some ([], .run (c :: read)) := by
      simp [Mode.step, hcs c (by simp)]
    rw [List.cons_append, lexFrom_within hstep, ih fun d hd => hcs d (by simp [hd])]
    simp

/-- The spelling of a word or an unsigned number. -/
def isRun : List Char → Bool
  | [] => false
  | c :: cs => startsRun c && cs.all continuesRun

/-- The spelling of a number, with its sign. -/
def isSignedRun : List Char → Bool
  | '-' :: c :: cs => c.isAlphanum && cs.all continuesRun
  | cs => isRun cs

theorem start_of_startsRun {c : Char} (h : startsRun c) : Mode.start c = some ([], .run [c]) := by
  have hblank : ¬(c = ' ' ∨ c = '\t' ∨ c = '\n' ∨ c = '\r') := by
    rintro (rfl | rfl | rfl | rfl) <;> exact absurd h (by decide)
  unfold Mode.start
  rw [if_neg hblank, if_pos h]

/-- **A run in front of a break is one lexeme.** -/
theorem lex_run {cs : List Char} (h : isRun cs) {rest : List Char} (hrest : Breaks rest) :
    lexFrom .idle (cs ++ rest) = (lexFrom .idle rest).map (.ofRun cs :: ·) := by
  cases cs with
  | nil => exact absurd h (by decide)
  | cons c cs =>
    obtain ⟨hc, hcs⟩ := Bool.and_eq_true_iff.mp h
    have hstep : Mode.idle.step c = some ([], .run [c]) := start_of_startsRun hc
    rw [List.cons_append, lexFrom_within hstep, lexFrom_run (List.all_eq_true.mp hcs) _ hrest]
    rfl

/-- So is a run with a minus in front of it. -/
theorem lex_signedRun {cs : List Char} (h : isSignedRun cs) {rest : List Char}
    (hrest : Breaks rest) :
    lexFrom .idle (cs ++ rest) = (lexFrom .idle rest).map (.ofRun cs :: ·) := by
  unfold isSignedRun at h
  split at h
  case h_1 c cs =>
    obtain ⟨hc, hcs⟩ := Bool.and_eq_true_iff.mp h
    have hminus : Mode.idle.step '-' = some ([], .minus) := rfl
    have hstep : Mode.minus.step c = some ([], .run [c, '-']) := by simp [Mode.step, hc]
    rw [List.cons_append, List.cons_append, lexFrom_within hminus, lexFrom_within hstep,
      lexFrom_run (List.all_eq_true.mp hcs) _ hrest]
    rfl
  case h_2 => exact lex_run h hrest

/-! ### The spelling of numbers -/

/-- A digit, and behind it what a run may have. -/
def Numeral (cs : List Char) : Prop :=
  ∃ c rest, cs = c :: rest ∧ c.isDigit ∧ ∀ d ∈ rest, continuesRun d

theorem continuesRun_of_isDigit {c : Char} (h : c.isDigit) : continuesRun c := by
  simp [continuesRun, Char.isAlphanum, h]

/-- A numeral is a run, with a minus in front or without. -/
theorem Numeral.isSignedRun {cs : List Char} (h : Numeral cs) :
    isSignedRun cs ∧ isSignedRun ('-' :: cs) := by
  obtain ⟨c, rest, rfl, hc, hrest⟩ := h
  have halnum : c.isAlphanum := by simp [Char.isAlphanum, hc]
  have hall : rest.all continuesRun := List.all_eq_true.mpr hrest
  refine ⟨?_, by simp [Sql.isSignedRun, halnum, hall]⟩
  have hminus : c ≠ '-' := by
    rintro rfl
    exact absurd hc (by decide)
  unfold Sql.isSignedRun
  split
  case h_1 heq => exact absurd (List.cons.inj heq).1 hminus
  case h_2 => simp [isRun, startsRun, halnum, hall]

/-- A numeral is taken for a number, with a minus in front or without. -/
theorem Numeral.ofRun {cs : List Char} (h : Numeral cs) :
    Lexeme.ofRun cs = .number (String.ofList cs) ∧
      Lexeme.ofRun ('-' :: cs) = .number (String.ofList ('-' :: cs)) := by
  obtain ⟨c, rest, rfl, hc, -⟩ := h
  exact ⟨by simp [Lexeme.ofRun, hc], by simp [Lexeme.ofRun]⟩

theorem Numeral.append {cs ds : List Char} (h : Numeral cs) (hd : ∀ d ∈ ds, continuesRun d) :
    Numeral (cs ++ ds) := by
  obtain ⟨c, rest, rfl, hc, hrest⟩ := h
  refine ⟨c, rest ++ ds, rfl, hc, fun d hmem => ?_⟩
  rcases List.mem_append.mp hmem with hmem | hmem
  · exact hrest d hmem
  · exact hd d hmem

/-- Digits are a numeral, if there are any. -/
theorem Numeral.of_digits {cs : List Char} (hne : cs ≠ []) (h : ∀ c ∈ cs, c.isDigit) :
    Numeral cs := by
  obtain ⟨c, rest, rfl⟩ := List.exists_cons_of_ne_nil hne
  exact ⟨c, rest, rfl, h c (by simp), fun d hd => continuesRun_of_isDigit (h d (by simp [hd]))⟩

theorem Numeral.digitsText (n : Nat) : Numeral (Decimal.digitsText n) :=
  .of_digits Nat.toDigits_ne_nil fun _ h => Decimal.isDigit_of_mem_digitsText h

/-- Digits in their places begin with a digit, and have no sign but the point. -/
theorem Numeral.placed {digits : List Char} (hne : digits ≠ []) (h : ∀ c ∈ digits, c.isDigit)
    (exponent : Int) : Numeral (Decimal.placed digits exponent) := by
  have hzeros : ∀ n, ∀ d ∈ List.replicate n '0', continuesRun d := by
    intro n d hd
    rw [List.eq_of_mem_replicate hd]
    rfl
  have hdigits : ∀ d ∈ digits, continuesRun d := fun d hd => continuesRun_of_isDigit (h d hd)
  unfold Decimal.placed
  by_cases hexp : 0 ≤ exponent
  · rw [if_pos hexp]
    exact (Numeral.of_digits hne h).append (hzeros _)
  · rw [if_neg hexp]
    by_cases hlen : (-exponent).toNat < digits.length
    -- the point stands among the digits, behind at least one
    · simp only [hlen, if_true]
      have hfront : digits.take (digits.length - (-exponent).toNat) ≠ [] := by
        intro hnil
        have := congrArg List.length hnil
        rw [List.length_take, List.length_nil] at this
        omega
      refine (Numeral.of_digits hfront fun c hc => h c (List.mem_of_mem_take hc)).append ?_
      intro d hd
      rcases List.mem_cons.mp hd with rfl | hd
      · rfl
      · exact hdigits d (List.mem_of_mem_drop hd)
    -- the point stands before the digits, behind a zero
    · simp only [hlen, if_false]
      refine ⟨'0', _, rfl, rfl, fun d hd => ?_⟩
      rcases List.mem_append.mp hd with hd | hd
      · rcases List.mem_cons.mp hd with rfl | hd
        · rfl
        · exact hzeros _ d hd
      · exact hdigits d hd

/-- **The magnitude of a real number is a numeral**, however small it is. -/
theorem Numeral.magnitude (d : Decimal.Scaled) : Numeral (Decimal.plainLayout.magnitude d) := by
  have hplaced : Decimal.plainLayout.magnitude d =
      Decimal.placed (Decimal.digitsText d.digits) d.exponent := by
    simp [Decimal.plainLayout, Decimal.Layout.magnitude]
  rw [hplaced]
  exact .placed Nat.toDigits_ne_nil (fun _ h => Decimal.isDigit_of_mem_digitsText h) _

/-- A number is written as a numeral with or without a sign, or as one of three words. -/
theorem numberChars_cases (n : Number) :
    (∃ cs, Numeral cs ∧ (Token.numberChars n = cs ∨ Token.numberChars n = '-' :: cs)) ∨
      Token.numberChars n ∈ ["NaN".toList, "inf".toList, "-inf".toList] := by
  cases n with
  | integer n =>
    refine Or.inl ⟨_, .digitsText n.natAbs, ?_⟩
    unfold Token.numberChars Decimal.integerText
    by_cases hneg : n < 0
    · exact Or.inr (if_pos hneg)
    · exact Or.inl (if_neg hneg)
  | real x =>
    let sign : List Char := if (Decimal.binary x).negative then ['-'] else []
    by_cases hnan : x.isNaN = true
    · have htext : Token.numberChars (.real x) = "NaN".toList := if_pos hnan
      rw [htext]
      exact Or.inr (by decide)
    · by_cases hinf : x.isInf = true
      · have htext : Token.numberChars (.real x) = sign ++ "inf".toList :=
          (if_neg hnan).trans (if_pos hinf)
        rw [htext]
        refine Or.inr ?_
        unfold sign
        cases (Decimal.binary x).negative <;> decide
      -- a finite number, in its shortest digits
      · have htext : Token.numberChars (.real x) =
            sign ++ Decimal.plainLayout.magnitude (Decimal.shortest .up (Decimal.binary x)) :=
          (if_neg hnan).trans (if_neg hinf)
        rw [htext]
        refine Or.inl ⟨_, .magnitude (Decimal.shortest .up (Decimal.binary x)), ?_⟩
        unfold sign
        cases (Decimal.binary x).negative with
        | true => exact Or.inr rfl
        | false => exact Or.inl rfl

/-- **The text of a number is one run**, whatever the number. -/
theorem isSignedRun_numberChars (n : Number) : isSignedRun (Token.numberChars n) := by
  rcases numberChars_cases n with ⟨cs, hcs, h | h⟩ | h
  · exact h ▸ hcs.isSignedRun.1
  · exact h ▸ hcs.isSignedRun.2
  · simp only [List.mem_cons, List.not_mem_nil, or_false] at h
    rcases h with h | h | h <;> rw [h] <;> decide

/-- What a number is read back as. -/
theorem ofRun_numberChars (n : Number) :
    (∃ s, Lexeme.ofRun (Token.numberChars n) = .number s) ∨
      Lexeme.ofRun (Token.numberChars n) ∈ [.word "NaN", .word "inf"] := by
  rcases numberChars_cases n with ⟨cs, hcs, h | h⟩ | h
  · exact Or.inl ⟨_, h ▸ hcs.ofRun.1⟩
  · exact Or.inl ⟨_, h ▸ hcs.ofRun.2⟩
  · simp only [List.mem_cons, List.not_mem_nil, or_false] at h
    rcases h with h | h | h <;> rw [h]
    · exact Or.inr (by decide)
    · exact Or.inr (by decide)
    · exact Or.inl ⟨"-inf", by decide⟩

end Fieldwork.Sql
