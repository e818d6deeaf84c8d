import Scriptlet.Proofs.Token.Junction

/-!
# Where a scan stops

A scan reads pieces as long as it can, then blanks, and stops before a text that
begins with no token. Such a text is stuck for one of three reasons: its first
scalar begins no token at all, it is a string literal without an end, or it is
digits where digits have to end the input and these do not. Every text divides
this way, so what holds of a scan is proved of a division, and related texts are
compared through their divisions.

Results:
1. `stuck_cons_iff`: the reasons why a text is stuck; `Stuck.append`: but for an
   unfinished literal, it stays so whatever follows.
2. `Token.EndsBefore.of_head`, `Piece.Apart.of_head`: whether lexemes may end
   before a text depends on the first scalar of that text.
3. `Scanner.scan_of_partial`, `PartialFactorisation.ofText`: every text divides,
   and a scan of it reads its division.
4. `Token.locatedOfString_of_partial`: what a reading in either mode answers,
   from the division of its text.
-/

namespace Scriptlet

/-! ## Definitions -/

/-- No token begins with this text: it does not begin with a blank, and a lexeme
that it begins with may not end where it does. -/
structure Stuck (numbers : NumberRule) (rest : List Char) : Prop where
  notBlank : ∀ c, rest.head? = some c → isBlank c = false
  noLexeme : ∀ text t behind, Lexeme text t → rest = text ++ behind →
    ¬ t.EndsBefore numbers behind

/-- A division of a text as far as there are tokens: pieces, blanks behind them
and a rest at which a scan stops. -/
structure PartialFactorisation (numbers : NumberRule) (text : List Char) where
  pieces : List Piece
  gap : List Char
  rest : List Char
  text_eq : text = Piece.joined pieces (gap ++ rest)
  spelled : ∀ p ∈ pieces, p.Spelled
  apart : Piece.Apart numbers pieces (gap ++ rest)
  blank : Blank gap
  stuck : Stuck numbers rest

namespace PartialFactorisation

variable {numbers : NumberRule} {text : List Char}

/-- The tokens of the pieces, with their spans. -/
def located (d : PartialFactorisation numbers text) : List (Located Token) :=
  Piece.locatedAll .start d.pieces

/-- What is read of the text: all but the rest. -/
def taken (d : PartialFactorisation numbers text) : List Char := Piece.joined d.pieces d.gap

/-- The place where the rest begins. -/
def stop (d : PartialFactorisation numbers text) : Position := Position.start.past d.taken

theorem taken_append_rest (d : PartialFactorisation numbers text) : d.taken ++ d.rest = text := by
  refine Eq.trans ?_ d.text_eq.symm
  rw [taken, Piece.joined, Piece.joined, List.append_assoc]

theorem offset_stop (d : PartialFactorisation numbers text) : d.stop.offset = d.taken.length := by
  rw [stop, Position.offset_past]
  exact Nat.zero_add _

theorem take_offset_stop (d : PartialFactorisation numbers text) :
    text.take d.stop.offset = d.taken := by
  have htake : (d.taken ++ d.rest).take d.taken.length = d.taken := List.take_left
  rwa [d.taken_append_rest, ← d.offset_stop] at htake

theorem drop_offset_stop (d : PartialFactorisation numbers text) :
    text.drop d.stop.offset = d.rest := by
  have hdrop : (d.taken ++ d.rest).drop d.taken.length = d.rest := List.drop_left
  rwa [d.taken_append_rest, ← d.offset_stop] at hdrop

end PartialFactorisation

/-! ## 1. Texts that are stuck -/

theorem blank_nil : Blank [] := fun _ hc => absurd hc List.not_mem_nil

theorem stuck_nil (numbers : NumberRule) : Stuck numbers [] where
  notBlank := by
    intro c hc
    cases hc
  noLexeme := by
    intro text t behind hlexeme htext
    exact absurd (List.append_eq_nil_iff.mp htext.symm).1 (lexeme_ne_nil hlexeme)

namespace StoppingLemmas

open RecognitionLemmas

theorem not_isAlphabetic_of_stuck {numbers : NumberRule} {c : Char} {more : List Char}
    (h : Stuck numbers (c :: more)) : isAlphabetic c = false := by
  refine Bool.eq_false_iff.mpr fun hletter => ?_
  have hword : Lexeme (c :: more.takeWhile isAlphanumeric)
      (.ofWord (String.ofList (c :: more.takeWhile isAlphanumeric))) :=
    .word hletter fun d hd => List.all_eq_true.mp List.all_takeWhile d hd
  refine h.noLexeme _ _ (more.dropWhile isAlphanumeric) hword ?_
    (Token.endsBefore_ofWord.mpr fun d hd => not_accept_of_dropWhile hd)
  rw [List.cons_append, List.takeWhile_append_dropWhile]

theorem not_number_of_stuck {numbers : NumberRule} {c : Char} {more digits behind : List Char}
    (h : Stuck numbers (c :: more)) (hdigit : c.isDigit = true)
    (hdigits : ∀ d ∈ digits, d.isDigit = true) (hmore : more = digits ++ behind)
    (hstop : ∀ d, behind.head? = some d → d.isDigit = false) :
    numbers = .toEndOfInput ∧ behind ≠ [] := by
  have hnumber : Lexeme (c :: digits) (.number (.ofDigits (c :: digits))) :=
    .digits (by simp) (List.forall_mem_cons.mpr ⟨hdigit, hdigits⟩)
  have hopen := h.noLexeme _ _ behind hnumber (by rw [hmore, List.cons_append])
  refine Classical.byContradiction fun hneither => hopen ⟨hstop, fun hrule => ?_⟩
  exact Classical.byContradiction fun hne => hneither ⟨hrule, hne⟩

/-- A text that begins with digits begins with a number, if a number may stand anywhere. -/
theorem of_stuck_of_isDigit {numbers : NumberRule} {c : Char} {more : List Char}
    (h : Stuck numbers (c :: more)) (hdigit : c.isDigit = true) :
    numbers = .toEndOfInput ∧ ∃ d ∈ more, d.isDigit = false := by
  have hstop : ∀ d, (more.dropWhile Char.isDigit).head? = some d → d.isDigit = false :=
    fun d hd => not_accept_of_dropWhile hd
  obtain ⟨hrule, hne⟩ := not_number_of_stuck h hdigit
    (fun d hd => List.all_eq_true.mp List.all_takeWhile d hd)
    List.takeWhile_append_dropWhile.symm hstop
  obtain ⟨d, behind, hd⟩ := List.exists_cons_of_ne_nil hne
  refine ⟨hrule, d, List.dropWhile_suffix Char.isDigit |>.mem ?_, hstop d (by rw [hd]; rfl)⟩
  rw [hd]
  exact List.mem_cons_self

end StoppingLemmas

open StoppingLemmas

/-- The reasons why a text is stuck: its first scalar begins no token, or it begins
digits that do not reach the end although they have to, or a literal without an end. -/
theorem stuck_cons_iff {numbers : NumberRule} {c : Char} {more : List Char} :
    Stuck numbers (c :: more) ↔
      isBlank c = false ∧ c ≠ '=' ∧ c ≠ '+' ∧ isAlphabetic c = false ∧
        (c.isDigit = true → numbers = .toEndOfInput ∧ ∃ d ∈ more, d.isDigit = false) ∧
        (c = '"' → ∀ body value behind, LiteralBody body value →
          more ≠ body ++ '"' :: behind) := by
  constructor
  · intro h
    refine ⟨h.notBlank c rfl, ?_, ?_, not_isAlphabetic_of_stuck h, of_stuck_of_isDigit h, ?_⟩
    · rintro rfl
      exact h.noLexeme _ _ more .assign rfl trivial
    · rintro rfl
      exact h.noLexeme _ _ more .plus rfl trivial
    · rintro rfl body value behind hbody rfl
      exact h.noLexeme _ _ behind (.string hbody) (by simp) trivial
  · rintro ⟨hblank, hassign, hplus, hletter, hdigit, hquote⟩
    refine ⟨?_, ?_⟩
    · rintro d ⟨⟩
      exact hblank
    · intro text t behind hlexeme htext hends
      cases hlexeme using Lexeme.scanned_cases with
      | assign => exact hassign (List.cons.inj htext).1
      | plus => exact hplus (List.cons.inj htext).1
      | word hfirst _ =>
        rw [← (List.cons.inj htext).1, hletter] at hfirst
        cases hfirst
      | number hne hdigits =>
        obtain ⟨first, others, rfl⟩ := List.exists_cons_of_ne_nil hne
        obtain ⟨rfl, hmore⟩ := List.cons.inj htext
        obtain ⟨hrule, d, hd, hfalse⟩ := hdigit (hdigits c List.mem_cons_self)
        have hothers : more = others := by
          rw [hmore, hends.2 hrule]
          exact List.append_nil others
        rw [hdigits d (List.mem_cons_of_mem c (hothers ▸ hd))] at hfalse
        cases hfalse
      | @string body value hbody =>
        obtain ⟨hc, hmore⟩ := List.cons.inj htext
        exact hquote hc body value behind hbody (hmore.trans (List.append_assoc body _ behind))

/-- A stuck text stays so whatever follows it, unless it is an unfinished literal. -/
theorem Stuck.append {numbers : NumberRule} {c : Char} {more : List Char}
    (h : Stuck numbers (c :: more)) (hquote : c ≠ '"') (behind : List Char) :
    Stuck numbers (c :: more ++ behind) := by
  obtain ⟨hblank, hassign, hplus, hletter, hdigit, -⟩ := stuck_cons_iff.mp h
  refine stuck_cons_iff.mpr
    ⟨hblank, hassign, hplus, hletter, fun hc => ?_, fun hc => absurd hc hquote⟩
  obtain ⟨hrule, d, hd, hfalse⟩ := hdigit hc
  exact ⟨hrule, d, List.mem_append_left _ hd, hfalse⟩

/-! ## 2. What may stand behind lexemes -/

namespace StoppingLemmas

theorem head?_append {rest other : List Char}
    (hhead : ∀ c, other.head? = some c → rest.head? = some c) (before : List Char) :
    ∀ c, (before ++ other).head? = some c → (before ++ rest).head? = some c := by
  cases before with
  | nil => exact hhead
  | cons first more => exact fun c hc => hc

end StoppingLemmas

/-- Whether a token may end before a text depends on the first scalar of that text. -/
theorem Token.EndsBefore.of_head {t : Token} {numbers : NumberRule} {rest other : List Char}
    (h : t.EndsBefore numbers rest) (hhead : ∀ c, other.head? = some c → rest.head? = some c) :
    t.EndsBefore numbers other := by
  rw [endsBefore_iff] at h ⊢
  refine ⟨fun c hc => h.1 c (hhead c hc), fun hnumber hrule => ?_⟩
  have hnil := h.2 hnumber hrule
  cases other with
  | nil => rfl
  | cons c more =>
    have hfirst := hhead c rfl
    rw [hnil] at hfirst
    cases hfirst

namespace Piece

theorem joined_append (first second : List Piece) (rest : List Char) :
    joined (first ++ second) rest = joined first (joined second rest) := by
  rw [joined, joined, joined, List.flatMap_append, List.append_assoc]

theorem joined_append_rest (pieces : List Piece) (gap rest : List Char) :
    joined pieces (gap ++ rest) = joined pieces gap ++ rest := by
  rw [joined, joined, List.append_assoc]

theorem apart_append {numbers : NumberRule} {first second : List Piece} {rest : List Char} :
    Apart numbers (first ++ second) rest ↔
      Apart numbers first (joined second rest) ∧ Apart numbers second rest := by
  induction first with
  | nil => exact ⟨fun h => ⟨trivial, h⟩, And.right⟩
  | cons p first ih =>
    rw [List.cons_append, Apart, Apart, ih, joined_append, and_assoc]

/-- Lexemes that may end before a text may end before any that begins like it. -/
theorem Apart.of_head {numbers : NumberRule} {pieces : List Piece} {rest other : List Char}
    (h : Apart numbers pieces rest) (hhead : ∀ c, other.head? = some c → rest.head? = some c) :
    Apart numbers pieces other := by
  induction pieces with
  | nil => trivial
  | cons p behind ih => exact ⟨h.1.of_head (head?_append hhead _), ih h.2⟩

theorem locatedAll_take (start : Position) (pieces : List Piece) (n : Nat) :
    locatedAll start (pieces.take n) = (locatedAll start pieces).take n := by
  induction pieces generalizing start n with
  | nil => rw [List.take_nil, locatedAll, List.take_nil]
  | cons p pieces ih =>
    cases n with
    | zero => rfl
    | succ n => exact congrArg (p.located start :: ·) (ih (start.past p.source) n)

/-! ### Where the tokens of pieces stand -/

theorem offset_stop_located (p : Piece) (start : Position) :
    (p.located start).span.stop.offset = start.offset + p.source.length := by
  rw [located, ← Position.past_append, Position.offset_past]
  rfl

theorem length_joined_cons (p : Piece) (behind : List Piece) (rest : List Char) :
    (joined (p :: behind) rest).length = p.source.length + (joined behind rest).length := by
  rw [joined_cons, ← List.append_assoc, List.length_append]
  rfl

theorem offset_stop_le {start : Position} {pieces : List Piece} {t : Located Token}
    (ht : t ∈ locatedAll start pieces) (rest : List Char) :
    t.span.stop.offset ≤ start.offset + (joined pieces rest).length := by
  induction pieces generalizing start with
  | nil => cases ht
  | cons p behind ih =>
    rw [length_joined_cons, ← Nat.add_assoc]
    rcases List.mem_cons.mp ht with rfl | ht
    · rw [offset_stop_located]
      exact Nat.le_add_right _ _
    · have hle := ih ht
      rwa [Position.offset_past] at hle

/-- The tokens before and behind a token are those of the pieces before and behind its own. -/
theorem exists_of_locatedAll_eq {start : Position} {pieces : List Piece}
    {before behind : List (Located Token)} {t : Located Token}
    (h : locatedAll start pieces = before ++ t :: behind) :
    ∃ first p second, pieces = first ++ p :: second ∧ before = locatedAll start first ∧
      t = p.located (start.past (first.flatMap source)) := by
  induction before generalizing start pieces with
  | nil =>
    cases pieces with
    | nil => cases h
    | cons p second => exact ⟨[], p, second, rfl, rfl, (List.cons.inj h).1.symm⟩
  | cons u before ih =>
    cases pieces with
    | nil => cases h
    | cons q pieces =>
      obtain ⟨rfl, hmore⟩ := List.cons.inj h
      obtain ⟨first, p, second, rfl, rfl, rfl⟩ := ih hmore
      refine ⟨q :: first, p, second, rfl, rfl, ?_⟩
      rw [List.flatMap_cons, Position.past_append]

end Piece

/-! ## 3. A scan reads the division of its text -/

namespace Scanner

open Piece

theorem skipBlanks_of_stuck {s : Scanner} {gap rest : List Char}
    (hremaining : s.input.remaining = gap ++ rest) (hgap : Blank gap)
    (hstuck : Stuck s.numbers rest) :
    s.skipBlanks = ⟨⟨rest, s.input.position.past gap⟩, s.numbers⟩ := by
  rw [skipBlanks, Input.readWhile_of_run hremaining hgap hstuck.notBlank]
  rfl

theorem next_of_stuck {s : Scanner} {gap rest : List Char}
    (hremaining : s.input.remaining = gap ++ rest) (hgap : Blank gap)
    (hstuck : Stuck s.numbers rest) :
    s.next = (none, ⟨⟨rest, s.input.position.past gap⟩, s.numbers⟩) := by
  have hskip := skipBlanks_of_stuck hremaining hgap hstuck
  rcases hnext : s.next with ⟨found, after⟩
  cases found with
  | none => rw [(next_none hnext).1, hskip]
  | some token =>
    obtain ⟨-, -, -, hfirst, -⟩ := next_some hnext
    obtain ⟨text, hlexeme, hends, hreach⟩ := firstOf_eq_some_iff.mp hfirst
    have htext := hreach.text
    rw [hskip] at htext hends
    exact absurd hends (hstuck.noLexeme text _ _ hlexeme htext)

theorem stuck_of_next_none {s after : Scanner} (h : s.next = (none, after)) :
    Stuck s.numbers after.input.remaining := by
  obtain ⟨rfl, hfirst⟩ := next_none h
  refine ⟨fun c => Input.readWhile_stops, fun text t behind hlexeme htext hends => ?_⟩
  rw [firstOf_of_lexeme (s := s.skipBlanks) htext hlexeme hends] at hfirst
  cases (Prod.mk.inj hfirst).1

theorem stuck_scan (s : Scanner) : Stuck s.numbers s.scan.2.input.remaining := by
  rcases hnext : s.next with ⟨found, after⟩
  rw [scan_eq, hnext]
  cases found with
  | none => exact stuck_of_next_none hnext
  | some token =>
    obtain ⟨_, _, _, _, _, hreach, _⟩ := next_eq_some_iff.mp hnext
    have hlt := length_lt_of_next_some hnext
    rw [← hreach.numbers]
    exact stuck_scan after
termination_by s.input.remaining.length

/-- A scan reads the pieces of its text and the blanks behind them. -/
theorem scan_of_partial {s : Scanner}
    (d : PartialFactorisation s.numbers s.input.remaining) :
    s.scan = (locatedAll s.input.position d.pieces,
      ⟨⟨d.rest, s.input.position.past d.taken⟩, s.numbers⟩) := by
  have hscan := scan_of_pieces d.text_eq d.spelled d.apart
  have hnext := next_of_stuck
    (s := ⟨⟨d.gap ++ d.rest, s.input.position.past (d.pieces.flatMap source)⟩, s.numbers⟩)
    rfl d.blank d.stuck
  rw [hscan, scan_eq, hnext, PartialFactorisation.taken, joined, Position.past_append]
  simp only [List.append_nil]

end Scanner

/-- Every text divides. -/
theorem PartialFactorisation.ofText (numbers : NumberRule) (text : List Char) :
    Nonempty (PartialFactorisation numbers text) := by
  let s : Scanner := ⟨⟨text, .start⟩, numbers⟩
  obtain ⟨pieces, gap, hspelled, hgap, htext, hapart, -⟩ := s.exists_pieces
  exact ⟨⟨pieces, gap, s.scan.2.input.remaining, htext, hspelled, hapart, hgap, s.stuck_scan⟩⟩

/-! ## 4. What a reading answers -/

namespace Token

/-- A strict reading accepts this text. -/
def Accepted (numbers : NumberRule) (source : String) : Prop :=
  ∃ ts, locatedOfString source ⟨.strict, numbers⟩ = .ok ts

variable {numbers : NumberRule} {source : String} {text : List Char}

/-- The tokens of the pieces are answered, unless a strict reading finds a rest. -/
theorem locatedOfString_of_partial (htext : source.toList = text)
    (d : PartialFactorisation numbers text) (errors : Strictness) :
    locatedOfString source ⟨errors, numbers⟩ =
      match d.rest.head?, errors with
      | some c, .strict => .error (.atScalar c d.stop)
      | _, _ => .ok d.located := by
  subst htext
  have hscan := Scanner.scan_of_partial (s := .ofString source numbers) d
  rw [locatedOfString_eq, hscan]
  unfold Scanner.leftover Input.peek
  cases d.rest with
  | nil => rfl
  | cons c more => cases errors <;> rfl

theorem locatedOfString_lenient (htext : source.toList = text)
    (d : PartialFactorisation numbers text) :
    locatedOfString source ⟨.lenient, numbers⟩ = .ok d.located := by
  rw [locatedOfString_of_partial htext d]
  cases d.rest.head? <;> rfl

theorem locatedOfString_strict_eq_ok_iff (htext : source.toList = text)
    (d : PartialFactorisation numbers text) {ts : List (Located Token)} :
    locatedOfString source ⟨.strict, numbers⟩ = .ok ts ↔ d.rest = [] ∧ d.located = ts := by
  rw [locatedOfString_of_partial htext d]
  cases d.rest with
  | nil => exact ⟨fun h => ⟨rfl, Except.ok.inj h⟩, fun h => congrArg Except.ok h.2⟩
  | cons c more =>
    constructor
    · intro h
      cases h
    · rintro ⟨⟨⟩, -⟩

theorem locatedOfString_strict_eq_error_iff (htext : source.toList = text)
    (d : PartialFactorisation numbers text) {e : LexError} :
    locatedOfString source ⟨.strict, numbers⟩ = .error e ↔
      ∃ c more, d.rest = c :: more ∧ .atScalar c d.stop = e := by
  rw [locatedOfString_of_partial htext d]
  cases d.rest with
  | nil =>
    constructor
    · intro h
      cases h
    · rintro ⟨_, _, ⟨⟩, -⟩
  | cons c more =>
    constructor
    · exact fun h => ⟨c, more, rfl, Except.error.inj h⟩
    · rintro ⟨_, _, ⟨⟩, rfl⟩
      rfl

theorem lenient_of_strict {ts : List (Located Token)}
    (h : locatedOfString source ⟨.strict, numbers⟩ = .ok ts) :
    locatedOfString source ⟨.lenient, numbers⟩ = .ok ts := by
  obtain ⟨d⟩ := PartialFactorisation.ofText numbers source.toList
  rw [locatedOfString_lenient rfl d, ((locatedOfString_strict_eq_ok_iff rfl d).mp h).2]

theorem accepted_iff_rest (htext : source.toList = text) (d : PartialFactorisation numbers text) :
    Accepted numbers source ↔ d.rest = [] := by
  simp only [Accepted, locatedOfString_strict_eq_ok_iff htext d, exists_and_left, exists_eq',
    and_true]

end Token

end Scriptlet
