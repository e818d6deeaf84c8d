import Scriptlet.Proofs.Binary64.CorrectRounding
import Scriptlet.Text.Classes
import Scriptlet.Token.Lexeme
import Scriptlet.Token.Scanner

/-!
# What one step of the scanner reads

The recognizers try in a fixed order, but the order does not matter: each kind
of token begins with scalars of its own, and no token begins with a blank. So a
step reads the lexeme that stands behind the blanks, if one does and its token
may end where it ends, and reads nothing otherwise.

Results:
1. `literalRest_eq_some_iff`: reading behind the opening quote finds the body of
   a literal and its value.
2. `number_of_digits`, `stringLiteral_of_body`: what is read of a run of digits
   and of a literal.
3. `firstOf_eq_some_iff`: the recognizers read the lexemes, and nothing else.
4. `next_eq_some_iff`: a step reads blanks and a lexeme behind them.
5. `next_of_blank`: where only blanks are left, a step reads them and finds none.
-/

namespace Scriptlet

/-! ## 1. Scalars -/

namespace RecognitionLemmas

theorem not_isBlank_of_isAlphanumeric {c : Char} (h : isAlphanumeric c = true) :
    isBlank c = false := by
  cases hblank : isBlank c with
  | false => rfl
  | true => rw [not_isAlphanumeric_of_isBlank hblank] at h; cases h

theorem isAlphanumeric_of_isAlphabetic {c : Char} (h : isAlphabetic c = true) :
    isAlphanumeric c = true := by
  rw [isAlphanumeric, h, Bool.true_or]

theorem signs_apart {c : Char} (h : c = '=' ∨ c = '+' ∨ c = '"') :
    isAlphanumeric c = false ∧ c.isDigit = false ∧ isBlank c = false := by
  rcases h with rfl | rfl | rfl <;> decide +kernel

end RecognitionLemmas

open RecognitionLemmas

/-! ## 2. Words and numbers as they are scanned -/

theorem Token.endsBefore_ofWord {numbers : NumberRule} {word : String} {rest : List Char} :
    (Token.ofWord word).EndsBefore numbers rest ↔
      ∀ c, rest.head? = some c → isAlphanumeric c = false := by
  rw [Token.ofWord]
  split
  · exact Iff.rfl
  · split <;> exact Iff.rfl

namespace Lexeme

theorem word {first : Char} {others : List Char} (hfirst : isAlphabetic first = true)
    (hothers : ∀ c ∈ others, isAlphanumeric c = true) :
    Lexeme (first :: others) (.ofWord (String.ofList (first :: others))) := by
  rw [Token.ofWord]
  split
  · rename_i hlet
    rw [String.ofList_inj.mp hlet]
    exact .letWord
  · rename_i hlet
    split
    · rename_i hprint
      rw [String.ofList_inj.mp hprint]
      exact .printWord
    · rename_i hprint
      exact .identifier hfirst hothers (fun h => hlet (String.ofList_inj.mpr h))
        fun h => hprint (String.ofList_inj.mpr h)

theorem digits {text : List Char} (hne : text ≠ []) (hdigits : ∀ c ∈ text, c.isDigit = true) :
    Lexeme text (.number (.ofDigits text)) :=
  .number hne hdigits (Binary64.standsFor_iff.mpr rfl)

theorem scanned_cases {motive : ∀ {text : List Char} {t : Token}, Lexeme text t → Prop}
    {text : List Char} {t : Token} (h : Lexeme text t)
    (assign : motive Lexeme.assign) (plus : motive Lexeme.plus)
    (word : ∀ {first : Char} {others : List Char} (hfirst : isAlphabetic first = true)
      (hothers : ∀ c ∈ others, isAlphanumeric c = true), motive (Lexeme.word hfirst hothers))
    (number : ∀ {text : List Char} (hne : text ≠ []) (hdigits : ∀ c ∈ text, c.isDigit = true),
      motive (Lexeme.digits hne hdigits))
    (string : ∀ {body value : List Char} (hbody : LiteralBody body value),
      motive (Lexeme.string hbody)) : motive h := by
  cases h with
  | assign => exact assign
  | plus => exact plus
  | string hbody => exact string hbody
  | number hne hdigits hvalue =>
    obtain rfl := Binary64.standsFor_iff.mp hvalue
    exact number hne hdigits
  | letWord =>
    exact @word 'l' ['e', 't'] (by decide +kernel) (List.all_eq_true.mp (by decide +kernel))
  | printWord =>
    exact @word 'p' ['r', 'i', 'n', 't'] (by decide +kernel)
      (List.all_eq_true.mp (by decide +kernel))
  | @identifier first others hfirst hothers hlet hprint =>
    have hword : ∀ {u : Token}, u = .ofWord (String.ofList (first :: others)) →
        ∀ hu : Lexeme (first :: others) u, motive hu := by
      rintro _ rfl hu
      exact word hfirst hothers
    refine hword (Eq.symm ?_) _
    rw [Token.ofWord, if_neg fun h => hlet (String.ofList_inj.mp h),
      if_neg fun h => hprint (String.ofList_inj.mp h)]

end Lexeme

theorem Lexeme.exists_cons {text : List Char} {t : Token} (h : Lexeme text t) :
    ∃ c more, text = c :: more ∧ isBlank c = false := by
  cases h using Lexeme.scanned_cases with
  | assign => exact ⟨_, _, rfl, (signs_apart (.inl rfl)).2.2⟩
  | plus => exact ⟨_, _, rfl, (signs_apart (.inr (.inl rfl))).2.2⟩
  | string _ => exact ⟨_, _, rfl, (signs_apart (.inr (.inr rfl))).2.2⟩
  | word hfirst _ =>
    exact ⟨_, _, rfl, not_isBlank_of_isAlphanumeric (isAlphanumeric_of_isAlphabetic hfirst)⟩
  | number hne hdigits =>
    obtain ⟨c, more, rfl⟩ := List.exists_cons_of_ne_nil hne
    have hdigit := hdigits c List.mem_cons_self
    exact ⟨c, more, rfl, not_isBlank_of_isAlphanumeric (isAlphanumeric_of_isDigit hdigit)⟩

/-! ## 3. Runs of scalars of one class -/

namespace RecognitionLemmas

theorem takeWhile_of_head {accept : Char → Bool} {text : List Char}
    (h : ∀ c, text.head? = some c → accept c = false) : text.takeWhile accept = [] := by
  cases text with
  | nil => rfl
  | cons c more => exact List.takeWhile_cons_of_neg (Bool.eq_false_iff.mp (h c rfl))

theorem dropWhile_of_head {accept : Char → Bool} {text : List Char}
    (h : ∀ c, text.head? = some c → accept c = false) : text.dropWhile accept = text := by
  cases text with
  | nil => rfl
  | cons c more => exact List.dropWhile_cons_of_neg (Bool.eq_false_iff.mp (h c rfl))

theorem not_accept_of_dropWhile {accept : Char → Bool} {text : List Char} {c : Char}
    (h : (text.dropWhile accept).head? = some c) : accept c = false := by
  have hhead := List.head?_dropWhile_not accept text
  rw [h] at hhead
  simpa using hhead

end RecognitionLemmas

namespace Input

theorem readWhile_of_run {accept : Char → Bool} {i : Input} {run rest : List Char}
    (hremaining : i.remaining = run ++ rest) (hrun : ∀ c ∈ run, accept c = true)
    (hrest : ∀ c, rest.head? = some c → accept c = false) :
    i.readWhile accept = (run, ⟨rest, i.position.past run⟩) := by
  have htaken : i.remaining.takeWhile accept = run := by
    rw [hremaining, List.takeWhile_append_of_pos hrun, takeWhile_of_head hrest, List.append_nil]
  have hleft : i.remaining.dropWhile accept = rest := by
    rw [hremaining, List.dropWhile_append_of_pos hrun, dropWhile_of_head hrest]
  rw [readWhile_eq, htaken, hleft]

theorem readWhile_accepts {accept : Char → Bool} {i : Input} {c : Char}
    (h : c ∈ (i.readWhile accept).1) : accept c = true := by
  rw [readWhile_eq] at h
  exact List.all_eq_true.mp List.all_takeWhile c h

theorem readWhile_stops {accept : Char → Bool} {i : Input} {c : Char}
    (h : (i.readWhile accept).2.remaining.head? = some c) : accept c = false := by
  rw [readWhile_eq] at h
  exact not_accept_of_dropWhile h

end Input

namespace Scanner

/-! ## 4. String literals -/

theorem literalRest_of_body {body units : List Char} (h : LiteralBody body units)
    (value : List Char) (position : Position) (rest : List Char) :
    literalRest false value position (body ++ '"' :: rest) =
      some (value.reverse ++ units, ⟨rest, position.past (body ++ ['"'])⟩) := by
  induction h generalizing value position with
  | nil => simp [literalRest, Position.past]
  | plain hquote hslash _ ih =>
    rw [List.cons_append, literalRest, if_neg (by simp), if_neg hquote, if_neg hslash, ih,
      List.reverse_cons, List.append_assoc]
    rfl
  | escaped _ ih =>
    rw [List.cons_append, literalRest, if_neg (by simp), if_neg (by decide), if_pos rfl,
      List.cons_append, literalRest, if_pos rfl, ih, List.reverse_cons, List.append_assoc]
    rfl

theorem exists_body {value : List Char} {position : Position} (text : List Char)
    {found : List Char} {after : Input}
    (h : literalRest false value position text = some (found, after)) :
    ∃ body units, LiteralBody body units ∧ found = value.reverse ++ units ∧
      text = body ++ '"' :: after.remaining ∧ after.position = position.past (body ++ ['"']) := by
  cases text with
  | nil => simp [literalRest] at h
  | cons c rest =>
    rw [literalRest, if_neg (by simp)] at h
    split at h
    · rename_i hquote
      obtain ⟨rfl, rfl⟩ := Prod.mk.inj (Option.some.inj h)
      exact ⟨[], [], .nil, (List.append_nil _).symm, by rw [hquote]; rfl, by rw [hquote]; rfl⟩
    · rename_i hquote
      split at h
      · rename_i hslash
        cases rest with
        | nil => simp [literalRest] at h
        | cons d more =>
          rw [literalRest, if_pos rfl] at h
          obtain ⟨body, units, hbody, hfound, htext, hposition⟩ := exists_body more h
          refine ⟨'\\' :: d :: body, d :: units, .escaped hbody, ?_, ?_, ?_⟩
          · rw [hfound, List.reverse_cons, List.append_assoc]
            rfl
          · rw [htext, hslash]
            rfl
          · rw [hposition, hslash]
            rfl
      · rename_i hslash
        obtain ⟨body, units, hbody, hfound, htext, hposition⟩ := exists_body rest h
        refine ⟨c :: body, c :: units, .plain hquote hslash hbody, ?_, ?_, ?_⟩
        · rw [hfound, List.reverse_cons, List.append_assoc]
          rfl
        · rw [htext]
          rfl
        · rw [hposition]
          rfl
termination_by text.length

/-- Reading behind the opening quote finds the body of a literal and its value. -/
theorem literalRest_eq_some_iff {position : Position} {text found : List Char} {after : Input} :
    literalRest false [] position text = some (found, after) ↔
      ∃ body, LiteralBody body found ∧ text = body ++ '"' :: after.remaining ∧
        after.position = position.past (body ++ ['"']) := by
  constructor
  · intro h
    obtain ⟨body, units, hbody, rfl, htext, hposition⟩ := exists_body text h
    exact ⟨body, hbody, htext, hposition⟩
  · rintro ⟨body, hbody, rfl, hposition⟩
    rw [literalRest_of_body hbody, ← hposition]
    rfl

/-! ## 5. The recognizers -/

theorem Reaches.eq {s after : Scanner} {taken rest : List Char} (h : Reaches s after taken)
    (hremaining : s.input.remaining = taken ++ rest) :
    after = ⟨⟨rest, s.input.position.past taken⟩, s.numbers⟩ := by
  obtain ⟨⟨remaining, position⟩, numbers⟩ := after
  obtain ⟨htext, rfl, rfl⟩ := h
  have hrest : remaining = rest := List.append_cancel_left (htext.symm.trans hremaining)
  rw [hrest]

theorem firstOf_of_some {recognize : Recognizer} {s after : Scanner} {token : Token}
    (h : recognize s = (some token, after)) (others : List Recognizer) :
    firstOf (recognize :: others) s = (some token, after) := by
  rw [firstOf, h]

theorem firstOf_of_none {recognize : Recognizer} {s : Scanner} (h : recognize s = (none, s))
    (others : List Recognizer) : firstOf (recognize :: others) s = firstOf others s := by
  rw [firstOf, h]

theorem exists_of_firstOf {rs : List Recognizer} (hrewinds : ∀ r ∈ rs, Recognizer.Rewinds r)
    {s after : Scanner} {token : Token} (h : firstOf rs s = (some token, after)) :
    ∃ r ∈ rs, r s = (some token, after) := by
  induction rs with
  | nil => cases h
  | cons r rest ih =>
    rw [firstOf] at h
    split at h
    · rename_i found input hr
      exact ⟨r, List.mem_cons_self, by rw [hr, h]⟩
    · rename_i input hr
      rw [hrewinds r List.mem_cons_self hr] at h
      obtain ⟨found, hmem, hfound⟩ := ih (fun r hr => hrewinds r (List.mem_cons_of_mem _ hr)) h
      exact ⟨found, List.mem_cons_of_mem _ hmem, hfound⟩

theorem operator_declines {s : Scanner} {c : Char} {rest : List Char}
    (hremaining : s.input.remaining = c :: rest) (hassign : c ≠ '=') (hplus : c ≠ '+') :
    operator s = (none, s) := by
  unfold operator Input.read
  rw [hremaining]
  split
  · rename_i h
    exact absurd (Option.some.inj (Prod.mk.inj h).1) hassign
  · rename_i h
    exact absurd (Option.some.inj (Prod.mk.inj h).1) hplus
  · rfl

theorem word_declines {s : Scanner} {c : Char} {rest : List Char}
    (hremaining : s.input.remaining = c :: rest) (hc : isAlphabetic c = false) :
    word s = (none, s) := by
  simp [word, Input.peek, hremaining, hc]

theorem number_declines {s : Scanner} {c : Char} {rest : List Char}
    (hremaining : s.input.remaining = c :: rest) (hc : c.isDigit = false) :
    number s = (none, s) := by
  simp [number, Input.peek, hremaining, hc]

/-- All digits are read together. Where numbers have to end the input and the text goes on behind
the digits, nothing is read. -/
theorem number_of_digits {s : Scanner} {digits rest : List Char}
    (hremaining : s.input.remaining = digits ++ rest) (hne : digits ≠ [])
    (hdigits : ∀ c ∈ digits, c.isDigit = true)
    (hstop : ∀ c, rest.head? = some c → c.isDigit = false) :
    number s = if s.numbers = .toEndOfInput ∧ rest ≠ [] then (none, s)
      else (some (.number (.ofDigits digits)),
        ⟨⟨rest, s.input.position.past digits⟩, s.numbers⟩) := by
  have hpeek : s.input.peek.any Char.isDigit = true := by
    obtain ⟨c, more, rfl⟩ := List.exists_cons_of_ne_nil hne
    rw [Input.peek, hremaining]
    exact hdigits c List.mem_cons_self
  rw [number, if_pos hpeek, Input.readWhile_of_run hremaining hdigits hstop]
  dsimp only
  rw [Binary64.ofNumeral_of_digits hne hdigits]
  refine ite_congr ?_ (fun _ => rfl) (fun _ => rfl)
  cases rest <;> simp [Input.atEnd]

/-- A literal is read up to the quote that ends it, whatever stands behind that quote. -/
theorem stringLiteral_of_body {s : Scanner} {body value rest : List Char}
    (hremaining : s.input.remaining = '"' :: (body ++ '"' :: rest)) (h : LiteralBody body value) :
    stringLiteral s = (some (.string (String.ofList value)),
      ⟨⟨rest, s.input.position.past ('"' :: body ++ ['"'])⟩, s.numbers⟩) := by
  unfold stringLiteral Input.read
  rw [hremaining]
  simp only [literalRest_of_body h]
  rfl

/-- A recognizer reads lexemes, and each only where its token may end. -/
def Recognizer.ReadsLexemes (recognize : Recognizer) : Prop :=
  ∀ {s token after}, recognize s = (some token, after) →
    ∃ text, Lexeme text token ∧ token.EndsBefore s.numbers after.input.remaining ∧
      Reaches s after text

theorem operator_readsLexemes : Recognizer.ReadsLexemes operator := by
  intro s token after h
  unfold operator at h
  split at h
  · rename_i input hread
    obtain ⟨htoken, rfl⟩ := Prod.mk.inj h
    obtain rfl := Option.some.inj htoken
    exact ⟨_, .assign, trivial, reaches_read hread⟩
  · rename_i input hread
    obtain ⟨htoken, rfl⟩ := Prod.mk.inj h
    obtain rfl := Option.some.inj htoken
    exact ⟨_, .plus, trivial, reaches_read hread⟩
  · cases (Prod.mk.inj h).1

theorem word_readsLexemes : Recognizer.ReadsLexemes word := by
  intro s token after h
  unfold word at h
  split at h
  · rename_i hpeek
    obtain ⟨htoken, rfl⟩ := Prod.mk.inj h
    obtain rfl := Option.some.inj htoken
    refine ⟨_, ?_, Token.endsBefore_ofWord.mpr fun c => Input.readWhile_stops,
      reaches_readWhile s isAlphanumeric⟩
    obtain ⟨c, hc, hfirst⟩ := (Option.any_eq_true _ _).mp hpeek
    obtain ⟨rest, hremaining⟩ := List.head?_eq_some_iff.mp hc
    have hletters :
        s.input.remaining.takeWhile isAlphanumeric = c :: rest.takeWhile isAlphanumeric := by
      rw [hremaining, List.takeWhile_cons_of_pos (isAlphanumeric_of_isAlphabetic hfirst)]
    show Lexeme (s.input.readWhile isAlphanumeric).1
      (.ofWord (String.ofList (s.input.readWhile isAlphanumeric).1))
    rw [Input.readWhile_eq, hletters]
    exact .word hfirst fun d hd => List.all_eq_true.mp List.all_takeWhile d hd
  · cases (Prod.mk.inj h).1

theorem number_readsLexemes : Recognizer.ReadsLexemes number := by
  intro s token after h
  unfold number at h
  split at h
  · rename_i hpeek
    dsimp only at h
    split at h
    · cases (Prod.mk.inj h).1
    · rename_i hend
      have hne := readWhile_ne_nil hpeek fun _ => id
      have hdigits : ∀ c ∈ (s.input.readWhile Char.isDigit).1, c.isDigit = true :=
        fun c => Input.readWhile_accepts
      rw [Binary64.ofNumeral_of_digits hne hdigits] at h
      obtain ⟨htoken, rfl⟩ := Prod.mk.inj h
      obtain rfl := Option.some.inj htoken
      refine ⟨_, .digits hne hdigits, ⟨fun c => Input.readWhile_stops, ?_⟩,
        reaches_readWhile s Char.isDigit⟩
      intro hrule
      rw [hrule] at hend
      simpa [Input.atEnd, withInput] using hend
  · cases (Prod.mk.inj h).1

theorem stringLiteral_readsLexemes : Recognizer.ReadsLexemes stringLiteral := by
  intro s token after h
  unfold stringLiteral at h
  split at h
  · rename_i inside hread
    split at h
    · rename_i value input hrest
      obtain ⟨htoken, rfl⟩ := Prod.mk.inj h
      obtain rfl := Option.some.inj htoken
      obtain ⟨body, hbody, htext, hposition⟩ := literalRest_eq_some_iff.mp hrest
      refine ⟨_, .string hbody, trivial, ?_⟩
      have hbehind : Reaches (s.withInput inside) (s.withInput input) (body ++ ['"']) :=
        ⟨by simpa [withInput] using htext, hposition, rfl⟩
      exact (reaches_read hread).trans hbehind
    · cases (Prod.mk.inj h).1
  · cases (Prod.mk.inj h).1

theorem recognizers_readLexemes : ∀ r ∈ recognizers, Recognizer.ReadsLexemes r := by
  intro r hr
  simp only [recognizers, List.mem_cons, List.not_mem_nil, or_false] at hr
  rcases hr with rfl | rfl | rfl | rfl
  · exact operator_readsLexemes
  · exact word_readsLexemes
  · exact number_readsLexemes
  · exact stringLiteral_readsLexemes

/-- A lexeme is read where its token may end: the recognizers before the one for
its kind decline its first scalar. -/
theorem firstOf_of_lexeme {s : Scanner} {text rest : List Char} {t : Token}
    (hremaining : s.input.remaining = text ++ rest) (h : Lexeme text t)
    (hends : t.EndsBefore s.numbers rest) :
    firstOf recognizers s = (some t, ⟨⟨rest, s.input.position.past text⟩, s.numbers⟩) := by
  unfold recognizers
  cases h using Lexeme.scanned_cases with
  | assign =>
    refine firstOf_of_some ?_ _
    simp [operator, Input.read, hremaining, withInput, Position.past]
  | plus =>
    refine firstOf_of_some ?_ _
    simp [operator, Input.read, hremaining, withInput, Position.past]
  | @word first others hfirst hothers =>
    have hneither : first ≠ '=' ∧ first ≠ '+' := by
      constructor <;> (rintro rfl; revert hfirst; decide +kernel)
    rw [firstOf_of_none (operator_declines hremaining hneither.1 hneither.2)]
    refine firstOf_of_some ?_ _
    have hrun : ∀ c ∈ first :: others, isAlphanumeric c = true :=
      List.forall_mem_cons.mpr ⟨isAlphanumeric_of_isAlphabetic hfirst, hothers⟩
    have hpeek : s.input.peek.any isAlphabetic = true := by
      rw [Input.peek, hremaining]
      exact hfirst
    rw [word, if_pos hpeek,
      Input.readWhile_of_run hremaining hrun (Token.endsBefore_ofWord.mp hends)]
    rfl
  | number hne hdigits =>
    obtain ⟨c, more, rfl⟩ := List.exists_cons_of_ne_nil hne
    have hdigit := hdigits c List.mem_cons_self
    have hneither : c ≠ '=' ∧ c ≠ '+' := by
      constructor <;> (rintro rfl; revert hdigit; decide)
    rw [firstOf_of_none (operator_declines hremaining hneither.1 hneither.2),
      firstOf_of_none (word_declines hremaining (not_isAlphabetic_of_isDigit hdigit))]
    refine firstOf_of_some ?_ _
    rw [number_of_digits hremaining hne hdigits hends.1]
    exact if_neg fun ⟨hrule, hmore⟩ => hmore (hends.2 hrule)
  | @string body value hbody =>
    have hopen : s.input.remaining = '"' :: (body ++ '"' :: rest) := by
      rw [hremaining]
      simp
    rw [firstOf_of_none (operator_declines hopen (by decide) (by decide)),
      firstOf_of_none (word_declines hopen (by decide +kernel)),
      firstOf_of_none (number_declines hopen (by decide))]
    exact firstOf_of_some (stringLiteral_of_body hopen hbody) _

/-- The recognizers read the lexemes, each where its token may end, and nothing else. -/
theorem firstOf_eq_some_iff {s after : Scanner} {t : Token} :
    firstOf recognizers s = (some t, after) ↔
      ∃ text, Lexeme text t ∧ t.EndsBefore s.numbers after.input.remaining ∧
        Reaches s after text := by
  constructor
  · intro h
    obtain ⟨r, hr, hread⟩ := exists_of_firstOf recognizers_rewind h
    exact recognizers_readLexemes r hr hread
  · rintro ⟨text, hlexeme, hends, hreach⟩
    rw [firstOf_of_lexeme hreach.text hlexeme hends, ← hreach.eq hreach.text]

/-! ## 6. A step -/

theorem skipBlanks_of_lexeme {s : Scanner} {gap text rest : List Char} {t : Token}
    (hremaining : s.input.remaining = gap ++ (text ++ rest)) (hgap : Blank gap)
    (h : Lexeme text t) :
    s.skipBlanks = ⟨⟨text ++ rest, s.input.position.past gap⟩, s.numbers⟩ := by
  obtain ⟨c, more, rfl, hc⟩ := h.exists_cons
  have hstop : ∀ d, (c :: more ++ rest).head? = some d → isBlank d = false := by
    rintro d ⟨⟩
    exact hc
  rw [skipBlanks, Input.readWhile_of_run hremaining hgap hstop]
  rfl

theorem next_of_lexeme {s : Scanner} {gap text rest : List Char} {t : Token}
    (hremaining : s.input.remaining = gap ++ (text ++ rest)) (hgap : Blank gap)
    (h : Lexeme text t) (hends : t.EndsBefore s.numbers rest) :
    s.next = (some ⟨t, s.input.position.past gap, (s.input.position.past gap).past text⟩,
      ⟨⟨rest, (s.input.position.past gap).past text⟩, s.numbers⟩) := by
  have hfirst := firstOf_of_lexeme
    (s := ⟨⟨text ++ rest, s.input.position.past gap⟩, s.numbers⟩) rfl h hends
  unfold next
  rw [skipBlanks_of_lexeme hremaining hgap h]
  dsimp only
  rw [hfirst]

/-- A step reads blanks and, behind them, a lexeme whose token may end there. -/
theorem next_eq_some_iff {s after : Scanner} {found : Located Token} :
    s.next = (some found, after) ↔
      ∃ gap text, Blank gap ∧ Lexeme text found.value ∧
        found.value.EndsBefore s.numbers after.input.remaining ∧ Reaches s after (gap ++ text) ∧
        found.span = ⟨s.input.position.past gap, after.input.position⟩ := by
  constructor
  · intro h
    obtain ⟨-, -, -, hfirst, hspan⟩ := next_some h
    obtain ⟨text, hlexeme, hends, hreach⟩ := firstOf_eq_some_iff.mp hfirst
    exact ⟨_, text, fun c => Input.readWhile_accepts, hlexeme, hends,
      (reaches_readWhile s isBlank).trans hreach, hspan⟩
  · rintro ⟨gap, text, hgap, hlexeme, hends, hreach, hspan⟩
    have hremaining : s.input.remaining = gap ++ (text ++ after.input.remaining) := by
      rw [hreach.text, List.append_assoc]
    rw [next_of_lexeme hremaining hgap hlexeme hends, hreach.eq hreach.text,
      ← Position.past_append]
    obtain ⟨value, span⟩ := found
    rw [show span = _ from hspan, hreach.position]

/-- Where only blanks are left, a step reads them and finds no token. -/
theorem next_of_blank {s : Scanner} {gap : List Char} (hremaining : s.input.remaining = gap)
    (hgap : Blank gap) : s.next = (none, ⟨⟨[], s.input.position.past gap⟩, s.numbers⟩) := by
  rcases hnext : s.next with ⟨found, after⟩
  cases found with
  | none =>
    rw [(next_none hnext).1, skipBlanks,
      Input.readWhile_of_run (hremaining.trans (List.append_nil gap).symm) hgap (by simp)]
    rfl
  | some token =>
    obtain ⟨before, text, -, hlexeme, -, hreach, -⟩ := next_eq_some_iff.mp hnext
    obtain ⟨c, more, rfl, hc⟩ := hlexeme.exists_cons
    have hmem : c ∈ gap := by
      rw [← hremaining, hreach.text]
      simp
    rw [hgap c hmem] at hc
    cases hc

end Scanner

end Scriptlet
