import Mathlib.Data.List.Chain
import Scriptlet.Proofs.Token.Factorisation

/-!
# Where written tokens meet

Lexemes written one behind the other are read back as they are unless one of
them runs into the next: a word into letters and numbers, a number into digits.
What runs into a lexeme is whole lexemes, so a scan then finds fewer tokens than
were written, and it finds as many only when none runs into the next.

Results:
1. `Lexeme.exists_head`: the first scalar of a lexeme says of which kind it is.
2. `apart_iff`: when no lexeme runs into the next, by the blanks between them and
   the kinds of their tokens.
3. `scan_length`: a scan finds at most as many tokens as were written, and as
   many only when none has run into the next.
-/

namespace Scriptlet

/-! ## Definitions -/

namespace Token

/-- The tokens whose text is made of digits. -/
def IsNumber : Token → Prop
  | .number _ => True
  | _ => False

/-- The scalars that would make the text of a token longer, standing behind it. -/
def continues : Token → Char → Bool
  | .letWord | .printWord | .identifier _ => isAlphanumeric
  | .number _ => Char.isDigit
  | _ => fun _ => false

/-- Without blanks between them, the text of the first token runs into that of
the second. -/
def Merges (first second : Token) : Prop :=
  (first.IsWord ∧ (second.IsWord ∨ second.IsNumber)) ∨ (first.IsNumber ∧ second.IsNumber)

end Token

/-- A row of tokens, each with the blanks before it. -/
abbrev Row := List (List Char × Token)

namespace Row

/-- Tokens that would merge have blanks between them. -/
def Separated (row : Row) : Prop :=
  List.IsChain (fun first second => second.1 = [] → ¬ first.2.Merges second.2) row

/-- A number stands only at the end of a row, and nothing behind it. -/
def NumbersLast (row : Row) (last : List Char) : Prop :=
  ∀ before number behind, row = before ++ number :: behind → number.2.IsNumber →
    behind = [] ∧ last = []

end Row

/-- A piece as a member of a row. -/
def Piece.spaced (p : Piece) : List Char × Token := (p.gap, p.token)

/-! ## 1. The first scalar of a lexeme -/

open RecognitionLemmas

namespace Token

theorem isWord_ofWord (word : String) : (ofWord word).IsWord ∧ ¬ (ofWord word).IsNumber := by
  rw [ofWord]
  split
  · exact ⟨trivial, id⟩
  · split <;> exact ⟨trivial, id⟩

theorem continues_of_isWord {t : Token} (h : t.IsWord) : t.continues = isAlphanumeric := by
  cases t with
  | letWord | printWord | identifier => rfl
  | assign | plus | number | string => exact h.elim

theorem continues_of_isNumber {t : Token} (h : t.IsNumber) : t.continues = Char.isDigit := by
  cases t with
  | number => rfl
  | letWord | printWord | identifier | assign | plus | string => exact h.elim

theorem not_isWord_of_isNumber {t : Token} (h : t.IsNumber) : ¬ t.IsWord := by
  cases t with
  | number => exact id
  | letWord | printWord | identifier | assign | plus | string => exact h.elim

theorem merges_of_isWord {t u : Token} (h : t.IsWord) :
    t.Merges u ↔ u.IsWord ∨ u.IsNumber := by
  constructor
  · rintro (⟨-, hkind⟩ | ⟨hnumber, -⟩)
    · exact hkind
    · exact absurd h (not_isWord_of_isNumber hnumber)
  · exact fun hkind => .inl ⟨h, hkind⟩

theorem merges_of_isNumber {t u : Token} (h : t.IsNumber) : t.Merges u ↔ u.IsNumber := by
  constructor
  · rintro (⟨hword, -⟩ | ⟨-, hkind⟩)
    · exact absurd hword (not_isWord_of_isNumber h)
    · exact hkind
  · exact fun hkind => .inr ⟨h, hkind⟩

theorem endsBefore_of_not {t : Token} (hword : ¬ t.IsWord) (hnumber : ¬ t.IsNumber)
    (numbers : NumberRule) (rest : List Char) : t.EndsBefore numbers rest := by
  cases t with
  | letWord | printWord | identifier => exact (hword trivial).elim
  | number => exact (hnumber trivial).elim
  | assign | plus | string => trivial

theorem endsBefore_iff {t : Token} {numbers : NumberRule} {rest : List Char} :
    t.EndsBefore numbers rest ↔
      (∀ c, rest.head? = some c → t.continues c = false) ∧
        (t.IsNumber → numbers = .toEndOfInput → rest = []) := by
  cases t with
  | letWord | printWord | identifier =>
    exact ⟨fun h => ⟨h, fun hnumber => hnumber.elim⟩, And.left⟩
  | number => exact ⟨fun h => ⟨h.1, fun _ => h.2⟩, fun h => ⟨h.1, h.2 trivial⟩⟩
  | assign | plus | string =>
    exact ⟨fun _ => ⟨fun _ _ => rfl, fun hnumber => hnumber.elim⟩, fun _ => trivial⟩

theorem continues_of_isBlank (t : Token) {c : Char} (h : isBlank c = true) :
    t.continues c = false := by
  have hclass := not_isAlphanumeric_of_isBlank h
  cases t with
  | letWord | printWord | identifier => exact hclass
  | assign | plus | string => rfl
  | number =>
    refine Bool.eq_false_iff.mpr fun hdigit => ?_
    rw [isAlphanumeric_of_isDigit hdigit] at hclass
    cases hclass

end Token

/-- The first scalar of a lexeme says of which kind it is. -/
theorem Lexeme.exists_head {text : List Char} {t : Token} (h : Lexeme text t) :
    ∃ c more, text = c :: more ∧ (isAlphanumeric c = true ↔ t.IsWord ∨ t.IsNumber) ∧
      (c.isDigit = true ↔ t.IsNumber) := by
  have hsign : ∀ {c : Char} {t : Token}, (c = '=' ∨ c = '+' ∨ c = '"') → ¬ t.IsWord →
      ¬ t.IsNumber →
      (isAlphanumeric c = true ↔ t.IsWord ∨ t.IsNumber) ∧ (c.isDigit = true ↔ t.IsNumber) := by
    intro c t hc hword hnumber
    obtain ⟨hclass, hdigit, -⟩ := signs_apart hc
    simp [hclass, hdigit, hword, hnumber]
  cases h using Lexeme.scanned_cases with
  | assign => exact ⟨_, _, rfl, hsign (.inl rfl) id id⟩
  | plus => exact ⟨_, _, rfl, hsign (.inr (.inl rfl)) id id⟩
  | string => exact ⟨_, _, rfl, hsign (.inr (.inr rfl)) id id⟩
  | @word first others hfirst _ =>
    obtain ⟨hword, hnumber⟩ := Token.isWord_ofWord (String.ofList (first :: others))
    refine ⟨first, others, rfl, ⟨fun _ => .inl hword, fun _ => ?_⟩, ⟨fun hdigit => ?_, ?_⟩⟩
    · exact isAlphanumeric_of_isAlphabetic hfirst
    · rw [not_isAlphabetic_of_isDigit hdigit] at hfirst
      cases hfirst
    · exact fun h => absurd h hnumber
  | number hne hdigits =>
    obtain ⟨c, more, rfl⟩ := List.exists_cons_of_ne_nil hne
    have hdigit := hdigits c List.mem_cons_self
    exact ⟨c, more, rfl, ⟨fun _ => .inr trivial, fun _ => isAlphanumeric_of_isDigit hdigit⟩,
      ⟨fun _ => trivial, fun _ => hdigit⟩⟩

theorem Lexeme.same_kind {text other rest behind : List Char} {t u : Token} (ht : Lexeme text t)
    (hu : Lexeme other u) (h : text ++ rest = other ++ behind) :
    (t.IsWord ↔ u.IsWord) ∧ (t.IsNumber ↔ u.IsNumber) := by
  obtain ⟨c, more, rfl, hclass, hdigit⟩ := ht.exists_head
  obtain ⟨d, others, rfl, hclass', hdigit'⟩ := hu.exists_head
  obtain rfl : c = d := (List.cons.inj h).1
  have hnumber : t.IsNumber ↔ u.IsNumber := hdigit.symm.trans hdigit'
  refine ⟨⟨fun hword => ?_, fun hword => ?_⟩, hnumber⟩
  · rcases hclass'.mp (hclass.mpr (.inl hword)) with h | h
    · exact h
    · exact absurd hword (Token.not_isWord_of_isNumber (hnumber.mpr h))
  · rcases hclass.mp (hclass'.mpr (.inl hword)) with h | h
    · exact h
    · exact absurd hword (Token.not_isWord_of_isNumber (hnumber.mp h))

theorem Lexeme.continues {text : List Char} {t : Token} (h : Lexeme text t)
    (hkind : t.IsWord ∨ t.IsNumber) : ∀ c ∈ text, t.continues c = true := by
  cases h using Lexeme.scanned_cases with
  | assign | plus | string => rcases hkind with h | h <;> exact h.elim
  | number _ hdigits => exact hdigits
  | @word first others hfirst hothers =>
    rw [Token.continues_of_isWord (Token.isWord_ofWord _).1]
    exact List.forall_mem_cons.mpr ⟨isAlphanumeric_of_isAlphabetic hfirst, hothers⟩

/-- A token runs into a lexeme when the first scalar of that lexeme continues it. -/
theorem Lexeme.continues_head_iff {c : Char} {more : List Char} {u : Token}
    (h : Lexeme (c :: more) u) (t : Token) : t.continues c = true ↔ t.Merges u := by
  obtain ⟨d, others, hcons, hclass, hdigit⟩ := h.exists_head
  obtain ⟨rfl, rfl⟩ := List.cons.inj hcons
  cases t with
  | letWord | printWord | identifier =>
    refine hclass.trans (Iff.symm (Token.merges_of_isWord ?_))
    trivial
  | number =>
    refine hdigit.trans (Iff.symm (Token.merges_of_isNumber ?_))
    trivial
  | assign | plus | string =>
    constructor
    · intro h
      cases h
    · rintro (⟨hword, -⟩ | ⟨hnumber, -⟩)
      · exact hword.elim
      · exact hnumber.elim

/-- A token runs into a lexeme as a whole or not at all. -/
theorem Lexeme.continues_or {text : List Char} {u : Token} (h : Lexeme text u) (t : Token) :
    (∀ c ∈ text, t.continues c = true) ∨ (∀ c, text.head? = some c → t.continues c = false) := by
  obtain ⟨first, more, rfl, -⟩ := h.exists_head
  cases hfirst : t.continues first with
  | false =>
    refine .inr ?_
    rintro c ⟨⟩
    exact hfirst
  | true =>
    refine .inl fun c hc => ?_
    rcases (h.continues_head_iff t).mp hfirst with ⟨hword, hkind⟩ | ⟨hnumber, hkind⟩
    · rw [Token.continues_of_isWord hword]
      have hcontinues := h.continues hkind c hc
      rcases hkind with hu | hu
      · rwa [Token.continues_of_isWord hu] at hcontinues
      · rw [Token.continues_of_isNumber hu] at hcontinues
        exact isAlphanumeric_of_isDigit hcontinues
    · have hcontinues := h.continues (.inr hkind) c hc
      rwa [Token.continues_of_isNumber hkind, ← Token.continues_of_isNumber hnumber] at hcontinues

/-! ## 2. When no lexeme runs into the next -/

namespace Row

theorem numbersLast_nil (last : List Char) : NumbersLast [] last := by
  intro before number behind hrow
  exact absurd hrow.symm (by simp)

theorem numbersLast_cons {member : List Char × Token} {row : Row} {last : List Char} :
    NumbersLast (member :: row) last ↔
      (member.2.IsNumber → row = [] ∧ last = []) ∧ NumbersLast row last := by
  constructor
  · intro h
    refine ⟨h [] member row rfl, fun before number behind hrow => ?_⟩
    exact h (member :: before) number behind (by rw [hrow, List.cons_append])
  · rintro ⟨hmember, hrow⟩ before number behind hsplit
    cases before with
    | nil =>
      obtain ⟨rfl, rfl⟩ := List.cons.inj hsplit
      exact hmember
    | cons first before =>
      obtain ⟨rfl, hbehind⟩ := List.cons.inj hsplit
      exact hrow before number behind hbehind

end Row

namespace Piece

theorem continues_of_blank_head {gap rest : List Char} (hgap : Blank gap) (hne : gap ≠ [])
    (t : Token) : ∀ c, (gap ++ rest).head? = some c → t.continues c = false := by
  obtain ⟨first, more, rfl⟩ := List.exists_cons_of_ne_nil hne
  rintro c ⟨⟩
  exact t.continues_of_isBlank (hgap first List.mem_cons_self)

theorem continues_of_blank {last : List Char} (hlast : Blank last) (t : Token) :
    ∀ c, last.head? = some c → t.continues c = false :=
  fun c hc => t.continues_of_isBlank (hlast c (List.mem_of_head? hc))

theorem joined_eq_nil_iff {pieces : List Piece} {last : List Char}
    (hspelled : ∀ p ∈ pieces, p.Spelled) : joined pieces last = [] ↔ pieces = [] ∧ last = [] := by
  cases pieces with
  | nil => simp [joined_nil]
  | cons p behind =>
    have hne := lexeme_ne_nil (hspelled p List.mem_cons_self).lexeme
    simp [joined_cons, hne]

/-- The text of pieces does not continue a token when the first of them does not
merge with it or stands behind blanks. -/
theorem continues_joined_iff {pieces : List Piece} {last : List Char}
    (hspelled : ∀ p ∈ pieces, p.Spelled) (hlast : Blank last) (t : Token) :
    (∀ c, (joined pieces last).head? = some c → t.continues c = false) ↔
      ∀ p ∈ pieces.head?, p.gap = [] → ¬ t.Merges p.token := by
  cases pieces with
  | nil =>
    refine ⟨fun _ p hp => ?_, fun _ => continues_of_blank hlast t⟩
    cases hp
  | cons p behind =>
    have hp := hspelled p List.mem_cons_self
    obtain ⟨c, more, htext, -⟩ := hp.lexeme.exists_head
    have hhead := (htext ▸ hp.lexeme).continues_head_iff t
    rw [joined_cons]
    by_cases hgap : p.gap = []
    · rw [hgap, htext]
      constructor
      · rintro h q ⟨⟩ -
        rw [← hhead, h c rfl]
        exact Bool.false_ne_true
      · rintro h d ⟨⟩
        exact Bool.eq_false_iff.mpr fun hc => h p rfl hgap (hhead.mp hc)
    · refine ⟨?_, fun _ => continues_of_blank_head hp.blank hgap t⟩
      rintro - q ⟨⟩ hnil
      exact absurd hnil hgap

/-- No lexeme runs into the next when tokens that would merge have blanks between
them and, where a number has to end the input, each number does. -/
theorem apart_iff {numbers : NumberRule} {pieces : List Piece} {last : List Char}
    (hspelled : ∀ p ∈ pieces, p.Spelled) (hlast : Blank last) :
    Apart numbers pieces last ↔ Row.Separated (pieces.map spaced) ∧
      (numbers = .toEndOfInput → Row.NumbersLast (pieces.map spaced) last) := by
  induction pieces with
  | nil => exact ⟨fun _ => ⟨List.isChain_nil, fun _ => Row.numbersLast_nil last⟩, fun _ => trivial⟩
  | cons p behind ih =>
    have hbehind : ∀ q ∈ behind, q.Spelled := (List.forall_mem_cons.mp hspelled).2
    have hchain : Row.Separated ((p :: behind).map spaced) ↔
        (∀ q ∈ behind.head?, q.gap = [] → ¬ p.token.Merges q.token) ∧
          Row.Separated (behind.map spaced) := by
      rw [Row.Separated, List.map_cons, List.isChain_cons, List.head?_map]
      simp [Row.Separated, spaced]
    rw [Apart, Token.endsBefore_iff, continues_joined_iff hbehind hlast, ih hbehind, hchain,
      List.map_cons, Row.numbersLast_cons, joined_eq_nil_iff hbehind, List.map_eq_nil_iff]
    constructor
    · rintro ⟨⟨hmerge, hend⟩, hseparated, hnumbers⟩
      exact ⟨⟨hmerge, hseparated⟩, fun hrule => ⟨fun hnumber => hend hnumber hrule, hnumbers hrule⟩⟩
    · rintro ⟨⟨hmerge, hseparated⟩, hnumbers⟩
      exact ⟨⟨hmerge, fun hnumber hrule => (hnumbers hrule).1 hnumber⟩, hseparated,
        fun hrule => (hnumbers hrule).2⟩

end Piece

/-! ## 3. What a scan finds when lexemes run into each other -/

/-- The longest run of scalars that continue a token takes whole pieces away. -/
theorem Piece.exists_suffix (t : Token) {pieces : List Piece} {last : List Char}
    (hspelled : ∀ p ∈ pieces, p.Spelled) (hlast : Blank last) :
    ∃ fewer, fewer <:+ pieces ∧ (joined pieces last).dropWhile t.continues = joined fewer last ∧
      ((joined pieces last).head?.any t.continues = true → fewer.length < pieces.length) := by
  induction pieces with
  | nil =>
    have hstop := continues_of_blank hlast t
    refine ⟨[], List.suffix_rfl, dropWhile_of_head hstop, fun hany => ?_⟩
    obtain ⟨c, hc, hcontinues⟩ := (Option.any_eq_true _ _).mp hany
    rw [hstop c hc] at hcontinues
    cases hcontinues
  | cons p behind ih =>
    obtain ⟨hp, hbehind⟩ := List.forall_mem_cons.mp hspelled
    have hkeep : (∀ c, (joined (p :: behind) last).head? = some c → t.continues c = false) →
        ∃ fewer, fewer <:+ p :: behind ∧
          (joined (p :: behind) last).dropWhile t.continues = joined fewer last ∧
          ((joined (p :: behind) last).head?.any t.continues = true →
            fewer.length < (p :: behind).length) := by
      intro hstop
      refine ⟨p :: behind, List.suffix_rfl, dropWhile_of_head hstop, fun hany => ?_⟩
      obtain ⟨c, hc, hcontinues⟩ := (Option.any_eq_true _ _).mp hany
      rw [hstop c hc] at hcontinues
      cases hcontinues
    by_cases hgap : p.gap = []
    · rcases hp.lexeme.continues_or t with hall | hhead
      · obtain ⟨fewer, hsuffix, hdrop, -⟩ := ih hbehind
        refine ⟨fewer, hsuffix.trans (List.suffix_cons _ _), ?_, fun _ => ?_⟩
        · rw [joined_cons, hgap, List.nil_append, List.dropWhile_append_of_pos hall, hdrop]
        · exact Nat.lt_succ_of_le hsuffix.length_le
      · apply hkeep
        obtain ⟨c, more, htext, -⟩ := hp.lexeme.exists_head
        rw [joined_cons, hgap, htext]
        rw [htext] at hhead
        exact hhead
    · apply hkeep
      rw [joined_cons]
      exact continues_of_blank_head hp.blank hgap t

/-- Where a lexeme cannot end, the one that is read there takes all that
continues it. -/
theorem Lexeme.absorbs {numbers : NumberRule} {text other rest behind : List Char} {t u : Token}
    (ht : Lexeme text t) (hu : Lexeme other u) (h : text ++ rest = other ++ behind)
    (hends : u.EndsBefore numbers behind) (hopen : ¬ t.EndsBefore numbers rest) :
    rest.head?.any t.continues = true ∧ behind = rest.dropWhile t.continues := by
  have hkind : t.IsWord ∨ t.IsNumber := Classical.byContradiction fun hneither =>
    hopen (Token.endsBefore_of_not (fun h => hneither (.inl h)) (fun h => hneither (.inr h)) _ _)
  obtain ⟨hword, hnumber⟩ := ht.same_kind hu h
  have hsame : u.continues = t.continues := by
    rcases hkind with hk | hk
    · rw [Token.continues_of_isWord hk, Token.continues_of_isWord (hword.mp hk)]
    · rw [Token.continues_of_isNumber hk, Token.continues_of_isNumber (hnumber.mp hk)]
  have hotherAll := hu.continues (hkind.imp hword.mp hnumber.mp)
  obtain ⟨hstop, hend⟩ := Token.endsBefore_iff.mp hends
  rw [hsame] at hotherAll hstop
  have hdrop : behind = rest.dropWhile t.continues := by
    have hboth := congrArg (List.dropWhile t.continues) h
    rw [List.dropWhile_append_of_pos (ht.continues hkind), List.dropWhile_append_of_pos hotherAll,
      dropWhile_of_head hstop] at hboth
    exact hboth.symm
  refine ⟨Classical.byContradiction fun hnone => hopen ?_, hdrop⟩
  have hhead : ∀ c, rest.head? = some c → t.continues c = false := fun c hc =>
    Bool.eq_false_iff.mpr fun hcontinues => hnone ((Option.any_eq_true _ _).mpr ⟨c, hc, hcontinues⟩)
  rw [dropWhile_of_head hhead] at hdrop
  rw [Token.endsBefore_iff, ← hdrop]
  exact ⟨hstop, fun hk => hend (hnumber.mp hk)⟩

namespace Scanner

open Piece

/-- A scan finds at most as many tokens as were written, and as many only when no
lexeme runs into the next. -/
theorem scan_length {s : Scanner} (pieces : List Piece) {last : List Char}
    (hremaining : s.input.remaining = joined pieces last) (hspelled : ∀ p ∈ pieces, p.Spelled)
    (hlast : Blank last) :
    s.scan.1.length ≤ pieces.length ∧
      (s.scan.1.length = pieces.length → Apart s.numbers pieces last) := by
  cases pieces with
  | nil =>
    rw [scan_of_blank hremaining hlast]
    exact ⟨Nat.le_refl 0, fun _ => trivial⟩
  | cons p behind =>
    obtain ⟨hp, hbehind⟩ := List.forall_mem_cons.mp hspelled
    rw [joined_cons] at hremaining
    by_cases hends : p.token.EndsBefore s.numbers (joined behind last)
    · rw [scan_eq, next_of_piece hremaining hp hends]
      obtain ⟨hle, hapart⟩ := scan_length
        (s := ⟨⟨joined behind last, s.input.position.past p.source⟩, s.numbers⟩) behind rfl
        hbehind hlast
      exact ⟨Nat.succ_le_succ hle, fun heq => ⟨hends, hapart (Nat.succ.inj heq)⟩⟩
    · rcases hnext : s.next with ⟨found, after⟩
      cases found with
      | none =>
        rw [scan_eq, hnext]
        refine ⟨Nat.zero_le _, fun heq => ?_⟩
        cases heq
      | some token =>
        obtain ⟨gap, text, hgap, hlexeme, htoken, hreach, -⟩ := next_eq_some_iff.mp hnext
        have hsplit : s.input.remaining = gap ++ (text ++ after.input.remaining) := by
          rw [hreach.text, List.append_assoc]
        have hskip := skipBlanks_of_lexeme hremaining hp.blank hp.lexeme
        rw [skipBlanks_of_lexeme hsplit hgap hlexeme] at hskip
        have htexts : p.text ++ joined behind last = text ++ after.input.remaining :=
          (congrArg (fun after : Scanner => after.input.remaining) hskip).symm
        obtain ⟨hruns, hleft⟩ := hp.lexeme.absorbs hlexeme htexts htoken hends
        obtain ⟨fewer, hsuffix, hdrop, hlt⟩ := exists_suffix p.token hbehind hlast
        have hfewer := hlt hruns
        obtain ⟨hle, -⟩ := scan_length (s := after) fewer (hleft.trans hdrop)
          (fun q hq => hbehind q (hsuffix.mem hq)) hlast
        rw [scan_eq, hnext]
        have hshort : after.scan.1.length + 1 < behind.length + 1 :=
          Nat.succ_lt_succ (Nat.lt_of_le_of_lt hle hfewer)
        exact ⟨Nat.le_of_lt hshort, fun heq => absurd heq (Nat.ne_of_lt hshort)⟩
termination_by pieces.length
decreasing_by
  all_goals simp_all
  omega

end Scanner

end Scriptlet
