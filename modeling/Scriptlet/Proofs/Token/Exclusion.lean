import Scriptlet.Proofs.Token.Recognition

/-!
# The order in which the recognizers try

A recognizer succeeds only where the next scalar is of a class of its own: a sign, a
letter, a digit or a quote. No scalar is of two of these classes, so at most one
recognizer succeeds, and since the others change nothing, it does not matter which of
them tried before it.

Results:
1. `BeginsWith`: the class of scalars at which each recognizer begins.
2. `pairwise_excludes`: at most one recognizer succeeds.
3. `firstOf_perm`: such recognizers may try in any order.
4. `Scanner.order_irrelevant`: all of this about every scanner.
-/

namespace Scriptlet

/-! ## Definitions -/

def isSign (c : Char) : Bool := c == '=' || c == '+'

def isQuote (c : Char) : Bool := c == '"'

namespace Recognizer

/-- Success needs a next scalar of this class. -/
def BeginsWith (recognize : Recognizer) (accept : Char → Bool) : Prop :=
  ∀ {s token after}, recognize s = (some token, after) → s.input.peek.any accept = true

/-- At most one of the two recognizers succeeds at this place. -/
def Excludes (s : Scanner) (first second : Recognizer) : Prop :=
  ¬ ((first s).1.isSome = true ∧ (second s).1.isSome = true)

end Recognizer

namespace Scanner

/-- A step in which the recognizers try in this order. -/
def nextIn (order : List Recognizer) (s : Scanner) : Option (Located Token) × Scanner :=
  let before := s.skipBlanks
  match firstOf order before with
  | (some token, after) => (some ⟨token, before.input.position, after.input.position⟩, after)
  | (none, after) => (none, after)

/-! ## 1. Where a recognizer begins -/

theorem peek_of_read {i after : Input} {c : Char} (h : i.read = (some c, after)) :
    i.peek = some c := by
  rw [Input.peek, (Input.read_position h).1]
  rfl

theorem operator_beginsWith : Recognizer.BeginsWith operator isSign := by
  intro s token after h
  unfold operator at h
  split at h
  · rename_i input hread
    rw [peek_of_read hread]
    rfl
  · rename_i input hread
    rw [peek_of_read hread]
    rfl
  · cases (Prod.mk.inj h).1

theorem word_beginsWith : Recognizer.BeginsWith word isAlphabetic := by
  intro s token after h
  unfold word at h
  split at h
  · rename_i hpeek
    exact hpeek
  · cases (Prod.mk.inj h).1

theorem number_beginsWith : Recognizer.BeginsWith number Char.isDigit := by
  intro s token after h
  unfold number at h
  split at h
  · rename_i hpeek
    exact hpeek
  · cases (Prod.mk.inj h).1

theorem stringLiteral_beginsWith : Recognizer.BeginsWith stringLiteral isQuote := by
  intro s token after h
  unfold stringLiteral at h
  split at h
  · rename_i inside hread
    rw [peek_of_read hread]
    rfl
  · cases (Prod.mk.inj h).1

/-! ## 2. At most one recognizer succeeds -/

namespace ExclusionLemmas

theorem sign_apart {c : Char} (h : isSign c = true) :
    isAlphabetic c = false ∧ c.isDigit = false ∧ isQuote c = false := by
  cases Bool.or_eq_true_iff.mp h with
  | inl hassign =>
    obtain rfl := eq_of_beq hassign
    decide +kernel
  | inr hplus =>
    obtain rfl := eq_of_beq hplus
    decide +kernel

theorem quote_apart {c : Char} (h : isQuote c = true) :
    isAlphabetic c = false ∧ c.isDigit = false := by
  obtain rfl := eq_of_beq h
  decide +kernel

end ExclusionLemmas

open ExclusionLemmas

/-- Two recognizers that begin at different scalars exclude each other. -/
theorem excludes_of_apart {first second : Recognizer} {accept other : Char → Bool}
    (hfirst : first.BeginsWith accept) (hsecond : second.BeginsWith other)
    (hapart : ∀ c, accept c = true → other c = false) (s : Scanner) :
    Recognizer.Excludes s first second := by
  rintro ⟨hsome, hother⟩
  obtain ⟨token, htoken⟩ := Option.isSome_iff_exists.mp hsome
  obtain ⟨found, hfound⟩ := Option.isSome_iff_exists.mp hother
  obtain ⟨c, hc, haccept⟩ := (Option.any_eq_true _ _).mp (hfirst (Prod.ext htoken rfl))
  obtain ⟨d, hd, hrefused⟩ := (Option.any_eq_true _ _).mp (hsecond (Prod.ext hfound rfl))
  obtain rfl := Option.some.inj (hc.symm.trans hd)
  rw [hapart c haccept] at hrefused
  cases hrefused

theorem excludes_symm {s : Scanner} {first second : Recognizer}
    (h : Recognizer.Excludes s first second) : Recognizer.Excludes s second first :=
  fun ⟨hsecond, hfirst⟩ => h ⟨hfirst, hsecond⟩

/-- From every place at most one of the four recognizers succeeds. -/
theorem pairwise_excludes (s : Scanner) : recognizers.Pairwise (Recognizer.Excludes s) := by
  have hoperator : ∀ r ∈ [word, number, stringLiteral], Recognizer.Excludes s operator r := by
    intro r hr
    simp only [List.mem_cons, List.not_mem_nil, or_false] at hr
    rcases hr with rfl | rfl | rfl
    · exact excludes_of_apart operator_beginsWith word_beginsWith (fun _ h => (sign_apart h).1) s
    · exact excludes_of_apart operator_beginsWith number_beginsWith
        (fun _ h => (sign_apart h).2.1) s
    · exact excludes_of_apart operator_beginsWith stringLiteral_beginsWith
        (fun _ h => (sign_apart h).2.2) s
  have hword : ∀ r ∈ [number, stringLiteral], Recognizer.Excludes s word r := by
    intro r hr
    simp only [List.mem_cons, List.not_mem_nil, or_false] at hr
    rcases hr with rfl | rfl
    · exact excludes_symm (excludes_of_apart number_beginsWith word_beginsWith
        (fun _ => not_isAlphabetic_of_isDigit) s)
    · exact excludes_symm (excludes_of_apart stringLiteral_beginsWith word_beginsWith
        (fun _ h => (quote_apart h).1) s)
  have hnumber : ∀ r ∈ [stringLiteral], Recognizer.Excludes s number r := by
    intro r hr
    obtain rfl := List.mem_singleton.mp hr
    exact excludes_symm (excludes_of_apart stringLiteral_beginsWith number_beginsWith
      (fun _ h => (quote_apart h).2) s)
  exact .cons hoperator (.cons hword (.cons hnumber (List.pairwise_singleton _ _)))

/-! ## 3. The order -/

section Order

variable {rs order : List Recognizer} {s : Scanner}

theorem eq_of_rewinds {recognize : Recognizer} (h : recognize.Rewinds)
    (hnone : (recognize s).1 = none) : recognize s = (none, s) := by
  have hback : (recognize s).2 = s := h (Prod.ext hnone rfl)
  exact Prod.ext hnone hback

theorem firstOf_of_mem (hrewinds : ∀ r ∈ rs, Recognizer.Rewinds r)
    (hexcludes : rs.Pairwise (Recognizer.Excludes s)) {recognize : Recognizer}
    (hmem : recognize ∈ rs) {token : Token} {after : Scanner}
    (h : recognize s = (some token, after)) : firstOf rs s = (some token, after) := by
  induction rs with
  | nil => cases hmem
  | cons first others ih =>
    obtain ⟨hfirst, hothers⟩ := List.pairwise_cons.mp hexcludes
    cases hmem with
    | head => exact firstOf_of_some h others
    | tail _ hmem =>
      have hnone : (first s).1 = none := by
        refine Option.not_isSome_iff_eq_none.mp fun hsome => hfirst recognize hmem ⟨hsome, ?_⟩
        rw [h]
        rfl
      rw [firstOf_of_none (eq_of_rewinds (hrewinds first List.mem_cons_self) hnone)]
      exact ih (fun r hr => hrewinds r (List.mem_cons_of_mem _ hr)) hothers hmem

/-- Recognizers that exclude each other may try in any order. -/
theorem firstOf_perm (h : order.Perm rs) (hrewinds : ∀ r ∈ rs, Recognizer.Rewinds r)
    (hexcludes : rs.Pairwise (Recognizer.Excludes s)) : firstOf order s = firstOf rs s := by
  have hrewinds' : ∀ r ∈ order, Recognizer.Rewinds r := fun r hr => hrewinds r (h.mem_iff.mp hr)
  have hexcludes' : order.Pairwise (Recognizer.Excludes s) :=
    (h.pairwise_iff excludes_symm).mpr hexcludes
  rcases horder : firstOf order s with ⟨found, after⟩
  cases found with
  | some token =>
    obtain ⟨r, hr, hread⟩ := exists_of_firstOf hrewinds' horder
    exact (firstOf_of_mem hrewinds hexcludes (h.mem_iff.mp hr) hread).symm
  | none =>
    obtain rfl := firstOf_rewinds hrewinds' horder
    -- What succeeds in one order would succeed in the other.
    have hnone : (firstOf rs after).1 = none := by
      refine Option.not_isSome_iff_eq_none.mp fun hsome => ?_
      obtain ⟨token, htoken⟩ := Option.isSome_iff_exists.mp hsome
      obtain ⟨r, hr, hread⟩ := exists_of_firstOf hrewinds (Prod.ext htoken rfl)
      rw [firstOf_of_mem hrewinds' hexcludes' (h.mem_iff.mpr hr) hread] at horder
      cases (Prod.mk.inj horder).1
    exact (eq_of_rewinds (firstOf_rewinds hrewinds) hnone).symm

end Order

/-! ## 4. Every scanner -/

/-- From every place, each recognizer reads a text that is not empty and moves behind it,
or leaves the scanner as it was, position included. At most one of them reads something.
After the blanks they may try in any order: the step reads the same token with the same
span and leaves the scanner at the same place. -/
theorem order_irrelevant (s : Scanner) :
    (∀ r ∈ recognizers,
      (∃ token after taken, r s = (some token, after) ∧ taken ≠ [] ∧ Reaches s after taken) ∨
        r s = (none, s)) ∧
    recognizers.Pairwise (Recognizer.Excludes s) ∧
    ∀ order, order.Perm recognizers → s.nextIn order = s.next := by
  refine ⟨fun r hr => ?_, pairwise_excludes s, fun order horder => ?_⟩
  · rcases hread : r s with ⟨found, after⟩
    cases found with
    | some token =>
      obtain ⟨taken, hne, hreach⟩ := recognizers_read r hr hread
      exact .inl ⟨token, after, taken, rfl, hne, hreach⟩
    | none => exact .inr (by rw [recognizers_rewind r hr hread])
  · unfold nextIn
    dsimp only
    rw [firstOf_perm horder recognizers_rewind (pairwise_excludes s.skipBlanks)]
    rfl

/-- Of ` 7"`, the recognizers read the digit in the opposite order as well. -/
theorem order_irrelevant_reverse :
    let s : Scanner := .ofString " 7\"" .longestRun
    recognizers.reverse.Perm recognizers ∧ s.nextIn recognizers.reverse = s.next ∧
      (s.nextIn recognizers.reverse).1 =
        some ⟨.number (.ofDigits ['7']), ⟨1, 1, 2⟩, ⟨2, 1, 3⟩⟩ := by
  intro s
  have hperm : recognizers.reverse.Perm recognizers := recognizers.reverse_perm
  have hsame : s.nextIn recognizers.reverse = s.next := (order_irrelevant s).2.2 _ hperm
  refine ⟨hperm, hsame, ?_⟩
  rw [hsame]
  decide +kernel

end Scanner

end Scriptlet
