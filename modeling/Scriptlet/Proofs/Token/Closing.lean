import Mathlib.Algebra.Group.Nat.Even
import Mathlib.Data.List.DropRight
import Scriptlet.Proofs.Token.Failure

/-!
# Where a string literal ends

A backslash takes the meaning from the scalar behind it, so of a run of backslashes every
second one has lost its own. A quote therefore ends a literal when the run of backslashes
before it is even, and belongs to the literal when that run is odd. This says of a quote
whether it ends the literal without reading the literal from its beginning.

Results:
1. `LiteralBody.even_trailingSlashes`, `LiteralBody.not_closesAt`: the body of a literal
   ends in an even run, and each quote in it stands behind an odd one.
2. `unescaped_of_body`: the value of a body is what the backslashes leave of it.
3. `exists_body_iff`: a text holds the end of a literal when a quote in it stands behind
   an even run.
4. `Scanner.literal_end_exact`: what is read of every text behind an opening quote.
-/

namespace Scriptlet

/-! ## Definitions -/

/-- The run of backslashes at the end of a text. -/
def trailingSlashes (text : List Char) : List Char := text.rtakeWhile (· = '\\')

/-- Behind an opening quote, the text holds a quote between `before` and `behind` that an
even run of backslashes precedes. -/
structure ClosesAt (text before behind : List Char) : Prop where
  text_eq : text = before ++ '"' :: behind
  even : Even (trailingSlashes before).length

/-- The first quote of the text that an even run of backslashes precedes. -/
structure ClosesFirstAt (text before behind : List Char) : Prop
    extends ClosesAt text before behind where
  first : ∀ other rest, ClosesAt text other rest → before.length ≤ other.length

/-- What is left of a text when, from its beginning on, every backslash is taken away and
the scalar behind it is kept as it is. -/
def unescaped : List Char → List Char
  | [] => []
  | [c] => if c = '\\' then [] else [c]
  | c :: d :: rest => if c = '\\' then d :: unescaped rest else c :: unescaped (d :: rest)

/-! ## 1. Runs of backslashes -/

namespace ClosingLemmas

theorem trailingSlashes_concat (text : List Char) (c : Char) :
    trailingSlashes (text ++ [c]) = if c = '\\' then trailingSlashes text ++ [c] else [] := by
  rw [trailingSlashes, List.rtakeWhile_concat]
  simp only [decide_eq_true_eq]
  rfl

theorem even_concat {c : Char} (hc : c ≠ '\\') (text : List Char) :
    Even (trailingSlashes (text ++ [c])).length := by
  rw [trailingSlashes_concat, if_neg hc]
  exact Even.zero

theorem even_concat_slash (text : List Char) :
    Even (trailingSlashes (text ++ ['\\'])).length ↔ ¬ Even (trailingSlashes text).length := by
  rw [trailingSlashes_concat, if_pos rfl, List.length_append]
  exact Nat.even_add_one

/-- Behind an even run, a backslash and the scalar behind it leave an even run. -/
theorem even_concat_escaped {text : List Char} (h : Even (trailingSlashes text).length)
    (c : Char) : Even (trailingSlashes (text ++ ['\\', c])).length := by
  rw [show ['\\', c] = ['\\'] ++ [c] from rfl, ← List.append_assoc]
  rcases eq_or_ne c '\\' with rfl | hc
  · exact (even_concat_slash _).mpr fun hodd => (even_concat_slash text).mp hodd h
  · exact even_concat hc _

end ClosingLemmas

open ClosingLemmas

namespace LiteralBody

/-- Behind an even run, the body of a literal leaves an even run. The run before it is
what the induction carries: scalar by scalar, the body moves into it. -/
theorem even_trailingSlashes_append {body value : List Char} (h : LiteralBody body value)
    (before : List Char) (hbefore : Even (trailingSlashes before).length) :
    Even (trailingSlashes (before ++ body)).length := by
  induction h generalizing before with
  | nil => rwa [List.append_nil]
  | @plain c body _ _ hslash _ ih =>
    rw [← List.singleton_append, ← List.append_assoc]
    exact ih _ (even_concat hslash before)
  | @escaped c body _ _ ih =>
    rw [show '\\' :: c :: body = ['\\', c] ++ body from rfl, ← List.append_assoc]
    exact ih _ (even_concat_escaped hbefore c)

theorem even_trailingSlashes {body value : List Char} (h : LiteralBody body value) :
    Even (trailingSlashes body).length :=
  h.even_trailingSlashes_append [] Even.zero

theorem odd_before_quote {body value first behind : List Char} (h : LiteralBody body value)
    (before : List Char) (hbefore : Even (trailingSlashes before).length)
    (htext : body = first ++ '"' :: behind) :
    ¬ Even (trailingSlashes (before ++ first)).length := by
  induction h generalizing before first with
  | nil => simp at htext
  | @plain c body _ hquote hslash _ ih =>
    cases first with
    | nil => exact absurd (List.cons.inj htext).1 hquote
    | cons d first =>
      obtain ⟨rfl, hmore⟩ := List.cons.inj htext
      rw [← List.singleton_append, ← List.append_assoc]
      exact ih _ (even_concat hslash before) hmore
  | @escaped c body _ _ ih =>
    match first with
    | [] => exact absurd (List.cons.inj htext).1 (by decide)
    | [d] =>
      rw [← (List.cons.inj htext).1]
      exact fun heven => (even_concat_slash before).mp heven hbefore
    | d :: e :: first =>
      obtain ⟨rfl, hrest⟩ := List.cons.inj htext
      obtain ⟨rfl, hmore⟩ := List.cons.inj hrest
      rw [show '\\' :: c :: first = ['\\', c] ++ first from rfl, ← List.append_assoc]
      exact ih _ (even_concat_escaped hbefore c) hmore

/-- No quote in the body of a literal ends it. -/
theorem not_closesAt {body value : List Char} (h : LiteralBody body value)
    (before behind : List Char) : ¬ ClosesAt body before behind :=
  fun hclose => h.odd_before_quote [] Even.zero hclose.text_eq hclose.even

end LiteralBody

/-! ## 2. The value of a body -/

theorem unescaped_cons {c : Char} (hc : c ≠ '\\') (text : List Char) :
    unescaped (c :: text) = c :: unescaped text := by
  cases text with
  | nil => exact if_neg hc
  | cons d rest => rw [unescaped, if_neg hc]

theorem unescaped_of_body {body value : List Char} (h : LiteralBody body value) :
    unescaped body = value := by
  induction h with
  | nil => rfl
  | plain _ hslash _ ih => rw [unescaped_cons hslash, ih]
  | escaped _ ih => rw [unescaped, if_pos rfl, ih]

/-! ## 3. The end of a literal -/

theorem closesFirstAt_of_body {body value : List Char} (h : LiteralBody body value)
    (behind : List Char) : ClosesFirstAt (body ++ '"' :: behind) body behind where
  text_eq := rfl
  even := h.even_trailingSlashes
  first := by
    intro other rest hclose
    rcases List.append_eq_append_iff.mp hclose.text_eq with ⟨more, rfl, -⟩ | ⟨more, rfl, hrest⟩
    · rw [List.length_append]
      exact Nat.le_add_right _ _
    · cases more with
      | nil => rw [List.append_nil]
      | cons c more =>
        obtain ⟨rfl, -⟩ := List.cons.inj hrest
        exact absurd ⟨rfl, hclose.even⟩ (h.not_closesAt other more)

/-- A text holds the end of a literal when a quote in it stands behind an even run. -/
theorem exists_body_iff {text : List Char} :
    (∃ body value behind, LiteralBody body value ∧ text = body ++ '"' :: behind) ↔
      ∃ before behind, ClosesAt text before behind := by
  constructor
  · rintro ⟨body, value, behind, hbody, rfl⟩
    exact ⟨body, behind, (closesFirstAt_of_body hbody behind).toClosesAt⟩
  · rintro ⟨before, behind, hclose⟩
    -- Where no literal ends in the text, the text itself is in the body of one.
    have hinside : ∀ more value, ¬ LiteralBody (text ++ more) value := fun more value hbody =>
      hbody.not_closesAt before (behind ++ more)
        ⟨by rw [hclose.text_eq, List.append_assoc]; rfl, hclose.even⟩
    rcases LiteralBody.exists_or text with hends | ⟨value, hbody⟩ | ⟨body, value, hbody, rfl⟩
    · exact hends
    · exact absurd ((List.append_nil text).symm ▸ hbody) (hinside [] value)
    · have hlonger := hbody.append (.escaped (c := '"') .nil)
      rw [show ['\\', '"'] = ['\\'] ++ ['"'] from rfl, ← List.append_assoc] at hlonger
      exact absurd hlonger (hinside ['"'] _)

namespace Scanner

theorem stringLiteral_of_not_closesAt {text : List Char}
    (h : ¬ ∃ before behind, ClosesAt text before behind) (numbers : NumberRule)
    (position : Position) :
    stringLiteral ⟨⟨'"' :: text, position⟩, numbers⟩ =
      (none, ⟨⟨'"' :: text, position⟩, numbers⟩) := by
  have hnone : literalRest false [] (position.after '"') text = none := by
    cases hrest : literalRest false [] (position.after '"') text with
    | none => rfl
    | some found =>
      obtain ⟨body, hbody, htext, -⟩ := literalRest_eq_some_iff.mp hrest
      exact absurd (exists_body_iff.mp ⟨body, _, _, hbody, htext⟩) h
  unfold stringLiteral Input.read
  simp only [hnone]

end Scanner

/-! ## 4. Every text behind an opening quote -/

/-- If the text behind an opening quote holds a quote that an even run of backslashes
precedes, the literal ends with the first such quote: it is read up to there and no
further, and its value is what the backslashes leave of the text before that quote. If
the text holds no such quote, there is no literal and nothing is read. So however a string
is written, each scalar of it with or without a backslash before it and every quote and
backslash of it with one, the literal is read to its end and has that string as its
value. -/
theorem Scanner.literal_end_exact (numbers : NumberRule) (position : Position)
    (text : List Char) :
    let s : Scanner := ⟨⟨'"' :: text, position⟩, numbers⟩
    ((∃ before behind, ClosesAt text before behind) →
      ∃ before behind, ClosesFirstAt text before behind ∧
        s.stringLiteral = (some (.string (String.ofList (unescaped before))),
          ⟨⟨behind, position.past ('"' :: before ++ ['"'])⟩, numbers⟩)) ∧
    ((¬ ∃ before behind, ClosesAt text before behind) → s.stringLiteral = (none, s)) ∧
    ∀ (value : String) (body behind : List Char), LiteralBody body value.toList →
      text = body ++ '"' :: behind →
      s.stringLiteral = (some (.string value),
        ⟨⟨behind, position.past ('"' :: body ++ ['"'])⟩, numbers⟩) := by
  refine ⟨fun h => ?_, fun h => stringLiteral_of_not_closesAt h numbers position, ?_⟩
  · obtain ⟨body, value, behind, hbody, rfl⟩ := exists_body_iff.mpr h
    refine ⟨body, behind, closesFirstAt_of_body hbody behind, ?_⟩
    rw [unescaped_of_body hbody]
    exact stringLiteral_of_body rfl hbody
  · rintro value body behind hbody rfl
    rw [stringLiteral_of_body rfl hbody, String.ofList_toList]

/-- Behind an opening quote, `a\\\"b\\" c` holds a quote behind three backslashes, which
belongs to the literal, and one behind two, which ends it. In `a\"` no literal ends. -/
theorem Scanner.literal_end_exact_three_slashes :
    let text := ['a', '\\', '\\', '\\', '"', 'b', '\\', '\\', '"', ' ', 'c']
    let body := ['a', '\\', '\\', '\\', '"', 'b', '\\', '\\']
    ClosesAt text body [' ', 'c'] ∧ LiteralBody body "a\\\"b\\".toList ∧
    (∃ before behind, ClosesFirstAt text before behind ∧
      stringLiteral ⟨⟨'"' :: text, .start⟩, .longestRun⟩ =
        (some (.string (String.ofList (unescaped before))),
          ⟨⟨behind, Position.start.past ('"' :: before ++ ['"'])⟩, .longestRun⟩)) ∧
    stringLiteral ⟨⟨'"' :: text, .start⟩, .longestRun⟩ =
      (some (.string "a\\\"b\\"), ⟨⟨[' ', 'c'], ⟨10, 1, 11⟩⟩, .longestRun⟩) ∧
    (¬ ∃ before behind, ClosesAt ['a', '\\', '"'] before behind) ∧
    stringLiteral ⟨⟨['"', 'a', '\\', '"'], .start⟩, .longestRun⟩ =
      (none, ⟨⟨['"', 'a', '\\', '"'], .start⟩, .longestRun⟩) := by
  intro text body
  have hbody : LiteralBody body "a\\\"b\\".toList :=
    .plain (by decide) (by decide) (.escaped (.escaped
      (.plain (by decide) (by decide) (.escaped .nil))))
  have hopen : LiteralBody ['a', '\\', '"'] ['a', '"'] :=
    .plain (by decide) (by decide) (.escaped .nil)
  have hcloses : ClosesAt text body [' ', 'c'] := ⟨rfl, by decide⟩
  have hnone : ¬ ∃ before behind, ClosesAt ['a', '\\', '"'] before behind :=
    fun ⟨before, behind, hclose⟩ => hopen.not_closesAt before behind hclose
  obtain ⟨hfirst, -, hwritten⟩ := literal_end_exact .longestRun .start text
  obtain ⟨-, hunclosed, -⟩ := literal_end_exact .longestRun .start ['a', '\\', '"']
  exact ⟨hcloses, hbody, hfirst ⟨body, _, hcloses⟩, hwritten _ body _ hbody rfl, hnone,
    hunclosed hnone⟩

end Scriptlet
