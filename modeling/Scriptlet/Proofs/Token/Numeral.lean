import Scriptlet.Proofs.Binary64.CorrectRounding
import Scriptlet.Proofs.Token.Recognition

/-!
# The number for which digits stand

A run of digits is read as one number however long it is, and that number is the double that
stands for what the digits denote. The rule for numbers decides only whether it is read.

Results:
1. `Scanner.number_rounds_exact`: what is read of every run of digits.
-/

namespace Scriptlet

/-- Of a run of digits and any text behind it that does not begin with a digit: where numbers may
end before that text, the run is a numeral, it is read and nothing else is, and the number is the
one double that stands for the natural number which the digits denote. Where numbers have to end
the input and the run does not, nothing is read. -/
theorem Scanner.number_rounds_exact (numbers : NumberRule) (position : Position)
    {digits rest : List Char} (hne : digits ≠ []) (hdigits : ∀ c ∈ digits, c.isDigit = true)
    (hstop : ∀ c, rest.head? = some c → c.isDigit = false) :
    let s : Scanner := ⟨⟨digits ++ rest, position⟩, numbers⟩
    ((numbers = .longestRun ∨ rest = []) →
      ∃ x, Binary64.ofNumeral digits = some x ∧
        s.number = (some (.number x), ⟨⟨rest, position.past digits⟩, numbers⟩) ∧
        ∀ y : Binary64, y.StandsFor (decimalValue digits) ↔ y = x) ∧
    (numbers = .toEndOfInput → rest ≠ [] → s.number = (none, s)) := by
  intro s
  have hread := number_of_digits (s := s) rfl hne hdigits hstop
  refine ⟨fun hmay => ?_, fun hrule hmore => hread.trans (if_pos ⟨hrule, hmore⟩)⟩
  refine ⟨.ofDigits digits, Binary64.ofNumeral_of_digits hne hdigits, hread.trans (if_neg ?_),
    fun y => Binary64.standsFor_iff⟩
  rintro ⟨hrule, hmore⟩
  rcases hmay with hlongest | hnil
  · cases hlongest.symm.trans hrule
  · exact hmore hnil

/-- The digits denote `2 ^ 53 + 1`, half-way between two doubles, and the double with the even
significand is `2 ^ 53`. With a text behind them they are no number where numbers have to end the
input. -/
theorem Scanner.number_rounds_exact_half_way :
    let digits := "009007199254740993".toList
    let rest := [' ', '1']
    digits ≠ [] ∧ (∀ c ∈ digits, c.isDigit = true) ∧
    (∀ c, rest.head? = some c → c.isDigit = false) ∧ decimalValue digits = 2 ^ 53 + 1 ∧
    (∃ x, Binary64.ofNumeral digits = some x ∧
      number ⟨⟨digits ++ rest, .start⟩, .longestRun⟩ =
        (some (.number x), ⟨⟨rest, ⟨18, 1, 19⟩⟩, .longestRun⟩) ∧
      ∀ y : Binary64, y.StandsFor (2 ^ 53 + 1) ↔ y = x) ∧
    Binary64.ofNumeral digits = some ⟨0x4340000000000000⟩ ∧
    number ⟨⟨digits ++ rest, .start⟩, .toEndOfInput⟩ =
      (none, ⟨⟨digits ++ rest, .start⟩, .toEndOfInput⟩) := by
  intro digits rest
  have hne : digits ≠ [] := by decide
  have hdigits : ∀ c ∈ digits, c.isDigit = true := List.all_eq_true.mp (by decide)
  have hstop : ∀ c, rest.head? = some c → c.isDigit = false := by
    rintro c ⟨⟩
    rfl
  have hvalue : decimalValue digits = 2 ^ 53 + 1 := by decide
  obtain ⟨hread, -⟩ := number_rounds_exact .longestRun .start hne hdigits hstop
  obtain ⟨-, hrefused⟩ := number_rounds_exact .toEndOfInput .start hne hdigits hstop
  refine ⟨hne, hdigits, hstop, hvalue, ?_, by decide +kernel, hrefused rfl (by decide)⟩
  rw [← hvalue]
  exact hread (.inl rfl)

end Scriptlet
