import Scriptlet.Proofs.Program.Shortening
import Scriptlet.Proofs.Token.NumberRules
import Scriptlet.Script

/-!
# Scripts that are cut short

Where numbers have to end the input, a scan stops at the first number that does
not. So what the legacy options make of a text is made of its first tokens, and
its statements are those that a lenient reading makes of the text when digits are
numbers everywhere, but for the last.

Results:
1. `Token.exists_legacy_prefix`: the tokens under the legacy options.
2. `Program.shortened_keeps_statements`: what is kept when tokens are cut short,
   and so what is kept under the legacy options.
-/

namespace Scriptlet

/-- The tokens of a text under the legacy options are the first ones of those that it
has when digits are numbers everywhere. -/
theorem Token.exists_legacy_prefix (source : String) :
    ∃ ts us, locatedOfString source ⟨.lenient, .longestRun⟩ = .ok ts ∧
      locatedOfString source .legacy = .ok us ∧ us <+: ts := by
  obtain ⟨d⟩ := PartialFactorisation.ofText .longestRun source.toList
  obtain ⟨other, hprefix⟩ := d.exists_toEndOfInput_prefix
  exact ⟨d.located, other.located, locatedOfString_lenient rfl d,
    locatedOfString_lenient rfl other, hprefix⟩

namespace Program

/-- However tokens are cut short, a lenient reading gives a program before and after,
and keeps what it recognized: there are no more statements than before, each but the
last is the one that was there, and the last prints the first operands of the one
that was there. The legacy options only cut the tokens of a text short, so their
program is related in this way to the one that a lenient reading gives when digits
are numbers everywhere. -/
theorem shortened_keeps_statements :
    (∀ (tokens : List Token) (n : Nat),
      ∃ p q, ofTokens tokens .lenient = .ok p ∧ ofTokens (tokens.take n) .lenient = .ok q ∧
        CutShort q.statements p.statements) ∧
    ∀ source : String, ∃ ts us p q,
      Token.locatedOfString source ⟨.lenient, .longestRun⟩ = .ok ts ∧
      Token.locatedOfString source .legacy = .ok us ∧ us <+: ts ∧
      ofString source ⟨.lenient, .longestRun⟩ = .ok p ∧ ofString source .legacy = .ok q ∧
      CutShort q.statements p.statements := by
  refine ⟨exists_cutShort, fun source => ?_⟩
  obtain ⟨ts, us, hts, hus, hprefix⟩ := Token.exists_legacy_prefix source
  obtain ⟨p, q, hp, hq, hcut⟩ := exists_cutShort (ts.map Located.value) us.length
  have hfirst : (ts.map Located.value).take us.length = us.map Located.value := by
    rw [← List.map_take, ← List.prefix_iff_eq_take.mp hprefix]
  rw [hfirst] at hq
  exact ⟨ts, us, p, q, hts, hus, hprefix, ofString_eq_ok_iff.mpr ⟨ts, hts, hp⟩,
    ofString_eq_ok_iff.mpr ⟨us, hus, hq⟩, hcut⟩

-- The `1` is no number to the legacy options, and the sum in front of it is kept.
example : ofString "print a + b + 1 + c" .legacy =
    .ok ⟨[.print (.addition (.reference "a") (.reference "b"))]⟩ := by decide +kernel

end Program

end Scriptlet
