/-!
# Sets of code points as ascending ranges

A Unicode property is stored as the list of the ranges it covers, in ascending order and without
overlap. Membership stops at the first range that begins beyond the code point, so for the low
code points, which are most of any text, only a few ranges are looked at.

Results:
1. `CodeTable.covers_iff`: stopping early loses nothing. A code point is covered exactly when it
   lies in one of the ranges.
-/

namespace Scriptlet

/-- The code points from `first` to `last`, both included. -/
structure CodeRange where
  first : Nat
  last : Nat
  deriving DecidableEq, Repr

namespace CodeRange

/-- Does the code point lie in the range? -/
def Holds (r : CodeRange) (n : Nat) : Prop := r.first ≤ n ∧ n ≤ r.last

/-- No range is empty, and each ends before the next one begins. -/
def Ascending : List CodeRange → Prop
  | [] => True
  | [r] => r.first ≤ r.last
  | r :: s :: rest => r.first ≤ r.last ∧ r.last < s.first ∧ Ascending (s :: rest)

instance decidableAscending : (rs : List CodeRange) → Decidable (Ascending rs)
  | [] => .isTrue trivial
  | [r] => inferInstanceAs (Decidable (r.first ≤ r.last))
  | r :: s :: rest =>
    have := decidableAscending (s :: rest)
    inferInstanceAs (Decidable (r.first ≤ r.last ∧ r.last < s.first ∧ Ascending (s :: rest)))

/-- Looks a code point up in an ascending list of ranges. -/
def covers : List CodeRange → Nat → Bool
  | [], _ => false
  | r :: rest, n =>
    if n < r.first then false
    else if n ≤ r.last then true
    else covers rest n

/-! ## Stopping early loses nothing -/

theorem Ascending.tail {r : CodeRange} {rest : List CodeRange} (h : Ascending (r :: rest)) :
    Ascending rest := by
  cases rest with
  | nil => trivial
  | cons s rest => exact h.2.2

theorem Ascending.lt_first {r : CodeRange} {rest : List CodeRange} (h : Ascending (r :: rest))
    {s : CodeRange} (hs : s ∈ rest) : r.last < s.first := by
  induction rest generalizing r with
  | nil => simp at hs
  | cons t rest ih =>
    obtain ⟨_, hrt, ht⟩ := h
    rcases List.mem_cons.mp hs with rfl | hs
    · exact hrt
    · have hlast : t.first ≤ t.last := by
        cases rest with
        | nil => exact ht
        | cons _ _ => exact ht.1
      have := ih ht hs
      omega

theorem covers_iff {rs : List CodeRange} (h : Ascending rs) (n : Nat) :
    covers rs n = true ↔ ∃ r ∈ rs, r.Holds n := by
  induction rs with
  | nil => simp [covers]
  | cons r rest ih =>
    have hle : r.first ≤ r.last := by
      cases rest with
      | nil => exact h
      | cons _ _ => exact h.1
    unfold covers
    split
    · rename_i hlt
      constructor
      · intro hfalse
        simp at hfalse
      · rintro ⟨s, hs, hs₁, _⟩
        rcases List.mem_cons.mp hs with rfl | hs
        · omega
        · have := h.lt_first hs
          omega
    · split
      · rename_i hge hle'
        simp only [true_iff]
        exact ⟨r, List.mem_cons_self, by omega, hle'⟩
      · rename_i hge hgt
        rw [ih h.tail]
        constructor
        · rintro ⟨s, hs, hn⟩
          exact ⟨s, List.mem_cons_of_mem _ hs, hn⟩
        · rintro ⟨s, hs, hn⟩
          rcases List.mem_cons.mp hs with rfl | hs
          · exact absurd hn.2 hgt
          · exact ⟨s, hs, hn⟩

end CodeRange

/-- A property of code points, as the ascending list of the ranges that have it. -/
structure CodeTable where
  ranges : List CodeRange
  ascending : CodeRange.Ascending ranges

namespace CodeTable

/-- Does the code point have the property? -/
def covers (t : CodeTable) (n : Nat) : Bool := CodeRange.covers t.ranges n

theorem covers_iff (t : CodeTable) (n : Nat) :
    t.covers n = true ↔ ∃ r ∈ t.ranges, r.Holds n :=
  CodeRange.covers_iff t.ascending n

end CodeTable

end Scriptlet
