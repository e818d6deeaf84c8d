import Scriptlet.Text.Alphabetic
import Scriptlet.Text.Numeric
import Scriptlet.Text.Blank
import Scriptlet.Text.Extending
import Scriptlet.Text.Ignorable
import Scriptlet.Text.Unprintable

/-!
# Classes of scalars

The classes by which text is split into words and by which it is quoted, each read from the table
of its Unicode property.

Results:
1. `isAlphanumeric_of_isDigit`, `not_isAlphabetic_of_isDigit`: an ASCII digit may stand in a word,
   but begins none.
2. `isBlank_iff`: the blank scalars, listed.
3. `not_isAlphanumeric_of_isBlank`: a blank never belongs to a word.
-/

namespace Scriptlet

/-- Letters and the scalars that Unicode counts with them. -/
def isAlphabetic (c : Char) : Bool := alphabeticTable.covers c.toNat

/-- Digits, letter numbers and other numbers of every script. -/
def isNumeric (c : Char) : Bool := numericTable.covers c.toNat

/-- The scalars that may follow the first letter of a word. -/
def isAlphanumeric (c : Char) : Bool := isAlphabetic c || isNumeric c

/-- White space, line ends included. -/
def isBlank (c : Char) : Bool := blankTable.covers c.toNat

/-- The two sound marks of halfwidth katakana. -/
def isHalfwidthSoundMark (c : Char) : Bool := 0xFF9E ≤ c.toNat && c.toNat ≤ 0xFF9F

/-- Scalars that are drawn on the scalar before them, such as combining accents. A halfwidth sound
mark extends a grapheme too, but is a letter with a place of its own. -/
def isExtending (c : Char) : Bool :=
  extendingTable.covers c.toNat && !isHalfwidthSoundMark c

/-- Scalars for which a display may show nothing. -/
def isIgnorable (c : Char) : Bool := ignorableTable.covers c.toNat

/-- Scalars with a visible form of their own, and the ASCII space. -/
def isPrintable (c : Char) : Bool :=
  !(unprintableTable.covers c.toNat || isIgnorable c)

/-! ## Digits -/

theorem isAlphanumeric_of_isDigit {c : Char} (h : c.isDigit = true) :
    isAlphanumeric c = true := by
  simp only [Char.isDigit, Bool.and_eq_true, decide_eq_true_eq, UInt32.le_iff_toNat_le,
    ge_iff_le] at h
  have hnumeric : isNumeric c = true :=
    (numericTable.covers_iff _).mpr ⟨⟨0x30, 0x39⟩, by decide +kernel, h⟩
  rw [isAlphanumeric, hnumeric, Bool.or_true]

/-- A digit begins no word: the letters begin behind the digits. -/
theorem not_isAlphabetic_of_isDigit {c : Char} (h : c.isDigit = true) :
    isAlphabetic c = false := by
  simp only [Char.isDigit, Bool.and_eq_true, decide_eq_true_eq, UInt32.le_iff_toNat_le,
    ge_iff_le] at h
  have hlow : c.toNat < 0x41 := Nat.lt_of_le_of_lt h.2 (by decide)
  exact if_pos hlow

/-! ## Blanks -/

/-- The blank scalars by code point. -/
theorem isBlank_iff (c : Char) :
    isBlank c = true ↔
      (0x09 ≤ c.toNat ∧ c.toNat ≤ 0x0D) ∨ c.toNat = 0x20 ∨ c.toNat = 0x85 ∨ c.toNat = 0xA0 ∨
      c.toNat = 0x1680 ∨ (0x2000 ≤ c.toNat ∧ c.toNat ≤ 0x200A) ∨ c.toNat = 0x2028 ∨
      c.toNat = 0x2029 ∨ c.toNat = 0x202F ∨ c.toNat = 0x205F ∨ c.toNat = 0x3000 := by
  rw [isBlank, CodeTable.covers_iff]
  simp only [blankTable, List.mem_cons, List.not_mem_nil, or_false, exists_eq_or_imp,
    exists_eq_left, CodeRange.Holds]
  omega

/-- A blank never belongs to a word. -/
theorem not_isAlphanumeric_of_isBlank {c : Char} (h : isBlank c = true) :
    isAlphanumeric c = false := by
  have hrange := (isBlank_iff c).mp h
  have hlisted : c.toNat ∈ (List.range 5).map (· + 0x09) ++ (List.range 11).map (· + 0x2000) ++
      [0x20, 0x85, 0xA0, 0x1680, 0x2028, 0x2029, 0x202F, 0x205F, 0x3000] := by
    simp only [List.mem_append, List.mem_map, List.mem_range, List.mem_cons, List.not_mem_nil,
      or_false]
    rcases hrange with hr | hr | hr | hr | hr | hr | hr | hr | hr | hr | hr
    · exact .inl (.inl ⟨c.toNat - 0x09, by omega, by omega⟩)
    all_goals first
      | (right; omega)
      | exact .inl (.inr ⟨c.toNat - 0x2000, by omega, by omega⟩)
  have hnone : ((List.range 5).map (· + 0x09) ++ (List.range 11).map (· + 0x2000) ++
      [0x20, 0x85, 0xA0, 0x1680, 0x2028, 0x2029, 0x202F, 0x205F, 0x3000]).all (fun n =>
        !(alphabeticTable.covers n || numericTable.covers n)) = true := by
    decide +kernel
  have hall := List.all_eq_true.mp hnone _ hlisted
  simpa [isAlphanumeric, isAlphabetic, isNumeric] using hall

end Scriptlet
