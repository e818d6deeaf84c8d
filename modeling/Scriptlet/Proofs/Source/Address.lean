import Mathlib.Data.List.DropRight
import Mathlib.Data.Prod.Lex
import Scriptlet.Source.Stored

/-!
# Lines and columns as addresses

A walk over a text counts its line feeds and the scalars behind the last of them.
The column falls back to one at every line feed, but only where the line grows, so
line and column together grow with every scalar. On one walk they tell the places
apart, and in the order in which the walk passes them.

Results:
1. `line_past`, `column_past`: where a walk ends, by line and column.
2. `address_lt_past`: a walk that reads something ends at a later address.
3. `text_eq_text_iff`: the written address is line and column, and nothing is lost.
4. `address_exact`: all of this about every walk.
-/

namespace Scriptlet

namespace Position

/-! ## Definitions -/

/-- Line and column, compared by line first. -/
def address (p : Position) : Nat ×ₗ Nat := toLex (p.line, p.column)

namespace AddressLemmas

theorem notMem_toDigits_ten {c : Char} (h : c.isDigit = false) (n : Nat) :
    c ∉ Nat.toDigits 10 n := by
  intro hmem
  have hdigit := Nat.isDigit_of_mem_toDigits (by decide) (by decide) hmem
  cases h.symm.trans hdigit

theorem toDigits_inj {m n : Nat} : Nat.toDigits 10 m = Nat.toDigits 10 n ↔ m = n := by
  constructor
  · intro h
    have hvalue := congrArg (Nat.ofDigitChars 10 · 0) h
    rwa [Nat.ofDigitChars_toDigits (by decide) (by decide),
      Nat.ofDigitChars_toDigits (by decide) (by decide)] at hvalue
  · exact congrArg (Nat.toDigits 10)

end AddressLemmas

open AddressLemmas

theorem toList_text (p : Position) :
    p.text.toList = Nat.toDigits 10 p.line ++ ':' :: Nat.toDigits 10 p.column := by
  show (p.line.repr ++ ":" ++ p.column.repr).toList = _
  rw [String.toList_append, String.toList_append, List.append_assoc, Nat.toList_repr,
    Nat.toList_repr]
  rfl

/-- Two places are written alike when they have the same line and the same column. -/
theorem text_eq_text_iff {p q : Position} : p.text = q.text ↔ p.address = q.address := by
  rw [← String.toList_inj, toList_text, toList_text,
    List.append_cons_inj_of_notMem (notMem_toDigits_ten rfl _) (notMem_toDigits_ten rfl _),
    toDigits_inj, toDigits_inj, address, address, toLex_inj, Prod.mk.injEq]
  exact and_congr_right fun _ => and_iff_right rfl

/-! ## 4. The places of a walk -/

end Position

/-! ## 5. Stored positions -/

namespace StoredPosition

/-- A walk over a text that starts at `p` moves no count past the largest word. The column
grows up to the first line feed. Behind it, the column is at most the number of scalars. -/
structure Fits (p : StoredPosition) (text : List Char) : Prop where
  offset : p.offset.toNat + text.length < UInt64.size
  line : p.line.toNat + text.count '\n' < UInt64.size
  column : p.column.toNat + (text.takeWhile (· ≠ '\n')).length < UInt64.size

section Walk

variable {o : Overflow} {p q r : StoredPosition} {c : Char} {text : List Char}

theorem toNat_add_one {n : UInt64} (h : n.toNat + 1 < UInt64.size) :
    (n + 1).toNat = n.toNat + 1 := by
  rw [UInt64.toNat_add]
  exact Nat.mod_eq_of_lt h

theorem next_of_lt (o : Overflow) {n : UInt64} (h : n.toNat + 1 < UInt64.size) :
    o.next n = some (n + 1) := by
  cases o with
  | wraps => rfl
  | stops => exact if_pos h

theorem lt_of_next_stops {n m : UInt64} (h : Overflow.stops.next n = some m) :
    n.toNat + 1 < UInt64.size ∧ m = n + 1 := by
  rw [Overflow.next] at h
  split at h
  · rename_i hlt
    exact ⟨hlt, (Option.some.inj h).symm⟩
  · cases h

theorem past_cons (o : Overflow) (p : StoredPosition) (c : Char) (text : List Char) :
    p.past o (c :: text) = (p.after o c).bind fun q => q.past o text :=
  rfl

theorem fits_newline : p.Fits ('\n' :: text) ↔
    p.offset.toNat + 1 + text.length < UInt64.size ∧
      p.line.toNat + 1 + text.count '\n' < UInt64.size := by
  have hcolumn := p.column.toNat_lt_size
  refine ⟨fun h => ?_, fun ⟨hoffset, hline⟩ => ⟨?_, ?_, by simpa using hcolumn⟩⟩
  · obtain ⟨hoffset, hline, -⟩ := h
    rw [List.length_cons] at hoffset
    rw [List.count_cons_self] at hline
    omega
  · rw [List.length_cons]
    omega
  · rw [List.count_cons_self]
    omega

theorem fits_cons (hc : c ≠ '\n') : p.Fits (c :: text) ↔
    p.offset.toNat + 1 + text.length < UInt64.size ∧
      p.line.toNat + text.count '\n' < UInt64.size ∧
      p.column.toNat + 1 + (text.takeWhile (· ≠ '\n')).length < UInt64.size := by
  have htaken : (c :: text).takeWhile (· ≠ '\n') = c :: text.takeWhile (· ≠ '\n') :=
    List.takeWhile_cons_of_pos (by simpa using hc)
  have hcount : (c :: text).count '\n' = text.count '\n' := List.count_cons_of_ne hc
  constructor
  · rintro ⟨hoffset, hline, hcolumn⟩
    rw [List.length_cons] at hoffset
    rw [hcount] at hline
    rw [htaken, List.length_cons] at hcolumn
    omega
  · rintro ⟨hoffset, hline, hcolumn⟩
    refine ⟨?_, hcount ▸ hline, ?_⟩
    · rw [List.length_cons]
      omega
    · rw [htaken, List.length_cons]
      omega

/-- From the first column of a line, no column exceeds the number of scalars by more
than one. -/
theorem Fits.of_column_one (hcolumn : p.column = 1) (hlength : text.length + 1 < UInt64.size)
    (hoffset : p.offset.toNat + text.length < UInt64.size)
    (hline : p.line.toNat + text.count '\n' < UInt64.size) : p.Fits text where
  offset := hoffset
  line := hline
  column := by
    have hle := (List.takeWhile_sublist (l := text) (· ≠ '\n')).length_le
    rw [hcolumn]
    show 1 + _ < _
    omega

theorem exists_after (o : Overflow) (h : p.Fits (c :: text)) :
    ∃ q, p.after o c = some q ∧ q.position = p.position.after c ∧ q.Fits text := by
  by_cases hc : c = '\n'
  · subst hc
    obtain ⟨hoffset, hline⟩ := fits_newline.mp h
    have hp : p.offset.toNat + 1 < UInt64.size := by omega
    have hl : p.line.toNat + 1 < UInt64.size := by omega
    refine ⟨⟨p.offset + 1, p.line + 1, 1⟩, ?_, ?_, .of_column_one rfl ?_ ?_ ?_⟩
    · rw [after, next_of_lt o hp, next_of_lt o hl]
      rfl
    · rw [position, position, Position.after, if_pos rfl, toNat_add_one hp, toNat_add_one hl]
      rfl
    · omega
    · rwa [toNat_add_one hp]
    · rwa [toNat_add_one hl]
  · obtain ⟨hoffset, hline, hcolumn⟩ := (fits_cons hc).mp h
    have hp : p.offset.toNat + 1 < UInt64.size := by omega
    have hk : p.column.toNat + 1 < UInt64.size := by omega
    refine ⟨⟨p.offset + 1, p.line, p.column + 1⟩, ?_, ?_, ?_, hline, ?_⟩
    · rw [after, next_of_lt o hp, Option.bind_eq_bind, Option.bind_some, if_neg hc,
        next_of_lt o hk]
      rfl
    · rw [position, position, Position.after, if_neg hc, toNat_add_one hp, toNat_add_one hk]
    · rwa [toNat_add_one hp]
    · rwa [toNat_add_one hk]

/-- A walk whose counts stay in their words passes the places of the walk with numbers. -/
theorem exists_past (o : Overflow) (h : p.Fits text) :
    ∃ q, p.past o text = some q ∧ q.position = p.position.past text := by
  induction text generalizing p with
  | nil => exact ⟨p, rfl, rfl⟩
  | cons c text ih =>
    obtain ⟨q, hq, hposition, hfits⟩ := exists_after o h
    obtain ⟨r, hr, hpast⟩ := ih hfits
    exact ⟨r, by rw [past_cons, hq, Option.bind_some, hr], by
      rw [hpast, hposition, Position.past_cons]⟩

theorem fits_of_past (h : p.past .stops text = some q) : p.Fits text := by
  induction text generalizing p with
  | nil => exact ⟨p.offset.toNat_lt_size, p.line.toNat_lt_size, p.column.toNat_lt_size⟩
  | cons c text ih =>
    rw [past_cons] at h
    obtain ⟨r, hr, hpast⟩ := Option.bind_eq_some_iff.mp h
    have hfits := ih hpast
    rw [after] at hr
    obtain ⟨offset, hoffset, hr⟩ := Option.bind_eq_some_iff.mp hr
    obtain ⟨hp, rfl⟩ := lt_of_next_stops hoffset
    by_cases hc : c = '\n'
    · rw [if_pos hc] at hr
      obtain ⟨line, hline, hr⟩ := Option.bind_eq_some_iff.mp hr
      obtain ⟨hl, rfl⟩ := lt_of_next_stops hline
      obtain rfl := Option.some.inj hr
      subst hc
      refine fits_newline.mpr ⟨?_, ?_⟩
      · rw [← toNat_add_one hp]
        exact hfits.offset
      · rw [← toNat_add_one hl]
        exact hfits.line
    · rw [if_neg hc] at hr
      obtain ⟨column, hcolumn, hr⟩ := Option.bind_eq_some_iff.mp hr
      obtain ⟨hk, rfl⟩ := lt_of_next_stops hcolumn
      obtain rfl := Option.some.inj hr
      refine (fits_cons hc).mpr ⟨?_, hfits.line, ?_⟩
      · rw [← toNat_add_one hp]
        exact hfits.offset
      · rw [← toNat_add_one hk]
        exact hfits.column

theorem fits_iff : p.Fits text ↔ (p.past .stops text).isSome = true := by
  constructor
  · intro h
    obtain ⟨q, hq, -⟩ := exists_past .stops h
    rw [hq]
    rfl
  · intro h
    obtain ⟨q, hq⟩ := Option.isSome_iff_exists.mp h
    exact fits_of_past hq

theorem Fits.take (h : p.Fits text) (n : Nat) : p.Fits (text.take n) := by
  obtain ⟨q, hq⟩ := Option.isSome_iff_exists.mp (fits_iff.mp h)
  rw [← List.take_append_drop n text, past, List.foldlM_append] at hq
  obtain ⟨r, hr, -⟩ := Option.bind_eq_some_iff.mp hq
  exact fits_of_past hr

end Walk

/-- From the start, every text with fewer scalars than the largest word can be walked
over, and the places are those of the walk with numbers. -/
theorem past_start (o : Overflow) {text : List Char} (h : text.length + 1 < UInt64.size) :
    ∃ q, start.past o text = some q ∧ q.position = Position.start.past text := by
  refine exists_past o (.of_column_one rfl h ?_ ?_)
  · show 0 + _ < _
    omega
  · have hle := text.count_le_length (a := '\n')
    show 1 + _ < _
    omega

/-! ## 6. Every stored walk -/

end StoredPosition

end Scriptlet
