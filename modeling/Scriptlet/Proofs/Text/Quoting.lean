import Scriptlet.Text.Quoted

/-!
# Quoted text can be read back

Between the quotes each scalar is written in one of three forms: as a backslash and a
letter, by its code point in braces, or as itself. The first two begin with a backslash,
which no scalar is that is written as itself; and the letters tell them apart. So no form
is the beginning of another, and the scalars of a text can be read off one by one.

Results:
1. `toDigits_sixteen_inj`: hexadecimal digits denote one number.
2. `Form.append_inj`: the form of a scalar tells where it ends, whatever follows.
3. `quoted_inj`: two texts with one quoted form are the same.
4. `newline_notMem_quoted`: a quoted text stands on one line.
-/

namespace Scriptlet

namespace Quoted

/-! ## Definitions -/

/-- The scalars that are written as a backslash and a letter, and that letter. -/
def shortEscapes : List (Char × Char) :=
  [('\x00', '0'), ('\t', 't'), ('\r', 'r'), ('\n', 'n'), ('"', '"'), ('\\', '\\')]

/-- The forms in which a scalar may be written. -/
inductive Form (c : Char) : List Char → Prop
  | short {letter : Char} : (c, letter) ∈ shortEscapes → Form c ['\\', letter]
  | codePoint : Form c ('\\' :: 'u' :: '\x7b' :: (Nat.toDigits 16 c.toNat ++ ['\x7d']))
  | plain : (∀ letter, (c, letter) ∉ shortEscapes) → Form c [c]

end Quoted

open Quoted

/-! ## 1. Hexadecimal digits -/

namespace QuotingLemmas

theorem append_cons_inj {α : Type} {separator : α} {first first' rest rest' : List α}
    (h : separator ∉ first) (h' : separator ∉ first')
    (heq : first ++ separator :: rest = first' ++ separator :: rest') :
    first = first' ∧ rest = rest' := by
  induction first generalizing first' with
  | nil =>
    cases first' with
    | nil => exact ⟨rfl, (List.cons.inj heq).2⟩
    | cons x first' =>
      obtain ⟨rfl, -⟩ := List.cons.inj heq
      exact absurd List.mem_cons_self h'
  | cons x first ih =>
    cases first' with
    | nil =>
      obtain ⟨rfl, -⟩ := List.cons.inj heq
      exact absurd List.mem_cons_self h
    | cons y first' =>
      obtain ⟨rfl, htail⟩ := List.cons.inj heq
      obtain ⟨rfl, hrest⟩ := ih (fun hmem => h (List.mem_cons_of_mem _ hmem))
        (fun hmem => h' (List.mem_cons_of_mem _ hmem)) htail
      exact ⟨rfl, hrest⟩

theorem notMem_toDigits {b : Nat} (hb : 1 < b) {c : Char} (h : ∀ d, Nat.digitChar d ≠ c)
    (n : Nat) : c ∉ Nat.toDigits b n := by
  induction n using Nat.strongRecOn with
  | ind n ih =>
    rw [Nat.toDigits_eq_if hb]
    split
    · exact fun hmem => h n (List.mem_singleton.mp hmem).symm
    · rename_i hle
      have hpos : 0 < n := Nat.lt_of_lt_of_le (Nat.zero_lt_of_lt hb) (Nat.le_of_not_lt hle)
      intro hmem
      cases List.mem_append.mp hmem with
      | inl hmem => exact ih (n / b) (Nat.div_lt_self hpos hb) hmem
      | inr hlast => exact h (n % b) (List.mem_singleton.mp hlast).symm

theorem digitChar_inj : ∀ m < 16, ∀ n < 16, Nat.digitChar m = Nat.digitChar n → m = n := by
  decide

theorem toDigits_sixteen_ne {m n : Nat} (hm : m < 16) (hn : ¬ n < 16) :
    Nat.toDigits 16 m ≠ Nat.toDigits 16 n := by
  intro h
  rw [Nat.toDigits_eq_if (by decide), if_pos hm, Nat.toDigits_eq_if (by decide), if_neg hn] at h
  have hlength := congrArg List.length h
  rw [List.length_append, List.length_singleton, List.length_singleton] at hlength
  have hpos := List.length_pos_iff.mpr (Nat.toDigits_ne_nil (n := n / 16) (b := 16))
  omega

end QuotingLemmas

open QuotingLemmas

theorem toDigits_sixteen_inj {m n : Nat} (h : Nat.toDigits 16 m = Nat.toDigits 16 n) : m = n := by
  induction m using Nat.strongRecOn generalizing n with
  | ind m ih =>
    by_cases hm : m < 16
    · by_cases hn : n < 16
      · rw [Nat.toDigits_of_lt_base hm, Nat.toDigits_of_lt_base hn] at h
        exact digitChar_inj m hm n hn (List.cons.inj h).1
      · exact absurd h (toDigits_sixteen_ne hm hn)
    · by_cases hn : n < 16
      · exact absurd h.symm (toDigits_sixteen_ne hn hm)
      · rw [Nat.toDigits_of_base_le (by decide) (Nat.le_of_not_lt hm),
          Nat.toDigits_of_base_le (by decide) (Nat.le_of_not_lt hn)] at h
        obtain ⟨hhigh, hlast⟩ := List.append_inj' h rfl
        have hpos : 0 < m := Nat.lt_of_lt_of_le (by decide) (Nat.le_of_not_lt hm)
        have hhigh := ih (m / 16) (Nat.div_lt_self hpos (by decide)) hhigh
        have hlast := digitChar_inj (m % 16) (Nat.mod_lt _ (by decide)) (n % 16)
          (Nat.mod_lt _ (by decide)) (List.cons.inj hlast).1
        rw [← Nat.div_add_mod m 16, hhigh, hlast, Nat.div_add_mod]

/-! ## 2. The form of a scalar -/

namespace Quoted

theorem form_escape (c : Char) : Form c (escape c) := by
  unfold escape
  split
  · exact .short (by decide)
  · exact .short (by decide)
  · exact .short (by decide)
  · exact .short (by decide)
  · exact .short (by decide)
  · exact .short (by decide)
  · split
    · exact .codePoint
    · refine .plain fun letter hmem => ?_
      simp only [shortEscapes, List.mem_cons, Prod.mk.injEq, List.not_mem_nil, or_false] at hmem
      rcases hmem with h | h | h | h | h | h <;> exact absurd h.1 ‹_›

theorem shortEscapes_inj : ∀ p ∈ shortEscapes, ∀ q ∈ shortEscapes, p.2 = q.2 → p = q := by
  decide

theorem letter_ne : ∀ p ∈ shortEscapes, p.2 ≠ 'u' ∧ p.2 ≠ '\n' := by
  decide

theorem Form.ne_nil {c : Char} {form : List Char} (h : Form c form) : form ≠ [] := by
  cases h <;> exact List.cons_ne_nil _ _

theorem backslash_mem : ('\\', '\\') ∈ shortEscapes := by
  decide

/-- The form of a scalar tells which scalar it is and where the form ends. -/
theorem Form.append_inj {c d : Char} {form form' rest rest' : List Char} (hc : Form c form)
    (hd : Form d form') (h : form ++ rest = form' ++ rest') : c = d ∧ rest = rest' := by
  cases hc with
  | short hc =>
    cases hd with
    | short hd =>
      obtain ⟨hletter, hrest⟩ := List.cons.inj (List.cons.inj h).2
      obtain ⟨rfl, -⟩ := Prod.mk.inj (shortEscapes_inj _ hc _ hd hletter)
      exact ⟨rfl, hrest⟩
    | codePoint => exact absurd (List.cons.inj (List.cons.inj h).2).1 (letter_ne _ hc).1
    | plain hd =>
      obtain ⟨rfl, -⟩ := List.cons.inj h
      exact absurd backslash_mem (hd _)
  | codePoint =>
    cases hd with
    | short hd => exact absurd (List.cons.inj (List.cons.inj h).2).1.symm (letter_ne _ hd).1
    | codePoint =>
      have hdigits : Nat.toDigits 16 c.toNat ++ ['\x7d'] ++ rest =
          Nat.toDigits 16 d.toNat ++ ['\x7d'] ++ rest' :=
        (List.cons.inj (List.cons.inj (List.cons.inj h).2).2).2
      rw [List.append_assoc, List.append_assoc] at hdigits
      have hbrace : ∀ n, '\x7d' ∉ Nat.toDigits 16 n :=
        notMem_toDigits (by decide) fun _ => Nat.digitChar_ne _ (by decide)
      obtain ⟨hnumber, hrest⟩ := append_cons_inj (hbrace _) (hbrace _) hdigits
      exact ⟨Char.toNat_inj.mp (toDigits_sixteen_inj hnumber), hrest⟩
    | plain hd =>
      obtain ⟨rfl, -⟩ := List.cons.inj h
      exact absurd backslash_mem (hd _)
  | plain hc =>
    cases hd with
    | short | codePoint =>
      obtain ⟨rfl, -⟩ := List.cons.inj h
      exact absurd backslash_mem (hc _)
    | plain => exact List.cons.inj h

theorem Form.newline_notMem {c : Char} {form : List Char} (h : Form c form) : '\n' ∉ form := by
  cases h with
  | short h =>
    intro hmem
    cases hmem with
    | tail _ hmem => exact (letter_ne _ h).2 (List.mem_singleton.mp hmem).symm
  | codePoint =>
    have hdigits : '\n' ∉ Nat.toDigits 16 c.toNat :=
      notMem_toDigits (by decide) (fun _ => Nat.digitChar_ne _ (by decide)) _
    simp [hdigits]
  | plain h =>
    intro hmem
    obtain rfl := List.mem_singleton.mp hmem
    exact h 'n' (by decide)

/-! ## 3. The whole text -/

theorem flatMap_escape_inj {cs ds : List Char} (h : cs.flatMap escape = ds.flatMap escape) :
    cs = ds := by
  induction cs generalizing ds with
  | nil =>
    cases ds with
    | nil => rfl
    | cons d ds =>
      rw [List.flatMap_nil, List.flatMap_cons] at h
      exact absurd (List.append_eq_nil_iff.mp h.symm).1 (form_escape d).ne_nil
  | cons c cs ih =>
    cases ds with
    | nil =>
      rw [List.flatMap_nil, List.flatMap_cons] at h
      exact absurd (List.append_eq_nil_iff.mp h).1 (form_escape c).ne_nil
    | cons d ds =>
      rw [List.flatMap_cons, List.flatMap_cons] at h
      obtain ⟨rfl, htail⟩ := (form_escape c).append_inj (form_escape d) h
      rw [ih htail]

end Quoted

theorem quoted_inj {s t : String} : quoted s = quoted t ↔ s = t := by
  refine ⟨fun h => ?_, congrArg quoted⟩
  have hlist := congrArg String.toList h
  unfold quoted at hlist
  rw [String.toList_ofList, String.toList_ofList] at hlist
  have hbody := List.append_cancel_right (List.cons.inj hlist).2
  exact String.toList_inj.mp (flatMap_escape_inj hbody)

/-! ## 4. One line -/

theorem newline_notMem_quoted (text : String) : '\n' ∉ (quoted text).toList := by
  unfold quoted
  rw [String.toList_ofList]
  intro h
  obtain h | h := List.mem_append.mp h
  · cases h with
    | tail _ h =>
      obtain ⟨c, -, hc⟩ := List.mem_flatMap.mp h
      exact (form_escape c).newline_notMem hc
  · exact absurd (List.mem_singleton.mp h) (by decide)

end Scriptlet
