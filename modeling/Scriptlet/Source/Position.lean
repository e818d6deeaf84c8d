import Scriptlet.Outline

/-!
# Places in the source

A position counts the scalars before it and names the line and the column of the scalar behind it;
lines and columns begin at one. A span reaches from one position to another, its end excluded.

Results:
1. `past_append`: walking over two texts is walking over one and then the other.
2. `offset_past`: a walk adds the number of scalars to the offset.
3. `movedTo_past`: a walk from another place passes the places of the walk from the start, moved.
-/

namespace Scriptlet

/-- A place between two scalars of the source. -/
structure Position where
  /-- The number of scalars before this place. -/
  offset : Nat
  line : Nat
  column : Nat
  deriving DecidableEq

namespace Position

def start : Position := ⟨0, 1, 1⟩

instance : Inhabited Position := ⟨start⟩

/-- The place behind the scalar `c`. Only a line feed begins a new line. -/
def after (p : Position) (c : Char) : Position :=
  if c = '\n' then ⟨p.offset + 1, p.line + 1, 1⟩
  else ⟨p.offset + 1, p.line, p.column + 1⟩

def past (p : Position) (text : List Char) : Position := text.foldl after p

/-- The place `p` of a text when that text begins at `base` and not at the start. -/
def movedTo (p base : Position) : Position :=
  ⟨base.offset + p.offset, base.line + p.line - 1,
    if p.line = 1 then base.column + p.column - 1 else p.column⟩

/-- Line and column, as people address a place in a text. -/
def text (p : Position) : String := toString p.line ++ ":" ++ toString p.column

def outline (p : Position) : Outline :=
  .record "Position"
    [("offset", .nat p.offset), ("line", .nat p.line), ("column", .nat p.column)]

theorem past_cons (p : Position) (c : Char) (rest : List Char) :
    p.past (c :: rest) = (p.after c).past rest := rfl

theorem past_append (p : Position) (first second : List Char) :
    p.past (first ++ second) = (p.past first).past second :=
  List.foldl_append

theorem offset_after (p : Position) (c : Char) : (p.after c).offset = p.offset + 1 := by
  unfold after
  split <;> rfl

theorem offset_past (p : Position) (text : List Char) :
    (p.past text).offset = p.offset + text.length := by
  induction text generalizing p with
  | nil => rfl
  | cons c rest ih =>
    rw [past_cons, ih, offset_after, List.length_cons]
    omega

theorem offset_start_past (text : List Char) : (start.past text).offset = text.length :=
  (offset_past start text).trans (Nat.zero_add _)

/-! ### Texts that begin elsewhere -/

theorem movedTo_start (base : Position) : start.movedTo base = base := by
  simp only [movedTo, start, Nat.add_zero, Nat.add_sub_cancel, if_pos]

/-- Lines and columns begin at one, and a walk keeps that. -/
theorem one_le_after {p : Position} (h : 1 ≤ p.line ∧ 1 ≤ p.column) (c : Char) :
    1 ≤ (p.after c).line ∧ 1 ≤ (p.after c).column := by
  unfold after
  split
  · exact ⟨Nat.le_add_left 1 _, Nat.le_refl 1⟩
  · exact ⟨h.1, Nat.le_add_left 1 _⟩

theorem movedTo_after {p : Position} (h : 1 ≤ p.line ∧ 1 ≤ p.column) (base : Position)
    (c : Char) : (p.after c).movedTo base = (p.movedTo base).after c := by
  unfold after movedTo
  by_cases hc : c = '\n'
  -- Behind a line feed, no column counts from that of `base`.
  · have hline : p.line + 1 ≠ 1 := by omega
    simp only [if_pos hc, if_neg hline, mk.injEq, and_true]
    omega
  · simp only [if_neg hc, mk.injEq, true_and]
    split <;> omega

theorem movedTo_past {p : Position} (h : 1 ≤ p.line ∧ 1 ≤ p.column) (base : Position)
    (text : List Char) : (p.past text).movedTo base = (p.movedTo base).past text := by
  induction text generalizing p with
  | nil => rfl
  | cons c rest ih => rw [past_cons, past_cons, ih (one_le_after h c), movedTo_after h]

/-- A walk from `base` passes the places of the walk from the start, moved. -/
theorem movedTo_start_past (base : Position) (text : List Char) :
    (start.past text).movedTo base = base.past text := by
  rw [movedTo_past ⟨Nat.le_refl 1, Nat.le_refl 1⟩, movedTo_start]

end Position

/-- The text from `start` to `stop`, `stop` excluded. -/
structure Span where
  start : Position
  stop : Position
  deriving DecidableEq, Inhabited

namespace Span

/-- The empty span before the first scalar. -/
def empty : Span := ⟨.start, .start⟩

/-- Both ends by line and column. -/
def text (s : Span) : String := s.start.text ++ "-" ++ s.stop.text

def outline (s : Span) : Outline :=
  .record "Span" [("start", s.start.outline), ("end", s.stop.outline)]

end Span

/-- A value and the part of the source it was read from. -/
structure Located (α : Type) where
  value : α
  span : Span
  deriving DecidableEq

end Scriptlet
