import Scriptlet.Source.Position

/-!
# Reading the source scalar by scalar

An input is the text still to be read and the position it begins at. Reading moves scalars from
the front of that text into the past. An input is a plain value, so backtracking is going on with
an earlier one.

Results:
1. `read_position`: the position moves over exactly what was read.
2. `readWhile_eq`: what an acceptor without memory takes, and what it leaves.
3. `readWhile_split`: what was taken and what remains make up what there was.
-/

namespace Scriptlet

/-- A place in the source with the text behind it. -/
structure Input where
  remaining : List Char
  position : Position
  deriving DecidableEq

/-- A test on scalars that may depend on those it has already accepted, the latest first. -/
abbrev Acceptor := List Char → Char → Bool

namespace Input

def ofString (source : String) : Input := ⟨source.toList, .start⟩

/-- The next scalar, left unread. -/
def peek (i : Input) : Option Char := i.remaining.head?

def atEnd (i : Input) : Bool := i.remaining.isEmpty

/-- Reads one scalar. At the end of the source nothing changes. -/
def read (i : Input) : Option Char × Input :=
  match i.remaining with
  | [] => (none, i)
  | c :: rest => (some c, ⟨rest, i.position.after c⟩)

/-- The longest beginning of a text whose scalars are accepted one after the other, the scalars of
`seen` being accepted already. -/
def acceptedRun (accept : Acceptor) (seen : List Char) : List Char → List Char
  | [] => []
  | c :: rest => if accept seen c then c :: acceptedRun accept (c :: seen) rest else []

/-- Reads scalars as long as an acceptor takes them. The acceptor begins without a past. -/
def readBy (accept : Acceptor) (i : Input) : List Char × Input :=
  let taken := acceptedRun accept [] i.remaining
  (taken, ⟨i.remaining.drop taken.length, i.position.past taken⟩)

/-- Reads scalars as long as they are accepted, whatever stands before them. -/
def readWhile (accept : Char → Bool) (i : Input) : List Char × Input := i.readBy fun _ => accept

/-! ## The position follows what was read -/

theorem read_position {i after : Input} {c : Char} (h : i.read = (some c, after)) :
    i.remaining = c :: after.remaining ∧ after.position = i.position.after c := by
  unfold read at h
  split at h
  · simp at h
  · rename_i d rest hrest
    simp only [Prod.mk.injEq, Option.some.injEq] at h
    obtain ⟨rfl, rfl⟩ := h
    exact ⟨hrest, rfl⟩

/-! ## Acceptors without memory -/

theorem acceptedRun_const (accept : Char → Bool) (seen text : List Char) :
    acceptedRun (fun _ => accept) seen text = text.takeWhile accept := by
  induction text generalizing seen with
  | nil => rfl
  | cons c rest ih =>
    unfold acceptedRun
    by_cases h : accept c = true
    · simp [h, ih]
    · simp [h]

theorem readWhile_eq (accept : Char → Bool) (i : Input) :
    i.readWhile accept = (i.remaining.takeWhile accept,
      ⟨i.remaining.dropWhile accept, i.position.past (i.remaining.takeWhile accept)⟩) := by
  have hdrop : i.remaining.drop (i.remaining.takeWhile accept).length =
      i.remaining.dropWhile accept :=
    (congrArg (List.drop _) List.takeWhile_append_dropWhile.symm).trans List.drop_left
  simp only [readWhile, readBy, acceptedRun_const, hdrop]

theorem readWhile_split (accept : Char → Bool) (i : Input) :
    (i.readWhile accept).1 ++ (i.readWhile accept).2.remaining = i.remaining := by
  rw [readWhile_eq]
  exact List.takeWhile_append_dropWhile

end Input

end Scriptlet
