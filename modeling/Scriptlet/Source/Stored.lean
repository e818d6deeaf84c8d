import Scriptlet.Source.Position

/-!
# Positions as they are stored

The counts of a position are stored in machine words. A step can move a count past the largest
word: a program built for release goes on from zero, and one that checks its arithmetic stops.
A walk on which every count stays in its word passes the places that `Position` describes.
-/

namespace Scriptlet

/-- What becomes of a count that passes the largest word. -/
inductive Overflow where
  /-- It goes on from zero. -/
  | wraps
  /-- The program stops. -/
  | stops
  deriving DecidableEq

/-- The count after `n`, unless the program stops. -/
def Overflow.next (o : Overflow) (n : UInt64) : Option UInt64 :=
  match o with
  | .wraps => some (n + 1)
  | .stops => if n.toNat + 1 < UInt64.size then some (n + 1) else none

/-- A place between two scalars of the source, in machine words. -/
structure StoredPosition where
  offset : UInt64
  line : UInt64
  column : UInt64
  deriving DecidableEq

namespace StoredPosition

def start : StoredPosition := ⟨0, 1, 1⟩

/-- The counts as numbers. -/
def position (p : StoredPosition) : Position := ⟨p.offset.toNat, p.line.toNat, p.column.toNat⟩

/-- The place behind the scalar `c`, unless the program stops. -/
def after (o : Overflow) (p : StoredPosition) (c : Char) : Option StoredPosition := do
  let offset ← o.next p.offset
  if c = '\n' then
    return ⟨offset, ← o.next p.line, 1⟩
  else
    return ⟨offset, p.line, ← o.next p.column⟩

/-- The place behind a text, unless the program stops on the way. -/
def past (o : Overflow) (p : StoredPosition) (text : List Char) : Option StoredPosition :=
  text.foldlM (after o) p

/-- Line and column, as people address a place in a text. -/
def text (p : StoredPosition) : String := toString p.line ++ ":" ++ toString p.column

end StoredPosition

end Scriptlet
