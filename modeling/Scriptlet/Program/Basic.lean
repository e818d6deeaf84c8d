import Scriptlet.Binary64.Text
import Scriptlet.Outline
import Scriptlet.Text.Quoted

/-!
# Programs

A program is a list of statements. Numbers in it are compared in two ways: `=` by their bits, and
`same` by their values, with `0` equal to `-0` and a NaN different from itself.
-/

namespace Scriptlet

/-- Something that can be printed. -/
inductive Expression where
  | number (value : Binary64)
  | string (value : String)
  /-- The value that goes by a name. -/
  | reference (name : String)
  | addition (left right : Expression)
  deriving DecidableEq

namespace Expression

def outline : Expression → Outline
  | .number value => .call "Number" (.atom value.inspect)
  | .string value => .call "String" (.atom (quoted value))
  | .reference name => .call "Variable" (.atom (quoted name))
  | .addition left right =>
    .record "Addition" [("left", left.outline), ("right", right.outline)]

/-- Equality of structure, with numbers compared by value. -/
def same : Expression → Expression → Bool
  | .number x, .number y => x.same y
  | .string s, .string t => s == t
  | .reference s, .reference t => s == t
  | .addition left right, .addition left' right' => left.same left' && right.same right'
  | _, _ => false

end Expression

/-- One step of a program. -/
inductive Statement where
  /-- Gives a name to a value. The grammar keeps a place for it, but no script has one yet. -/
  | declaration (name : String) (value : Expression)
  /-- Prints a value. -/
  | print (value : Expression)
  deriving DecidableEq

namespace Statement

def outline : Statement → Outline
  | .declaration name value =>
    .record "Declaration" [("name", .atom (quoted name)), ("value", value.outline)]
  | .print value => .call "Print" value.outline

/-- Equality of structure, with numbers compared by value. -/
def same : Statement → Statement → Bool
  | .declaration name value, .declaration name' value' => name == name' && value.same value'
  | .print value, .print value' => value.same value'
  | _, _ => false

end Statement

/-- The statements of a script, in order. -/
structure Program where
  statements : List Statement
  deriving DecidableEq, Inhabited

namespace Program

def outline (p : Program) : Outline :=
  .record "Program" [("statements", .list (p.statements.map Statement.outline))]

/-- Are two lists of statements the same, one by one? -/
def sameStatements : List Statement → List Statement → Bool
  | [], [] => true
  | s :: rest, t :: others => s.same t && sameStatements rest others
  | _, _ => false

/-- Equality of structure, with numbers compared by value. -/
def same (p q : Program) : Bool := sameStatements p.statements q.statements

end Program

end Scriptlet
