/-!
# Values shown for inspection

What a value is made of, as a tree of named groups, and the two ways in which such a tree is
shown: all on one line, or with one item on each line, indented by four columns for every group
it stands in.
-/

namespace Scriptlet

/-- The brackets around the parts of a value. -/
inductive Brackets where
  | round
  | square
  | curly
  deriving DecidableEq

namespace Brackets

/-- The left bracket when the parts follow on the same line. -/
def opening : Brackets → String
  | .round => "("
  | .square => "["
  | .curly => " \x7b "

/-- The right bracket when the parts precede it on the same line. -/
def closing : Brackets → String
  | .round => ")"
  | .square => "]"
  | .curly => " \x7d"

/-- The left bracket at the end of a line. -/
def openingLine : Brackets → String
  | .round => "("
  | .square => "["
  | .curly => " \x7b"

/-- The right bracket on a line of its own. -/
def closingLine : Brackets → String
  | .round => ")"
  | .square => "]"
  | .curly => "\x7d"

end Brackets

/-- The parts of a value and their names. -/
inductive Outline where
  /-- A text that is not divided further. -/
  | atom (text : String)
  /-- A part with the label it goes by. -/
  | field (label : String) (value : Outline)
  /-- Parts between brackets, behind the name of the whole. -/
  | group (head : String) (brackets : Brackets) (items : List Outline)

namespace Outline

/-- A name applied to one part. -/
def call (name : String) (argument : Outline) : Outline := .group name .round [argument]

/-- A name with labelled parts. -/
def record (name : String) (fields : List (String × Outline)) : Outline :=
  .group name .curly (fields.map fun (label, value) => .field label value)

/-- Parts without a name. -/
def list (items : List Outline) : Outline := .group "" .square items

def nat (n : Nat) : Outline := .atom (toString n)

/-! ## On one line -/

mutual

/-- Writes an outline behind `out`, all on one line. -/
def writeLine (out : String) : Outline → String
  | .atom text => out ++ text
  | .field label value => value.writeLine (out ++ label ++ ": ")
  | .group head brackets items =>
    writeItems "" (out ++ head ++ brackets.opening) items ++ brackets.closing

/-- Writes items behind `out`, with `separator` before the first and commas before the others. -/
def writeItems (separator : String) (out : String) : List Outline → String
  | [] => out
  | item :: rest => writeItems ", " (item.writeLine (out ++ separator)) rest

end

def line (o : Outline) : String := o.writeLine ""

/-! ## One item on each line -/

mutual

/-- Writes an outline behind `out`, one item on each line. The lines after the first begin with
`margin`. -/
def writeLines (margin : String) (out : String) : Outline → String
  | .atom text => out ++ text
  | .field label value => value.writeLines margin (out ++ label ++ ": ")
  | .group head brackets [] => out ++ head ++ brackets.openingLine ++ brackets.closingLine
  | .group head brackets (item :: rest) =>
    let inner := margin ++ "    "
    writeItemLines inner (out ++ head ++ brackets.openingLine ++ "\n") (item :: rest) ++
      margin ++ brackets.closingLine

/-- Writes each item on lines of its own that begin with `margin`, a comma behind each. -/
def writeItemLines (margin : String) (out : String) : List Outline → String
  | [] => out
  | item :: rest =>
    writeItemLines margin (item.writeLines margin (out ++ margin) ++ ",\n") rest

end

/-- The outline with one item on each line. -/
def lines (o : Outline) : String := o.writeLines "" ""

end Outline

end Scriptlet
