import Scriptlet.Binary64.Text
import Scriptlet.Outline
import Scriptlet.Text.Quoted

/-!
# Tokens

The words and signs of a script. `Token.text` writes a token as it would stand in a script; a
string literal is the one kind whose text differs from its value, since a quote or a backslash in
it has to follow a backslash.
-/

namespace Scriptlet

/-- A word or sign of a script. -/
inductive Token where
  /-- The word `let`. -/
  | letWord
  /-- The word `print`. -/
  | printWord
  /-- The sign `=`. -/
  | assign
  /-- The sign `+`. -/
  | plus
  /-- Any other word. -/
  | identifier (name : String)
  | number (value : Binary64)
  | string (value : String)
  deriving DecidableEq

namespace Token

/-- The token of a word: two words are reserved. -/
def ofWord (word : String) : Token :=
  if word = "let" then .letWord
  else if word = "print" then .printWord
  else .identifier word

/-- How one scalar of a string's value is written in a literal. -/
def escape (c : Char) : List Char := if c = '"' ∨ c = '\\' then ['\\', c] else [c]

/-- The string literal that has this value. -/
def literal (value : List Char) : List Char := '"' :: value.flatMap escape ++ ['"']

/-- The token as it stands in a script. -/
def text : Token → String
  | .letWord => "let"
  | .printWord => "print"
  | .assign => "="
  | .plus => "+"
  | .identifier name => name
  | .number value => value.text
  | .string value => String.ofList (literal value.toList)

def outline : Token → Outline
  | .letWord => .atom "Let"
  | .printWord => .atom "Print"
  | .assign => .atom "Assign"
  | .plus => .atom "Plus"
  | .identifier name => .call "Identifier" (.atom (quoted name))
  | .number value => .call "Number" (.atom value.inspect)
  | .string value => .call "String" (.atom (quoted value))

/-- Equality with numbers compared by value. -/
def same : Token → Token → Bool
  | .number x, .number y => x.same y
  | s, t => s == t

end Token

end Scriptlet
