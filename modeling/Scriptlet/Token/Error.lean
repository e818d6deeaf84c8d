import Scriptlet.Source.Position

/-!
# Where a text stops being tokens

A text that does not divide into tokens fails at one scalar. Only a string literal without its
closing quote can begin with a quote there, so the scalar alone tells the two causes apart.
-/

namespace Scriptlet

/-- Why a text does not divide into tokens. -/
inductive LexError where
  /-- No token begins at this place. -/
  | unrecognizedInput (position : Position)
  /-- The string literal that begins at this place has no end. -/
  | unterminatedString (start : Position)
  deriving DecidableEq

namespace LexError

/-- The error at a place where reading stopped before the scalar `c`. -/
def atScalar (c : Char) (position : Position) : LexError :=
  if c = '"' then .unterminatedString position else .unrecognizedInput position

def message : LexError → String
  | .unrecognizedInput position => "Unrecognized input at " ++ position.text
  | .unterminatedString start => "Unterminated string literal starting at " ++ start.text

def outline : LexError → Outline
  | .unrecognizedInput position =>
    .record "UnrecognizedInput" [("position", position.outline)]
  | .unterminatedString start => .record "UnterminatedString" [("start", start.outline)]

end LexError

end Scriptlet
