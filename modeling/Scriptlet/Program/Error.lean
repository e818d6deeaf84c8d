import Scriptlet.Token.Basic

/-!
# Where tokens stop being a program

Places are counted in tokens here, the first having the number zero.
-/

namespace Scriptlet

/-- Why a list of tokens is not a program. -/
inductive ParseError where
  /-- No program that begins like this one goes on with this token. -/
  | unexpectedToken (token : Token) (position : Nat)
  /-- A statement is begun and not finished. -/
  | unexpectedEnd (position : Nat)
  /-- These tokens follow a complete program. -/
  | trailingInput (remaining : List Token)
  deriving DecidableEq

namespace ParseError

def message : ParseError → String
  | .unexpectedToken token position =>
    "Unexpected token '" ++ token.text ++ "' at token " ++ toString position
  | .unexpectedEnd position => "Unexpected end of input at token " ++ toString position
  | .trailingInput remaining =>
    toString remaining.length ++ " token(s) left after the last statement"

def outline : ParseError → Outline
  | .unexpectedToken token position =>
    .record "UnexpectedToken" [("token", token.outline), ("position", .nat position)]
  | .unexpectedEnd position => .record "UnexpectedEnd" [("position", .nat position)]
  | .trailingInput remaining =>
    .record "TrailingInput" [("remaining_tokens", .list (remaining.map Token.outline))]

end ParseError

end Scriptlet
