import Scriptlet.Program.Basic
import Scriptlet.Program.Error
import Scriptlet.Source.Position
import Scriptlet.Token.Error

/-!
# What happens while a script is read

The events of reading a script, in the order in which they happen. They are values, produced by
the functions that read, so that a trace can be reasoned about like any other result.

Results:
1. `Event.urgency_lt_warn`: no event is as urgent as a warning.
-/

namespace Scriptlet

/-- How much attention an event asks for. -/
inductive Level where
  | trace
  | debug
  | warn
  deriving DecidableEq

/-- Levels are compared by how urgent they are. -/
def Level.urgency : Level → Nat
  | .trace => 0
  | .debug => 1
  | .warn => 2

/-- The stage of reading in which something happens. -/
inductive Stage where
  /-- Text becomes tokens. -/
  | tokens
  /-- Tokens become a program. -/
  | statements
  deriving DecidableEq

/-- Something that happens while a script is read. -/
inductive Event where
  /-- A token was read from the text. -/
  | recognized (token : Located Token)
  /-- The rest of the text is dropped because of an error. -/
  | discardedText (error : LexError)
  /-- A statement is tried at this token. -/
  | entered (position : Nat)
  /-- The token at this place was read as an operand. -/
  | operand (value : Expression) (position : Nat)
  /-- The statement was found or not, and reading goes on at the token `stop`. -/
  | tried (matched : Bool) (stop : Nat)
  /-- The trial of a statement is over. -/
  | left
  /-- The rest of the tokens is dropped because of an error. -/
  | discardedTokens (error : ParseError)
  deriving DecidableEq

namespace Event

/-- Input that is dropped asks for more attention than progress. -/
def level : Event → Level
  | .discardedText _ | .discardedTokens _ => .debug
  | _ => .trace

/-- The stage that an event belongs to. -/
def stage : Event → Stage
  | .recognized _ | .discardedText _ => .tokens
  | _ => .statements

/-- What an event says, as labelled texts. -/
def fields : Event → List (String × String)
  | .recognized token =>
    [("message", "recognized token"), ("token", token.value.text), ("span", token.span.text)]
  | .discardedText error =>
    [("message", "discarding unlexed input"), ("error", error.message)]
  | .entered position => [("position", toString position)]
  | .operand value position =>
    [("operand", value.outline.line), ("position", toString position)]
  | .tried matched stop =>
    [("matched", if matched then "true" else "false"), ("end", toString stop)]
  | .left => []
  | .discardedTokens error =>
    [("message", "discarding unparsed tokens"), ("error", error.message)]

/-- Reading a script gives no reason for a warning. -/
theorem urgency_lt_warn (e : Event) : e.level.urgency < Level.warn.urgency := by
  cases e <;> simp [level, Level.urgency]

end Event

end Scriptlet
