import Scriptlet.Token.Scanner
import Scriptlet.Trace

/-!
# The tokens of a text

A whole text is scanned to where no further token is found. If scalars are left there, that is an
error, which a strict reading answers and a lenient one only notes.
-/

namespace Scriptlet

/-- The tokens of a text and the events of reading them. -/
structure TokenStream where
  result : Except LexError (List (Located Token))
  events : List Event

namespace Scanner

/-- Why the scanner stopped, if it did so before the end of the source. -/
def leftover (s : Scanner) : Option LexError :=
  s.input.peek.map fun c => .atScalar c s.input.position

end Scanner

namespace TokenStream

def ofString (source : String) (options : Options) : TokenStream :=
  let (tokens, stop) := (Scanner.ofString source options.numbers).scan
  let recognized := tokens.map Event.recognized
  match stop.leftover with
  | none => ⟨.ok tokens, recognized⟩
  | some error =>
    match options.errors with
    | .strict => ⟨.error error, recognized⟩
    | .lenient => ⟨.ok tokens, recognized ++ [.discardedText error]⟩

end TokenStream

namespace Token

/-- The tokens of a text with the parts of it that they were read from. -/
def locatedOfString (source : String) (options : Options) :
    Except LexError (List (Located Token)) :=
  (TokenStream.ofString source options).result

def listOfString (source : String) (options : Options) : Except LexError (List Token) :=
  (locatedOfString source options).map fun tokens => tokens.map Located.value

end Token

end Scriptlet
