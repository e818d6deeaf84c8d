import Scriptlet.Program.Reader
import Scriptlet.Token.Stream

/-!
# Scripts

A script is read in two stages: its text becomes tokens, and the tokens become a program. Either
stage can fail, and so can getting hold of the text.

Results:
1. `Program.ofString_of_located`, `Program.ofString_of_error`: what each stage answers.
2. `Program.ofString_eq_ok_iff`: a program is answered when both stages succeed.
-/

namespace Scriptlet

/-- Why a file gave no text. -/
inductive ReadError where
  /-- The system refused, with its error number, the name of the kind of error and a message. -/
  | system (code : Nat) (kind message : String)
  /-- The bytes of the file are not UTF-8. -/
  | notText
  deriving DecidableEq

namespace ReadError

def notFound : ReadError := .system 2 "NotFound" "No such file or directory"

def isDirectory : ReadError := .system 21 "IsADirectory" "Is a directory"

/-- What is said about bytes that are not text. -/
def notTextMessage : String := "stream did not contain valid UTF-8"

def message : ReadError → String
  | .system code _ message => message ++ " (os error " ++ toString code ++ ")"
  | .notText => notTextMessage

def outline : ReadError → Outline
  | .system code kind message =>
    .record "Os" [("code", .nat code), ("kind", .atom kind), ("message", .atom (quoted message))]
  | .notText =>
    .record "Error" [("kind", .atom "InvalidData"), ("message", .atom (quoted notTextMessage))]

end ReadError

/-- Why a script gave no program. -/
inductive ScriptError where
  | lex (cause : LexError)
  | parse (cause : ParseError)
  | read (cause : ReadError)
  deriving DecidableEq

namespace ScriptError

/-- What is said about the error: the stage, and then what is said about the cause. -/
def message : ScriptError → String
  | .lex cause => "Lexer error: " ++ cause.message
  | .parse cause => "Syntax error: " ++ cause.message
  | .read cause => "IO error: " ++ cause.message

def outline : ScriptError → Outline
  | .lex cause => .call "Lex" cause.outline
  | .parse cause => .call "Parse" cause.outline
  | .read cause => .record "IoError" [("source", cause.outline)]

end ScriptError

/-- A program read from text and the events of reading it. -/
structure ScriptReading where
  result : Except ScriptError Program
  events : List Event

namespace ScriptReading

/-- Reads a program from text. The second stage is only begun when the first has not failed. -/
def ofString (source : String) (options : Options) : ScriptReading :=
  let stream := TokenStream.ofString source options
  match stream.result with
  | .error error => ⟨.error (.lex error), stream.events⟩
  | .ok tokens =>
    let reading := ProgramReading.ofTokens (tokens.map Located.value) options.errors
    ⟨reading.result.mapError .parse, stream.events ++ reading.events⟩

end ScriptReading

def Program.ofString (source : String) (options : Options) : Except ScriptError Program :=
  (ScriptReading.ofString source options).result

namespace Program

variable {source : String} {options : Options}

theorem ofString_of_located {ts : List (Located Token)}
    (h : Token.locatedOfString source options = .ok ts) :
    ofString source options = (ofTokens (ts.map Located.value) options.errors).mapError .parse := by
  rw [Token.locatedOfString] at h
  rw [ofString, ScriptReading.ofString]
  dsimp only
  rw [h]
  rfl

theorem ofString_of_error {e : LexError} (h : Token.locatedOfString source options = .error e) :
    ofString source options = .error (.lex e) := by
  rw [Token.locatedOfString] at h
  rw [ofString, ScriptReading.ofString]
  dsimp only
  rw [h]

/-- A program is answered when both stages succeed. -/
theorem ofString_eq_ok_iff {p : Program} :
    ofString source options = .ok p ↔ ∃ ts, Token.locatedOfString source options = .ok ts ∧
      ofTokens (ts.map Located.value) options.errors = .ok p := by
  constructor
  · intro h
    cases hlocated : Token.locatedOfString source options with
    | error e => cases (ofString_of_error hlocated).symm.trans h
    | ok ts =>
      have hresult := (ofString_of_located hlocated).symm.trans h
      refine ⟨ts, rfl, ?_⟩
      cases hread : ofTokens (ts.map Located.value) options.errors with
      | error e =>
        rw [hread] at hresult
        cases hresult
      | ok q =>
        rw [hread] at hresult
        exact congrArg Except.ok (Except.ok.inj hresult)
  · rintro ⟨ts, hlocated, hread⟩
    rw [ofString_of_located hlocated, hread]
    rfl

end Program

end Scriptlet
