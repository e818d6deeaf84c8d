import Scriptlet.CommandLine.Arguments

/-!
# Running the command line

A run takes its arguments apart, gets hold of the text of the script, reads it and prints what it
was read as. What it does on the way is written at once, to the standard output or to the standard
error, and an error ends it. The argument parser and the subscriber that writes down events belong
to its setting, like the environment variables and the files.
-/

namespace Scriptlet

namespace CommandLine

/-! ## The setting -/

/-- What a subscriber writes. -/
structure Log where
  /-- What it has to say about its directives. -/
  opening : String
  /-- What it writes for events, in the order in which they happen. -/
  written : List Event → String

/-- Installs a log for a default level and the directives that say what is to be written. -/
abbrev Subscriber := Level → String → Log

/-- Without directives, a subscriber writes nothing that is less urgent than the default level;
and the directive `debug` makes it write events of that level. -/
structure Subscriber.Documented (subscriber : Subscriber) : Prop where
  opening_eq : ∀ level, (subscriber level "").opening = ""
  written_eq : ∀ level events, (∀ e ∈ events, e.level.urgency < level.urgency) →
    (subscriber level "").written events = ""
  written_ne : ∀ level, ∀ events : List Event, (∃ e ∈ events, e.level = .debug) →
    (subscriber level "debug").written events ≠ ""

/-- The environment variable that holds the directives. -/
def logVariable : String := "TINY_SCRIPT_LOG"

/-- What a run finds around it. -/
structure Setting where
  parser : ArgumentParser
  subscriber : Subscriber
  environment : String → Option String
  files : FileReader

namespace Setting

/-- What the environment has to say about events. -/
def directives (s : Setting) : String := (s.environment logVariable).getD ""

/-- The log of a run. Only warnings are written when nothing else is asked for. -/
def log (s : Setting) : Log := s.subscriber .warn s.directives

end Setting

/-! ## Actions -/

/-- What has been written so far. -/
structure Streams where
  stdout : String
  stderr : String
  deriving DecidableEq

/-- Something that writes, and that an error may end. The error is kept as it is inspected. -/
abbrev Effect (α : Type) := ExceptT Outline (StateM Streams) α

namespace Effect

def print (text : String) : Effect Unit :=
  modify fun s => { s with stdout := s.stdout ++ text }

def report (text : String) : Effect Unit :=
  modify fun s => { s with stderr := s.stderr ++ text }

/-- Goes on with a result, if it is one. -/
def require {ε α : Type} (inspect : ε → Outline) : Except ε α → Effect α
  | .ok value => pure value
  | .error error => throw (inspect error)

end Effect

/-- A text filled up with spaces to a width. A longer text stays as it is. -/
def padded (width : Nat) (text : String) : String :=
  text ++ String.ofList (List.replicate (width - text.length) ' ')

def tokenLine (token : Located Token) : String :=
  padded 12 token.span.start.text ++ " " ++ token.value.outline.line ++ "\n"

def programText (program : Program) : String := program.outline.lines ++ "\n"

open Effect

/-- Prints the tokens of a text, line after line. -/
def printTokens (log : Log) (text : String) (options : Options) : Effect Unit := do
  let stream := TokenStream.ofString text options
  report (log.written stream.events)
  let tokens ← require LexError.outline stream.result
  tokens.forM fun token => print (tokenLine token)

/-- Prints the program that a text is. -/
def printProgram (log : Log) (text : String) (options : Options) : Effect Unit := do
  let reading := ScriptReading.ofString text options
  report (log.written reading.events)
  let program ← require ScriptError.outline reading.result
  print (programText program)

def Command.perform (log : Log) (text : String) (options : Options) : Command → Effect Unit
  | .tokens => printTokens log text options
  | .parse => printProgram log text options

def Command.carryOut (s : Setting) (command : Command) (a : ScriptArguments) : Effect Unit := do
  let text ← require ScriptError.outline (a.text s.files)
  command.perform s.log text a.options

/-! ## Runs -/

/-- How a run ends. -/
structure Outcome extends Streams where
  exitCode : Nat
  deriving DecidableEq

/-- How an action ends that begins with these streams. An error is reported as it is inspected. -/
def Effect.outcome (action : Effect Unit) (streams : Streams) : Outcome :=
  match action streams with
  | (.ok (), written) => ⟨written, 0⟩
  | (.error error, written) =>
    ⟨{ written with stderr := written.stderr ++ ("Error: " ++ error.line ++ "\n") }, 1⟩

def run (s : Setting) (arguments : List String) : Outcome :=
  let opening : Streams := ⟨"", s.log.opening⟩
  match s.parser arguments with
  | .ok (command, a) => (command.carryOut s a).outcome opening
  | .error (.answered text) => ⟨{ opening with stdout := opening.stdout ++ text }, 0⟩
  | .error (.refused text) => ⟨{ opening with stderr := opening.stderr ++ text }, 2⟩

end CommandLine

end Scriptlet
