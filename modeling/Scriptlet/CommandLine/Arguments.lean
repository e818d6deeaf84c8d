import Scriptlet.Script

/-!
# Arguments of the command line

The arguments name a command, an input and how the input is to be read. Taking them apart is left
to an argument parser, a parameter of every run. What the parts stand for is decided here.
-/

namespace Scriptlet

namespace CommandLine

/-- What is to be done with a script. -/
inductive Command where
  /-- Prints its tokens, one on each line. -/
  | tokens
  /-- Prints its program. -/
  | parse
  deriving DecidableEq

def Command.name : Command → String
  | .tokens => "tokens"
  | .parse => "parse"

/-- What reading a file gives, for each name. -/
abbrev FileReader := String → Except ReadError ByteArray

/-- The text of a file. Its bytes have to be UTF-8. -/
def FileReader.text (files : FileReader) (name : String) : Except ReadError String :=
  match files name with
  | .error error => .error error
  | .ok bytes =>
    match String.fromUTF8? bytes with
    | some text => .ok text
    | none => .error .notText

/-- What the arguments of a command say. A choice that they leave open has its default. -/
structure ScriptArguments where
  file : Option String
  expr : Option String
  errors : Strictness
  numbers : NumberRule
  legacy : Bool
  deriving DecidableEq

namespace ScriptArguments

/-- The text of the script. An expression goes before a file. -/
def text (a : ScriptArguments) (files : FileReader) : Except ScriptError String :=
  match a.expr, a.file with
  | some text, _ => .ok text
  | none, some name => (files.text name).mapError .read
  | none, none => .ok ""

/-- How the script is to be read. -/
def options (a : ScriptArguments) : Options :=
  if a.legacy then .legacy else ⟨a.errors, a.numbers⟩

end ScriptArguments

/-- Why arguments do not lead to a command, with what is said about it. -/
inductive Stop where
  /-- They ask for what the program says about itself. -/
  | answered (text : String)
  /-- They make no sense. -/
  | refused (text : String)
  deriving DecidableEq

/-- Takes the arguments of a command line apart. -/
abbrev ArgumentParser := List String → Except Stop (Command × ScriptArguments)

end CommandLine

end Scriptlet
