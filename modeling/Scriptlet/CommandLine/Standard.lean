import Scriptlet.CommandLine.Run

/-!
# A setting to run in

An argument parser and a subscriber that keep to the documentation.

The arguments are taken from left to right, and the first one that cannot be taken ends the
reading. The value of an option stands behind it, either as the next argument or attached:
`--errors=strict` after an equals sign, `-eprint` and `-e=print` with or without one. A next
argument that looks like an option is not a value. After `--` nothing is an option. What two
arguments say together is checked in the end.
-/

namespace Scriptlet

namespace CommandLine

/-- What the program is. -/
def aboutText : String := "Lexer and parser for a tiny let/print scripting language\n"

/-- The name of the program and its version. -/
def versionText : String := "tiny-script 0.1.0\n"

/-! ## The shape of one argument -/

/-- How an argument is written. -/
inductive Shape where
  /-- Two dashes and nothing else. -/
  | separator
  /-- Two dashes and a name, perhaps with a value behind an equals sign. -/
  | long (name : String) (attached : Option String)
  /-- One dash and a letter, perhaps with more behind it. -/
  | short (letter : Char) (behind : List Char)
  /-- Anything else, a single dash included. -/
  | plain
  deriving DecidableEq

def Shape.of (argument : String) : Shape :=
  match argument.toList with
  | ['-', '-'] => .separator
  | '-' :: '-' :: rest =>
    let attached := match rest.dropWhile (· ≠ '=') with
      | [] => none
      | _ :: value => some (String.ofList value)
    .long (String.ofList (rest.takeWhile (· ≠ '='))) attached
  | '-' :: letter :: behind => .short letter behind
  | _ => .plain

/-! ## Arguments of a command -/

/-- The options that take a value. -/
inductive ValueOption where
  | expr
  | errors
  | numbers
  deriving DecidableEq

/-- What an argument of a command asks for. -/
inductive Meaning where
  /-- All that follows are files. -/
  | separator
  | file
  | valued (option : ValueOption) (attached : Option String)
  | legacy
  | help
  | unknown
  deriving DecidableEq

/-- A value attached to a letter, the equals sign before it being no part of it. -/
def attachedValue : List Char → Option String
  | [] => none
  | '=' :: value => some (String.ofList value)
  | value => some (String.ofList value)

/-- What an argument of a command asks for. -/
def Meaning.of (argument : String) : Meaning :=
  match Shape.of argument with
  | .separator => .separator
  | .plain => .file
  | .short 'e' behind => .valued .expr (attachedValue behind)
  | .short 'h' _ | .long "help" none => .help
  | .long "expr" attached => .valued .expr attached
  | .long "errors" attached => .valued .errors attached
  | .long "numbers" attached => .valued .numbers attached
  | .long "legacy" none => .legacy
  | _ => .unknown

/-- What the arguments of a command have said so far. -/
structure Said where
  file : Option String
  expr : Option String
  errors : Option Strictness
  numbers : Option NumberRule
  legacy : Bool
  deriving DecidableEq

namespace Said

def nothing : Said := ⟨none, none, none, none, false⟩

/-- Takes a file. There can be one, and its name is not empty. -/
def takeFile (a : Said) (name : String) : Option Said :=
  if a.file.isSome || name = "" then none else some { a with file := some name }

/-- Takes the value of an option. No option has two. -/
def takeValue (a : Said) (option : ValueOption) (value : String) : Option Said :=
  match option with
  | .expr => if a.expr.isSome then none else some { a with expr := some value }
  | .errors =>
    if a.errors.isSome then none
    else (Strictness.choices.find false value).map fun found => { a with errors := some found.2 }
  | .numbers =>
    if a.numbers.isSome then none
    else (NumberRule.choices.find false value).map fun found => { a with numbers := some found.2 }

/-- Takes the flag `--legacy`, once. -/
def takeLegacy (a : Said) : Option Said :=
  if a.legacy then none else some { a with legacy := true }

/-- Goes on with what was taken, if it could be. -/
def orRefuse (taken : Option Said) : Except Stop Said := taken.elim (.error (.refused aboutText)) .ok

def take (a : Said) : List String → Except Stop Said
  | [] => .ok a
  | argument :: rest =>
    match Meaning.of argument with
    | .separator => orRefuse (rest.foldlM takeFile a)
    | .help => .error (.answered aboutText)
    | .unknown => .error (.refused aboutText)
    | .file => do (← orRefuse (a.takeFile argument)).take rest
    | .legacy => do (← orRefuse a.takeLegacy).take rest
    | .valued option (some value) => do (← orRefuse (a.takeValue option value)).take rest
    | .valued option none =>
      match rest with
      | [] => .error (.refused aboutText)
      | value :: rest => do
        -- What looks like an option is not taken for a value.
        if Shape.of value = .plain then
          (← orRefuse (a.takeValue option value)).take rest
        else .error (.refused aboutText)

/-- There is one source, and `--legacy` stands without the flags that it is short for. -/
def consistent (a : Said) : Bool :=
  (a.file.isSome != a.expr.isSome) && !(a.legacy && (a.errors.isSome || a.numbers.isSome))

def arguments (a : Said) : ScriptArguments :=
  ⟨a.file, a.expr, a.errors.getD .strict, a.numbers.getD .longestRun, a.legacy⟩

/-- What the arguments of a command say, taken together. -/
def ofArguments (arguments : List String) : Except Stop ScriptArguments := do
  let a ← nothing.take arguments
  if a.consistent then return a.arguments
  else .error (.refused aboutText)

end Said

/-! ## The whole command line -/

namespace ArgumentParser

/-- What the arguments of the command `help` lead to. They name a command at most. -/
def help : List String → Stop
  | [] | ["tokens"] | ["parse"] | ["help"] => .answered aboutText
  | _ => .refused aboutText

/-- The first argument is the command. -/
def standard : ArgumentParser
  | [] => .error (.refused aboutText)
  | "tokens" :: rest => (Said.ofArguments rest).map fun a => (.tokens, a)
  | "parse" :: rest => (Said.ofArguments rest).map fun a => (.parse, a)
  | "help" :: rest => .error (help rest)
  | first :: _ =>
    match Shape.of first with
    | .short 'h' _ | .long "help" none => .error (.answered aboutText)
    | .short 'V' _ | .long "version" none => .error (.answered versionText)
    | _ => .error (.refused aboutText)

end ArgumentParser

/-! ## A subscriber -/

namespace Subscriber

/-- The levels that a directive names. -/
def level? : String → Option Level
  | "trace" => some .trace
  | "debug" => some .debug
  | "warn" => some .warn
  | _ => none

/-- The line of an event. Where a trial begins and ends is no line of its own. -/
def eventLine (e : Event) : String :=
  match e with
  | .entered _ | .left => ""
  | _ => String.intercalate " " (e.fields.map fun (label, value) => label ++ "=" ++ value) ++ "\n"

/-- Writes the events that are at least as urgent as the level that the directives name. -/
def standard : Subscriber := fun level directives =>
  let least := (level? directives).getD level
  ⟨"", fun events => String.join
    ((events.filter fun e => decide (least.urgency ≤ e.level.urgency)).map eventLine)⟩

end Subscriber

end CommandLine

end Scriptlet
