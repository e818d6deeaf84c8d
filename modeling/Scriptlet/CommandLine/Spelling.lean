import Scriptlet.CommandLine.Arguments

/-!
# How arguments are spelled

The flags that say how a script is read stand in any order around the script itself or the name of
its file. An argument parser keeps to its documentation when it gathers what they say, whatever
that order is. Nothing is promised here about other command lines.
-/

namespace Scriptlet

namespace CommandLine

/-- A flag that says how a script is read. Its value is an argument of its own, or is attached
behind an equals sign. -/
inductive Flag where
  | errors (attached : Bool) (mode : Strictness)
  | numbers (attached : Bool) (rule : NumberRule)
  | legacy
  deriving DecidableEq

namespace Flag

def name : Flag → String
  | .errors _ _ => "--errors"
  | .numbers _ _ => "--numbers"
  | .legacy => "--legacy"

/-- An option and its value as arguments. -/
def valueWords (attached : Bool) (option value : String) : List String :=
  if attached then [option ++ "=" ++ value] else [option, value]

def words : Flag → List String
  | .errors attached mode => valueWords attached "--errors" mode.name
  | .numbers attached rule => valueWords attached "--numbers" rule.name
  | .legacy => ["--legacy"]

def mode? : Flag → Option Strictness
  | .errors _ mode => some mode
  | _ => none

def rule? : Flag → Option NumberRule
  | .numbers _ rule => some rule
  | _ => none

theorem mode_name {f : Flag} (h : f.mode?.isSome = true) : f.name = "--errors" := by
  cases f with
  | errors => rfl
  | numbers | legacy => cases h

theorem rule_name {f : Flag} (h : f.rule?.isSome = true) : f.name = "--numbers" := by
  cases f with
  | numbers => rfl
  | errors | legacy => cases h

/-- No flag is given twice, and `--legacy` only without the other two. -/
structure Admissible (flags : List Flag) : Prop where
  nodup : (flags.map name).Nodup
  legacy_alone : .legacy ∈ flags → flags = [.legacy]

end Flag

/-- Where a script comes from. -/
inductive Source where
  /-- It stands on the command line. -/
  | typed (text : String)
  | file (name : String)

/-- The argument begins with a dash, so that it may be taken for an option. -/
def BeginsWithDash (argument : String) : Prop := argument.toList.head? = some '-'

/-- These arguments name a source with these flags around it: the text itself behind `-e`, a file
that cannot be taken for an option, or any file behind two dashes. -/
inductive Spelled : Source → List Flag → List String → Prop
  | typed {text : String} {before after : List Flag} :
      ¬ BeginsWithDash text →
      Spelled (.typed text) (before ++ after)
        (before.flatMap Flag.words ++ "-e" :: text :: after.flatMap Flag.words)
  | file {name : String} {before after : List Flag} :
      name ≠ "" → (BeginsWithDash name → name = "-") →
      Spelled (.file name) (before ++ after)
        (before.flatMap Flag.words ++ name :: after.flatMap Flag.words)
  | separated {name : String} {flags : List Flag} :
      name ≠ "" →
      Spelled (.file name) flags (flags.flatMap Flag.words ++ ["--", name])

namespace ScriptArguments

/-- What a source and flags say together. -/
def given (source : Source) (flags : List Flag) : ScriptArguments where
  file := match source with
    | .typed _ => none
    | .file name => some name
  expr := match source with
    | .typed text => some text
    | .file _ => none
  errors := (flags.findSome? Flag.mode?).getD .strict
  numbers := (flags.findSome? Flag.rule?).getD .longestRun
  legacy := .legacy ∈ flags

end ScriptArguments

/-- The parser does with the declared arguments what is documented: it gathers what they say, in
whatever order they stand, and refuses no combination that is admissible. -/
def ArgumentParser.Documented (parser : ArgumentParser) : Prop :=
  ∀ (command : Command) {source : Source} {flags : List Flag} {arguments : List String},
    Flag.Admissible flags → Spelled source flags arguments →
    parser (command.name :: arguments) = .ok (command, .given source flags)

end CommandLine

end Scriptlet
