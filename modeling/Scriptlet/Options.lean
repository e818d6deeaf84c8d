import Scriptlet.Outline

/-!
# Options

How forgiving the reading of a script is, and where a number ends. Each choice has a name on the
command line.

Results:
1. `Choices.find_of_mem`: each choice is found under its name.
-/

namespace Scriptlet

/-- What happens to input that no rule recognizes. -/
inductive Strictness where
  /-- Reading stops with an error. -/
  | strict
  /-- What was recognized is kept, and the rest is dropped. -/
  | lenient
  deriving DecidableEq

/-- Where a run of digits counts as a number. -/
inductive NumberRule where
  /-- Everywhere: the longest run is the number. -/
  | longestRun
  /-- Only at the end of the input, nothing following the digits. -/
  | toEndOfInput
  deriving DecidableEq

/-- Choices with their names, in the order in which they are offered. No two names differ in case
alone. -/
structure Choices (α : Type) where
  offered : List (String × α)
  distinct : (offered.map fun choice => choice.1.toLower).Nodup

namespace Choices

/-- Finds a choice by its name. Only ASCII letters have their case ignored. -/
def find {α : Type} (choices : Choices α) (ignoreCase : Bool) (text : String) :
    Option (String × α) :=
  choices.offered.find? fun (name, _) =>
    if ignoreCase then name.toLower == text.toLower else name == text

theorem find_of_mem {α : Type} (choices : Choices α) (ignoreCase : Bool) {name : String}
    {value : α} (h : (name, value) ∈ choices.offered) :
    choices.find ignoreCase name = some (name, value) := by
  obtain ⟨offered, hdistinct⟩ := choices
  dsimp only [find] at h ⊢
  induction offered with
  | nil => cases h
  | cons choice rest ih =>
    rw [List.map_cons, List.nodup_cons] at hdistinct
    rcases List.mem_cons.mp h with rfl | hrest
    · exact List.find?_cons_of_pos (by cases ignoreCase <;> simp)
    · have hlower : choice.1.toLower ≠ name.toLower := by
        intro heq
        exact hdistinct.1 (heq ▸ List.mem_map_of_mem hrest)
      have hname : choice.1 ≠ name := fun heq => hlower (heq ▸ rfl)
      rw [List.find?_cons_of_neg (by cases ignoreCase <;> simp [hlower, hname])]
      exact ih hdistinct.2 hrest

end Choices

/-- What is said about a text that names no choice. -/
def invalidChoiceMessage (text : String) : String := "invalid variant: " ++ text

namespace Strictness

def name : Strictness → String
  | .strict => "strict"
  | .lenient => "lenient"

def choices : Choices Strictness where
  offered := [.strict, .lenient].map fun mode => (mode.name, mode)
  distinct := by decide +kernel

theorem mem_choices (mode : Strictness) : (mode.name, mode) ∈ choices.offered := by
  cases mode <;> simp [choices]

def outline : Strictness → Outline
  | .strict => .atom "Strict"
  | .lenient => .atom "Lenient"

end Strictness

namespace NumberRule

def name : NumberRule → String
  | .longestRun => "prefix"
  | .toEndOfInput => "to-end-of-input"

def choices : Choices NumberRule where
  offered := [.longestRun, .toEndOfInput].map fun rule => (rule.name, rule)
  distinct := by decide +kernel

theorem mem_choices (rule : NumberRule) : (rule.name, rule) ∈ choices.offered := by
  cases rule <;> simp [choices]

def outline : NumberRule → Outline
  | .longestRun => .atom "Prefix"
  | .toEndOfInput => .atom "ToEndOfInput"

end NumberRule

/-- How a script is read. -/
structure Options where
  errors : Strictness
  numbers : NumberRule
  deriving DecidableEq

namespace Options

/-- Errors are reported, and digits are a number wherever they stand. -/
def standard : Options := ⟨.strict, .longestRun⟩

/-- Unrecognized input is dropped silently, and digits are a number only at the end. -/
def legacy : Options := ⟨.lenient, .toEndOfInput⟩

instance : Inhabited Options := ⟨standard⟩

def outline (o : Options) : Outline :=
  .record "Options" [("errors", o.errors.outline), ("numbers", o.numbers.outline)]

end Options

end Scriptlet
