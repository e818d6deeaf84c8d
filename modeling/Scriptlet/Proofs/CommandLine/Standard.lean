import Scriptlet.CommandLine.Spelling
import Scriptlet.CommandLine.Standard

/-!
# The standard setting keeps to the documentation

The standard argument parser takes up one flag after the other, so that what it has gathered in
the end is what the flags and the source say together. The standard subscriber is silent about
events that are less urgent than the default level, unless it is told otherwise.

Results:
1. `Said.take_flags`: the arguments take up one flag after the other.
2. `ArgumentParser.standard_documented`: the standard argument parser.
3. `Subscriber.standard_documented`: the standard subscriber.
-/

namespace Scriptlet

namespace CommandLine

/-! ## 1. Taking the arguments -/

namespace Said

/-- What has been said when these flags and a source were given. -/
def ofFlags (flags : List Flag) (file expr : Option String) : Said where
  file := file
  expr := expr
  errors := flags.findSome? Flag.mode?
  numbers := flags.findSome? Flag.rule?
  legacy := .legacy ∈ flags

theorem orRefuse_some (a : Said) : orRefuse (some a) = .ok a := rfl

theorem bind_ok {α β : Type} (a : α) (f : α → Except Stop β) : (Except.ok a >>= f) = f a := rfl

theorem shape_of_not_dash {argument : String} (h : ¬ BeginsWithDash argument) :
    Shape.of argument = .plain := by
  have hne : ∀ rest, argument.toList ≠ '-' :: rest := by
    intro rest htext
    rw [BeginsWithDash, htext] at h
    exact h rfl
  unfold Shape.of
  split
  · rename_i htext
    exact absurd htext (hne _)
  · rename_i htext
    exact absurd htext (hne _)
  · rename_i htext
    exact absurd htext (hne _)
  · rfl

theorem meaning_of_file {name : String} (h : BeginsWithDash name → name = "-") :
    Meaning.of name = .file := by
  by_cases hdash : BeginsWithDash name
  · rw [h hdash]
    decide +kernel
  · unfold Meaning.of
    rw [shape_of_not_dash hdash]

/-- An option with its value, however it is written, is one step. -/
theorem take_valueWords (a : Said) (option : ValueOption) {name value : String}
    (hname : Meaning.of name = .valued option none) (hvalue : Shape.of value = .plain)
    (hattached : Meaning.of (name ++ "=" ++ value) = .valued option (some value))
    (attached : Bool) (rest : List String) {b : Said} (h : a.takeValue option value = some b) :
    a.take (Flag.valueWords attached name value ++ rest) = b.take rest := by
  cases attached with
  | true =>
    show a.take ((name ++ "=" ++ value) :: rest) = b.take rest
    rw [take, hattached]
    simp only [h, orRefuse_some, bind_ok]
  | false =>
    show a.take (name :: value :: rest) = b.take rest
    rw [take, hname]
    simp only [hvalue, if_true, h, orRefuse_some, bind_ok]

theorem findSome?_eq_none {α : Type} {flags : List Flag} {said : Flag → Option α}
    (h : ∀ g ∈ flags, (said g).isSome = true → False) : flags.findSome? said = none :=
  List.findSome?_eq_none_iff.mpr fun g hg => Option.not_isSome_iff_eq_none.mp (h g hg)

theorem take_flag {seen : List Flag} {f : Flag} (hnew : f.name ∉ seen.map Flag.name)
    (file expr : Option String) (rest : List String) :
    (ofFlags seen file expr).take (f.words ++ rest) =
      (ofFlags (seen ++ [f]) file expr).take rest := by
  have hother : ∀ g ∈ seen, g.name ≠ f.name := by
    intro g hg hname
    exact hnew (hname ▸ List.mem_map_of_mem hg)
  cases f with
  | errors attached mode =>
    have hnone : seen.findSome? Flag.mode? = none :=
      findSome?_eq_none fun g hg hmode => hother g hg (Flag.mode_name hmode)
    have hfind := Strictness.choices.find_of_mem false mode.mem_choices
    refine take_valueWords _ .errors (by decide +kernel) ?_ ?_ attached rest ?_
    · cases mode <;> decide +kernel
    · cases mode <;> decide +kernel
    · simp [takeValue, ofFlags, hnone, hfind, List.findSome?_append, Flag.mode?, Flag.rule?]
  | numbers attached rule =>
    have hnone : seen.findSome? Flag.rule? = none :=
      findSome?_eq_none fun g hg hrule => hother g hg (Flag.rule_name hrule)
    have hfind := NumberRule.choices.find_of_mem false rule.mem_choices
    refine take_valueWords _ .numbers (by decide +kernel) ?_ ?_ attached rest ?_
    · cases rule <;> decide +kernel
    · cases rule <;> decide +kernel
    · simp [takeValue, ofFlags, hnone, hfind, List.findSome?_append, Flag.mode?, Flag.rule?]
  | legacy =>
    have hnone : .legacy ∉ seen := fun hmem => hother _ hmem rfl
    have hmeaning : Meaning.of "--legacy" = .legacy := by decide +kernel
    show (ofFlags seen file expr).take ("--legacy" :: rest) = _
    rw [take, hmeaning]
    simp [takeLegacy, ofFlags, hnone, orRefuse_some, bind_ok, List.findSome?_append, Flag.mode?,
      Flag.rule?]

/-- Flags with different names are taken up one after the other. -/
theorem take_flags (seen : List Flag) {flags : List Flag}
    (h : ((seen ++ flags).map Flag.name).Nodup) (file expr : Option String) (rest : List String) :
    (ofFlags seen file expr).take (flags.flatMap Flag.words ++ rest) =
      (ofFlags (seen ++ flags) file expr).take rest := by
  induction flags generalizing seen with
  | nil => rw [List.append_nil]; rfl
  | cons f flags ih =>
    have hsplit : seen ++ f :: flags = seen ++ [f] ++ flags := by simp
    have hnew : f.name ∉ seen.map Flag.name := by
      rw [List.map_append, List.map_cons] at h
      exact fun hmem => (List.nodup_append.mp h).2.2 _ hmem _ List.mem_cons_self rfl
    rw [hsplit] at h
    rw [List.flatMap_cons, List.append_assoc, take_flag hnew, ih (seen ++ [f]) h, hsplit]

theorem take_first_flags {before after : List Flag}
    (h : ((before ++ after).map Flag.name).Nodup) (file expr : Option String)
    (rest : List String) :
    (ofFlags [] file expr).take (before.flatMap Flag.words ++ rest) =
      (ofFlags before file expr).take rest :=
  take_flags [] (List.nodup_append.mp (List.map_append ▸ h)).1 file expr rest

theorem take_last_flags {before after : List Flag}
    (h : ((before ++ after).map Flag.name).Nodup) (file expr : Option String) :
    (ofFlags before file expr).take (after.flatMap Flag.words) =
      .ok (ofFlags (before ++ after) file expr) := by
  rw [← List.append_nil (after.flatMap Flag.words), take_flags before h]
  rfl

theorem take_expr {flags : List Flag} {text : String} (h : ¬ BeginsWithDash text)
    (rest : List String) :
    (ofFlags flags none none).take ("-e" :: text :: rest) =
      (ofFlags flags none (some text)).take rest := by
  have hmeaning : Meaning.of "-e" = .valued .expr none := by decide +kernel
  rw [take, hmeaning]
  simp only [shape_of_not_dash h, if_true]
  rfl

theorem takeFile_ofFlags (flags : List Flag) {name : String} (h : name ≠ "") :
    (ofFlags flags none none).takeFile name = some (ofFlags flags (some name) none) :=
  if_neg (by simp [ofFlags, h])

theorem take_file {flags : List Flag} {name : String} (hne : name ≠ "")
    (h : BeginsWithDash name → name = "-") (rest : List String) :
    (ofFlags flags none none).take (name :: rest) = (ofFlags flags (some name) none).take rest := by
  rw [take, meaning_of_file h]
  simp only [takeFile_ofFlags flags hne, orRefuse_some, bind_ok]

/-- A file behind two dashes, whatever its name begins with. -/
theorem take_separated {flags : List Flag} {name : String} (hne : name ≠ "") :
    (ofFlags flags none none).take ["--", name] = .ok (ofFlags flags (some name) none) := by
  have hmeaning : Meaning.of "--" = .separator := by decide +kernel
  rw [take, hmeaning]
  simp only [List.foldlM_cons, takeFile_ofFlags flags hne]
  rfl

/-! ## 2. The argument parser -/

def ofSource (flags : List Flag) : Source → Said
  | .typed text => ofFlags flags none (some text)
  | .file name => ofFlags flags (some name) none

theorem take_spelled {source : Source} {flags : List Flag} {arguments : List String}
    (hflags : (flags.map Flag.name).Nodup) (h : Spelled source flags arguments) :
    nothing.take arguments = .ok (ofSource flags source) := by
  show (ofFlags [] none none).take arguments = _
  cases h with
  | @typed text before after hdash =>
    rw [take_first_flags hflags, take_expr hdash, take_last_flags hflags, ofSource]
  | @file name before after hne hdash =>
    rw [take_first_flags hflags, take_file hne hdash, take_last_flags hflags, ofSource]
  | @separated name _ hne =>
    rw [take_flags [] hflags, List.nil_append, take_separated hne, ofSource]

theorem consistent_ofSource {flags : List Flag} (hflags : Flag.Admissible flags)
    (source : Source) : (ofSource flags source).consistent = true := by
  have hshort : ((.legacy ∈ flags : Bool) &&
      ((flags.findSome? Flag.mode?).isSome || (flags.findSome? Flag.rule?).isSome)) = false := by
    by_cases hmem : Flag.legacy ∈ flags
    · rw [hflags.legacy_alone hmem]
      rfl
    · rw [decide_eq_false hmem, Bool.false_and]
  cases source with
  | typed | file => simp only [consistent, ofSource, ofFlags, hshort]; rfl

end Said

theorem ArgumentParser.standard_documented : standard.Documented := by
  intro command source flags arguments hflags h
  have hcommand : standard (command.name :: arguments) =
      (Said.ofArguments arguments).map fun a => (command, a) := by
    cases command <;> rfl
  rw [hcommand, Said.ofArguments, Said.take_spelled hflags.nodup h, Said.bind_ok,
    if_pos (Said.consistent_ofSource hflags source)]
  cases source <;> rfl

/-! ## 3. The subscriber -/

namespace Subscriber

theorem eventLine_ne {e : Event} (h : e.level = .debug) : eventLine e ≠ "" := by
  have hend : ∀ text : String, text ++ "\n" ≠ "" := by
    intro text htext
    have hlist := congrArg String.toList htext
    rw [String.toList_append] at hlist
    exact List.append_ne_nil_of_right_ne_nil _ (by decide) hlist
  cases e with
  | recognized | entered | operand | tried | left => cases h
  | discardedText | discardedTokens => exact hend _

theorem standard_documented : standard.Documented where
  opening_eq _ := rfl
  written_eq level events h := by
    have hnone : events.filter (fun e => decide (level.urgency ≤ e.level.urgency)) = [] := by
      refine List.filter_eq_nil_iff.mpr fun e he => ?_
      have := h e he
      simp only [decide_eq_true_eq]
      omega
    show String.join ((events.filter fun e => decide (level.urgency ≤ e.level.urgency)).map _) = _
    rw [hnone]
    rfl
  written_ne level events := by
    rintro ⟨e, he, hlevel⟩ hnone
    have hmem : e ∈ events.filter fun e => decide (Level.debug.urgency ≤ e.level.urgency) :=
      List.mem_filter.mpr ⟨he, by rw [hlevel]; rfl⟩
    have hline : eventLine e ≠ "" := eventLine_ne hlevel
    have hlines := congrArg String.toList hnone
    rw [standard, String.toList_join, String.toList_empty, List.flatMap_eq_nil_iff] at hlines
    exact hline (String.toList_inj.mp (hlines _ (List.mem_map_of_mem hmem)))

end Subscriber

end CommandLine

end Scriptlet
