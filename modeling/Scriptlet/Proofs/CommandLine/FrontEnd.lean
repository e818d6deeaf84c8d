import Mathlib.Data.List.Perm.Basic
import Scriptlet.Proofs.CommandLine.Standard

/-!
# What a command line shows

The flags that say how a script is read stand in any order around the script itself or the name of
its file. However they are arranged, a run ends alike: it prints what reading the text with the
options of the flags gives, and where that is an error, it prints nothing and reports the error.
Events reach the standard error only when the environment asks for them.

Results:
1. `options_given`, `text_given`: what the arguments stand for.
2. `outcome_perform`: a command prints everything or nothing.
3. `run_of_names`: a run depends on the text and on the options of the flags alone.
4. `options_perm`: the options do not depend on the order of the flags.
5. `front_end_exact`: all of this about every command line.
-/

namespace Scriptlet

namespace CommandLine

/-! ## Definitions -/

/-- The options that flags denote. What no flag says is as in the standard options. -/
def Flag.options (flags : List Flag) : Options :=
  if .legacy ∈ flags then .legacy
  else ⟨(flags.findSome? mode?).getD .strict, (flags.findSome? rule?).getD .longestRun⟩

/-- The source is this text, or a file that holds its bytes. -/
def Source.Holds (files : FileReader) (text : String) : Source → Prop
  | .typed script => script = text
  | .file name => files name = .ok text.toUTF8

/-- These arguments name a source that holds `text`, with these flags around it. -/
def Names (files : FileReader) (text : String) (flags : List Flag) (arguments : List String) :
    Prop :=
  ∃ source, Spelled source flags arguments ∧ source.Holds files text

/-- The parser and the subscriber keep to their documentation, and nobody asks for events. -/
structure Setting.Quiet (s : Setting) : Prop where
  parser : s.parser.Documented
  subscriber : s.subscriber.Documented
  directives : s.directives = ""

/-- All that the log of a run writes when these events happen. -/
def Setting.logged (s : Setting) (events : List Event) : String :=
  s.log.opening ++ s.log.written events

namespace Outcome

/-- A run succeeds exactly when there is a result, and then it prints the result. Otherwise it
prints nothing and reports the error behind what has been logged. -/
structure Shows {ε α : Type} (o : Outcome) (logged : String) (inspect : ε → Outline)
    (printed : α → String) (result : Except ε α) : Prop where
  succeeds : o.exitCode = 0 ∧ o.stderr = logged ↔ ∃ value, result = .ok value
  prints : ∀ value, result = .ok value → o.stdout = printed value
  fails : ∀ error, result = .error error →
    o.exitCode = 1 ∧ o.stdout = "" ∧ o.stderr = logged ++ ("Error: " ++ (inspect error).line ++ "\n")

/-- How a run ends that shows a result. -/
def ofResult {ε α : Type} (streams : Streams) (inspect : ε → Outline) (printed : α → String) :
    Except ε α → Outcome
  | .ok value => ⟨{ streams with stdout := streams.stdout ++ printed value }, 0⟩
  | .error error =>
    ⟨{ streams with
        stderr := streams.stderr ++ ("Error: " ++ (inspect error).line ++ "\n") }, 1⟩

end Outcome

def tokenLines (tokens : List (Located Token)) : String := String.join (tokens.map tokenLine)

namespace Command

/-- What happens when a command reads a text. -/
def events (text : String) (options : Options) : Command → List Event
  | .tokens => (TokenStream.ofString text options).events
  | .parse => (ScriptReading.ofString text options).events

/-- A run shows what the library answers: the tokens of the text, or its program. -/
def Answers (o : Outcome) (logged text : String) (options : Options) : Command → Prop
  | .tokens => o.Shows logged LexError.outline tokenLines (Token.locatedOfString text options)
  | .parse => o.Shows logged ScriptError.outline programText (Program.ofString text options)

/-- How a run ends that shows what the library answers. -/
def shown (logged text : String) (options : Options) : Command → Outcome
  | .tokens =>
    .ofResult ⟨"", logged⟩ LexError.outline tokenLines (Token.locatedOfString text options)
  | .parse =>
    .ofResult ⟨"", logged⟩ ScriptError.outline programText (Program.ofString text options)

end Command

/-! ## 1. What the arguments stand for -/

theorem options_given (source : Source) (flags : List Flag) :
    (ScriptArguments.given source flags).options = Flag.options flags := by
  unfold ScriptArguments.options Flag.options ScriptArguments.given
  simp only [decide_eq_true_eq]

theorem fileText_eq {files : FileReader} {name text : String}
    (h : files name = .ok text.toUTF8) : files.text name = .ok text := by
  have hdecode : String.fromUTF8? text.toUTF8 = some text := by
    unfold String.fromUTF8?
    rw [String.toUTF8_eq_toByteArray, dif_pos text.isValidUTF8]
    rfl
  rw [FileReader.text, h]
  simp only [hdecode]

theorem text_given {files : FileReader} {text : String} {source : Source}
    (h : source.Holds files text) (flags : List Flag) :
    (ScriptArguments.given source flags).text files = .ok text := by
  cases source with
  | typed => exact congrArg Except.ok h
  | file =>
    show (files.text _).mapError _ = _
    rw [fileText_eq h]
    rfl

/-! ## 2. Carrying out a command -/

theorem forM_print {α : Type} (line : α → String) (items : List α) (streams : Streams) :
    (items.forM fun item => Effect.print (line item)) streams =
      (.ok (), { streams with stdout := streams.stdout ++ String.join (items.map line) }) := by
  induction items generalizing streams with
  | nil =>
    rw [List.map_nil, String.join_nil, String.append_empty]
    rfl
  | cons item rest ih =>
    rw [List.map_cons, String.join_cons, ← String.append_assoc]
    exact ih { streams with stdout := streams.stdout ++ line item }

/-- What is printed for a result is printed when the result is there as a whole. -/
theorem outcome_of_emit {ε α : Type} {inspect : ε → Outline} {printed : α → String}
    {emit : α → Effect Unit}
    (hemit : ∀ value streams, emit value streams =
      (.ok (), { streams with stdout := streams.stdout ++ printed value }))
    (result : Except ε α) (logged : String) (streams : Streams) :
    Effect.outcome (do
        Effect.report logged
        let value ← Effect.require inspect result
        emit value) streams =
      .ofResult { streams with stderr := streams.stderr ++ logged } inspect printed result := by
  cases result with
  | error => rfl
  | ok value =>
    show Effect.outcome (emit value) _ = _
    rw [Effect.outcome, hemit]
    rfl

theorem outcome_perform (command : Command) (log : Log) (text : String) (options : Options) :
    (command.perform log text options).outcome ⟨"", log.opening⟩ =
      command.shown (log.opening ++ log.written (command.events text options)) text options := by
  cases command with
  | tokens => exact outcome_of_emit (forM_print tokenLine) _ _ _
  | parse => exact outcome_of_emit (fun _ _ => rfl) _ _ _

theorem shows_ofResult {ε α : Type} (logged : String) (inspect : ε → Outline)
    (printed : α → String) (result : Except ε α) :
    (Outcome.ofResult ⟨"", logged⟩ inspect printed result).Shows logged inspect printed result := by
  cases result with
  | ok value =>
    refine ⟨⟨fun _ => ⟨value, rfl⟩, fun _ => ⟨rfl, rfl⟩⟩, ?_, fun _ h => (nomatch h)⟩
    rintro _ ⟨⟩
    exact String.empty_append
  | error error =>
    refine ⟨⟨fun h => (nomatch h.1), fun ⟨_, h⟩ => (nomatch h)⟩, fun _ h => (nomatch h), ?_⟩
    rintro _ ⟨⟩
    exact ⟨rfl, rfl, rfl⟩

theorem answers_shown (command : Command) (logged text : String) (options : Options) :
    command.Answers (command.shown logged text options) logged text options := by
  cases command with
  | tokens | parse => exact shows_ofResult _ _ _ _

/-! ## 3. Runs -/

section Run

variable {s : Setting} {command : Command} {text : String} {arguments : List String}

theorem run_of_parsed {a : ScriptArguments} (hparser : s.parser arguments = .ok (command, a))
    (htext : a.text s.files = .ok text) :
    run s arguments =
      command.shown (s.logged (command.events text a.options)) text a.options := by
  rw [run, hparser]
  dsimp only
  rw [Command.carryOut, htext]
  exact outcome_perform command s.log text a.options

/-- A run does with the text what the command does, with the options of the flags. -/
theorem run_of_names (command : Command) (hparser : s.parser.Documented) {flags : List Flag}
    (hflags : Flag.Admissible flags) (h : Names s.files text flags arguments) :
    run s (command.name :: arguments) =
      command.shown (s.logged (command.events text (Flag.options flags))) text
        (Flag.options flags) := by
  obtain ⟨source, hspelled, hholds⟩ := h
  rw [run_of_parsed (hparser command hflags hspelled) (text_given hholds flags), options_given]

end Run

/-- When nobody asks for events, none of those that reading a script brings about is written. -/
theorem Setting.Quiet.logged_eq {s : Setting} (h : s.Quiet) (events : List Event) :
    s.logged events = "" := by
  rw [logged, log, h.directives, h.subscriber.opening_eq,
    h.subscriber.written_eq _ _ fun e _ => e.urgency_lt_warn]
  rfl

/-! ## 4. The order of the flags -/

section Order

variable {flags flags' : List Flag}

theorem findSome?_perm {α : Type} {said : Flag → Option α}
    (hsaid : ∀ f g, (said f).isSome = true → (said g).isSome = true → f.name = g.name)
    (h : flags.Perm flags') (hnodup : (flags.map Flag.name).Nodup) :
    flags.findSome? said = flags'.findSome? said := by
  induction h with
  | nil => rfl
  | cons f _ ih =>
    rw [List.findSome?_cons, List.findSome?_cons, ih (List.nodup_cons.mp hnodup).2]
  | swap f g rest =>
    rw [List.findSome?_cons, List.findSome?_cons, List.findSome?_cons, List.findSome?_cons]
    cases hf : said f with
    | none => rfl
    | some value =>
      cases hg : said g with
      | none => rfl
      | some other =>
        have hname := hsaid f g (by rw [hf]; rfl) (by rw [hg]; rfl)
        refine absurd ?_ (List.nodup_cons.mp hnodup).1
        rw [List.map_cons, hname]
        exact List.mem_cons_self
  | trans hfirst _ ih₁ ih₂ =>
    exact (ih₁ hnodup).trans (ih₂ ((hfirst.map Flag.name).nodup_iff.mp hnodup))

theorem Flag.Admissible.perm (hflags : Flag.Admissible flags) (h : flags.Perm flags') :
    Flag.Admissible flags' where
  nodup := (h.map Flag.name).nodup_iff.mp hflags.nodup
  legacy_alone := by
    intro hmem
    have halone := hflags.legacy_alone (h.mem_iff.mpr hmem)
    rw [halone] at h
    exact (List.singleton_perm.mp h).symm

theorem options_perm (hflags : Flag.Admissible flags) (h : flags.Perm flags') :
    Flag.options flags = Flag.options flags' := by
  have hmode := findSome?_perm
    (fun f g hf hg => (Flag.mode_name hf).trans (Flag.mode_name hg).symm) h hflags.nodup
  have hrule := findSome?_perm
    (fun f g hf hg => (Flag.rule_name hf).trans (Flag.rule_name hg).symm) h hflags.nodup
  unfold Flag.options
  rw [hmode, hrule]
  exact ite_congr (propext h.mem_iff) (fun _ => rfl) (fun _ => rfl)

end Order

theorem admissible_none : Flag.Admissible [] := ⟨List.nodup_nil, fun h => nomatch h⟩

theorem admissible_legacy : Flag.Admissible [.legacy] :=
  ⟨show ["--legacy"].Nodup by decide, fun _ => rfl⟩

theorem admissible_pair (attached attached' : Bool) (mode : Strictness) (rule : NumberRule) :
    Flag.Admissible [.errors attached mode, .numbers attached' rule] :=
  ⟨show ["--errors", "--numbers"].Nodup by decide, fun hmem => by simp at hmem⟩

/-! ## 5. Every command line -/

/-- Whatever flags stand around the input and in whatever order, a run of either command whose
setting is quiet shows what the library answers for the text of the input with the options that
the flags denote. It exits with 0 and an empty standard error exactly when there is a result, and
then it prints a line for each token, or the program. Otherwise it exits with 1 and an empty
standard output, and the error, inspected, is all that it reports. Two runs on the same text, given
behind `-e` or in a file, with the same flags in any order, end alike; and `--legacy` makes the
same run as `--errors lenient` together with `--numbers to-end-of-input`. When the environment asks
for events, they are written to the standard error before all else, and that is all the
difference. -/
theorem front_end_exact (command : Command) (text : String) :
    (∀ s flags arguments, s.Quiet → Flag.Admissible flags → Names s.files text flags arguments →
      command.Answers (run s (command.name :: arguments)) "" text (Flag.options flags)) ∧
    (∀ s s' flags flags' arguments arguments', s.Quiet → s'.Quiet →
      Flag.Admissible flags → flags.Perm flags' →
      Names s.files text flags arguments → Names s'.files text flags' arguments' →
      run s (command.name :: arguments) = run s' (command.name :: arguments')) ∧
    (∀ s s' attached attached' flags arguments arguments', s.Quiet → s'.Quiet →
      flags.Perm [.errors attached .lenient, .numbers attached' .toEndOfInput] →
      Names s.files text flags arguments → Names s'.files text [.legacy] arguments' →
      run s (command.name :: arguments) = run s' (command.name :: arguments')) ∧
    ∀ s flags arguments, s.parser.Documented → Flag.Admissible flags →
      Names s.files text flags arguments →
      command.Answers (run s (command.name :: arguments))
        (s.logged (command.events text (Flag.options flags))) text (Flag.options flags) := by
  refine ⟨fun s flags arguments hs hflags h => ?_,
    fun s s' flags flags' arguments arguments' hs hs' hflags hperm h h' => ?_,
    fun s s' attached attached' flags arguments arguments' hs hs' hperm h h' => ?_,
    fun s flags arguments hparser hflags h => ?_⟩
  · rw [run_of_names command hs.parser hflags h, hs.logged_eq]
    exact answers_shown command _ text _
  · rw [run_of_names command hs.parser hflags h,
      run_of_names command hs'.parser (hflags.perm hperm) h', hs.logged_eq, hs'.logged_eq,
      options_perm hflags hperm]
  · have hpair := admissible_pair attached attached' .lenient .toEndOfInput
    rw [run_of_names command hs.parser (hpair.perm hperm.symm) h,
      run_of_names command hs'.parser admissible_legacy h', hs.logged_eq, hs'.logged_eq,
      options_perm (hpair.perm hperm.symm) hperm]
    rfl
  · rw [run_of_names command hparser hflags h]
    exact answers_shown command _ text _

/-- The standard setting, with these files and this answer to the question for directives. -/
def standardSetting (directives : Option String) (files : FileReader) : Setting :=
  ⟨.standard, .standard, fun _ => directives, files⟩

theorem quiet_standardSetting (files : FileReader) : (standardSetting none files).Quiet :=
  ⟨ArgumentParser.standard_documented, Subscriber.standard_documented, rfl⟩

/-- `print 5 +`, typed and in a file. Read leniently, with digits only at the end, both give a
program without statements; read strictly, the same error. -/
theorem front_end_exact_dangling_plus :
    let text := "print 5 +"
    let s := standardSetting none fun name =>
      if name = "a" then .ok text.toUTF8 else .error .notFound
    let lenient :=
      run s ["parse", "--errors=lenient", "-e", text, "--numbers", "to-end-of-input"]
    let strict := run s ["parse", "--", "a"]
    lenient = run s ["parse", "a", "--legacy"] ∧ lenient.exitCode = 0 ∧ lenient.stderr = "" ∧
    strict = run s ["parse", "-e", text] ∧ strict.exitCode = 1 ∧ strict.stdout = "" ∧
    strict.stderr = "Error: Parse(UnexpectedEnd { position: 3 })
" ∧
    Command.parse.Answers strict "" text .standard := by
  intro text s lenient strict
  have hdash : ¬ BeginsWithDash text := by unfold BeginsWithDash; decide
  have hname : ¬ BeginsWithDash "a" := by unfold BeginsWithDash; decide
  have hfile : s.files "a" = .ok text.toUTF8 := rfl
  have hs : s.Quiet := quiet_standardSetting _
  have hsplit : Names s.files text [.errors true .lenient, .numbers false .toEndOfInput]
      ["--errors=lenient", "-e", text, "--numbers", "to-end-of-input"] :=
    ⟨_, @Spelled.typed text [.errors true .lenient] [.numbers false .toEndOfInput] hdash, rfl⟩
  have hlegacy : Names s.files text [.legacy] ["a", "--legacy"] :=
    ⟨_, @Spelled.file "a" [] [.legacy] (by decide) fun h => absurd h hname, hfile⟩
  have htyped : Names s.files text [] ["-e", text] :=
    ⟨_, @Spelled.typed text [] [] hdash, rfl⟩
  have hseparated : Names s.files text [] ["--", "a"] :=
    ⟨_, @Spelled.separated "a" [] (by decide), hfile⟩
  obtain ⟨hanswers, hsame, hshort, -⟩ := front_end_exact .parse text
  have hstrict : strict = run s ["parse", "-e", text] :=
    hsame s s [] [] _ _ hs hs admissible_none (.refl _) hseparated htyped
  refine ⟨hshort s s true false _ _ _ hs hs (.refl _) hsplit hlegacy, ?_, ?_, hstrict, ?_, ?_, ?_,
    hanswers s [] _ hs admissible_none hseparated⟩
  · decide +kernel
  · decide +kernel
  · rw [hstrict]
    decide +kernel
  · rw [hstrict]
    decide +kernel
  · rw [hstrict]
    decide +kernel

/-- Where a quiet setting is needed, and a file name that cannot be taken for an option. Whatever
subscriber is asked for events at the level for debugging, it writes that `5 a` was dropped, though
the run succeeds; and `let` can be read when it is typed, but not from the file `-x`. -/
theorem log_written_and_dashed_file_refused :
    let files : FileReader := fun name =>
      if name = "-x" then .ok "let".toUTF8 else .error .notFound
    (∀ subscriber : Subscriber, subscriber.Documented →
      let o := run ⟨.standard, subscriber, fun _ => some "debug", files⟩
        ["tokens", "-e", "5 a", "--legacy"]
      o.exitCode = 0 ∧ o.stderr ≠ "") ∧
    let s := standardSetting none files
    (run s ["tokens", "-e", "let"]).exitCode = 0 ∧ s.files "-x" = .ok "let".toUTF8 ∧
    (run s ["tokens", "-x"]).exitCode = 2 := by
  intro files
  refine ⟨fun subscriber hsubscriber => ?_, ?_, rfl, ?_⟩
  · let s : Setting := ⟨.standard, subscriber, fun _ => some "debug", files⟩
    let events := [Event.discardedText (.unrecognizedInput .start)]
    have hdash : ¬ BeginsWithDash "5 a" := by unfold BeginsWithDash; decide
    have hnames : Names s.files "5 a" [.legacy] ["-e", "5 a", "--legacy"] :=
      ⟨_, @Spelled.typed "5 a" [] [.legacy] hdash, rfl⟩
    have hevents : Command.tokens.events "5 a" .legacy = events := by decide +kernel
    have htokens : Token.locatedOfString "5 a" .legacy = .ok [] := by decide +kernel
    have hrun : run s ["tokens", "-e", "5 a", "--legacy"] = ⟨⟨"", s.logged events⟩, 0⟩ := by
      refine (run_of_names .tokens ArgumentParser.standard_documented admissible_legacy
        hnames).trans ?_
      show Command.tokens.shown (s.logged (Command.tokens.events "5 a" .legacy)) "5 a" .legacy = _
      rw [hevents, Command.shown, htokens]
      rfl
    have hwritten : s.log.written events ≠ "" :=
      hsubscriber.written_ne .warn _ ⟨_, List.mem_cons_self, rfl⟩
    have hlogged : s.logged events ≠ "" := by
      intro hempty
      have hlist := congrArg String.toList hempty
      rw [Setting.logged, String.toList_append] at hlist
      exact hwritten (String.toList_inj.mp (List.append_eq_nil_iff.mp hlist).2)
    dsimp only
    rw [hrun]
    exact ⟨rfl, hlogged⟩
  · decide +kernel
  · decide +kernel

end CommandLine

end Scriptlet
