import Scriptlet.Proofs.Binary64.Inspection
import Scriptlet.Proofs.CommandLine.FrontEnd
import Scriptlet.Proofs.Text.Quoting
import Scriptlet.Proofs.Token.Relexing

/-!
# One line for each token

The command `tokens` writes where each token begins and, behind spaces, the token as it is
inspected. Texts are quoted, so no token spreads over two lines whatever its string holds;
and nothing is lost, so the tokens and their places can be read off the lines.

Results:
1. `line_inj`, `newline_notMem_line`: an inspected token stands on one line and is told by it.
2. `tokenRow_inj`, `newline_notMem_tokenRow`: the same of the line that is printed.
3. `splitOn_printed`, `count_printed`: the lines that are printed are those of the tokens.
4. `token_lines_exact`: all of this about every run of the command.
-/

namespace Scriptlet

/-! ## Definitions -/

namespace Token

/-- The name that an inspected token begins with. -/
def head : Token → String
  | .letWord => "Let"
  | .printWord => "Print"
  | .assign => "Assign"
  | .plus => "Plus"
  | .identifier _ => "Identifier"
  | .number _ => "Number"
  | .string _ => "String"

/-- What an inspected token has between brackets behind its name, if it has any. -/
def payload? : Token → Option String
  | .identifier name => some (quoted name)
  | .number value => some value.inspect
  | .string value => some (quoted value)
  | _ => none

def bracketed : Option String → List Char
  | none => []
  | some payload => '(' :: (payload.toList ++ [')'])

end Token

namespace CommandLine

/-- The line of a token without its end. -/
def tokenRow (token : Located Token) : String :=
  padded 12 token.span.start.text ++ " " ++ token.value.outline.line

/-- The lines of tokens, one behind the other. -/
def printed (tokens : List (Located Token)) : List Char :=
  (tokenLines tokens).toList

/-- The arguments ask for the tokens of a text, to be read with these options. -/
def AskTokens (s : Setting) (arguments : List String) (text : String) (options : Options) : Prop :=
  ∃ a, s.parser arguments = .ok (.tokens, a) ∧ a.text s.files = .ok text ∧ a.options = options

end CommandLine

/-! ## 1. Inspected tokens -/

theorem Outline.toList_line_call (name text : String) :
    (Outline.call name (.atom text)).line.toList =
      name.toList ++ '(' :: (text.toList ++ [')']) := by
  simp [call, line, writeLine, writeItems, Brackets.opening, Brackets.closing]

namespace Token

theorem toList_line (t : Token) :
    t.outline.line.toList = t.head.toList ++ bracketed t.payload? := by
  cases t with
  | letWord | printWord | assign | plus => rfl
  | identifier | number | string => exact Outline.toList_line_call _ _

theorem notMem_head (t : Token) : '(' ∉ t.head.toList ∧ '\n' ∉ t.head.toList := by
  cases t <;> simp [head]

theorem head_eq_takeWhile (t : Token) :
    t.head.toList = t.outline.line.toList.takeWhile (· ≠ '(') := by
  have hhead : ∀ c ∈ t.head.toList, decide (c ≠ '(') = true :=
    fun c hc => decide_eq_true fun h => t.notMem_head.1 (h ▸ hc)
  rw [toList_line, List.takeWhile_append_of_pos hhead]
  cases t.payload? with
  | none => exact (List.append_nil _).symm
  | some payload => exact (List.append_nil _).symm

theorem bracketed_inj {payload other : Option String} (h : bracketed payload = bracketed other) :
    payload = other := by
  cases payload with
  | none =>
    cases other with
    | none => rfl
    | some => cases h
  | some text =>
    cases other with
    | none => cases h
    | some text' =>
      have htext := List.append_cancel_right (List.cons.inj h).2
      rw [String.toList_inj.mp htext]

/-- Tokens that are inspected alike are alike in name and payload. -/
theorem head_payload_inj {s t : Token} (h : s.outline.line = t.outline.line) :
    s.head = t.head ∧ s.payload? = t.payload? := by
  have hhead : s.head.toList = t.head.toList := by
    rw [head_eq_takeWhile, head_eq_takeWhile, h]
  have hlist := congrArg String.toList h
  rw [toList_line, toList_line, hhead] at hlist
  exact ⟨String.toList_inj.mp hhead, bracketed_inj (List.append_cancel_left hlist)⟩

/-- An inspected token can be told from its line, if it is one that a scan finds. -/
theorem line_inj {s t : Token} (hs : s.Scanned) (ht : t.Scanned)
    (h : s.outline.line = t.outline.line) : s = t := by
  obtain ⟨hhead, hpayload⟩ := head_payload_inj h
  cases s with
  | letWord | printWord | assign | plus =>
    cases t <;> simp [head] at hhead ⊢
  | identifier name =>
    cases t with
    | identifier name' => rw [quoted_inj.mp (Option.some.inj hpayload)]
    | _ => simp [head] at hhead
  | number value =>
    cases t with
    | number value' =>
      obtain ⟨m, rfl⟩ := hs
      obtain ⟨n, rfl⟩ := ht
      rw [Binary64.nearest_inspect_inj (Option.some.inj hpayload)]
    | _ => simp [head] at hhead
  | string value =>
    cases t with
    | string value' => rw [quoted_inj.mp (Option.some.inj hpayload)]
    | _ => simp [head] at hhead

theorem newline_notMem_payload {t : Token} (ht : t.Scanned) {payload : String}
    (h : t.payload? = some payload) : '\n' ∉ payload.toList := by
  cases t with
  | letWord | printWord | assign | plus => cases h
  | identifier name =>
    obtain rfl := Option.some.inj h
    exact newline_notMem_quoted name
  | number value =>
    obtain ⟨n, rfl⟩ := ht
    obtain rfl := Option.some.inj h
    exact Binary64.newline_notMem_inspect n
  | string value =>
    obtain rfl := Option.some.inj h
    exact newline_notMem_quoted value

/-- Whatever a token holds, it is inspected on one line. -/
theorem newline_notMem_line {t : Token} (ht : t.Scanned) : '\n' ∉ t.outline.line.toList := by
  rw [toList_line]
  intro hmem
  cases List.mem_append.mp hmem with
  | inl hhead => exact t.notMem_head.2 hhead
  | inr hmem =>
    cases hpayload : t.payload? with
    | none =>
      rw [hpayload] at hmem
      cases hmem
    | some payload =>
      rw [hpayload] at hmem
      simp [bracketed, newline_notMem_payload ht hpayload] at hmem

end Token

/-! ## 2. Printed lines -/

namespace CommandLine

open QuotingLemmas

theorem notMem_text {p : Position} {c : Char} (hdigit : c.isDigit = false) (hc : c ≠ ':') :
    c ∉ p.text.toList := by
  have hdigits : ∀ n, c ∉ Nat.toDigits 10 n := Position.AddressLemmas.notMem_toDigits_ten hdigit
  rw [Position.toList_text]
  intro h
  cases List.mem_append.mp h with
  | inl hline => exact hdigits _ hline
  | inr h =>
    cases h with
    | head => exact hc rfl
    | tail _ hcolumn => exact hdigits _ hcolumn

theorem toList_tokenRow (t : Located Token) : (tokenRow t).toList =
    t.span.start.text.toList ++
      ' ' :: (List.replicate (12 - t.span.start.text.length) ' ' ++
        t.value.outline.line.toList) := by
  unfold tokenRow padded
  rw [String.toList_append, String.toList_append, String.toList_append, String.toList_ofList,
    List.append_assoc, List.append_assoc]
  congr 1
  rw [← List.append_assoc]
  show List.replicate _ ' ' ++ [' '] ++ _ = ' ' :: List.replicate _ ' ' ++ _
  rw [← List.replicate_succ', List.replicate_succ]

/-- The line of a token tells the token and, by line and column, where it begins. -/
theorem tokenRow_inj {s t : Located Token} (hs : s.value.Scanned) (ht : t.value.Scanned)
    (h : (tokenRow s).toList = (tokenRow t).toList) :
    s.value = t.value ∧ s.span.start.address = t.span.start.address := by
  have hspace : ∀ p : Position, ' ' ∉ p.text.toList := fun _ => notMem_text rfl (by decide)
  rw [toList_tokenRow, toList_tokenRow] at h
  obtain ⟨hplace, hbehind⟩ := append_cons_inj (hspace _) (hspace _) h
  have hplace := String.toList_inj.mp hplace
  rw [hplace] at hbehind
  have hline := String.toList_inj.mp (List.append_cancel_left hbehind)
  exact ⟨Token.line_inj hs ht hline, Position.text_eq_text_iff.mp hplace⟩

theorem newline_notMem_tokenRow {t : Located Token} (ht : t.value.Scanned) :
    '\n' ∉ (tokenRow t).toList := by
  have hplace : '\n' ∉ t.span.start.text.toList := notMem_text rfl (by decide)
  have hspaces : '\n' ∉ List.replicate (12 - t.span.start.text.length) ' ' :=
    fun h => absurd (List.mem_replicate.mp h).2 (by decide)
  rw [toList_tokenRow]
  simp [hplace, hspaces, Token.newline_notMem_line ht]

/-! ## 3. What is printed -/

theorem printed_cons (t : Located Token) (rest : List (Located Token)) :
    printed (t :: rest) = (tokenRow t).toList ++ '\n' :: printed rest := by
  have hline : (tokenLine t).toList = (tokenRow t).toList ++ ['\n'] := String.toList_append
  unfold printed tokenLines
  rw [String.toList_join, String.toList_join, List.map_cons, List.flatMap_cons, hline,
    List.append_assoc]
  rfl

theorem printed_ne_nil (t : Located Token) (rest : List (Located Token)) :
    printed (t :: rest) ≠ [] := by
  rw [printed_cons]
  exact List.append_ne_nil_of_right_ne_nil _ (List.cons_ne_nil _ _)

section Printed

variable {tokens : List (Located Token)} (hscanned : ∀ t ∈ tokens, t.value.Scanned)

include hscanned

theorem count_printed : (printed tokens).count '\n' = tokens.length := by
  induction tokens with
  | nil => rfl
  | cons t rest ih =>
    obtain ⟨ht, hrest⟩ := List.forall_mem_cons.mp hscanned
    have hrow := List.count_eq_zero.mpr (newline_notMem_tokenRow ht)
    rw [printed_cons, List.count_append, hrow, List.count_cons_self, ih hrest, Nat.zero_add,
      List.length_cons]

/-- The lines are those of the tokens, and behind the end of the last nothing follows. -/
theorem splitOn_printed : (printed tokens).splitOn '\n' =
    tokens.map (fun t => (tokenRow t).toList) ++ [[]] := by
  induction tokens with
  | nil => rfl
  | cons t rest ih =>
    obtain ⟨ht, hrest⟩ := List.forall_mem_cons.mp hscanned
    rw [printed_cons, List.splitOn_append_cons_self_of_not_mem (newline_notMem_tokenRow ht),
      ih hrest]
    rfl

theorem printed_inj {others : List (Located Token)} (hothers : ∀ t ∈ others, t.value.Scanned)
    (h : printed tokens = printed others) :
    tokens.map (fun t => (t.value, t.span.start.address)) =
      others.map (fun t => (t.value, t.span.start.address)) := by
  induction tokens generalizing others with
  | nil =>
    cases others with
    | nil => rfl
    | cons t rest => exact absurd h.symm (printed_ne_nil t rest)
  | cons s tokens ih =>
    cases others with
    | nil => exact absurd h (printed_ne_nil s tokens)
    | cons t others =>
      obtain ⟨hs, htokens⟩ := List.forall_mem_cons.mp hscanned
      obtain ⟨ht, hothers⟩ := List.forall_mem_cons.mp hothers
      rw [printed_cons, printed_cons] at h
      obtain ⟨hrow, hrest⟩ :=
        append_cons_inj (newline_notMem_tokenRow hs) (newline_notMem_tokenRow ht) h
      obtain ⟨hvalue, hplace⟩ := tokenRow_inj hs ht hrow
      rw [List.map_cons, List.map_cons, hvalue, hplace, ih htokens hothers hrest]

end Printed

/-! ## 4. Every run -/

theorem exists_askTokens {s : Setting} (hparser : s.parser.Documented) (text : String)
    (options : Options) :
    ∃ files arguments, AskTokens { s with files := files } arguments text options := by
  obtain ⟨mode, rule⟩ := options
  let flags : List Flag := [.errors false mode, .numbers false rule]
  have hspelled : Spelled (.file "script") flags (flags.flatMap Flag.words ++ ["--", "script"]) :=
    .separated (by decide)
  have hflags : Flag.Admissible flags := admissible_pair false false mode rule
  have hholds : (Source.file "script").Holds (fun _ => .ok text.toUTF8) text := rfl
  exact ⟨fun _ => .ok text.toUTF8, _, _, hparser .tokens hflags hspelled,
    text_given hholds flags, options_given _ flags⟩

section Run

variable {s : Setting} {arguments : List String} {text : String} {options : Options}
  {tokens : List (Located Token)}

theorem stdout_of_askTokens (hask : AskTokens s arguments text options)
    (h : Token.locatedOfString text options = .ok tokens) :
    (run s arguments).stdout.toList = printed tokens := by
  obtain ⟨a, hparser, htext, rfl⟩ := hask
  rw [run_of_parsed hparser htext, Command.shown, h]
  exact congrArg String.toList String.empty_append

theorem scanned_of_located (h : Token.locatedOfString text options = .ok tokens) :
    ∀ t ∈ tokens, t.value.Scanned := by
  have hlist : Token.listOfString text options = .ok (tokens.map Located.value) := by
    rw [Token.listOfString, h]
    rfl
  intro t ht
  have hmem := List.mem_map_of_mem (f := Located.value) ht
  rw [← Token.scan_of_listOfString hlist] at hmem
  exact Token.scanned_of_scan hmem

end Run

/-- Every text can be given to the command `tokens`, with all options. When the text has
tokens, the standard output holds as many line feeds as there are tokens, whatever their
strings hold. They divide it into the lines of the tokens, in order, and nothing follows
the last. Two runs of the command that print the same have equal tokens, which begin on
equal lines and columns. -/
theorem token_lines_exact (text : String) (options : Options) :
    (∀ s : Setting, s.parser.Documented →
      ∃ files arguments, AskTokens { s with files := files } arguments text options) ∧
    ∀ s arguments tokens, AskTokens s arguments text options →
      Token.locatedOfString text options = .ok tokens →
      let stdout := (run s arguments).stdout
      stdout.toList.count '\n' = tokens.length ∧
      stdout.toList.splitOn '\n' = tokens.map (fun t => (tokenRow t).toList) ++ [[]] ∧
      ∀ s' arguments' text' options' tokens', AskTokens s' arguments' text' options' →
        Token.locatedOfString text' options' = .ok tokens' →
        (run s' arguments').stdout = stdout →
        tokens'.map Located.value = tokens.map Located.value ∧
        tokens'.map (fun t => (t.span.start.line, t.span.start.column)) =
          tokens.map (fun t => (t.span.start.line, t.span.start.column)) := by
  refine ⟨fun s hparser => exists_askTokens hparser text options,
    fun s arguments tokens hask htokens => ?_⟩
  have hscanned := scanned_of_located htokens
  have hstdout := stdout_of_askTokens hask htokens
  dsimp only
  rw [hstdout]
  refine ⟨count_printed hscanned, splitOn_printed hscanned, ?_⟩
  intro s' arguments' text' options' tokens' hask' htokens' heq
  have hscanned' := scanned_of_located htokens'
  have heq := congrArg String.toList heq
  rw [hstdout, stdout_of_askTokens hask' htokens'] at heq
  have hpairs := printed_inj hscanned' hscanned heq
  have hvalues := congrArg (List.map Prod.fst) hpairs
  have hplaces := congrArg (List.map fun pair => ofLex pair.2) hpairs
  simp only [List.map_map] at hvalues hplaces
  exact ⟨hvalues, hplaces⟩

/-- A string that holds a line feed and a quote stands on one line, and with more blanks
behind it and other options the same is printed. -/
theorem token_lines_exact_line_feed :
    let text := "print \"a\n\\\"\""
    let tokens : List (Located Token) :=
      [⟨.printWord, ⟨⟨0, 1, 1⟩, ⟨5, 1, 6⟩⟩⟩, ⟨.string "a\n\"", ⟨⟨6, 1, 7⟩, ⟨12, 2, 4⟩⟩⟩]
    let s := standardSetting none fun _ => .ok (text ++ "\n").toUTF8
    let stdout := (run s ["tokens", "-e", text]).stdout
    Token.locatedOfString text .standard = .ok tokens ∧
    stdout.toList.count '\n' = 2 ∧
    stdout.toList.splitOn '\n' = ["1:1          Print".toList,
      "1:7          String(\"a\\n\\\"\")".toList, []] ∧
    (run s ["tokens", "a", "--legacy"]).stdout = stdout ∧
    (∀ tokens', Token.locatedOfString (text ++ "\n") .legacy = .ok tokens' →
      tokens'.map Located.value = [.printWord, .string "a\n\""]) ∧
    ∃ files arguments, AskTokens { s with files := files } arguments text .standard := by
  intro text tokens s stdout
  have hask : AskTokens s ["tokens", "-e", text] text .standard :=
    ⟨⟨none, some text, .strict, .longestRun, false⟩, by decide +kernel, rfl, rfl⟩
  have hask' : AskTokens s ["tokens", "a", "--legacy"] (text ++ "\n") .legacy :=
    ⟨⟨some "a", none, .strict, .longestRun, true⟩, by decide +kernel,
      congrArg (Except.mapError ScriptError.read) (fileText_eq rfl), rfl⟩
  have htokens : Token.locatedOfString text .standard = .ok tokens := by decide +kernel
  have heq : (run s ["tokens", "a", "--legacy"]).stdout = stdout := by decide +kernel
  obtain ⟨hexists, hruns⟩ := token_lines_exact text .standard
  obtain ⟨hcount, hlines, hinj⟩ := hruns s _ tokens hask htokens
  refine ⟨htokens, hcount, hlines.trans (by decide +kernel), heq, fun tokens' htokens' => ?_,
    hexists s ArgumentParser.standard_documented⟩
  exact (hinj s _ _ _ tokens' hask' htokens' heq).1

end CommandLine

end Scriptlet
