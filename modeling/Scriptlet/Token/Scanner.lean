import Scriptlet.Binary64.Nearest
import Scriptlet.Options
import Scriptlet.Source.Input
import Scriptlet.Token.Basic

/-!
# Recognizing tokens

A scanner is an input together with the rule for numbers. Each kind of token has a recognizer,
which either reads one token and answers it, or answers nothing and leaves the scanner where it
was. The scanner's step skips blanks and lets the recognizers try in turn.

Results:
1. `Recognizer.Reads`, `Recognizer.Rewinds`: the two sides of a recognizer's contract, and that
   each of the four keeps them.
2. `next_some`, `next_none`: what a step of the scanner reads when it finds a token and when it
   finds none.
3. `scan_eq`: a scan is a step followed by a scan.
-/

namespace Scriptlet

/-- A place in the source and the rule by which digits are numbers. -/
structure Scanner where
  input : Input
  numbers : NumberRule
  deriving DecidableEq

/-- Tries to read one token. Whether it succeeds or not, it says where the scanner is then. -/
abbrev Recognizer := Scanner → Option Token × Scanner

namespace Scanner

def ofString (source : String) (numbers : NumberRule) : Scanner := ⟨.ofString source, numbers⟩

/-- The same scanner at another place. -/
def withInput (s : Scanner) (input : Input) : Scanner := ⟨input, s.numbers⟩

def skipBlanks (s : Scanner) : Scanner := s.withInput (s.input.readWhile isBlank).2

/-! ## The recognizers -/

/-- The signs `=` and `+`. -/
def operator : Recognizer := fun s =>
  match s.input.read with
  | (some '=', after) => (some .assign, s.withInput after)
  | (some '+', after) => (some .plus, s.withInput after)
  | _ => (none, s)

/-- A letter and all alphanumeric scalars behind it. -/
def word : Recognizer := fun s =>
  if s.input.peek.any isAlphabetic then
    let (letters, after) := s.input.readWhile isAlphanumeric
    (some (.ofWord (String.ofList letters)), s.withInput after)
  else (none, s)

/-- All ASCII digits from here on. If a number has to end the input and these digits do not, they
are left alone, and so is a text that is no numeral. -/
def number : Recognizer := fun s =>
  if s.input.peek.any Char.isDigit then
    let (digits, after) := s.input.readWhile Char.isDigit
    if s.numbers = .toEndOfInput && !after.atEnd then (none, s)
    else
      match Binary64.ofNumeral digits with
      | some value => (some (.number value), s.withInput after)
      | none => (none, s)
  else (none, s)

/-- Reads a string literal behind its opening quote. `value` is what was read so far, the latest
scalar first, and `escaped` says whether a backslash stands before the next scalar. -/
def literalRest (escaped : Bool) (value : List Char) (position : Position) :
    List Char → Option (List Char × Input)
  | [] => none
  | c :: rest =>
    if escaped then literalRest false (c :: value) (position.after c) rest
    else if c = '"' then some (value.reverse, ⟨rest, position.after c⟩)
    else if c = '\\' then literalRest true value (position.after c) rest
    else literalRest false (c :: value) (position.after c) rest

/-- A string literal up to its closing quote. Without one, nothing is read. -/
def stringLiteral : Recognizer := fun s =>
  match s.input.read with
  | (some '"', inside) =>
    match literalRest false [] inside.position inside.remaining with
    | some (value, after) => (some (.string (String.ofList value)), s.withInput after)
    | none => (none, s)
  | _ => (none, s)

/-- Lets recognizers try one after the other until one succeeds. Each begins where the one before
it stopped. -/
def firstOf : List Recognizer → Recognizer
  | [], s => (none, s)
  | recognize :: others, s =>
    match recognize s with
    | (some token, after) => (some token, after)
    | (none, after) => firstOf others after

/-- The recognizers in the order in which they try. -/
def recognizers : List Recognizer := [operator, word, number, stringLiteral]

/-- Skips blanks and reads one token. There is none at the end of the source and where no
recognizer succeeds. -/
def next (s : Scanner) : Option (Located Token) × Scanner :=
  let before := s.skipBlanks
  match firstOf recognizers before with
  | (some token, after) => (some ⟨token, before.input.position, after.input.position⟩, after)
  | (none, after) => (none, after)

/-! ## What a recognizer keeps -/

/-- The scanner `after` has read `taken` from `before` and nothing else. -/
structure Reaches (before after : Scanner) (taken : List Char) : Prop where
  text : before.input.remaining = taken ++ after.input.remaining
  position : after.input.position = before.input.position.past taken
  numbers : after.numbers = before.numbers

theorem Reaches.trans {a b c : Scanner} {first second : List Char} (hab : Reaches a b first)
    (hbc : Reaches b c second) : Reaches a c (first ++ second) where
  text := by rw [hab.text, hbc.text, List.append_assoc]
  position := by rw [hbc.position, hab.position, Position.past_append]
  numbers := hbc.numbers.trans hab.numbers

theorem reaches_readWhile (s : Scanner) (accept : Char → Bool) :
    Reaches s (s.withInput (s.input.readWhile accept).2) (s.input.readWhile accept).1 :=
  ⟨(s.input.readWhile_split accept).symm, rfl, rfl⟩

theorem reaches_read {s : Scanner} {c : Char} {after : Input}
    (h : s.input.read = (some c, after)) : Reaches s (s.withInput after) [c] where
  text := (Input.read_position h).1
  position := (Input.read_position h).2
  numbers := rfl

end Scanner

namespace Recognizer

/-- Success reads at least one scalar. -/
def Reads (recognize : Recognizer) : Prop :=
  ∀ {s token after}, recognize s = (some token, after) →
    ∃ taken, taken ≠ [] ∧ Scanner.Reaches s after taken

/-- Failure changes nothing. -/
def Rewinds (recognize : Recognizer) : Prop :=
  ∀ {s after}, recognize s = (none, after) → after = s

end Recognizer

namespace Scanner

theorem operator_reads : Recognizer.Reads operator := by
  intro s token after h
  unfold operator at h
  split at h
  · rename_i input hread
    obtain ⟨-, rfl⟩ := Prod.mk.inj h
    exact ⟨['='], by simp, reaches_read hread⟩
  · rename_i input hread
    obtain ⟨-, rfl⟩ := Prod.mk.inj h
    exact ⟨['+'], by simp, reaches_read hread⟩
  · simp at h

theorem operator_rewinds : Recognizer.Rewinds operator := by
  intro s after h
  unfold operator at h
  split at h
  · simp at h
  · simp at h
  · exact (Prod.mk.inj h).2.symm

/-- Where the next scalar is accepted, something is taken. -/
theorem readWhile_ne_nil {c : Input} {first accept : Char → Bool}
    (hpeek : c.peek.any first = true) (hsub : ∀ ch, first ch = true → accept ch = true) :
    (c.readWhile accept).1 ≠ [] := by
  unfold Input.peek at hpeek
  cases hrem : c.remaining with
  | nil => simp [hrem] at hpeek
  | cons ch rest =>
    have hfirst : first ch = true := by simpa [hrem] using hpeek
    rw [Input.readWhile_eq]
    simp [hrem, hsub ch hfirst]

theorem word_reads : Recognizer.Reads word := by
  intro s token after h
  unfold word at h
  split at h
  · rename_i hpeek
    obtain ⟨-, rfl⟩ := Prod.mk.inj h
    exact ⟨_, readWhile_ne_nil hpeek (by simp +contextual [isAlphanumeric]),
      reaches_readWhile s isAlphanumeric⟩
  · simp at h

theorem word_rewinds : Recognizer.Rewinds word := by
  intro s after h
  unfold word at h
  split at h
  · simp at h
  · exact (Prod.mk.inj h).2.symm

theorem number_reads : Recognizer.Reads number := by
  intro s token after h
  unfold number at h
  split at h
  · rename_i hpeek
    dsimp only at h
    split at h
    · simp at h
    · split at h
      · obtain ⟨-, rfl⟩ := Prod.mk.inj h
        exact ⟨_, readWhile_ne_nil hpeek (fun _ => id), reaches_readWhile s Char.isDigit⟩
      · simp at h
  · simp at h

theorem number_rewinds : Recognizer.Rewinds number := by
  intro s after h
  unfold number at h
  split at h
  · dsimp only at h
    split at h
    · exact (Prod.mk.inj h).2.symm
    · split at h
      · simp at h
      · exact (Prod.mk.inj h).2.symm
  · exact (Prod.mk.inj h).2.symm

theorem literalRest_split {escaped : Bool} {acc text value : List Char} {position : Position}
    {after : Input} (h : literalRest escaped acc position text = some (value, after)) :
    ∃ taken, text = taken ++ after.remaining ∧ after.position = position.past taken := by
  induction text generalizing escaped acc position with
  | nil => simp [literalRest] at h
  | cons c rest ih =>
    -- However `c` is taken, reading goes on behind it.
    have step : ∀ {escaped acc}, literalRest escaped acc (position.after c) rest =
        some (value, after) →
        ∃ taken, c :: rest = taken ++ after.remaining ∧ after.position = position.past taken := by
      intro escaped acc hrest
      obtain ⟨taken, htext, hposition⟩ := ih hrest
      exact ⟨c :: taken, by rw [htext, List.cons_append], hposition⟩
    unfold literalRest at h
    split at h
    · exact step h
    · split at h
      -- The closing quote is the last scalar read.
      · obtain ⟨-, rfl⟩ := Prod.mk.inj (Option.some.inj h)
        exact ⟨[c], rfl, rfl⟩
      · split at h
        · exact step h
        · exact step h

theorem stringLiteral_reads : Recognizer.Reads stringLiteral := by
  intro s token after h
  unfold stringLiteral at h
  split at h
  · rename_i inside hread
    split at h
    · rename_i value input hrest
      obtain ⟨-, rfl⟩ := Prod.mk.inj h
      obtain ⟨taken, htext, hposition⟩ := literalRest_split hrest
      exact ⟨['"'] ++ taken, by simp, (reaches_read hread).trans ⟨htext, hposition, rfl⟩⟩
    · simp at h
  · simp at h

theorem stringLiteral_rewinds : Recognizer.Rewinds stringLiteral := by
  intro s after h
  unfold stringLiteral at h
  split at h
  · split at h
    · simp at h
    · exact (Prod.mk.inj h).2.symm
  · exact (Prod.mk.inj h).2.symm

theorem firstOf_rewinds {rs : List Recognizer} (h : ∀ r ∈ rs, Recognizer.Rewinds r) :
    Recognizer.Rewinds (firstOf rs) := by
  induction rs with
  | nil =>
    intro s after hnone
    exact (Prod.mk.inj hnone).2.symm
  | cons r rest ih =>
    intro s after hnone
    unfold firstOf at hnone
    split at hnone
    · simp at hnone
    · rename_i input hr
      -- The next recognizer begins where this one began.
      have hback := h r List.mem_cons_self hr
      rw [hback] at hnone
      exact ih (fun r hr => h r (List.mem_cons_of_mem _ hr)) hnone

theorem firstOf_reads {rs : List Recognizer} (hreads : ∀ r ∈ rs, Recognizer.Reads r)
    (hrewinds : ∀ r ∈ rs, Recognizer.Rewinds r) : Recognizer.Reads (firstOf rs) := by
  induction rs with
  | nil =>
    intro s token after hsome
    simp [firstOf] at hsome
  | cons r rest ih =>
    intro s token after hsome
    unfold firstOf at hsome
    split at hsome
    · rename_i found input hr
      obtain ⟨-, rfl⟩ := Prod.mk.inj hsome
      exact hreads r List.mem_cons_self hr
    · rename_i input hr
      have hback := hrewinds r List.mem_cons_self hr
      rw [hback] at hsome
      exact ih (fun r hr => hreads r (List.mem_cons_of_mem _ hr))
        (fun r hr => hrewinds r (List.mem_cons_of_mem _ hr)) hsome

theorem recognizers_rewind : ∀ r ∈ recognizers, Recognizer.Rewinds r := by
  intro r hr
  simp only [recognizers, List.mem_cons, List.not_mem_nil, or_false] at hr
  rcases hr with rfl | rfl | rfl | rfl
  · exact operator_rewinds
  · exact word_rewinds
  · exact number_rewinds
  · exact stringLiteral_rewinds

theorem recognizers_read : ∀ r ∈ recognizers, Recognizer.Reads r := by
  intro r hr
  simp only [recognizers, List.mem_cons, List.not_mem_nil, or_false] at hr
  rcases hr with rfl | rfl | rfl | rfl
  · exact operator_reads
  · exact word_reads
  · exact number_reads
  · exact stringLiteral_reads

/-! ## What a step reads -/

/-- A token lies behind the blanks, and its span is what was read for it. -/
theorem next_some {s after : Scanner} {found : Located Token} (h : s.next = (some found, after)) :
    ∃ taken, taken ≠ [] ∧ Reaches s.skipBlanks after taken ∧
      firstOf recognizers s.skipBlanks = (some found.value, after) ∧
      found.span = ⟨s.skipBlanks.input.position, after.input.position⟩ := by
  unfold next at h
  dsimp only at h
  split at h
  · rename_i token input hfirst
    obtain ⟨hfound, rfl⟩ := Prod.mk.inj h
    obtain ⟨taken, hne, hreach⟩ := firstOf_reads recognizers_read recognizers_rewind hfirst
    obtain rfl := Option.some.inj hfound
    exact ⟨taken, hne, hreach, hfirst, rfl⟩
  · simp at h

/-- Without a token only blanks are read. -/
theorem next_none {s after : Scanner} (h : s.next = (none, after)) :
    after = s.skipBlanks ∧ firstOf recognizers s.skipBlanks = (none, s.skipBlanks) := by
  unfold next at h
  dsimp only at h
  split at h
  · simp at h
  · rename_i input hfirst
    have hback := firstOf_rewinds recognizers_rewind hfirst
    obtain rfl := (Prod.mk.inj h).2
    exact ⟨hback, by rw [hfirst, hback]⟩

theorem length_lt_of_next_some {s after : Scanner} {found : Located Token}
    (h : s.next = (some found, after)) :
    after.input.remaining.length < s.input.remaining.length := by
  obtain ⟨taken, hne, hreach, -⟩ := next_some h
  have hblank := congrArg List.length (reaches_readWhile s isBlank).text
  have htoken := congrArg List.length hreach.text
  have hpos := List.length_pos_iff.mpr hne
  simp only [List.length_append, skipBlanks] at hblank htoken
  omega

/-! ## Scanning to the end -/

/-- Reads tokens until there is none, behind those of `found`. -/
def scanOnto (found : Array (Located Token)) (s : Scanner) : Array (Located Token) × Scanner :=
  match h : s.next with
  | (some token, after) =>
    have := length_lt_of_next_some h
    scanOnto (found.push token) after
  | (none, after) => (found, after)
termination_by s.input.remaining.length

/-- All tokens from here on, and where the scanner stops. -/
def scan (s : Scanner) : List (Located Token) × Scanner :=
  let (found, after) := s.scanOnto #[]
  (found.toList, after)

theorem scanOnto_of_some {s after : Scanner} {token : Located Token}
    (h : s.next = (some token, after)) (found : Array (Located Token)) :
    s.scanOnto found = after.scanOnto (found.push token) := by
  rw [scanOnto]
  split
  · rename_i token' after' h'
    obtain ⟨htoken, rfl⟩ := Prod.mk.inj (h.symm.trans h')
    rw [Option.some.inj htoken]
  · rename_i after' h'
    simp [h] at h'

theorem scanOnto_of_none {s after : Scanner} (h : s.next = (none, after))
    (found : Array (Located Token)) : s.scanOnto found = (found, after) := by
  rw [scanOnto]
  split
  · rename_i token' after' h'
    simp [h] at h'
  · rename_i after' h'
    rw [(Prod.mk.inj (h.symm.trans h')).2]

theorem scanOnto_append (found more : Array (Located Token)) (s : Scanner) :
    s.scanOnto (found ++ more) = (found ++ (s.scanOnto more).1, (s.scanOnto more).2) := by
  fun_induction scanOnto more s with
  | case1 more s token after h _ ih => rw [scanOnto_of_some h, Array.push_append, ih]
  | case2 more s after h => rw [scanOnto_of_none h]

theorem scan_eq (s : Scanner) :
    s.scan = match s.next with
      | (some token, after) => (token :: after.scan.1, after.scan.2)
      | (none, after) => ([], after) := by
  split
  · rename_i token after h
    have := scanOnto_append #[token] #[] after
    simp only [Array.append_empty] at this
    simp [scan, scanOnto_of_some h, this]
  · rename_i after h
    simp [scan, scanOnto_of_none h]

end Scanner

end Scriptlet
