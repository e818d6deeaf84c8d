import Scriptlet.Source.Session

/-!
# Histories of reading

However an input is read, kept and gone back to, it only ever divides the source into
what is read and what remains, and the position is that of the division. So a whole
history of operations is described by divisions of the source alone: reading moves
scalars from the one part to the other, and going back brings back a division that
was kept.

Results:
1. `Session.exists_run`: when every operation keeps to a description, every history
   does.
2. `Acceptor.takesLongest_acceptedRun`, `Input.readTested_eq`: what an acceptor takes,
   and acceptors that are tests with a state of their own.
3. `Input.Operation.describes`: what each operation does to the division.
4. `Split.offset_eq_iff`, `Split.offset_eq_iff_alike`: a division is known by the offset
   of its position, and so is what is done from there on.
-/

namespace Scriptlet

/-! ## 1. Histories and their descriptions -/

namespace Session

variable {α β δ ω : Type}

/-- The session of the values that `view` shows. -/
def map (view : δ → α) (s : Session δ) : Session α := ⟨view s.current, s.saved.map view⟩

/-- The session behind a history. -/
def after (step : ω → Session α → β × Session α) (s : Session α) (history : List ω) : Session α :=
  history.foldl (fun s operation => (step operation s).2) s

/-- The value that is at work behind a history that begins with `a`. -/
def reached (step : ω → Session α → β × Session α) (a : α) (history : List ω) : α :=
  ((start a).after step history).current

/-- Whatever is saved and whatever is done from now on, the answers and the values at
work are the same. -/
def Alike (step : ω → Session α → β × Session α) (a b : α) : Prop :=
  ∀ saved history, trail step ⟨a, saved⟩ history = trail step ⟨b, saved⟩ history

/-- Every operation on a session that `view` shows does what `does` says. -/
def Describes (does : ω → Session δ → β → Session δ → Prop) (view : δ → α)
    (step : ω → Session α → β × Session α) : Prop :=
  ∀ operation s, ∃ answer t,
    step operation (s.map view) = (answer, t.map view) ∧ does operation s answer t

/-- Going back brings back what was saved last, and is told from doing nothing. -/
inductive Restores : Session α → Bool → Session α → Prop
  | last (current a : α) (saved : List α) : Restores ⟨current, a :: saved⟩ true ⟨a, saved⟩
  | nothing (current : α) : Restores ⟨current, []⟩ false ⟨current, []⟩

/-- A history in which every operation does what `does` says, with its answers and the
values at work behind each of them. -/
inductive Runs (does : ω → Session δ → β → Session δ → Prop) :
    Session δ → List ω → List (β × δ) → Session δ → Prop
  | nil (s : Session δ) : Runs does s [] [] s
  | cons {operation : ω} {answer : β} {s t u : Session δ} {history : List ω}
      {trail : List (β × δ)} (first : does operation s answer t)
      (others : Runs does t history trail u) :
      Runs does s (operation :: history) ((answer, t.current) :: trail) u

variable {step : ω → Session α → β × Session α} {view : δ → α}
  {does : ω → Session δ → β → Session δ → Prop}

theorem perform_map {operation : α → β × α} {d e : δ} {answer : β}
    (h : operation (view d) = (answer, view e)) (saved : List δ) :
    (Session.map view ⟨d, saved⟩).perform operation = (answer, Session.map view ⟨e, saved⟩) := by
  unfold perform map
  rw [h]

theorem exists_restore (view : δ → α) (s : Session δ) :
    ∃ found t, (s.map view).restore = (found, t.map view) ∧ s.Restores found t := by
  obtain ⟨current, saved⟩ := s
  cases saved with
  | nil => exact ⟨false, _, rfl, .nothing current⟩
  | cons a saved => exact ⟨true, _, rfl, .last current a saved⟩

/-- If every operation does what `does` says, so does a whole history. The induction is
on the history. -/
theorem exists_run (hstep : Describes does view step) (s : Session δ) (history : List ω) :
    ∃ trail t, Runs does s history trail t ∧
      Session.trail step (s.map view) history = trail.map (Prod.map id view) ∧
      (s.map view).after step history = t.map view := by
  induction history generalizing s with
  | nil => exact ⟨[], s, .nil s, rfl, rfl⟩
  | cons operation history ih =>
    obtain ⟨answer, t, hanswer, hdoes⟩ := hstep operation s
    obtain ⟨trail, u, hruns, htrail, hafter⟩ := ih t
    refine ⟨(answer, t.current) :: trail, u, .cons hdoes hruns, ?_, ?_⟩
    · rw [Session.trail, hanswer]
      exact congrArg _ htrail
    · rw [after, List.foldl_cons, hanswer]
      exact hafter

theorem exists_reached (hstep : Describes does view step) (d : δ) (history : List ω) :
    ∃ e, reached step (view d) history = view e := by
  obtain ⟨_, t, -, -, hafter⟩ := exists_run hstep (start d) history
  exact ⟨t.current, congrArg current hafter⟩

theorem alike_iff (idle : ω) (hidle : ∀ a, (step idle ⟨a, []⟩).2.current = a) {a b : α} :
    Alike step a b ↔ a = b := by
  constructor
  · intro h
    have hcurrent : [(step idle ⟨a, []⟩).2.current] = [(step idle ⟨b, []⟩).2.current] :=
      congrArg (List.map Prod.snd) (h [] [idle])
    rw [hidle, hidle] at hcurrent
    exact List.singleton_inj.mp hcurrent
  · rintro rfl _ _
    rfl

end Session

/-! ## 2. Acceptors -/

namespace Acceptor

/-- Every scalar of a text is accepted, each asked for once and in order. The scalars
of `seen` were accepted before, the latest first. -/
def Takes (accept : Acceptor) : List Char → List Char → Prop
  | _, [] => True
  | seen, c :: rest => accept seen c = true ∧ Takes accept (c :: seen) rest

/-- The longest beginning of a text that an acceptor takes. -/
structure TakesLongest (accept : Acceptor) (text taken : List Char) : Prop where
  isPrefix : taken <+: text
  takes : accept.Takes [] taken
  longest : ∀ other, other <+: text → accept.Takes [] other → other <+: taken

/-- The acceptor that asks a test with a state of its own. Each call of the test leaves
the state for the next one. -/
def ofTest {σ : Type} (test : σ → Char → Bool × σ) (state : σ) : Acceptor := fun seen c =>
  (test (seen.foldr (fun d state => (test state d).2) state) c).1

theorem acceptedRun_prefix (accept : Acceptor) (seen text : List Char) :
    Input.acceptedRun accept seen text <+: text := by
  induction text generalizing seen with
  | nil => exact List.nil_prefix
  | cons c rest ih =>
    rw [Input.acceptedRun]
    split
    · exact List.cons_prefix_cons.mpr ⟨rfl, ih (c :: seen)⟩
    · exact List.nil_prefix

theorem takes_acceptedRun (accept : Acceptor) (seen text : List Char) :
    accept.Takes seen (Input.acceptedRun accept seen text) := by
  induction text generalizing seen with
  | nil => trivial
  | cons c rest ih =>
    rw [Input.acceptedRun]
    split
    · rename_i haccept
      exact ⟨haccept, ih (c :: seen)⟩
    · trivial

theorem prefix_acceptedRun {accept : Acceptor} {seen text other : List Char}
    (hinitial : other <+: text) (htakes : accept.Takes seen other) :
    other <+: Input.acceptedRun accept seen text := by
  induction text generalizing seen other with
  | nil =>
    rw [List.prefix_nil.mp hinitial]
    exact List.nil_prefix
  | cons c rest ih =>
    cases other with
    | nil => exact List.nil_prefix
    | cons d other =>
      obtain ⟨rfl, hothers⟩ := List.cons_prefix_cons.mp hinitial
      rw [Input.acceptedRun, if_pos htakes.1]
      exact List.cons_prefix_cons.mpr ⟨rfl, ih hothers htakes.2⟩

theorem takesLongest_acceptedRun (accept : Acceptor) (text : List Char) :
    accept.TakesLongest text (Input.acceptedRun accept [] text) where
  isPrefix := acceptedRun_prefix accept [] text
  takes := takes_acceptedRun accept [] text
  longest _ := prefix_acceptedRun

end Acceptor

namespace Input

/-- Reads one scalar after the other from a text that begins at a position, as long as a
test with a state of its own accepts the next one. -/
def readTested {σ : Type} (test : σ → Char → Bool × σ) (state : σ) (position : Position) :
    List Char → List Char × Input
  | [] => ([], ⟨[], position⟩)
  | c :: rest =>
    match test state c with
    | (true, next) =>
      let (taken, stop) := readTested test next (position.after c) rest
      (c :: taken, stop)
    | (false, _) => ([], ⟨c :: rest, position⟩)

/-- Behind the scalars of `seen`, the loop takes what the acceptor of its test takes. -/
theorem readTested_of_seen {σ : Type} (test : σ → Char → Bool × σ) (state : σ)
    (seen : List Char) (position : Position) (text : List Char) :
    let taken := acceptedRun (.ofTest test state) seen text
    readTested test (seen.foldr (fun d state => (test state d).2) state) position text =
      (taken, ⟨text.drop taken.length, position.past taken⟩) := by
  induction text generalizing seen position with
  | nil => rfl
  | cons c rest ih =>
    have hbehind := ih (c :: seen) (position.after c)
    have haccept : Acceptor.ofTest test state seen c =
        (test (seen.foldr (fun d state => (test state d).2) state) c).1 := rfl
    rw [List.foldr_cons] at hbehind
    rw [readTested, acceptedRun, haccept]
    cases htest : test (seen.foldr (fun d state => (test state d).2) state) c with
    | mk accepted next =>
      rw [htest] at hbehind
      cases accepted with
      | false => rfl
      | true =>
        dsimp only at hbehind ⊢
        rw [hbehind]
        rfl

/-- Reading by a test is reading by its acceptor. -/
theorem readTested_eq {σ : Type} (test : σ → Char → Bool × σ) (state : σ) (i : Input) :
    readTested test state i.position i.remaining = i.readBy (.ofTest test state) :=
  readTested_of_seen test state [] i.position i.remaining

end Input

/-! ## 3. Divisions of the source -/

/-- A source divided into what is read and what remains. -/
structure Split (source : List Char) where
  consumed : List Char
  remaining : List Char
  consumed_append_remaining : consumed ++ remaining = source

namespace Split

variable {source : List Char}

def whole (source : List Char) : Split source := ⟨[], source, rfl⟩

def position (d : Split source) : Position := Position.start.past d.consumed

def input (d : Split source) : Input := ⟨d.remaining, d.position⟩

/-- The scalars of `taken` are read, and no others. -/
structure Passes (d : Split source) (taken : List Char) (e : Split source) : Prop where
  consumed_eq : e.consumed = d.consumed ++ taken
  remaining_eq : d.remaining = taken ++ e.remaining

theorem exists_passes (d : Split source) {t rest : List Char} (h : d.remaining = t ++ rest) :
    ∃ e : Split source, d.Passes t e ∧ e.input = ⟨rest, d.position.past t⟩ := by
  have hsource : d.consumed ++ t ++ rest = source := by
    rw [List.append_assoc, ← h, d.consumed_append_remaining]
  refine ⟨⟨d.consumed ++ t, rest, hsource⟩, ⟨rfl, h⟩, ?_⟩
  rw [input, position, Position.past_append]
  rfl

end Split

namespace Input

variable {source : List Char}

/-- What an operation does to a divided source and to the divisions of it that are kept. -/
inductive Operation.Does :
    Operation → Session (Split source) → Answer → Session (Split source) → Prop
  | peek (s : Session (Split source)) : Does .peek s (.scalar s.current.remaining.head?) s
  | atEnd (s : Session (Split source)) : Does .atEnd s (.flag s.current.remaining.isEmpty) s
  | read {d e : Split source} {c : Char} (saved : List (Split source)) (passes : d.Passes [c] e) :
      Does .read ⟨d, saved⟩ (.scalar (some c)) ⟨e, saved⟩
  | readNothing {d : Split source} (saved : List (Split source)) (atEnd : d.remaining = []) :
      Does .read ⟨d, saved⟩ (.scalar none) ⟨d, saved⟩
  | readBy {accept : Acceptor} {d e : Split source} {taken : List Char}
      (saved : List (Split source)) (passes : d.Passes taken e)
      (longest : accept.TakesLongest d.remaining taken) :
      Does (.readBy accept) ⟨d, saved⟩ (.text taken) ⟨e, saved⟩
  | save (d : Split source) (saved : List (Split source)) :
      Does .save ⟨d, saved⟩ .done ⟨d, d :: saved⟩
  | restore {s t : Session (Split source)} {found : Bool} (restores : s.Restores found t) :
      Does .restore s (.flag found) t

theorem Operation.describes :
    Session.Describes (@Operation.Does source) Split.input Operation.step := by
  rintro operation ⟨d, saved⟩
  cases operation with
  | peek => exact ⟨_, _, rfl, .peek ⟨d, saved⟩⟩
  | atEnd => exact ⟨_, _, rfl, .atEnd ⟨d, saved⟩⟩
  | read =>
    cases hremaining : d.remaining with
    | nil =>
      have hread : d.input.read = (none, d.input) := by
        unfold Input.read
        rw [show d.input.remaining = [] from hremaining]
      refine ⟨_, ⟨d, saved⟩, ?_, .readNothing saved hremaining⟩
      rw [step, Session.perform_map hread]
    | cons c rest =>
      obtain ⟨e, hpasses, he⟩ := d.exists_passes (t := [c]) hremaining
      have hread : d.input.read = (some c, e.input) := by
        unfold Input.read
        rw [show d.input.remaining = c :: rest from hremaining, he]
        rfl
      refine ⟨_, ⟨e, saved⟩, ?_, .read saved hpasses⟩
      rw [step, Session.perform_map hread]
  | readBy accept =>
    have hlongest := accept.takesLongest_acceptedRun d.remaining
    obtain ⟨e, hpasses, he⟩ := d.exists_passes (List.prefix_iff_eq_append.mp hlongest.isPrefix).symm
    have hread : d.input.readBy accept = (acceptedRun accept [] d.remaining, e.input) := by
      rw [he]
      rfl
    refine ⟨_, ⟨e, saved⟩, ?_, .readBy saved hpasses hlongest⟩
    rw [step, Session.perform_map hread]
  | save => exact ⟨_, _, rfl, .save d saved⟩
  | restore =>
    obtain ⟨found, t, hrestore, hrestores⟩ := Session.exists_restore Split.input ⟨d, saved⟩
    refine ⟨.flag found, t, ?_, .restore hrestores⟩
    rw [step, hrestore]

end Input

/-! ## 4. Divisions with the same offset -/

namespace Split

variable {source : List Char}

/-- A division is known by the offset of its position. -/
theorem offset_eq_iff {d e : Split source} : d.position.offset = e.position.offset ↔ d = e := by
  constructor
  · intro h
    rw [position, position, Position.offset_start_past, Position.offset_start_past] at h
    have hsource := d.consumed_append_remaining.trans e.consumed_append_remaining.symm
    obtain ⟨hconsumed, hremaining⟩ := List.append_inj hsource h
    cases d
    cases e
    rw [mk.injEq]
    exact ⟨hconsumed, hremaining⟩
  · rintro rfl
    rfl

/-- Two histories that reach the same offset of a source go on alike, whatever it is
that reads the source. -/
theorem offset_eq_iff_alike {α β ω : Type} {step : ω → Session α → β × Session α}
    {view : Split source → α}
    {does : ω → Session (Split source) → β → Session (Split source) → Prop}
    (hstep : Session.Describes does view step) (idle : ω)
    (hidle : ∀ a, (step idle ⟨a, []⟩).2.current = a) (offset : α → Nat)
    (hoffset : ∀ d, offset (view d) = d.position.offset) (d : Split source)
    (first second : List ω) :
    offset (Session.reached step (view d) first) = offset (Session.reached step (view d) second) ↔
      Session.Alike step (Session.reached step (view d) first)
        (Session.reached step (view d) second) := by
  obtain ⟨e, he⟩ := Session.exists_reached hstep d first
  obtain ⟨f, hf⟩ := Session.exists_reached hstep d second
  rw [he, hf, Session.alike_iff idle hidle]
  constructor
  · intro h
    rw [hoffset, hoffset] at h
    rw [offset_eq_iff.mp h]
  · intro h
    rw [h]

end Split

end Scriptlet
