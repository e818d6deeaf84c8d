import Mathlib.Data.List.Forall2
import Scriptlet.Proofs.Program.Acceptance

/-!
# The events of reading a program

A reader tries to read one statement after the other until a trial fails. What it
notes falls into one group of events for each trial: where it began, the operands
that were read in it, how it ended. A rule that goes back never leaves an operand
noted, since it goes back from where an operand was looked for and not found.

Results:
1. `Expression.placed`: the leaves of an expression with the places of their tokens.
2. `Trial.exists_finds`, `Trial.exists_run`: what one statement adds to the log, and
   what the loop adds.
3. `ProgramReading.exists_trials`: all events of reading a program.
-/

namespace Scriptlet

/-! ## Definitions -/

/-- The leaves of an expression whose first token has the number `place`, each with
the number of its token. -/
def Expression.placed : Expression → Nat → List (Expression × Nat)
  | .addition left right, place =>
    left.placed place ++ right.placed (place + left.tokens.length + 1)
  | e, place => [(e, place)]

/-- What is noted of input that is dropped: the error that a strict reading answers, and
nothing when the reading is strict itself. -/
def Strictness.dropped {ε α : Type} (errors : Strictness) (event : ε → Event)
    (strict : Except ε α) : List Event :=
  match errors, strict with
  | .lenient, .error error => [event error]
  | _, _ => []

/-- One trial to read a statement. -/
structure Trial where
  /-- The place at which it begins. -/
  entry : Nat
  /-- The operands read in it, and the places of their tokens. -/
  operands : List (Expression × Nat)
  /-- Was there a statement? -/
  matched : Bool
  /-- The place at which reading goes on. -/
  stop : Nat

namespace Trial

def events (t : Trial) : List Event :=
  .entered t.entry :: t.operands.map (fun x => .operand x.1 x.2) ++
    [.tried t.matched t.stop, .left]

/-- The trial finds the statement `s` in the tokens from its entry to its stop. Its
operands are the leaves of `s` from left to right, each at the place of its token. -/
structure Finds (tokens : List Token) (s : Statement) (t : Trial) : Prop where
  matched : t.matched = true
  entry_lt_stop : t.entry < t.stop
  tokens_eq : (tokens.take t.stop).drop t.entry = s.tokens
  leaves : t.operands.map Prod.fst = s.leaves
  ascending : (t.operands.map Prod.snd).Pairwise (· < ·)
  placed : ∀ x ∈ t.operands, t.entry < x.2 ∧ x.2 < t.stop ∧
    ∃ token, tokens[x.2]? = some token ∧ Reader.operandOf token = some x.1

/-- The trial finds no statement. It reads no operand and stops where it began. -/
structure Fails (t : Trial) : Prop where
  matched : t.matched = false
  stop_eq_entry : t.stop = t.entry
  operands : t.operands = []

/-- The first of these trials begins at a place, and each other one where the one
before it stopped. -/
def Chained : Nat → List Trial → Prop
  | _, [] => True
  | place, t :: behind => t.entry = place ∧ Chained t.stop behind

end Trial

/-! ## 1. The leaves of an expression and their places -/

namespace Expression

theorem readEvents_eq (e : Expression) (place : Nat) :
    e.readEvents place = (e.placed place).map fun x => .operand x.1 x.2 := by
  induction e generalizing place with
  | addition left right ihl ihr => rw [readEvents, placed, List.map_append, ihl, ihr]
  | number | string | reference => rfl

theorem map_fst_placed (e : Expression) (place : Nat) :
    (e.placed place).map Prod.fst = e.leaves := by
  induction e generalizing place with
  | addition left right ihl ihr => rw [placed, List.map_append, ihl, ihr, leaves]
  | number | string | reference => rfl

theorem placed_bounds {e : Expression} {place : Nat} {x : Expression × Nat}
    (h : x ∈ e.placed place) : place ≤ x.2 ∧ x.2 < place + e.tokens.length := by
  induction e generalizing place with
  | addition left right ihl ihr =>
    have hlength : (addition left right).tokens.length =
        left.tokens.length + (right.tokens.length + 1) := by
      rw [tokens, List.length_append, List.length_cons]
    rw [placed] at h
    rcases List.mem_append.mp h with hleft | hright
    · have := ihl hleft
      omega
    · have := ihr hright
      omega
  | number | string | reference =>
    obtain rfl := List.mem_singleton.mp h
    exact ⟨Nat.le_refl _, Nat.lt_succ_self _⟩

theorem pairwise_placed (e : Expression) (place : Nat) :
    ((e.placed place).map Prod.snd).Pairwise (· < ·) := by
  induction e generalizing place with
  | addition left right ihl ihr =>
    rw [placed, List.map_append, List.pairwise_append]
    refine ⟨ihl place, ihr _, ?_⟩
    intro i hi j hj
    obtain ⟨x, hx, rfl⟩ := List.mem_map.mp hi
    obtain ⟨y, hy, rfl⟩ := List.mem_map.mp hj
    have hleft := (placed_bounds hx).2
    have hright := (placed_bounds hy).1
    omega
  | number | string | reference => exact List.pairwise_singleton _ _

theorem token_of_isLeaf {e : Expression} (he : e.IsLeaf) (before behind : List Token) :
    ∃ token, (before ++ (e.tokens ++ behind))[before.length]? = some token ∧
      Reader.operandOf token = some e := by
  obtain ⟨token, htoken, hvalue⟩ := Reader.exists_token_of_isLeaf he
  refine ⟨token, ?_, hvalue⟩
  rw [htoken, List.getElem?_append_right (Nat.le_refl _), Nat.sub_self]
  rfl

theorem token_of_placed {e : Expression} (before behind : List Token) {x : Expression × Nat}
    (h : x ∈ e.placed before.length) :
    ∃ token, (before ++ (e.tokens ++ behind))[x.2]? = some token ∧
      Reader.operandOf token = some x.1 := by
  induction e generalizing before behind with
  | addition left right ihl ihr =>
    rw [placed] at h
    rw [tokens, List.append_assoc, List.cons_append]
    rcases List.mem_append.mp h with hleft | hright
    · exact ihl before (.plus :: (right.tokens ++ behind)) hleft
    · have hplace : before.length + left.tokens.length + 1 =
          (before ++ left.tokens ++ [Token.plus]).length := by
        rw [List.length_append, List.length_append, List.length_singleton]
      rw [hplace] at hright
      have htoken := ihr (before ++ left.tokens ++ [.plus]) behind hright
      simpa only [List.append_assoc, List.singleton_append] using htoken
  | number | string | reference =>
    obtain rfl := List.mem_singleton.mp h
    refine token_of_isLeaf ?_ before behind
    trivial

end Expression

/-! ## 2. What the loop notes -/

namespace Trial

/-- The trial that finds `print` and an expression. -/
def ofPrint (e : Expression) (entry : Nat) : Trial :=
  ⟨entry, e.placed (entry + 1), true, entry + (Statement.print e).tokens.length⟩

theorem finds_ofPrint (e : Expression) (before rest : List Token) :
    (ofPrint e before.length).Finds (before ++ ((Statement.print e).tokens ++ rest)) (.print e) where
  matched := rfl
  entry_lt_stop := Nat.lt_add_of_pos_right (Nat.succ_pos _)
  tokens_eq := by
    have hstop : (ofPrint e before.length).stop = (before ++ (Statement.print e).tokens).length :=
      List.length_append.symm
    rw [← List.append_assoc, hstop, List.take_left]
    exact List.drop_left
  leaves := e.map_fst_placed _
  ascending := e.pairwise_placed _
  placed := by
    intro x hx
    change x ∈ e.placed (before.length + 1) at hx
    have hbounds := Expression.placed_bounds hx
    have hplace : before.length + 1 = (before ++ [Token.printWord]).length := by
      rw [List.length_append, List.length_singleton]
    have htoken := Expression.token_of_placed (before ++ [.printWord]) rest (hplace ▸ hx)
    rw [List.append_assoc, List.singleton_append] at htoken
    rw [Nat.add_assoc, Nat.add_comm 1] at hbounds
    exact ⟨hbounds.1, hbounds.2, htoken⟩

theorem log_pastPrint (r : Reader) (e : Expression) (rest : List Token) :
    (r.pastStatement (.print e) rest).log = (ofPrint e r.position).events.reverse ++ r.log := by
  have hlog : (r.pastStatement (.print e) rest).log =
      .left :: .tried true (r.position + 1 + e.tokens.length) ::
        ((e.readEvents (r.position + 1)).reverse ++ .entered r.position :: r.log) := rfl
  have hstop : r.position + 1 + e.tokens.length = (ofPrint e r.position).stop :=
    Nat.add_right_comm r.position 1 e.tokens.length
  rw [hlog, hstop, Expression.readEvents_eq]
  simp [events, ofPrint]

/-- A statement that is found adds the events of one trial. -/
theorem exists_finds {s : Statement} (hs : s.Canonical) (rest : List Token) {r : Reader}
    {before : List Token} (hposition : r.position = before.length) :
    ∃ t : Trial, t.Finds (before ++ (s.tokens ++ rest)) s ∧ t.entry = r.position ∧
      t.stop = (r.pastStatement s rest).position ∧
      (r.pastStatement s rest).log = t.events.reverse ++ r.log := by
  have hplace := Reader.position_pastStatement hs r rest
  cases s with
  | declaration => exact hs.elim
  | print e =>
    exact ⟨ofPrint e r.position, hposition ▸ finds_ofPrint e before rest, rfl, hplace.symm,
      log_pastPrint r e rest⟩

/-- The loop adds the events of one trial for each statement that it finds, and each
trial begins where the one before it stopped. The induction is on the statements. -/
theorem exists_run (statements : List Statement) (rest : List Token)
    (hcanonical : Program.Canonical ⟨statements⟩) {r : Reader} {before : List Token}
    (hposition : r.position = before.length) :
    ∃ found, List.Forall₂ (Finds (before ++ (Program.tokens ⟨statements⟩ ++ rest)))
        statements found ∧
      (∀ behind, Chained (r.pastStatements statements rest).position behind →
        Chained r.position (found ++ behind)) ∧
      (r.pastStatements statements rest).log = (found.flatMap events).reverse ++ r.log := by
  induction statements generalizing r before with
  | nil => exact ⟨[], .nil, fun _ h => h, rfl⟩
  | cons s statements ih =>
    obtain ⟨hs, hstatements⟩ := Program.canonical_cons.mp hcanonical
    let behindFirst := r.pastStatement s (Program.tokens ⟨statements⟩ ++ rest)
    obtain ⟨t, hfinds, hentry, hstop, hlog⟩ :=
      exists_finds hs (Program.tokens ⟨statements⟩ ++ rest) hposition
    have hbehind : behindFirst.position = (before ++ s.tokens).length := by
      rw [Reader.position_pastStatement hs, hposition, List.length_append]
    obtain ⟨found, hfound, hchained, hlogs⟩ := ih hstatements hbehind
    rw [List.append_assoc] at hfound
    refine ⟨t :: found, ?_, fun behind h => ⟨hentry, hstop ▸ hchained behind h⟩, ?_⟩
    · rw [Program.tokens_cons, List.append_assoc]
      exact .cons hfinds hfound
    · show (behindFirst.pastStatements statements rest).log = _
      rw [hlogs, hlog, List.flatMap_cons, List.reverse_append, List.append_assoc]

/-- The trial behind the last statement notes no operand, and none of what was refused
in it. -/
theorem log_pastTrial (r : Reader) :
    r.pastTrial.log = (events ⟨r.position, [], false, r.position⟩).reverse ++ r.log := rfl

theorem pairwise_stop {tokens : List Token} {statements : List Statement} {found : List Trial}
    (hfound : List.Forall₂ (Finds tokens) statements found) {place : Nat}
    (hchained : Chained place found) :
    (found.map stop).Pairwise (· < ·) ∧ ∀ t ∈ found, place < t.stop := by
  induction hfound generalizing place with
  | nil => exact ⟨.nil, fun _ h => nomatch h⟩
  | cons hfinds _ ih =>
    obtain ⟨hentry, hchained⟩ := hchained
    obtain ⟨hpairwise, hbehind⟩ := ih hchained
    have hplace := hentry ▸ hfinds.entry_lt_stop
    refine ⟨List.pairwise_cons.mpr ⟨fun stop h => ?_, hpairwise⟩, fun t h => ?_⟩
    · obtain ⟨t, ht, rfl⟩ := List.mem_map.mp h
      exact hbehind t ht
    · rcases List.mem_cons.mp h with rfl | h
      · exact hplace
      · exact Nat.lt_trans hplace (hbehind t h)

theorem Chained.of_append {place : Nat} {found behind : List Trial}
    (h : Chained place (found ++ behind)) : Chained place found := by
  induction found generalizing place with
  | nil => trivial
  | cons t found ih => exact ⟨h.1, ih h.2⟩

end Trial

/-! ## 3. All events -/

namespace ProgramReading

/-- Behind the events of its trials, a lenient reading notes the error that a strict one
answers. -/
theorem events_ofTokens (tokens : List Token) (errors : Strictness) :
    (ofTokens tokens errors).events = (Reader.ofTokens tokens).statements.2.log.reverse ++
      errors.dropped .discardedTokens (Program.ofTokens tokens .strict) := by
  unfold Program.ofTokens ofTokens
  dsimp only
  cases (Reader.ofTokens tokens).statements.2.leftover tokens with
  | none => cases errors <;> exact (List.append_nil _).symm
  | some error =>
    cases errors with
    | strict => exact (List.append_nil _).symm
    | lenient => rfl

/-- The trials of a reading: one for each statement of the program that a lenient reading
makes, and one that finds none. -/
theorem exists_trials (tokens : List Token) :
    ∃ p found last, Program.ofTokens tokens .lenient = .ok p ∧
      List.Forall₂ (Trial.Finds tokens) p.statements found ∧ Trial.Fails last ∧
      Trial.Chained 0 (found ++ [last]) ∧
      (Reader.ofTokens tokens).statements.2.log.reverse =
        (found ++ [last]).flatMap Trial.events := by
  obtain ⟨p, rest, hp, rfl, hends⟩ := Program.exists_program tokens
  have hstart : (Reader.ofTokens (p.tokens ++ rest)).position = ([] : List Token).length := rfl
  obtain ⟨found, hfound, hchained, hlog⟩ := Trial.exists_run p.statements rest hp hstart
  let stop := (Reader.ofTokens (p.tokens ++ rest)).pastStatements p.statements rest
  let last : Trial := ⟨stop.position, [], false, stop.position⟩
  refine ⟨p, found, last, ?_, hfound, ⟨rfl, rfl, rfl⟩, hchained [last] ⟨rfl, trivial⟩, ?_⟩
  · rw [Program.ofTokens_eq hp hends, if_pos (.inr rfl)]
  · rw [Reader.statements_of_tokens hp hends rfl, Trial.log_pastTrial, hlog]
    simp [Reader.ofTokens, last, stop]

end ProgramReading

end Scriptlet
