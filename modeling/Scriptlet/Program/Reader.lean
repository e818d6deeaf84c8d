import Scriptlet.Options
import Scriptlet.Trace

/-!
# Reading programs from tokens

A reader walks over a list of tokens. Its rules read one phrase each. A rule that does not find
its phrase leaves the reader at the token where it began, and notes how far it had looked: from
that the error is made when a program does not use up its tokens.

The grammar:

* a program is a list of statements;
* a statement is `print` followed by an expression;
* an expression is a list of operands with `+` between neighbours, grouped from the right;
* an operand is an identifier, a number or a string.

Results:
1. `operand_some`, `operand_none`: what reading an operand does.
2. `rest_lt_of_statement`: a statement uses up tokens.
-/

namespace Scriptlet

/-- A place in a list of tokens. -/
structure Reader where
  /-- The tokens still to be read. -/
  rest : List Token
  /-- The number of tokens already read. -/
  position : Nat
  /-- The furthest place at which a token was looked at and refused. -/
  furthest : Nat
  /-- What has happened so far, the latest event first. -/
  log : List Event
  deriving DecidableEq

namespace Reader

def ofTokens (tokens : List Token) : Reader := ⟨tokens, 0, 0, []⟩

def note (r : Reader) (event : Event) : Reader := { r with log := event :: r.log }

/-- Reads one token. After the last one nothing changes. -/
def next (r : Reader) : Option Token × Reader :=
  match r.rest with
  | [] => (none, r)
  | token :: rest => (some token, { r with rest := rest, position := r.position + 1 })

/-- Back at the place of an earlier reader, with what has been noted since. -/
def backTo (r earlier : Reader) : Reader :=
  { r with rest := earlier.rest, position := earlier.position }

/-- Back at the place of an earlier reader, whose token is refused. -/
def refuse (r earlier : Reader) : Reader :=
  { r.backTo earlier with furthest := max r.furthest earlier.position }

/-- The operand that a token is, if it is one. -/
def operandOf : Token → Option Expression
  | .identifier name => some (.reference name)
  | .number value => some (.number value)
  | .string value => some (.string value)
  | _ => none

/-! ## The rules -/

def operand (r : Reader) : Option Expression × Reader :=
  match r.next with
  | (some token, after) =>
    match operandOf token with
    | some value => (some value, after.note (.operand value r.position))
    | none => (none, after.refuse r)
  | (none, after) => (none, after.refuse r)

/-- Groups operands from the right. `earlier` holds those before `last`, the nearest first. -/
def grouped (earlier : List Expression) (last : Expression) : Expression :=
  earlier.foldl (fun expression operand => .addition operand expression) last

/-! ### What reading an operand does -/

theorem operand_some {r after : Reader} {value : Expression}
    (h : r.operand = (some value, after)) :
    ∃ token, r.rest = token :: after.rest ∧ operandOf token = some value ∧
      after = ⟨after.rest, r.position + 1, r.furthest, .operand value r.position :: r.log⟩ := by
  unfold operand next at h
  cases hrest : r.rest with
  | nil => simp [hrest] at h
  | cons token rest =>
    simp only [hrest] at h
    split at h
    · rename_i value' hvalue
      obtain ⟨hv, rfl⟩ := Prod.mk.inj h
      obtain rfl := Option.some.inj hv
      exact ⟨token, rfl, hvalue, rfl⟩
    · simp at h

theorem operand_none {r after : Reader} (h : r.operand = (none, after)) :
    after = ⟨r.rest, r.position, max r.furthest r.position, r.log⟩ ∧
      ∀ token, r.rest.head? = some token → operandOf token = none := by
  unfold operand next at h
  cases hrest : r.rest with
  | nil =>
    simp only [hrest] at h
    obtain ⟨-, rfl⟩ := Prod.mk.inj h
    simp [refuse, backTo, hrest]
  | cons token rest =>
    simp only [hrest] at h
    split at h
    · simp at h
    · rename_i hvalue
      obtain ⟨-, rfl⟩ := Prod.mk.inj h
      simp [refuse, backTo, hrest, hvalue]

theorem rest_of_next {r after : Reader} {token : Token}
    (h : r.next = (some token, after)) : r.rest = token :: after.rest := by
  unfold next at h
  split at h
  · simp at h
  · rename_i t rest hrest
    obtain ⟨ht, rfl⟩ := Prod.mk.inj h
    obtain rfl := Option.some.inj ht
    exact hrest

theorem rest_lt_of_pair {r behind after : Reader} {token : Token} {value : Expression}
    (hnext : r.next = (some token, behind)) (hoperand : behind.operand = (some value, after)) :
    after.rest.length < r.rest.length := by
  obtain ⟨operandToken, htoken, -⟩ := operand_some hoperand
  rw [rest_of_next hnext, htoken]
  simp only [List.length_cons]
  omega

/-! ### Expressions and statements -/

/-- Reads as many pairs of a `+` and an operand as there are. `last` is the operand before them
and `earlier` holds those before it, the nearest first. A `+` without an operand behind it is not
read. -/
def sum (earlier : List Expression) (last : Expression) (r : Reader) : Expression × Reader :=
  match hplus : r.next with
  | (some .plus, behindPlus) =>
    match hoperand : behindPlus.operand with
    | (some value, after) =>
      have := rest_lt_of_pair hplus hoperand
      sum (last :: earlier) value after
    -- The `+` belongs to no sum: back to before it.
    | (none, after) => (grouped earlier last, after.backTo r)
  | (_, after) => (grouped earlier last, after.backTo r)
termination_by r.rest.length

def expression (r : Reader) : Option Expression × Reader :=
  match r.operand with
  | (some first, after) =>
    let (value, after) := after.sum [] first
    (some value, after)
  | (none, after) => (none, after)

/-- Reads a print statement. A `print` without an expression behind it is not one. -/
def printStatement (r : Reader) : Option Statement × Reader :=
  match r.next with
  | (some .printWord, behindPrint) =>
    match behindPrint.expression with
    | (some value, after) => (some (.print value), after)
    -- The operand was refused one place further on, so the `print` itself is not.
    | (none, after) => (none, after.backTo r)
  | (_, after) => (none, after.refuse r)

/-- Keeps the place of `let <name> = <expression>`. No script has a declaration yet. -/
def declaration (r : Reader) : Option Statement × Reader := (none, r)

/-- Reads a statement of either kind. -/
def eitherStatement (r : Reader) : Option Statement × Reader :=
  match r.declaration with
  | (some statement, after) => (some statement, after)
  | (none, after) => after.printStatement

/-- Reads a statement, and notes that it was tried and how that ended. -/
def statement (r : Reader) : Option Statement × Reader :=
  let (found, after) := (r.note (.entered r.position)).eitherStatement
  (found, (after.note (.tried found.isSome after.position)).note .left)

/-! ### A statement uses up tokens -/

theorem rest_le_of_sum (earlier : List Expression) (last : Expression) (r : Reader) :
    (r.sum earlier last).2.rest.length ≤ r.rest.length := by
  fun_induction sum earlier last r with
  | case1 earlier last r behindPlus hplus value after hoperand hlt ih => omega
  | case2 earlier last r behindPlus hplus after hoperand => simp [backTo]
  | case3 earlier last r token after hne hnext => simp [backTo]

theorem rest_lt_of_expression {r after : Reader} {value : Expression}
    (h : r.expression = (some value, after)) : after.rest.length < r.rest.length := by
  unfold expression at h
  split at h
  · rename_i first behind hoperand
    obtain ⟨token, htoken, -⟩ := operand_some hoperand
    obtain ⟨-, rfl⟩ := Prod.mk.inj h
    have := rest_le_of_sum [] first behind
    simp only [htoken, List.length_cons]
    omega
  · simp at h

theorem rest_lt_of_printStatement {r after : Reader} {found : Statement}
    (h : r.printStatement = (some found, after)) : after.rest.length < r.rest.length := by
  unfold printStatement at h
  split at h
  · rename_i behindPrint hprint
    split at h
    · rename_i value behind hexpression
      obtain ⟨-, rfl⟩ := Prod.mk.inj h
      have := rest_lt_of_expression hexpression
      simp only [rest_of_next hprint, List.length_cons]
      omega
    · simp at h
  · simp at h

/-- Until there are declarations, a statement is a print statement between its events. -/
theorem statement_eq (r : Reader) :
    r.statement =
      let tried := (r.note (.entered r.position)).printStatement
      (tried.1, (tried.2.note (.tried tried.1.isSome tried.2.position)).note .left) := rfl

theorem rest_lt_of_statement {r after : Reader} {found : Statement}
    (h : r.statement = (some found, after)) : after.rest.length < r.rest.length := by
  rw [statement_eq] at h
  obtain ⟨hfound, hafter⟩ := Prod.mk.inj h
  have hlt := rest_lt_of_printStatement
    (show (r.note (.entered r.position)).printStatement = (some found, _) from
      Prod.ext hfound rfl)
  rw [← hafter]
  exact hlt

/-! ## Whole programs -/

/-- Reads statements until there is none, behind those of `found`. -/
def statementsOnto (found : Array Statement) (r : Reader) : Array Statement × Reader :=
  match h : r.statement with
  | (some statement, after) =>
    have := rest_lt_of_statement h
    statementsOnto (found.push statement) after
  | (none, after) => (found, after)
termination_by r.rest.length

/-- All statements from here on, and where the reader stops. -/
def statements (r : Reader) : List Statement × Reader :=
  let (found, after) := r.statementsOnto #[]
  (found.toList, after)

/-- Why the reader stopped in a list of tokens, if it did so before their end. A refusal further on
than the place where it stopped lies in a statement that is begun. -/
def leftover (tokens : List Token) (r : Reader) : Option ParseError :=
  if r.rest.isEmpty then none
  else if r.position < r.furthest then
    match tokens[r.furthest]? with
    | some token => some (.unexpectedToken token r.furthest)
    | none => some (.unexpectedEnd r.furthest)
  else some (.trailingInput r.rest)

end Reader

/-- A program and the events of reading it. -/
structure ProgramReading where
  result : Except ParseError Program
  events : List Event

namespace ProgramReading

/-- Reads a program from tokens. If tokens are left over, that is an error, which a strict reading
answers and a lenient one only notes. -/
def ofTokens (tokens : List Token) (errors : Strictness) : ProgramReading :=
  let (statements, stop) := (Reader.ofTokens tokens).statements
  let events := stop.log.reverse
  match stop.leftover tokens with
  | none => ⟨.ok ⟨statements⟩, events⟩
  | some error =>
    match errors with
    | .strict => ⟨.error error, events⟩
    | .lenient => ⟨.ok ⟨statements⟩, events ++ [.discardedTokens error]⟩

end ProgramReading

def Program.ofTokens (tokens : List Token) (errors : Strictness) : Except ParseError Program :=
  (ProgramReading.ofTokens tokens errors).result

end Scriptlet
