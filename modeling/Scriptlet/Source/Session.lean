import Scriptlet.Source.Input

/-!
# Reading with places to go back to

A session works on a value and keeps earlier states of it on a stack. The operations on an input
are data, so that a whole history of reading is a list, and each operation has an answer.
-/

namespace Scriptlet

/-- A value at work and the states of it that were saved, the latest first. -/
structure Session (α : Type) where
  current : α
  saved : List α

namespace Session

variable {α : Type}

def start (a : α) : Session α := ⟨a, []⟩

def save (s : Session α) : Session α := ⟨s.current, s.current :: s.saved⟩

/-- Goes back to the state saved last and forgets it there. Answers whether there was one. -/
def restore (s : Session α) : Bool × Session α :=
  match s.saved with
  | [] => (false, s)
  | a :: rest => (true, ⟨a, rest⟩)

def perform {β : Type} (operation : α → β × α) (s : Session α) : β × Session α :=
  let (answer, next) := operation s.current
  (answer, ⟨next, s.saved⟩)

/-- Takes steps one after the other, collecting each answer with the state it leaves. -/
def trail {ω β : Type} (step : ω → Session α → β × Session α) (s : Session α) :
    List ω → List (β × α)
  | [] => []
  | operation :: rest =>
    let (answer, next) := step operation s
    (answer, next.current) :: trail step next rest

end Session

namespace Input

/-- What can be done with an input. -/
inductive Operation where
  | peek
  | read
  | atEnd
  | readBy (accept : Acceptor)
  | save
  | restore

/-- What an operation on an input tells. -/
inductive Answer where
  | scalar (c : Option Char)
  | flag (b : Bool)
  | text (taken : List Char)
  | done

/-- Carries out one operation. Looking at the next scalar and asking for the end read nothing. -/
def Operation.step (operation : Operation) (s : Session Input) : Answer × Session Input :=
  match operation with
  | .peek => (.scalar s.current.peek, s)
  | .atEnd => (.flag s.current.atEnd, s)
  | .read =>
    let (c, after) := s.perform Input.read
    (.scalar c, after)
  | .readBy accept =>
    let (taken, after) := s.perform (Input.readBy accept)
    (.text taken, after)
  | .save => (.done, s.save)
  | .restore =>
    let (found, after) := s.restore
    (.flag found, after)

end Input

end Scriptlet
