import Scriptlet.Program.Basic

/-!
# Taking expressions apart with a work list

A long sum is a deep tree, and a recursion over it takes as many levels. Taking it apart with a
list of expressions still to be done takes none: in each round one expression leaves the list, its
children take its place there, and it goes out of use without them.

Results:
1. `exists_of_round`: what a round does.
2. `load_of_round`: a round takes one node off the list.
-/

namespace Scriptlet

namespace Expression

def nodes : Expression → Nat
  | .addition left right => left.nodes + right.nodes + 1
  | _ => 1

def children : Expression → List Expression
  | .addition left right => [left, right]
  | _ => []

/-- The leaf that is left where a child was taken away. -/
def placeholder : Expression := .number ⟨0⟩

/-- An expression whose children were taken away. -/
def shell : Expression → Expression
  | .addition _ _ => .addition placeholder placeholder
  | e => e

end Expression

/-- The taking apart of an expression, as far as it has come. -/
structure Disposal where
  /-- What is left of the expression itself. -/
  root : Expression
  /-- The parts still to be taken apart. The list is a stack, with its top in front. -/
  pending : List Expression
  /-- The parts that have left the list, in order. -/
  popped : List Expression
  /-- What has gone out of use at the end of each round. -/
  released : List Expression

namespace Disposal

/-- The number of nodes of all expressions on a work list. -/
def load : List Expression → Nat
  | [] => 0
  | e :: pending => e.nodes + load pending

/-- An expression leaves one node behind when its children take its place. -/
theorem load_children (e : Expression) (pending : List Expression) :
    load (e.children.reverse ++ pending) + 1 = load (e :: pending) := by
  cases e with
  | addition left right =>
    simp only [Expression.children, List.reverse_cons, List.reverse_nil, List.nil_append,
      List.cons_append, load, Expression.nodes]
    omega
  | number | string | reference =>
    simp only [Expression.children, List.reverse_nil, List.nil_append, load, Expression.nodes]
    omega

/-- Before the first round, the children of the expression are moved to the list, the left one
first, and leave placeholders. -/
def start (e : Expression) : Disposal := ⟨e.shell, e.children.reverse, [], []⟩

/-- Behind a round in which `e` leaves the list: its children are moved to the list like those of the
first expression, and what is left of it goes out of use. -/
def past (d : Disposal) (e : Expression) (pending : List Expression) : Disposal :=
  ⟨d.root, e.children.reverse ++ pending, d.popped ++ [e], d.released ++ [e.shell]⟩

/-- One round, unless the list is empty. -/
def round (d : Disposal) : Option Disposal :=
  match d.pending with
  | [] => none
  | e :: pending => some (d.past e pending)

theorem round_of_cons {d : Disposal} {e : Expression} {pending : List Expression}
    (h : d.pending = e :: pending) : d.round = some (d.past e pending) := by
  rw [round, h]

theorem exists_of_round {d next : Disposal} (h : d.round = some next) :
    ∃ e pending, d.pending = e :: pending ∧ next = d.past e pending := by
  cases hpending : d.pending with
  | nil =>
    rw [round, hpending] at h
    cases h
  | cons e pending =>
    exact ⟨e, pending, rfl, Option.some.inj (h.symm.trans (round_of_cons hpending))⟩

theorem load_of_round {d next : Disposal} (h : d.round = some next) :
    load next.pending + 1 = load d.pending := by
  obtain ⟨e, pending, hpending, rfl⟩ := exists_of_round h
  rw [hpending]
  exact load_children e pending

def finish (d : Disposal) : Disposal :=
  match h : d.round with
  | none => d
  | some next =>
    have := load_of_round h
    next.finish
termination_by load d.pending

theorem finish_of_nil {d : Disposal} (h : d.pending = []) : d.finish = d := by
  rw [finish]
  split
  · rfl
  · rename_i next hround
    obtain ⟨e, pending, hpending, -⟩ := exists_of_round hround
    cases h.symm.trans hpending

theorem finish_of_cons {d : Disposal} {e : Expression} {pending : List Expression}
    (h : d.pending = e :: pending) : d.finish = (d.past e pending).finish := by
  have hround := round_of_cons h
  rw [finish]
  split
  · rename_i hnone
    cases hround.symm.trans hnone
  · rename_i next hsome
    obtain rfl := Option.some.inj (hsome.symm.trans hround)
    rfl

/-- The taking apart of an expression, when all rounds are done. -/
def of (e : Expression) : Disposal := (start e).finish

/-- Letting go of an expression takes at most so many disposals inside one another. First it is
taken apart, and what goes out of use in a round is let go of in that round. The children that are
left in it are let go of in the end. -/
inductive NestsWithin : Nat → Expression → Prop
  | intro {levels : Nat} {e : Expression}
      (released : ∀ shell ∈ (of e).released, NestsWithin levels shell)
      (children : ∀ child ∈ (of e).root.children, NestsWithin levels child) :
      NestsWithin (levels + 1) e

end Disposal

end Scriptlet
