import Mathlib.Data.List.Nodup
import Mathlib.Data.List.Perm.Basic
import Scriptlet.Program.Disposal
import Scriptlet.Program.Flatten

/-!
# Taking an expression apart reaches every part once

The work list holds some parts of an expression, and what is below them is still to come. A round
takes one part off and puts what is right below it in its place. So every part but the expression
itself leaves the list, each of them once. That is also so where two of them are equal: it is the
paths to them that tell them apart, and the list is followed here with the paths kept beside it.

What goes out of use on the way has placeholders for children. To let go of it reaches nothing of
the expression that it was part of, so calls do not nest deeper for a deeper expression.

Results:
1. `mem_occurrences`, `nodup_occurrences`: the parts of an expression are what its paths lead to.
2. `popped_perm`: what leaves a work list is all that it holds, on it and below it.
3. `popped_finish`, `emptied_of`: what the rounds log.
4. `nestsWithin_three`: how deep disposals nest.
5. `taken_apart_exact`: all of this about every expression.
-/

namespace Scriptlet

/-! ## Definitions -/

/-- A side of a sum. -/
inductive Side where
  | left
  | right
  deriving DecidableEq

/-- The part of an expression at the end of a path from its root. -/
def Expression.part : Expression → List Side → Option Expression
  | e, [] => some e
  | .addition left _, .left :: path => left.part path
  | .addition _ right, .right :: path => right.part path
  | _, _ :: _ => none

theorem Expression.part_nil (e : Expression) : e.part [] = some e := by
  cases e <;> rfl

/-- A part of an expression together with the path to it. -/
structure Occurrence where
  path : List Side
  expression : Expression
  deriving DecidableEq

namespace Occurrence

/-- The same part with the path from a node further up, from which `path` leads here. -/
def below (path : List Side) (o : Occurrence) : Occurrence := ⟨path ++ o.path, o.expression⟩

/-- The two sides of a sum, each with its path. -/
def children (o : Occurrence) : List Occurrence :=
  match o.expression with
  | .addition left right => [⟨o.path ++ [.left], left⟩, ⟨o.path ++ [.right], right⟩]
  | _ => []

theorem map_expression_children (o : Occurrence) :
    o.children.map expression = o.expression.children := by
  rcases o with ⟨path, e⟩
  cases e <;> rfl

theorem load_children (o : Occurrence) (pending : List Occurrence) :
    Disposal.load ((o.children.reverse ++ pending).map expression) + 1 =
      Disposal.load ((o :: pending).map expression) := by
  rw [List.map_append, List.map_reverse, map_expression_children]
  exact Disposal.load_children o.expression _

/-- What leaves a work list, in order, when every expression on it has its path beside it. -/
def popped : List Occurrence → List Occurrence
  | [] => []
  | o :: pending => o :: popped (o.children.reverse ++ pending)
termination_by pending => Disposal.load (pending.map expression)
decreasing_by exact Nat.lt_of_succ_le (Nat.le_of_eq (load_children o pending))

/-- What leaves the work list when an expression is taken apart. -/
def poppedOf (e : Expression) : List Occurrence := popped (children ⟨[], e⟩).reverse

end Occurrence

/-- The parts of an expression: itself, those of its left side and those of its right side. -/
def Expression.occurrences : Expression → List Occurrence
  | .addition left right =>
    ⟨[], .addition left right⟩ ::
      (left.occurrences.map (.below [.left]) ++ right.occurrences.map (.below [.right]))
  | e => [⟨[], e⟩]

namespace Occurrence

def all (o : Occurrence) : List Occurrence := o.expression.occurrences.map (below o.path)

end Occurrence

/-- A leaf, or a sum with placeholders for its sides. -/
def Expression.Hollow (e : Expression) : Prop :=
  e.IsLeaf ∨ e = .addition .placeholder .placeholder

/-- What is left of the expression, and what is left of each part that was taken off the list, are
these without their children. -/
structure Disposal.Emptied (e : Expression) (d : Disposal) : Prop where
  root : d.root = e.shell
  released : d.released = d.popped.map Expression.shell

/-! ## 1. The parts of an expression -/

namespace Occurrence

theorem below_below (path above : List Side) (o : Occurrence) :
    (o.below path).below above = o.below (above ++ path) := by
  rw [below, below, below, List.append_assoc]

theorem below_injective (path : List Side) : Function.Injective (below path) := by
  rintro ⟨p, e⟩ ⟨q, f⟩ h
  obtain ⟨hpath, he⟩ := Occurrence.mk.inj h
  exact congr (congrArg Occurrence.mk (List.append_cancel_left hpath)) he

theorem mem_map_below {side : Side} {os : List Occurrence} {o : Occurrence} :
    o ∈ os.map (below [side]) ↔ ∃ path, o.path = side :: path ∧ ⟨path, o.expression⟩ ∈ os := by
  rw [List.mem_map]
  constructor
  · rintro ⟨inner, hinner, rfl⟩
    exact ⟨inner.path, rfl, hinner⟩
  · rintro ⟨path, hpath, hinner⟩
    refine ⟨⟨path, o.expression⟩, hinner, ?_⟩
    rw [below, List.singleton_append, ← hpath]

theorem all_eq (o : Occurrence) : o.all = o :: o.children.flatMap all := by
  rcases o with ⟨path, e⟩
  cases e with
  | addition left right =>
    have hside (side : Side) (e : Expression) :
        (e.occurrences.map (below [side])).map (below path) =
          all ⟨path ++ [side], e⟩ := by
      rw [List.map_map, all]
      exact List.map_congr_left fun o _ => below_below [side] path o
    rw [all, Expression.occurrences, List.map_cons, List.map_append, hside, hside, children]
    simp only [below, List.append_nil, List.flatMap_cons, List.flatMap_nil]
  | number | string | reference =>
    rw [all, Expression.occurrences, List.map_singleton, below, List.append_nil]
    · rfl
    · rintro _ _ ⟨⟩

end Occurrence

namespace Expression

/-- The parts of an expression are what stands at its paths. -/
theorem mem_occurrences {e : Expression} {o : Occurrence} :
    o ∈ e.occurrences ↔ e.part o.path = some o.expression := by
  rcases o with ⟨path, e'⟩
  induction e generalizing path with
  | addition left right ihl ihr =>
    rw [occurrences, List.mem_cons, List.mem_append, Occurrence.mem_map_below,
      Occurrence.mem_map_below]
    rcases path with _ | ⟨side, path⟩
    · simp [part, eq_comm]
    · cases side <;> simp [part, ihl, ihr]
  | number | string | reference =>
    cases path <;> simp [occurrences, part, eq_comm]

/-- Every part is listed once. -/
theorem nodup_occurrences (e : Expression) : e.occurrences.Nodup := by
  induction e with
  | addition left right ihl ihr =>
    rw [occurrences, List.nodup_cons, List.nodup_append]
    refine ⟨?_, ihl.map (Occurrence.below_injective _), ihr.map (Occurrence.below_injective _), ?_⟩
    · rw [List.mem_append, Occurrence.mem_map_below, Occurrence.mem_map_below]
      rintro (⟨path, hpath, -⟩ | ⟨path, hpath, -⟩) <;> cases hpath
    · rintro o hleft _ hright rfl
      obtain ⟨path, hpath, -⟩ := Occurrence.mem_map_below.mp hleft
      obtain ⟨path', hpath', -⟩ := Occurrence.mem_map_below.mp hright
      cases hpath.symm.trans hpath'
  | number | string | reference => exact List.pairwise_singleton _ _

theorem length_occurrences (e : Expression) : e.occurrences.length = e.nodes := by
  induction e with
  | addition left right ihl ihr =>
    rw [occurrences, List.length_cons, List.length_append, List.length_map, List.length_map, ihl,
      ihr, nodes]
  | number | string | reference => rfl

end Expression

/-! ## 2. What leaves a work list -/

namespace Occurrence

/-- What leaves a work list is what it holds, on it and below it. -/
theorem popped_perm (pending : List Occurrence) :
    (popped pending).Perm (pending.flatMap all) := by
  fun_induction popped pending with
  | case1 => exact .refl _
  | case2 o pending ih =>
    rw [List.flatMap_cons, all_eq, List.cons_append]
    rw [List.flatMap_append] at ih
    have hsides := (List.reverse_perm o.children).flatMap_right all
    exact (ih.trans (hsides.append_right _)).cons o

theorem cons_poppedOf_perm (e : Expression) : (⟨[], e⟩ :: poppedOf e).Perm e.occurrences := by
  have hperm := popped_perm [⟨[], e⟩]
  rw [popped, List.append_nil, List.flatMap_singleton] at hperm
  have hall : all ⟨[], e⟩ = e.occurrences := List.map_id _
  rwa [hall] at hperm

theorem nodup_poppedOf (e : Expression) : (poppedOf e).Nodup :=
  ((cons_poppedOf_perm e).nodup_iff.mpr e.nodup_occurrences).of_cons

theorem mem_poppedOf {e : Expression} {o : Occurrence} :
    o ∈ poppedOf e ↔ o.path ≠ [] ∧ e.part o.path = some o.expression := by
  have hmem : o = ⟨[], e⟩ ∨ o ∈ poppedOf e ↔ e.part o.path = some o.expression := by
    rw [← List.mem_cons, (cons_poppedOf_perm e).mem_iff, Expression.mem_occurrences]
  constructor
  · intro h
    have hpart := hmem.mp (.inr h)
    refine ⟨fun hpath => ?_, hpart⟩
    rcases o with ⟨path, e'⟩
    obtain rfl : path = [] := hpath
    obtain rfl : e = e' := Option.some.inj (e.part_nil.symm.trans hpart)
    have hnodup := (cons_poppedOf_perm e).nodup_iff.mpr e.nodup_occurrences
    exact (List.nodup_cons.mp hnodup).1 h
  · rintro ⟨hpath, hpart⟩
    refine (hmem.mpr hpart).resolve_left ?_
    rintro rfl
    exact hpath rfl

theorem length_poppedOf (e : Expression) : (poppedOf e).length + 1 = e.nodes := by
  rw [← e.length_occurrences, ← (cons_poppedOf_perm e).length_eq, List.length_cons]

end Occurrence

/-! ## 3. What the rounds log -/

namespace Expression

theorem children_of_isLeaf {e : Expression} (h : e.IsLeaf) : e.children = [] := by
  cases e with
  | addition => exact h.elim
  | number | string | reference => rfl

theorem hollow_shell (e : Expression) : e.shell.Hollow := by
  cases e with
  | addition => exact .inr rfl
  | number | string | reference => exact .inl trivial

theorem Hollow.eq_placeholder {e child : Expression} (h : e.Hollow) (hchild : child ∈ e.children) :
    child = placeholder := by
  rcases h with hleaf | rfl
  · rw [children_of_isLeaf hleaf] at hchild
    cases hchild
  · simpa [children] using hchild

end Expression

namespace Disposal

theorem finish_keeps {P : Disposal → Prop} (hround : ∀ {d next}, d.round = some next → P d → P next)
    {d : Disposal} (hd : P d) : P d.finish := by
  fun_induction finish d with
  | case1 d h => exact hd
  | case2 d next h _ ih => exact ih (hround h hd)

theorem pending_finish (d : Disposal) : d.finish.pending = [] := by
  fun_induction finish d with
  | case1 d h =>
    cases hpending : d.pending with
    | nil => rfl
    | cons e pending => cases h.symm.trans (round_of_cons hpending)
  | case2 d next h _ ih => exact ih

/-- The log of the rounds is that of the list with paths. -/
theorem popped_finish {d : Disposal} {ahead : List Occurrence}
    (h : d.pending = ahead.map Occurrence.expression) :
    d.finish.popped = d.popped ++ (Occurrence.popped ahead).map Occurrence.expression := by
  fun_induction Occurrence.popped ahead generalizing d with
  | case1 => rw [finish_of_nil h, List.map_nil, List.append_nil]
  | case2 o ahead ih =>
    have hpast : (d.past o.expression (ahead.map Occurrence.expression)).pending =
        (o.children.reverse ++ ahead).map Occurrence.expression := by
      rw [List.map_append, List.map_reverse, Occurrence.map_expression_children, past]
    rw [finish_of_cons h, ih hpast, List.map_cons]
    exact List.append_assoc d.popped [o.expression] _

theorem popped_of (e : Expression) :
    (of e).popped = (Occurrence.poppedOf e).map Occurrence.expression := by
  have hstart : (start e).pending =
      (Occurrence.children ⟨[], e⟩).reverse.map Occurrence.expression := by
    rw [List.map_reverse, Occurrence.map_expression_children, start]
  rw [of, popped_finish hstart]
  rfl

theorem Emptied.round {e : Expression} {d next : Disposal} (h : d.round = some next)
    (hd : Emptied e d) : Emptied e next := by
  obtain ⟨part, pending, -, rfl⟩ := exists_of_round h
  refine ⟨hd.root, ?_⟩
  show d.released ++ [part.shell] = (d.popped ++ [part]).map Expression.shell
  rw [hd.released, List.map_append, List.map_singleton]

theorem emptied_of (e : Expression) : Emptied e (of e) :=
  finish_keeps Emptied.round ⟨rfl, rfl⟩

theorem hollow_of_mem {root e : Expression} (h : e ∈ (of root).root :: (of root).released) :
    e.Hollow := by
  rw [(emptied_of root).root, (emptied_of root).released, ← List.map_cons] at h
  obtain ⟨part, -, rfl⟩ := List.mem_map.mp h
  exact part.hollow_shell

/-! ## 4. How deep disposals nest -/

theorem of_isLeaf {e : Expression} (h : e.IsLeaf) : of e = ⟨e, [], [], []⟩ := by
  cases e with
  | addition => exact h.elim
  | number | string | reference => exact finish_of_nil rfl

theorem nestsWithin_of_isLeaf {e : Expression} (h : e.IsLeaf) (levels : Nat) :
    NestsWithin (levels + 1) e := by
  refine .intro ?_ ?_
  · rw [of_isLeaf h]
    rintro _ ⟨⟩
  · rw [of_isLeaf h]
    show ∀ child ∈ e.children, _
    rw [Expression.children_of_isLeaf h]
    rintro _ ⟨⟩

theorem nestsWithin_placeholder (levels : Nat) : NestsWithin (levels + 1) .placeholder :=
  nestsWithin_of_isLeaf (e := .placeholder) trivial levels

theorem of_placeholders : of (.addition .placeholder .placeholder) =
    ⟨.addition .placeholder .placeholder, [], [.placeholder, .placeholder],
      [.placeholder, .placeholder]⟩ := by
  rw [of, finish_of_cons rfl, finish_of_cons rfl]
  exact finish_of_nil rfl

/-- What goes out of use is taken apart itself, and only placeholders are found in it. -/
theorem nestsWithin_of_hollow {e : Expression} (h : e.Hollow) : NestsWithin 2 e := by
  rcases h with hleaf | rfl
  · exact nestsWithin_of_isLeaf hleaf 1
  · refine .intro ?_ ?_
    · rw [of_placeholders]
      simp [nestsWithin_placeholder]
    · rw [of_placeholders]
      simp [Expression.children, nestsWithin_placeholder]

theorem nestsWithin_three (e : Expression) : NestsWithin 3 e := by
  refine .intro ?_ ?_
  · intro shell hshell
    exact nestsWithin_of_hollow (hollow_of_mem (List.mem_cons_of_mem _ hshell))
  · intro child hchild
    rw [(hollow_of_mem List.mem_cons_self).eq_placeholder hchild]
    exact nestsWithin_placeholder 1

/-! ## 5. Every expression -/

/-- The rounds come to an end. By then as many parts have left the list as the expression has nodes
besides its own. With the paths kept beside them, no part leaves the list twice, and those that
leave it are the ones to which a path of at least one step leads: each proper part, once. Each of
them goes out of use at the end of its round, and the expression itself when all rounds are done.
What goes out of use is a leaf or a sum of two placeholders, so to let go of it all takes three
levels of calls, however deep the expression is. -/
theorem taken_apart_exact (root : Expression) :
    (of root).pending = [] ∧
    (of root).popped.length = root.nodes - 1 ∧
    (of root).popped = (Occurrence.poppedOf root).map Occurrence.expression ∧
    (Occurrence.poppedOf root).Nodup ∧
    (∀ o, o ∈ Occurrence.poppedOf root ↔ o.path ≠ [] ∧ root.part o.path = some o.expression) ∧
    Emptied root (of root) ∧
    (∀ e ∈ (of root).root :: (of root).released, e.Hollow) ∧
    NestsWithin 3 root := by
  have hlength : (of root).popped.length = root.nodes - 1 := by
    rw [popped_of, List.length_map, ← Occurrence.length_poppedOf, Nat.add_sub_cancel]
  exact ⟨pending_finish _, hlength, popped_of root, Occurrence.nodup_poppedOf root,
    fun _ => Occurrence.mem_poppedOf, emptied_of root, fun _ => hollow_of_mem,
    nestsWithin_three root⟩

-- The sides of `(a + a) + a` leave the list before what is below the left one. The three leaves are
-- equal, and each is there once.
example :
    let a : Expression := .reference "a"
    Occurrence.poppedOf (.addition (.addition a a) a) =
      [⟨[.right], a⟩, ⟨[.left], .addition a a⟩, ⟨[.left, .right], a⟩, ⟨[.left, .left], a⟩] := by
  decide +kernel

end Disposal

end Scriptlet
