import Mathlib.Data.List.Basic
import Mathlib.Logic.Relation

/-!
# Walking a directory tree

A path is resolved one segment at a time: a segment leaves the position as it is, goes to
the parent, or goes to a child.  What a tree is, how its children are found and where the
parent of a position lies is left open, so that a link may make a child of anything and a
parent need not undo a step to a child.  A position is *below* another if it is reached
from it through children alone.

In the tree of names, where a position is the list of names from the top, that is a prefix.

## Main definitions

* `Paths.Tree`, `Paths.Segment` — directory trees, and what a segment of a path does.
* `Paths.Tree.walk` — the position that segments lead to.
* `Paths.Tree.Below` — one position is another one, or lies below it.
* `Paths.names` — the tree of names.

## Main results

* `Paths.Tree.below_walk` — **segments that never go up stay below where they start.**
* `Paths.names_walk_down`, `Paths.names_below_iff` — the tree of names.
-/

namespace Paths

variable {P N : Type}

/-- A directory tree with positions `P` and names `N`. -/
structure Tree (P N : Type) where
  parent : P → P
  child : P → N → P

/-- What a segment of a path does. -/
inductive Segment (N : Type)
  | stay
  | up
  | down (name : N)
  deriving DecidableEq

namespace Tree

variable (tree : Tree P N)

/-- Where a segment leads. -/
def move (position : P) : Segment N → P
  | .stay => position
  | .up => tree.parent position
  | .down name => tree.child position name

/-- Where the segments lead, one after the other. -/
def walk (position : P) (segments : List (Segment N)) : P := segments.foldl tree.move position

@[simp] theorem walk_nil (position : P) : tree.walk position [] = position := rfl

@[simp] theorem walk_cons (position : P) (segment : Segment N) (segments : List (Segment N)) :
    tree.walk position (segment :: segments) = tree.walk (tree.move position segment) segments :=
  rfl

/-- The position is the root, or reached from it through children alone. -/
def Below (root position : P) : Prop :=
  Relation.ReflTransGen (fun p q => ∃ name, q = tree.child p name) root position

variable {tree}

/-- One segment that does not go up stays below. -/
theorem Below.move {root position : P} (h : tree.Below root position) {segment : Segment N}
    (hup : segment ≠ .up) : tree.Below root (tree.move position segment) := by
  cases segment with
  | stay => exact h
  | up => exact absurd rfl hup
  | down name => exact h.tail ⟨name, rfl⟩

/-- **Segments that never go up stay below where they start.** -/
theorem below_walk {segments : List (Segment N)} (h : .up ∉ segments) {root position : P}
    (hbelow : tree.Below root position) : tree.Below root (tree.walk position segments) := by
  induction segments generalizing position with
  | nil => exact hbelow
  | cons segment segments ih =>
    rw [List.mem_cons, not_or] at h
    rw [walk_cons]
    exact ih h.2 (hbelow.move (Ne.symm h.1))

end Tree

/-! ### Separators -/

/-- Separators that do not occur in a path do not split it. -/
theorem splitOnP_congr {p q : N → Bool} {path : List N} (h : ∀ a ∈ path, p a = q a) :
    path.splitOnP p = path.splitOnP q := by
  induction path with
  | nil => rfl
  | cons a path ih =>
    obtain ⟨hfirst, hrest⟩ := List.forall_mem_cons.mp h
    rw [List.splitOnP_cons_eq_if_modifyHead, List.splitOnP_cons_eq_if_modifyHead, hfirst, ih hrest]

/-! ### The tree of names -/

/-- The tree in which a position is the list of the names that lead to it. -/
def names (N : Type) : Tree (List N) N where
  parent := List.dropLast
  child := fun position name => position ++ [name]

/-- Segments that only go down add their names. -/
theorem names_walk_down (root more : List N) :
    (names N).walk root (more.map .down) = root ++ more := by
  induction more generalizing root with
  | nil => rw [List.map_nil, Tree.walk_nil, List.append_nil]
  | cons name more ih =>
    rw [List.map_cons, Tree.walk_cons, ih]
    exact List.append_cons root name more |>.symm

theorem names_below_iff {root position : List N} :
    (names N).Below root position ↔ root <+: position := by
  constructor
  · intro h
    induction h with
    | refl => exact List.prefix_rfl
    | tail _ hchild ih =>
      obtain ⟨name, rfl⟩ := hchild
      exact ih.trans (List.prefix_append _ _)
  · rintro ⟨more, rfl⟩
    rw [← names_walk_down]
    exact Tree.below_walk (by simp) .refl

end Paths
