import Mathlib.Data.List.Basic
import Mathlib.Data.Nat.Notation

/-!
# Cutting items off a stream

A cutter takes items off the front of a buffer for as long as it can, and waits for more
input when it cannot.  What it has cut off, more input behind it does not change.  But
the call that finds nothing may tidy the buffer up, and drop what it takes for garbage.
As long as that loses nothing (`Cutter.Lossless`), the items do not depend on where the
stream was cut into reads: `Cutter.outputs_append_of_lossless` is the step of that
argument.

## Main definitions

* `Cutter` — a function that cuts one item off a buffer.
* `Cutter.last`, `Cutter.outputs`, `Cutter.rest` — cutting until nothing is found: the
  buffer of the last call, the items, and the buffer it leaves.
* `Cutter.Lossless` — tidying a buffer up loses no item.

## Main results

* `Cutter.length_outputs_le` — a buffer holds no more items than symbols.
* `Cutter.outputs_append` — **what was cut off stays cut off.**
* `Cutter.outputs_append_of_lossless` — the items of a buffer and of what follows it.
-/

namespace Cutting

/-- A function that cuts one item off the front of a buffer, or finds none. -/
structure Cutter (α ω : Type) where
  pop : List α → List α × Option ω
  /-- An item takes something off the buffer. -/
  shorter : ∀ {buffer left : List α} {item : ω},
    pop buffer = (left, some item) → left.length < buffer.length
  /-- More input does not change an item. -/
  stable : ∀ {buffer left : List α} {item : ω}, pop buffer = (left, some item) →
    ∀ more, pop (buffer ++ more) = (left ++ more, some item)

namespace Cutter

variable {α ω : Type} (c : Cutter α ω)

/-- The buffer of the call that finds nothing. -/
def last (buffer : List α) : List α :=
  match _h : c.pop buffer with
  | (_, none) => buffer
  | (left, some _) => last left
termination_by buffer.length
decreasing_by exact c.shorter _h

/-- The items cut off until nothing is found. -/
def outputs (buffer : List α) : List ω :=
  match _h : c.pop buffer with
  | (_, none) => []
  | (left, some item) => item :: outputs left
termination_by buffer.length
decreasing_by exact c.shorter _h

/-- What is left when nothing is found any more. -/
def rest (buffer : List α) : List α := (c.pop (c.last buffer)).1

variable {c}

theorem last_of_none {buffer left : List α} (h : c.pop buffer = (left, none)) :
    c.last buffer = buffer := by
  rw [last]
  split
  · rfl
  · next h' =>
    rw [h] at h'
    cases h'

theorem outputs_of_none {buffer left : List α} (h : c.pop buffer = (left, none)) :
    c.outputs buffer = [] := by
  rw [outputs]
  split
  · rfl
  · next h' =>
    rw [h] at h'
    cases h'

theorem last_of_some {buffer left : List α} {item : ω} (h : c.pop buffer = (left, some item)) :
    c.last buffer = c.last left := by
  rw [last]
  split
  · next h' =>
    rw [h] at h'
    cases h'
  · next h' =>
    rw [h] at h'
    cases h'
    rfl

theorem outputs_of_some {buffer left : List α} {item : ω} (h : c.pop buffer = (left, some item)) :
    c.outputs buffer = item :: c.outputs left := by
  rw [outputs]
  split
  · next h' =>
    rw [h] at h'
    cases h'
  · next h' =>
    rw [h] at h'
    cases h'
    rfl

theorem rest_of_none {buffer left : List α} (h : c.pop buffer = (left, none)) :
    c.rest buffer = left := by
  rw [rest, last_of_none h, h]

theorem rest_of_some {buffer left : List α} {item : ω} (h : c.pop buffer = (left, some item)) :
    c.rest buffer = c.rest left := by
  rw [rest, last_of_some h, rest]

/-- Two buffers from which the next call does the same have the same items. -/
theorem outputs_congr {buffer other : List α} (h : c.pop buffer = c.pop other) :
    c.outputs buffer = c.outputs other := by
  rcases hpop : c.pop other with ⟨left, _ | item⟩
  · rw [outputs_of_none (h.trans hpop), outputs_of_none hpop]
  · rw [outputs_of_some (h.trans hpop), outputs_of_some hpop]

/-- The last call finds nothing. -/
theorem pop_last (buffer : List α) : c.pop (c.last buffer) = (c.rest buffer, none) := by
  induction hn : buffer.length using Nat.strongRecOn generalizing buffer with
  | ind n ih =>
    rcases hpop : c.pop buffer with ⟨left, _ | item⟩
    · rw [rest, last_of_none hpop, hpop]
    · have hleft := ih left.length (by have := c.shorter hpop; omega) left rfl
      rw [rest, last_of_some hpop]
      exact hleft

/-- A buffer holds no more items than symbols. -/
theorem length_outputs_le (buffer : List α) : (c.outputs buffer).length ≤ buffer.length := by
  induction hn : buffer.length using Nat.strongRecOn generalizing buffer with
  | ind n ih =>
    rcases hpop : c.pop buffer with ⟨left, _ | item⟩
    · rw [outputs_of_none hpop]
      exact Nat.zero_le _
    · have hshorter := c.shorter hpop
      have hleft := ih left.length (by omega) left rfl
      rw [outputs_of_some hpop, List.length_cons]
      omega

/-- Where every call leaves a suffix, so do all of them. -/
theorem rest_suffix (h : ∀ buffer, (c.pop buffer).1 <:+ buffer) (buffer : List α) :
    c.rest buffer <:+ buffer := by
  induction hn : buffer.length using Nat.strongRecOn generalizing buffer with
  | ind n ih =>
    have hcall := h buffer
    rcases hpop : c.pop buffer with ⟨left, _ | item⟩
    · rw [hpop] at hcall
      rw [rest_of_none hpop]
      exact hcall
    · rw [hpop] at hcall
      have hleft := ih left.length (by have := c.shorter hpop; omega) left rfl
      rw [rest_of_some hpop]
      exact hleft.trans hcall

/-- **What was cut off stays cut off**, whatever follows: the items of a longer stream are
those of its first part, and then those of what the last call saw of it. -/
theorem outputs_append (buffer more : List α) :
    c.outputs (buffer ++ more) = c.outputs buffer ++ c.outputs (c.last buffer ++ more) := by
  induction hn : buffer.length using Nat.strongRecOn generalizing buffer with
  | ind n ih =>
    rcases hpop : c.pop buffer with ⟨left, _ | item⟩
    · rw [last_of_none hpop, outputs_of_none hpop, List.nil_append]
    · have hleft := ih left.length (by have := c.shorter hpop; omega) left rfl
      rw [outputs_of_some (c.stable hpop more), outputs_of_some hpop, last_of_some hpop, hleft,
        List.cons_append]

variable (c) in
/-- What the call at `buffer` drops of it matters to no item that `more` brings. -/
def Lossless (buffer more : List α) : Prop :=
  c.outputs ((c.pop buffer).1 ++ more) = c.outputs (buffer ++ more)

/-- **The items of a buffer, and then those of what it leaves and what follows it.** -/
theorem outputs_append_of_lossless {buffer more : List α}
    (h : c.Lossless (c.last buffer) more) :
    c.outputs (buffer ++ more) = c.outputs buffer ++ c.outputs (c.rest buffer ++ more) := by
  rw [outputs_append]
  exact congrArg (c.outputs buffer ++ ·) h.symm

/-- What is left holds no item. -/
theorem outputs_rest {buffer : List α} (h : c.Lossless (c.last buffer) []) :
    c.outputs (c.rest buffer) = [] := by
  unfold Lossless at h
  rw [List.append_nil, List.append_nil] at h
  exact h.trans (outputs_of_none (pop_last buffer))

end Cutter

end Cutting
