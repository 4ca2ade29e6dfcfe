import Mathlib.Data.List.Basic

/-!
# Folds that lose nothing

A hash that folds its input byte by byte, each pass a function of the word so far and
of the next byte.  Where a pass can be undone, knowing its byte, the whole fold can; and
where a pass also tells its bytes apart, no change of a single byte goes unnoticed,
whatever stands before and behind it.

## Main results

* `Hashing.foldr_undo_foldl` — **the passes are undone** from the last to the first.
* `Hashing.foldl_set_ne` — **one changed byte changes the hash.**
-/

namespace Hashing

variable {σ α : Type} {step undo : σ → α → σ}

/-- A fold whose passes can be undone, undone from the last pass to the first. -/
theorem foldr_undo_foldl (h : ∀ s a, undo (step s a) a = s) (values : List α) (s : σ) :
    values.foldr (fun a s => undo s a) (values.foldl step s) = s := by
  induction values generalizing s with
  | nil => rfl
  | cons a values ih =>
    rw [List.foldl_cons, List.foldr_cons, ih, h]

/-- Different words stay different under the same bytes. -/
theorem foldl_injective (h : ∀ s a, undo (step s a) a = s) (values : List α) :
    Function.Injective (values.foldl step) := by
  intro s s' heq
  have hsame : values.foldl step s = values.foldl step s' := heq
  rw [← foldr_undo_foldl h values s, hsame, foldr_undo_foldl h]

/-- **One changed byte changes the hash.**  The word after the changed byte is another
one, and what follows cannot bring the two together again. -/
theorem foldl_set_ne (hundo : ∀ s a, undo (step s a) a = s)
    (hstep : ∀ s, Function.Injective (step s)) {values : List α} {position : ℕ}
    (hposition : position < values.length) {a : α} (hne : a ≠ values[position]) (s : σ) :
    (values.set position a).foldl step s ≠ values.foldl step s := by
  induction values generalizing position s with
  | nil => exact absurd hposition (Nat.not_lt_zero _)
  | cons b values ih =>
    cases position with
    | zero =>
      rw [List.set_cons_zero, List.foldl_cons, List.foldl_cons]
      intro heq
      exact hne (hstep s (foldl_injective hundo values heq))
    | succ position =>
      rw [List.set_cons_succ, List.foldl_cons, List.foldl_cons]
      exact ih (Nat.lt_of_succ_lt_succ hposition) hne (step s b)

end Hashing
