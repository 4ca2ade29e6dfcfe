import Mathlib.Data.List.Forall2
import Mathlib.Data.Nat.Notation

/-!
# Checked memory access

A computation over a block of memory in which nothing is silently defined: a read
outside the block, a difference below zero and a sum past the end of the word
each stop the computation with a fault.  A pointer into the block is the offset
it stands at.

A checked computation that returns a value for every block is the proof that the
unchecked one never leaves the block: the specification lemmas below trade each
checked operation for the plain one under the bound it needs.

## Main definitions

* `Access.Fault`, `Access` — what goes wrong, and a computation that may.
* `Access.byteAt`, `Access.range` — one element of the block, and a stretch of it.
* `Access.sub`, `Access.add` — unsigned arithmetic that faults instead of wrapping.
* `Access.fold` — an indexed loop over the first elements of the block.
* `Access.Pointer`, `Access.collect` — a pointer that may be null, and a loop that
  copies the elements behind it.

## Main results

* `Access.byteAt_eq`, `Access.range_eq`, `Access.sub_eq`, `Access.add_eq` — under
  its bound an operation returns the plain value.
* `Access.fold_eq` — **the loop over the first `count` elements is the fold of that
  prefix**, if the block is that long.
* `Access.collect_eq` — **the copying loop copies the whole block**, if every element
  can be copied.
-/

/-- What a computation over a block of memory may run into. -/
inductive Access.Fault
  /-- A read outside the block, or through a null pointer. -/
  | outOfBounds
  /-- An unsigned difference below zero. -/
  | underflow
  /-- A sum that does not fit into the word. -/
  | overflow
  deriving DecidableEq, Repr

/-- A computation that reads memory. -/
abbrev Access : Type → Type := Except Access.Fault

namespace Access

variable {α β : Type}

/-- The element at an offset. -/
def byteAt (data : List α) (offset : ℕ) : Access α :=
  match data[offset]? with
  | some value => .ok value
  | none => .error .outOfBounds

/-- The `count` elements from an offset on. -/
def range (data : List α) (offset count : ℕ) : Access (List α) :=
  if offset + count ≤ data.length then .ok ((data.drop offset).take count)
  else .error .outOfBounds

/-- `a - b` of unsigned words. -/
def sub (a b : ℕ) : Access ℕ := if b ≤ a then .ok (a - b) else .error .underflow

/-- `a + b` in a word that holds the values below `size`. -/
def add (size a b : ℕ) : Access ℕ := if a + b < size then .ok (a + b) else .error .overflow

/-- `for (i = 0; i < count; ++i) state = step(state, data[i])`. -/
def fold (step : β → α → β) (data : List α) (init : β) (count : ℕ) : Access β :=
  (List.range count).foldlM (fun state i => do return step state (← byteAt data i)) init

@[simp] theorem ok_bind (a : α) (next : α → Access β) : (Except.ok a >>= next) = next a := rfl

@[simp] theorem pure_eq (a : α) : (pure a : Access α) = Except.ok a := rfl

@[simp] theorem andM_ok (b c : Bool) :
    andM (Except.ok b : Access Bool) (Except.ok c) = Except.ok (b && c) := by
  cases b with
  | false => rfl
  | true => rfl

@[simp] theorem andM_ok_false (next : Access Bool) :
    andM (Except.ok false : Access Bool) next = Except.ok false := rfl

@[simp] theorem orM_ok (b c : Bool) :
    orM (Except.ok b : Access Bool) (Except.ok c) = Except.ok (b || c) := by
  cases b with
  | false => rfl
  | true => rfl

theorem byteAt_eq {data : List α} {offset : ℕ} (default : α) (h : offset < data.length) :
    byteAt data offset = .ok (data.getD offset default) := by
  simp [byteAt, List.getD_eq_getElem?_getD, List.getElem?_eq_getElem h]

theorem range_eq {data : List α} {offset count : ℕ} (h : offset + count ≤ data.length) :
    range data offset count = .ok ((data.drop offset).take count) := if_pos h

theorem sub_eq {a b : ℕ} (h : b ≤ a) : sub a b = .ok (a - b) := if_pos h

theorem add_eq {size a b : ℕ} (h : a + b < size) : add size a b = .ok (a + b) := if_pos h

/-- **The loop over the first `count` elements is the fold of that prefix.** -/
theorem fold_eq (step : β → α → β) {data : List α} {count : ℕ} (h : count ≤ data.length)
    (init : β) : fold step data init count = .ok ((data.take count).foldl step init) := by
  induction count with
  | zero => rfl
  | succ count ih =>
    have hlt : count < data.length := by omega
    have hprefix := ih (by omega)
    unfold fold at hprefix ⊢
    rw [List.range_succ, List.foldlM_append, hprefix, List.take_add_one,
      List.getElem?_eq_getElem hlt, List.foldl_append]
    simp [byteAt, List.getElem?_eq_getElem hlt]

/-! ### Pointers -/

/-- A pointer that may be null: the elements that can be read from where it stands. -/
abbrev Pointer (α : Type) : Type := Option (List α)

namespace Pointer

/-- `pointer[offset]`. -/
def read (pointer : Pointer α) (offset : ℕ) : Access α :=
  match pointer with
  | none => .error .outOfBounds
  | some block => byteAt block offset

/-- The `count` elements behind the pointer. -/
def readRange (pointer : Pointer α) (count : ℕ) : Access (List α) :=
  match pointer with
  | none => .error .outOfBounds
  | some block => range block 0 count

end Pointer

/-- `for (i = 0; i < count; ++i) out.push_back(copy(pointer[i]))`. -/
def collect (copy : α → Access β) (pointer : Pointer α) (count : ℕ) (out : List β) :
    Access (List β) :=
  (List.range count).foldlM (fun out i => do return out ++ [← copy (← pointer.read i)]) out

theorem Pointer.readRange_of_prefix {front block : List α} (h : front <+: block) :
    Pointer.readRange (some block) front.length = .ok front := by
  obtain ⟨rest, rfl⟩ := h
  rw [Pointer.readRange, range_eq (by simp), List.drop_zero, List.take_left]

@[simp] theorem collect_zero (copy : α → Access β) (pointer : Pointer α) (out : List β) :
    collect copy pointer 0 out = .ok out := rfl

/-- **The copying loop copies the whole block.** -/
theorem collect_eq {copy : α → Access β} {block : List α} {values : List β}
    (h : List.Forall₂ (fun a b => copy a = .ok b) block values) (out : List β) :
    collect copy (some block) block.length out = .ok (out ++ values) := by
  have hlen := h.length_eq
  suffices hall : ∀ count ≤ block.length,
      collect copy (some block) count out = .ok (out ++ values.take count) by
    rw [hall _ (Nat.le_refl _), hlen, List.take_length]
  intro count
  induction count with
  | zero =>
    intro _
    rw [collect_zero, List.take_zero, List.append_nil]
  | succ count ih =>
    intro hcount
    have hlt : count < block.length := by omega
    have hlt' : count < values.length := by omega
    have hread : Pointer.read (some block) count = .ok block[count] := by
      simp [Pointer.read, byteAt, List.getElem?_eq_getElem hlt]
    have hcopy : copy block[count] = .ok values[count] := h.get hlt hlt'
    have hbefore := ih (by omega)
    unfold collect at hbefore ⊢
    rw [List.range_succ, List.foldlM_append, hbefore, List.take_add_one,
      List.getElem?_eq_getElem hlt']
    simp only [ok_bind, List.foldlM_cons, List.foldlM_nil, hread, hcopy, pure_eq,
      List.append_assoc]
    rfl

end Access
