import Mathlib.Data.List.Basic

/-!
# Runs and histories

A run of a deterministic system is a fold of its step function over a list of
inputs.  `Run.Along` says that every step of a run meets a condition on the input
and on the state it is taken in, and `Run.Along.invariant` is the rule that goes
with it.

A history is a list of records, newest first.  `Run.Since P Q` is the past-time
"since": some record satisfies `P` and no newer one satisfies `Q`.

## Main definitions

* `Run.Along` — every step of a run meets a condition.
* `Run.Since` — the past-time since operator.

## Main results

* `Run.Along.invariant` — what such steps keep holds at the end of the run.
* `Run.Along.imp` — what they imply holds at every step of it.
* `Run.always_iff` — where the condition is what keeps the invariant, a run stays in
  the invariant exactly when all its steps meet the condition.
* `Run.since_cons` — the recursion of since over a history.
-/

namespace Run

variable {σ α : Type*} {step : σ → α → σ} {ok : σ → α → Prop}

/-- Each input of the run satisfies `ok` in the state it is taken in. -/
def Along (step : σ → α → σ) (ok : σ → α → Prop) : σ → List α → Prop
  | _, [] => True
  | s, a :: rest => ok s a ∧ Along step ok (step s a) rest

instance Along.decidable [∀ s a, Decidable (ok s a)] :
    ∀ (s : σ) (l : List α), Decidable (Along step ok s l)
  | _, [] => isTrue trivial
  | s, a :: rest =>
      haveI := Along.decidable (step s a) rest
      inferInstanceAs (Decidable (ok s a ∧ Along step ok (step s a) rest))

/-- A condition that always holds holds along every run. -/
theorem along_of_forall (h : ∀ s a, ok s a) {s : σ} {l : List α} : Along step ok s l := by
  induction l generalizing s with
  | nil => trivial
  | cons a rest ih => exact ⟨h s a, ih⟩

theorem along_append {s : σ} {first second : List α} :
    Along step ok s (first ++ second) ↔
      Along step ok s first ∧ Along step ok (first.foldl step s) second := by
  induction first generalizing s with
  | nil => exact (iff_of_eq (true_and _)).symm
  | cons a rest ih =>
    rw [List.cons_append, Along, ih, List.foldl_cons, Along, and_assoc]

/-- **What every step within the condition keeps holds at the end of the run.** -/
theorem Along.invariant {motive : σ → Prop} (keep : ∀ s a, motive s → ok s a → motive (step s a)) :
    ∀ {s : σ} {l : List α}, motive s → Along step ok s l → motive (l.foldl step s) := by
  intro s l
  induction l generalizing s with
  | nil =>
    intro hs _
    exact hs
  | cons a rest ih =>
    intro hs hrun
    exact ih (keep s a hs hrun.1) hrun.2

/-- What follows, in the states of an invariant, from the condition of a step holds at
every step. -/
theorem Along.imp {motive : σ → Prop} {ok' : σ → α → Prop}
    (keep : ∀ s a, motive s → ok s a → motive (step s a))
    (h : ∀ s a, motive s → ok s a → ok' s a) :
    ∀ {s : σ} {l : List α}, motive s → Along step ok s l → Along step ok' s l := by
  intro s l
  induction l generalizing s with
  | nil =>
    intro _ _
    trivial
  | cons a rest ih =>
    intro hs hrun
    exact ⟨h s a hs hrun.1, ih (keep s a hs hrun.1) hrun.2⟩

/-- **A run stays in the invariant exactly when all its steps meet the condition**, for
a condition that says which steps keep the invariant. -/
theorem always_iff {motive : σ → Prop} (hstep : ∀ s a, motive s → (motive (step s a) ↔ ok s a)) :
    ∀ {s : σ} {l : List α}, motive s →
      ((∀ n, motive ((l.take n).foldl step s)) ↔ Along step ok s l) := by
  intro s l
  induction l generalizing s with
  | nil =>
    intro hs
    simp [Along, hs]
  | cons a rest ih =>
    intro hs
    constructor
    · intro hall
      have hnext : motive (step s a) := hall 1
      refine ⟨(hstep s a hs).mp hnext, (ih hnext).mp fun n => ?_⟩
      exact hall (n + 1)
    · rintro ⟨hok, hrest⟩ n
      cases n with
      | zero => exact hs
      | succ n => exact (ih ((hstep s a hs).mpr hok)).mpr hrest n

/-! ### Histories -/

variable {P Q : α → Prop}

/-- Some record satisfies `P`, and no newer one satisfies `Q`. -/
def Since (P Q : α → Prop) (history : List α) : Prop :=
  ∃ newer record older, history = newer ++ record :: older ∧ P record ∧ ∀ r ∈ newer, ¬ Q r

@[simp] theorem not_since_nil : ¬ Since P Q [] := by
  rintro ⟨newer, record, older, h, -⟩
  exact absurd h.symm (by simp)

theorem since_cons {record : α} {history : List α} :
    Since P Q (record :: history) ↔ P record ∨ (¬ Q record ∧ Since P Q history) := by
  constructor
  · rintro ⟨newer, r, older, heq, hr, hnewer⟩
    cases newer with
    | nil =>
      obtain ⟨rfl, -⟩ := List.cons.inj heq
      exact Or.inl hr
    | cons first newer =>
      obtain ⟨rfl, rfl⟩ := List.cons.inj heq
      obtain ⟨hfirst, hrest⟩ := List.forall_mem_cons.mp hnewer
      exact Or.inr ⟨hfirst, newer, r, older, rfl, hr, hrest⟩
  · rintro (hrecord | ⟨hrecord, newer, r, older, rfl, hr, hnewer⟩)
    · exact ⟨[], record, history, rfl, hrecord, by simp⟩
    · exact ⟨record :: newer, r, older, rfl, hr, List.forall_mem_cons.mpr ⟨hrecord, hnewer⟩⟩

/-- Since is monotone in what happened, and antitone in what undoes it. -/
theorem Since.imp {P' Q' : α → Prop} {history : List α} (h : Since P Q history)
    (hP : ∀ r, P r → P' r) (hQ : ∀ r, Q' r → Q r) : Since P' Q' history := by
  obtain ⟨newer, record, older, rfl, hrecord, hnewer⟩ := h
  exact ⟨newer, record, older, rfl, hP record hrecord, fun r hr => mt (hQ r) (hnewer r hr)⟩

end Run
