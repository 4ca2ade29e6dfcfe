import YunLink.Lib.Runs

/-!
# Machines with outputs

A machine answers each input with outputs, and each step of it may write down a piece of
a log.  Two rules go from one step of a machine to a whole run of it: what an observer
knows who goes by a log (`Reactive.observed`), and which run of a simpler machine the log
is (`Reactive.simulated`).  Where the machine is behind the simpler one, what it owes is
pending, and `Reactive.logs_sublist` carries that along.

## Main definitions

* `Reactive.after`, `Reactive.outputs` — the state and the outputs of a run.
* `Reactive.logs` — what the steps of a run write down.

## Main results

* `Reactive.observed`, `Reactive.settled`, `Reactive.simulated`, `Reactive.logs_sublist` —
  the rules.
-/

namespace Reactive

variable {σ τ α β ω ω' : Type*} {step : σ → α → σ × List ω} {inv : σ → Prop}

/-- The state a run ends in. -/
def after (step : σ → α → σ × List ω) (s : σ) (inputs : List α) : σ :=
  inputs.foldl (fun s a => (step s a).1) s

/-- What the steps of a run write down, one after the other. -/
def logs (step : σ → α → σ × List ω) (log : σ → α → List β) : σ → List α → List β
  | _, [] => []
  | s, a :: rest => log s a ++ logs step log (step s a).1 rest

/-- The outputs of a run. -/
def outputs (step : σ → α → σ × List ω) : σ → List α → List ω :=
  logs step fun s a => (step s a).2

@[simp] theorem after_nil (s : σ) : after step s [] = s := rfl

@[simp] theorem after_cons (s : σ) (a : α) (rest : List α) :
    after step s (a :: rest) = after step (step s a).1 rest := rfl

@[simp] theorem logs_nil (log : σ → α → List β) (s : σ) : logs step log s [] = [] := rfl

@[simp] theorem logs_cons (log : σ → α → List β) (s : σ) (a : α) (rest : List α) :
    logs step log s (a :: rest) = log s a ++ logs step log (step s a).1 rest := rfl

@[simp] theorem outputs_nil (s : σ) : outputs step s [] = [] := rfl

@[simp] theorem outputs_cons (s : σ) (a : α) (rest : List α) :
    outputs step s (a :: rest) = (step s a).2 ++ outputs step (step s a).1 rest := rfl

theorem after_append (s : σ) (first second : List α) :
    after step s (first ++ second) = after step (after step s first) second :=
  List.foldl_append

theorem outputs_append (s : σ) (first second : List α) :
    outputs step s (first ++ second) =
      outputs step s first ++ outputs step (after step s first) second := by
  induction first generalizing s with
  | nil => rfl
  | cons a rest ih =>
    rw [List.cons_append, outputs_cons, outputs_cons, ih, List.append_assoc, after_cons]

/-- **An observer who keeps up with every step keeps up with every run**, and what is news to
him in every step is news in the run.  What he goes by is the log. -/
theorem observed {log : σ → α → List β} {see : τ → β → τ} {news : τ → β → Prop}
    {allowed : α → Prop} {knows : σ → τ → Prop}
    (follow : ∀ s a t, knows s t → allowed a →
      Run.Along see news t (log s a) ∧ knows (step s a).1 ((log s a).foldl see t))
    {s : σ} {t : τ} (h : knows s t) {inputs : List α} (hallowed : ∀ a ∈ inputs, allowed a) :
    Run.Along see news t (logs step log s inputs) ∧
      knows (after step s inputs) ((logs step log s inputs).foldl see t) := by
  induction inputs generalizing s t with
  | nil => exact ⟨trivial, h⟩
  | cons a rest ih =>
    obtain ⟨hhere, hlater⟩ := List.forall_mem_cons.mp hallowed
    obtain ⟨halong, hknows⟩ := follow s a t h hhere
    obtain ⟨halong', hknows'⟩ := ih hknows hlater
    rw [logs_cons, Run.along_append, List.foldl_append]
    exact ⟨⟨halong, halong'⟩, hknows'⟩

/-- What each entry of a log settles, and nothing else changes, the last entry settles. -/
theorem settled {log : σ → α → List β} {view : σ → τ} {settle : β → τ} {allowed : α → Prop}
    (keep : ∀ s a, inv s → allowed a → inv (step s a).1)
    (follow : ∀ s a, inv s → allowed a →
      (∃ b, log s a = [b] ∧ view (step s a).1 = settle b) ∨
        (log s a = [] ∧ view (step s a).1 = view s))
    {s : σ} (h : inv s) {inputs : List α} (hallowed : ∀ a ∈ inputs, allowed a) :
    view (after step s inputs) = ((logs step log s inputs).getLast?.map settle).getD (view s) := by
  induction inputs generalizing s with
  | nil => rfl
  | cons a rest ih =>
    obtain ⟨hhere, hlater⟩ := List.forall_mem_cons.mp hallowed
    rw [after_cons, ih (keep s a h hhere) hlater, logs_cons, List.getLast?_append]
    rcases follow s a h hhere with ⟨b, hlog, hview⟩ | ⟨hlog, hview⟩
    · rw [hlog, hview]
      cases (logs step log (step s a).1 rest).getLast? <;> rfl
    · rw [hlog, hview]
      cases (logs step log (step s a).1 rest).getLast? <;> rfl

/-- **What is pending is carried from step to step.**  If what a step puts down in one log,
with what is pending after it, comes from what was pending and from another log, then so it
is for a run. -/
theorem logs_sublist {log log' : σ → α → List β} {pending : σ → List β}
    (keep : ∀ s a, inv s → inv (step s a).1)
    (carry : ∀ s a, inv s →
      (log s a ++ pending (step s a).1).Sublist (pending s ++ log' s a))
    {s : σ} (h : inv s) (inputs : List α) :
    (logs step log s inputs ++ pending (after step s inputs)).Sublist
      (pending s ++ logs step log' s inputs) := by
  induction inputs generalizing s with
  | nil => simp
  | cons a rest ih =>
    have hlater := (ih (keep s a h)).append_left (log s a)
    have hnow := (carry s a h).append_right (logs step log' (step s a).1 rest)
    rw [logs_cons, logs_cons, after_cons]
    simp only [List.append_assoc] at hlater hnow ⊢
    exact hlater.trans hnow

theorem logs_sublist_logs {log log' : σ → α → List β} (h : ∀ s a, (log s a).Sublist (log' s a))
    (s : σ) (inputs : List α) : (logs step log s inputs).Sublist (logs step log' s inputs) := by
  induction inputs generalizing s with
  | nil => exact List.Sublist.refl _
  | cons a rest ih => exact (h s a).append (ih _)

/-- **The log of a run is a run of the simpler machine.** -/
theorem simulated {step' : τ → β → τ × List ω'} {view : σ → τ} {log : σ → α → List β}
    (keep : ∀ s a, inv s → inv (step s a).1)
    (follow : ∀ s a, inv s → view (step s a).1 = after step' (view s) (log s a))
    {s : σ} (h : inv s) (inputs : List α) :
    view (after step s inputs) = after step' (view s) (logs step log s inputs) ∧
      outputs step' (view s) (logs step log s inputs) =
        logs step (fun s a => outputs step' (view s) (log s a)) s inputs := by
  induction inputs generalizing s with
  | nil => exact ⟨rfl, rfl⟩
  | cons a rest ih =>
    obtain ⟨hstate, houtputs⟩ := ih (keep s a h)
    rw [follow s a h] at hstate houtputs
    refine ⟨?_, ?_⟩
    · rw [after_cons, hstate, logs_cons, after_append]
    · rw [logs_cons, outputs_append, houtputs, logs_cons]

/-- What a reader picks out of a log is a log. -/
theorem filterMap_logs (pick : β → Option ω') (log : σ → α → List β) (s : σ) (inputs : List α) :
    (logs step log s inputs).filterMap pick =
      logs step (fun s a => (log s a).filterMap pick) s inputs := by
  induction inputs generalizing s with
  | nil => rfl
  | cons a rest ih => rw [logs_cons, List.filterMap_append, ih, logs_cons]

/-- What comes in is a log of the run. -/
theorem filterMap_inputs (step : σ → α → σ × List ω) (arrive : α → Option β) (s : σ)
    (inputs : List α) :
    logs step (fun _ a => (arrive a).toList) s inputs = inputs.filterMap arrive := by
  induction inputs generalizing s with
  | nil => rfl
  | cons a rest ih =>
    rw [logs_cons, ih]
    cases h : arrive a with
    | none => rw [List.filterMap_cons_none h]; rfl
    | some b => rw [List.filterMap_cons_some h]; rfl

end Reactive
