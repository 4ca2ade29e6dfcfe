import Mathlib.Algebra.Order.BigOperators.Group.List
import YunLink.Net.SendQueue

/-!
# The byte budget of the send queues

Runs of a connection's queues, and what the counter `queued_bytes` means along
them.  In-place replacement takes a frame out of the count while it is still
queued and evicts others meanwhile, so the invariant is stated with a *hole*: the
size of the frame that is queued and not counted.

## Main definitions

* `QueueOp`, `QueueRun`, `queueRun` — runs of the queues, with their history.
* `queueBytes`, `totalBytes` — the sizes of the queued frames.
* `Accounted c hole` — the count is right up to the hole.
* `WithinBudget` — the invariant of every run.

## Main results

* `queueRun_withinBudget` — the invariant holds along every run.
* `queueRun_accounting` — **the counter is the size of what is queued**, and no
  subtraction on it ever wrapped.
* `runtimeEnqueue_reserved` — **the reserve of the control plane**: a small
  ReliableOrdered frame is always accepted.
-/

namespace YunLink

/-! ### Runs of the queues -/

/-- A call made on a connection, or a change of its `running` flag. -/
inductive QueueOp
  | enqueue (bytes : Bytes) (qos : QosClass) (latestKey : Text)
  | take
  | setRunning (running : Bool)
  deriving DecidableEq, Repr

/-- A connection with the frames accepted and the frames taken so far. -/
structure QueueRun where
  conn : RuntimeConnection
  accepted : List OutboundFrame := []
  taken : List OutboundFrame := []

/-- One operation; an accepted frame is stamped with its number. -/
def QueueRun.step (r : QueueRun) : QueueOp → QueueRun
  | .enqueue bytes qos latestKey =>
      match runtimeEnqueue r.conn bytes qos latestKey r.accepted.length with
      | (conn, true) =>
          { r with
            conn
            accepted := r.accepted ++ [{ bytes, qos, latestKey, stamp := r.accepted.length }] }
      | (conn, false) => { r with conn }
  | .take =>
      match takeNextFrame r.conn with
      | (conn, some frame) => { r with conn, taken := r.taken ++ [frame] }
      | (conn, none) => { r with conn }
  | .setRunning running => { r with conn.running := running }

theorem QueueRun.conn_step_enqueue (r : QueueRun) (bytes : Bytes) (qos : QosClass)
    (latestKey : Text) : (r.step (.enqueue bytes qos latestKey)).conn =
      (runtimeEnqueue r.conn bytes qos latestKey r.accepted.length).1 := by
  simp only [QueueRun.step]
  split <;> next heq => rw [heq]

theorem QueueRun.conn_step_take (r : QueueRun) :
    (r.step .take).conn = (takeNextFrame r.conn).1 := by
  simp only [QueueRun.step]
  split <;> next heq => rw [heq]

/-- The run of `ops` on a connection that starts empty. -/
def queueRun (peer : Peer) (running : Bool) (maxQueuedBytes : ℕ) (ops : List QueueOp) : QueueRun :=
  ops.foldl QueueRun.step { conn := { peer, running, maxQueuedBytes } }

/-- What holds at the start and after every step holds along every run. -/
theorem queueRun_induction {motive : QueueRun → Prop} (peer : Peer) (running : Bool)
    (maxQueuedBytes : ℕ) (ops : List QueueOp)
    (start : motive { conn := { peer, running, maxQueuedBytes } })
    (step : ∀ r op, motive r → motive (r.step op)) :
    motive (queueRun peer running maxQueuedBytes ops) :=
  List.foldlRecOn ops QueueRun.step start fun r hr op _ => step r op hr

/-! ### Sizes -/

/-- The size of the frames of a queue. -/
def queueBytes (queue : List OutboundFrame) : ℕ := (queue.map fun frame => frame.bytes.length).sum

@[simp] theorem queueBytes_nil : queueBytes [] = 0 := rfl

@[simp] theorem queueBytes_cons (frame : OutboundFrame) (queue : List OutboundFrame) :
    queueBytes (frame :: queue) = frame.bytes.length + queueBytes queue := by
  simp [queueBytes]

@[simp] theorem queueBytes_append (q₁ q₂ : List OutboundFrame) :
    queueBytes (q₁ ++ q₂) = queueBytes q₁ + queueBytes q₂ := by
  simp [queueBytes]

theorem length_le_queueBytes {frame : OutboundFrame} {queue : List OutboundFrame}
    (h : frame ∈ queue) : frame.bytes.length ≤ queueBytes queue :=
  List.single_le_sum (by simp) _ (List.mem_map_of_mem h)

/-- The size of everything queued. -/
def totalBytes (queues : Fin 4 → List OutboundFrame) : ℕ := ∑ i, queueBytes (queues i)

theorem totalBytes_eq (queues : Fin 4 → List OutboundFrame) :
    totalBytes queues = queueBytes (queues 0) + queueBytes (queues 1) + queueBytes (queues 2) +
      queueBytes (queues 3) := by
  unfold totalBytes
  rw [Fin.sum_univ_four]

theorem totalBytes_update (queues : Fin 4 → List OutboundFrame) (i : Fin 4)
    (queue : List OutboundFrame) :
    totalBytes (Function.update queues i queue) + queueBytes (queues i) =
      totalBytes queues + queueBytes queue :=
  sum_update queueBytes queues i queue

/-! ### The count and its hole -/

/-- The counter misses exactly `hole` bytes, all of them in the ReliableLatest
queue, and has never wrapped. -/
structure Accounted (c : RuntimeConnection) (hole : ℕ) : Prop where
  total : c.queuedBytes + hole = totalBytes c.sendQueues
  hole_le : hole ≤ queueBytes (c.sendQueues 1)
  noUnderflow : c.log.underflow = false

namespace Accounted

variable {c c' : RuntimeConnection} {hole : ℕ}

/-- A subtraction that the count covers does not wrap. -/
theorem subQueuedBytes_eq {n : ℕ} (hn : n ≤ c.queuedBytes) (hu : c.log.underflow = false) :
    (c.subQueuedBytes n).queuedBytes = c.queuedBytes - n ∧
      (c.subQueuedBytes n).log.underflow = false := by
  refine ⟨if_pos hn, ?_⟩
  simp [RuntimeConnection.subQueuedBytes, hu, hn]

theorem evicted (h : Accounted c hole) {i : Fin 4} (hi : i = 2 ∨ i = 3) {frame : OutboundFrame}
    {rest : List OutboundFrame} (hq : c.sendQueues i = frame :: rest) :
    Accounted (c.evicted i frame rest) hole := by
  have htotal := h.total
  have hsum := totalBytes_update c.sendQueues i rest
  have hsize : queueBytes (c.sendQueues i) = frame.bytes.length + queueBytes rest := by
    rw [hq, queueBytes_cons]
  -- The hole lies in another queue, so the count covers the evicted frame.
  have hcover : queueBytes (c.sendQueues 1) + queueBytes (c.sendQueues i) ≤
      totalBytes c.sendQueues := by
    rw [totalBytes_eq]
    rcases hi with rfl | rfl <;> omega
  have hhole := h.hole_le
  obtain ⟨hbytes, hunder⟩ := subQueuedBytes_eq (n := frame.bytes.length) (by omega) h.noUnderflow
  have hne : (1 : Fin 4) ≠ i := by rcases hi with rfl | rfl <;> decide
  refine ⟨?_, ?_, hunder⟩
  · show (c.subQueuedBytes frame.bytes.length).queuedBytes + hole =
      totalBytes (Function.update c.sendQueues i rest)
    rw [hbytes]
    omega
  · show hole ≤ queueBytes (Function.update c.sendQueues i rest 1)
    rwa [Function.update_of_ne hne]

theorem evicts (h : Accounted c hole) (hev : Evicts c c') : Accounted c' hole := by
  induction hev with
  | refl c => exact h
  | bulk hq _ ih => exact ih (h.evicted (Or.inr rfl) hq)
  | bestEffort _ hq _ ih => exact ih (h.evicted (Or.inl rfl) hq)

/-- Taking a queued ReliableLatest frame out of the count opens a hole. -/
theorem open_hole (h : Accounted c 0) {frame : OutboundFrame} (hmem : frame ∈ c.sendQueues 1) :
    Accounted (c.subQueuedBytes frame.bytes.length) frame.bytes.length := by
  have hle := length_le_queueBytes hmem
  have htotal := h.total
  have hcover : frame.bytes.length ≤ c.queuedBytes := by
    rw [totalBytes_eq] at htotal
    omega
  obtain ⟨hbytes, hunder⟩ := subQueuedBytes_eq hcover h.noUnderflow
  refine ⟨?_, hle, hunder⟩
  show (c.subQueuedBytes frame.bytes.length).queuedBytes + _ = totalBytes c.sendQueues
  rw [hbytes]
  omega

end Accounted

theorem Evicts.mem_of_mem {c c' : RuntimeConnection} (h : Evicts c c') {i : Fin 4}
    {frame : OutboundFrame} (hmem : frame ∈ c'.sendQueues i) : frame ∈ c.sendQueues i := by
  have hdrop : ∀ {c : RuntimeConnection} {j : Fin 4} {front : OutboundFrame}
      {rest : List OutboundFrame}, c.sendQueues j = front :: rest →
      frame ∈ (c.evicted j front rest).sendQueues i → frame ∈ c.sendQueues i := by
    intro c j front rest hq
    refine forall_mem_update (fun _ _ hf => hf) (fun f hf => ?_) i frame
    rw [hq]
    exact List.mem_cons_of_mem front hf
  induction h with
  | refl c => exact hmem
  | bulk hq _ ih => exact hdrop hq (ih hmem)
  | bestEffort _ hq _ ih => exact hdrop hq (ih hmem)

theorem Evicts.totalBytes_le {c c' : RuntimeConnection} (h : Evicts c c') :
    totalBytes c'.sendQueues ≤ totalBytes c.sendQueues := by
  have hdrop : ∀ {c : RuntimeConnection} {j : Fin 4} {front : OutboundFrame}
      {rest : List OutboundFrame}, c.sendQueues j = front :: rest →
      totalBytes (c.evicted j front rest).sendQueues ≤ totalBytes c.sendQueues := by
    intro c j front rest hq
    have hsum := totalBytes_update c.sendQueues j rest
    rw [hq, queueBytes_cons] at hsum
    show totalBytes (Function.update c.sendQueues j rest) ≤ _
    omega
  induction h with
  | refl c => exact le_rfl
  | bulk hq _ ih => exact ih.trans (hdrop hq)
  | bestEffort _ hq _ ih => exact ih.trans (hdrop hq)

/-! ### The invariant of a run -/

/-- The invariant of every run.  The last field is what the reserve rests on:
ReliableLatest frames cannot be evicted, but they never fill more than their own
limit. -/
structure WithinBudget (c : RuntimeConnection) : Prop extends Accounted c 0 where
  nonempty : ∀ i, ∀ frame ∈ c.sendQueues i, frame.bytes ≠ []
  queued_le : c.queuedBytes ≤ c.maxQueuedBytes
  latest_le : queueBytes (c.sendQueues 1) ≤ enqueueLimit c .reliableLatest

theorem enqueueLimit_le (c : RuntimeConnection) (qos : QosClass) :
    enqueueLimit c qos ≤ c.maxQueuedBytes := by
  unfold enqueueLimit
  split
  · exact le_rfl
  · exact Nat.sub_le _ _

/-- Evictions keep the limits. -/
theorem Evicts.enqueueLimit_eq {c c' : RuntimeConnection} (h : Evicts c c') (qos : QosClass) :
    enqueueLimit c' qos = enqueueLimit c qos := by
  unfold enqueueLimit
  rw [h.maxQueuedBytes_eq]

namespace WithinBudget

variable {c c' : RuntimeConnection}

/-- The counter never exceeds the budget while frames are only evicted. -/
theorem evicts (h : WithinBudget c) (hev : Evicts c c') : WithinBudget c' := by
  have hacc := h.toAccounted.evicts hev
  refine ⟨hacc, fun i frame hmem => h.nonempty i frame (hev.mem_of_mem hmem), ?_, ?_⟩
  · have htotal := hacc.total
    have hold := h.total
    have hle := hev.totalBytes_le
    have hmax := h.queued_le
    rw [hev.maxQueuedBytes_eq]
    omega
  · rw [hev.enqueueLimit_eq, hev.sendQueues_eq (Or.inr rfl)]
    exact h.latest_le

/-- A refused replacement puts the frame back into the count. -/
theorem kept (h : WithinBudget c) {frame : OutboundFrame} (hmem : frame ∈ c.sendQueues 1)
    (hev : Evicts (c.subQueuedBytes frame.bytes.length) c') :
    WithinBudget { c' with queuedBytes := c'.queuedBytes + frame.bytes.length } := by
  have hacc := (h.toAccounted.open_hole hmem).evicts hev
  have htotal : c'.queuedBytes + frame.bytes.length = totalBytes c'.sendQueues := hacc.total
  have hlatest : c'.sendQueues 1 = c.sendQueues 1 := hev.sendQueues_eq (Or.inr rfl)
  refine ⟨⟨htotal, Nat.zero_le _, hacc.noUnderflow⟩, ?_, ?_, ?_⟩
  · exact fun i g hg => h.nonempty i g (hev.mem_of_mem (c := c.subQueuedBytes _) hg)
  · have hold := h.total
    have hle : totalBytes c'.sendQueues ≤ totalBytes c.sendQueues := hev.totalBytes_le
    have hmax := h.queued_le
    show c'.queuedBytes + frame.bytes.length ≤ c'.maxQueuedBytes
    rw [hev.maxQueuedBytes_eq]
    show _ ≤ c.maxQueuedBytes
    omega
  · show queueBytes (c'.sendQueues 1) ≤ enqueueLimit c' .reliableLatest
    rw [hlatest, hev.enqueueLimit_eq]
    exact h.latest_le

/-- A replacement that fits closes the hole with the new bytes. -/
theorem replaced (h : WithinBudget c) {frame : OutboundFrame} (new : OutboundFrame)
    {pre post : List OutboundFrame} {log : QueueLog} (hnew : new.bytes ≠ [])
    (hq : c.sendQueues 1 = pre ++ frame :: post)
    (hev : Evicts (c.subQueuedBytes frame.bytes.length) c')
    (hroom : c'.queuedBytes + new.bytes.length ≤ enqueueLimit c .reliableLatest)
    (hlog : log.underflow = c'.log.underflow) :
    WithinBudget { c' with
      queuedBytes := c'.queuedBytes + new.bytes.length
      sendQueues := Function.update c'.sendQueues 1 (pre ++ new :: post)
      log } := by
  have hmem : frame ∈ c.sendQueues 1 := by
    rw [hq]
    simp
  have hacc := (h.toAccounted.open_hole hmem).evicts hev
  have hlatest : c'.sendQueues 1 = pre ++ frame :: post := by
    rw [hev.sendQueues_eq (Or.inr rfl)]
    exact hq
  have htotal := hacc.total
  have hsum := totalBytes_update c'.sendQueues 1 (pre ++ new :: post)
  rw [hlatest] at hsum
  simp only [queueBytes_append, queueBytes_cons] at hsum
  refine ⟨⟨?_, Nat.zero_le _, hlog.trans hacc.noUnderflow⟩, ?_, ?_, ?_⟩
  · show c'.queuedBytes + new.bytes.length + 0 = totalBytes (Function.update c'.sendQueues 1 _)
    omega
  · have hold : ∀ i, ∀ g ∈ c'.sendQueues i, g.bytes ≠ [] := fun i g hg =>
      h.nonempty i g (hev.mem_of_mem (c := c.subQueuedBytes _) hg)
    refine forall_mem_update hold ?_
    intro g hg
    rcases List.mem_append.mp hg with hg | hg
    · exact hold 1 g (by rw [hlatest]; exact List.mem_append_left _ hg)
    · rcases List.mem_cons.mp hg with rfl | hg
      · exact hnew
      · exact hold 1 g (by rw [hlatest]; exact List.mem_append_right _ (List.mem_cons_of_mem _ hg))
  · have hmax := hroom.trans (enqueueLimit_le c .reliableLatest)
    show _ ≤ c'.maxQueuedBytes
    rw [hev.maxQueuedBytes_eq]
    exact hmax
  · -- The frames of the queue other than the new one were counted all along.
    have hcount : queueBytes (c'.sendQueues 1) ≤ totalBytes c'.sendQueues := by
      rw [totalBytes_eq]
      omega
    rw [hlatest] at hcount
    simp only [queueBytes_append, queueBytes_cons] at hcount
    show queueBytes (Function.update c'.sendQueues 1 (pre ++ new :: post) 1) ≤
      enqueueLimit c' .reliableLatest
    rw [Function.update_self, hev.enqueueLimit_eq]
    simp only [queueBytes_append, queueBytes_cons]
    show _ ≤ enqueueLimit c .reliableLatest
    omega

theorem pushed (h : WithinBudget c) (new : OutboundFrame) (hnew : new.bytes ≠ [])
    (hev : Evicts c c') (hroom : c'.queuedBytes + new.bytes.length ≤ enqueueLimit c new.qos) :
    WithinBudget { c' with
      queuedBytes := c'.queuedBytes + new.bytes.length
      sendQueues := Function.update c'.sendQueues (qosIndex new.qos)
        (c'.sendQueues (qosIndex new.qos) ++ [new]) } := by
  have h' := h.evicts hev
  have htotal := h'.total
  have hsum := totalBytes_update c'.sendQueues (qosIndex new.qos)
    (c'.sendQueues (qosIndex new.qos) ++ [new])
  simp only [queueBytes_append, queueBytes_cons, queueBytes_nil] at hsum
  refine ⟨⟨?_, Nat.zero_le _, h'.noUnderflow⟩, ?_, ?_, ?_⟩
  · show c'.queuedBytes + new.bytes.length + 0 = totalBytes (Function.update c'.sendQueues _ _)
    omega
  · refine forall_mem_update h'.nonempty ?_
    intro g hg
    rcases List.mem_append.mp hg with hg | hg
    · exact h'.nonempty _ g hg
    · rw [List.mem_singleton.mp hg]
      exact hnew
  · show _ ≤ c'.maxQueuedBytes
    rw [hev.maxQueuedBytes_eq]
    exact hroom.trans (enqueueLimit_le c new.qos)
  · show queueBytes (Function.update c'.sendQueues _ _ 1) ≤ enqueueLimit c' .reliableLatest
    -- A frame of another class leaves the ReliableLatest queue as it was.
    by_cases hi : new.qos = .reliableLatest
    · have hcount : queueBytes (c'.sendQueues 1) ≤ totalBytes c'.sendQueues := by
        rw [totalBytes_eq]
        omega
      rw [hi] at hroom ⊢
      simp only [qosIndex, Function.update_self, queueBytes_append, queueBytes_cons, queueBytes_nil]
      rw [hev.enqueueLimit_eq]
      omega
    · have hne : (1 : Fin 4) ≠ qosIndex new.qos := by
        revert hi
        cases new.qos <;> decide
      rw [Function.update_of_ne hne]
      exact h'.latest_le

end WithinBudget

theorem runtimeEnqueue_withinBudget {c : RuntimeConnection} (h : WithinBudget c) (bytes : Bytes)
    (qos : QosClass) (latestKey : Text) (stamp : ℕ) :
    WithinBudget (runtimeEnqueue c bytes qos latestKey stamp).1 := by
  have hout := runtimeEnqueue_outcome c bytes qos latestKey stamp
  generalize runtimeEnqueue c bytes qos latestKey stamp = out at hout ⊢
  cases hout with
  | ignored => exact h
  | refused hev => exact h.evicts hev
  | kept hqos hmem hev => exact h.kept hmem hev
  | @replaced c' frame pre post hbytes hqos hkey hne hq hpre hev hroom =>
    subst hqos
    exact h.replaced { frame with bytes, stamp } hbytes hq hev hroom rfl
  | pushed hbytes hkey hev hroom =>
    exact h.pushed { bytes, qos, latestKey, stamp } hbytes hev hroom

theorem takeNextFrame_withinBudget {c : RuntimeConnection} (h : WithinBudget c) :
    WithinBudget (takeNextFrame c).1 := by
  rcases takeNextFrame_cases c with ⟨-, heq⟩ | ⟨i, frame, rest, hq, -, heq⟩
  · rw [heq]
    exact h
  rw [heq]
  have htotal := h.total
  have hsum := totalBytes_update c.sendQueues i rest
  rw [hq, queueBytes_cons] at hsum
  have hmax := h.queued_le
  obtain ⟨hbytes, hunder⟩ :=
    Accounted.subQueuedBytes_eq (n := frame.bytes.length) (by omega) h.noUnderflow
  have hmem : ∀ g ∈ rest, g.bytes ≠ [] := fun g hg =>
    h.nonempty i g (by rw [hq]; exact List.mem_cons_of_mem frame hg)
  refine ⟨⟨?_, Nat.zero_le _, hunder⟩, forall_mem_update h.nonempty hmem, ?_, ?_⟩
  · show (c.subQueuedBytes _).queuedBytes + 0 = totalBytes (Function.update c.sendQueues i rest)
    rw [hbytes]
    omega
  · show (c.subQueuedBytes _).queuedBytes ≤ c.maxQueuedBytes
    rw [hbytes]
    omega
  · show queueBytes (Function.update c.sendQueues i rest 1) ≤ enqueueLimit c .reliableLatest
    have hlatest := h.latest_le
    by_cases hi : (1 : Fin 4) = i
    · subst hi
      rw [hq, queueBytes_cons] at hlatest
      rw [Function.update_self]
      omega
    · rwa [Function.update_of_ne hi]

theorem QueueRun.step_withinBudget {r : QueueRun} (h : WithinBudget r.conn) (op : QueueOp) :
    WithinBudget (r.step op).conn := by
  cases op with
  | enqueue bytes qos latestKey =>
    rw [QueueRun.conn_step_enqueue]
    exact runtimeEnqueue_withinBudget h bytes qos latestKey r.accepted.length
  | take =>
    rw [QueueRun.conn_step_take]
    exact takeNextFrame_withinBudget h
  | setRunning running =>
    exact ⟨⟨h.total, h.hole_le, h.noUnderflow⟩, h.nonempty, h.queued_le, h.latest_le⟩

theorem withinBudget_empty (peer : Peer) (running : Bool) (maxQueuedBytes : ℕ) :
    WithinBudget { peer, running, maxQueuedBytes } :=
  ⟨⟨by simp [totalBytes], Nat.zero_le _, rfl⟩, by simp, Nat.zero_le _, Nat.zero_le _⟩

/-- **The invariant holds along every run.** -/
theorem queueRun_withinBudget (peer : Peer) (running : Bool) (maxQueuedBytes : ℕ)
    (ops : List QueueOp) : WithinBudget (queueRun peer running maxQueuedBytes ops).conn :=
  queueRun_induction (motive := fun r => WithinBudget r.conn) peer running maxQueuedBytes ops
    (withinBudget_empty peer running maxQueuedBytes) fun _ op h => QueueRun.step_withinBudget h op

/-- No operation changes the budget. -/
theorem queueRun_maxQueuedBytes (peer : Peer) (running : Bool) (maxQueuedBytes : ℕ)
    (ops : List QueueOp) :
    (queueRun peer running maxQueuedBytes ops).conn.maxQueuedBytes = maxQueuedBytes := by
  refine queueRun_induction (motive := fun r => r.conn.maxQueuedBytes = maxQueuedBytes) peer running
    maxQueuedBytes ops rfl fun r op h => ?_
  cases op with
  | enqueue bytes qos latestKey =>
    rw [QueueRun.conn_step_enqueue]
    have hout := runtimeEnqueue_outcome r.conn bytes qos latestKey r.accepted.length
    generalize runtimeEnqueue r.conn bytes qos latestKey r.accepted.length = out at hout ⊢
    cases hout with
    | ignored => exact h
    | refused hev => exact hev.maxQueuedBytes_eq.trans h
    | kept _ _ hev => exact hev.maxQueuedBytes_eq.trans h
    | replaced _ _ _ _ _ _ hev => exact hev.maxQueuedBytes_eq.trans h
    | pushed _ _ hev => exact hev.maxQueuedBytes_eq.trans h
  | take =>
    rw [QueueRun.conn_step_take]
    rcases takeNextFrame_cases r.conn with ⟨-, heq⟩ | ⟨i, frame, rest, -, -, heq⟩
    · rw [heq]
      exact h
    · rw [heq]
      exact h
  | setRunning running => exact h

/-- Queues without empty frames hold no byte only when they hold no frame. -/
theorem totalBytes_eq_zero_iff {queues : Fin 4 → List OutboundFrame}
    (hne : ∀ i, ∀ frame ∈ queues i, frame.bytes ≠ []) :
    totalBytes queues = 0 ↔ ∀ i, queues i = [] := by
  unfold totalBytes
  rw [Finset.sum_eq_zero_iff]
  refine ⟨fun h i => ?_, fun h i _ => by rw [h i, queueBytes_nil]⟩
  have hzero := h i (Finset.mem_univ i)
  cases hq : queues i with
  | nil => rfl
  | cons frame rest =>
    have hframe := List.length_pos_iff.mpr (hne i frame (by rw [hq]; exact List.mem_cons_self))
    rw [hq, queueBytes_cons] at hzero
    omega

/-- **The counter is the size of what is queued.**  In every run it stays within
the budget, is zero exactly when nothing is queued, and no subtraction on it ever
wrapped. -/
theorem queueRun_accounting (peer : Peer) (running : Bool) (maxQueuedBytes : ℕ)
    (ops : List QueueOp) :
    let c := (queueRun peer running maxQueuedBytes ops).conn
    c.queuedBytes = totalBytes c.sendQueues ∧ c.queuedBytes ≤ maxQueuedBytes ∧
      (c.queuedBytes = 0 ↔ ∀ i, c.sendQueues i = []) ∧ c.log.underflow = false := by
  intro c
  have h : WithinBudget c := queueRun_withinBudget peer running maxQueuedBytes ops
  have htotal : c.queuedBytes = totalBytes c.sendQueues := h.total
  refine ⟨htotal, ?_, ?_, h.noUnderflow⟩
  · have hmax : c.maxQueuedBytes = maxQueuedBytes := queueRun_maxQueuedBytes peer running _ ops
    exact hmax ▸ h.queued_le
  · rw [htotal]
    exact totalBytes_eq_zero_iff h.nonempty

/-! ### The reserve of the control plane -/

/-- With room in the reserve, ReliableOrdered frames are never refused: once the
lossy queues are empty, only frames within their own limits are left. -/
theorem WithinBudget.accepts {c : RuntimeConnection} (h : WithinBudget c) {bytes : Bytes}
    (hbytes : bytes ≠ []) (hrunning : c.running = true)
    (hsize : queueBytes (c.sendQueues 0) + bytes.length ≤ c.maxQueuedBytes / 4)
    (latestKey : Text) (stamp : ℕ) :
    ∃ c', Evicts c c' ∧ runtimeEnqueue c bytes .reliableOrdered latestKey stamp =
      ({ c' with
        queuedBytes := c'.queuedBytes + bytes.length
        sendQueues := Function.update c'.sendQueues 0
          (c'.sendQueues 0 ++ [{ bytes, qos := .reliableOrdered, latestKey, stamp }]) }, true) := by
  have hout := runtimeEnqueue_outcome c bytes .reliableOrdered latestKey stamp
  generalize runtimeEnqueue c bytes .reliableOrdered latestKey stamp = out at hout ⊢
  cases hout with
  | ignored hcause =>
    exfalso
    rcases hcause with hcause | hcause | hcause
    · exact hbytes hcause
    · rw [hrunning] at hcause
      exact Bool.noConfusion hcause
    · have hlimit : enqueueLimit c .reliableOrdered = c.maxQueuedBytes := if_pos rfl
      omega
  | @refused c' hev hroom h2 h3 =>
    exfalso
    -- The lossy queues are empty, and the reserve is not open to ReliableLatest frames.
    have htotal := (h.evicts hev).total
    rw [totalBytes_eq, h2, h3, queueBytes_nil, hev.sendQueues_eq (Or.inl rfl),
      hev.sendQueues_eq (Or.inr rfl)] at htotal
    have hlatest : queueBytes (c.sendQueues 1) ≤ c.maxQueuedBytes - c.maxQueuedBytes / 4 :=
      h.latest_le
    have hlimit : enqueueLimit c .reliableOrdered = c.maxQueuedBytes := if_pos rfl
    omega
  | kept hqos => exact absurd hqos (by decide)
  | replaced _ hqos => exact absurd hqos (by decide)
  | @pushed c' _ _ hev _ => exact ⟨c', hev, rfl⟩

/-- **The reserve of the control plane.**  In every run, a ReliableOrdered frame
that fits a quarter of the budget together with those queued is accepted, and
neither reliable queue loses a frame. -/
theorem runtimeEnqueue_reserved (peer : Peer) (running : Bool) (maxQueuedBytes : ℕ)
    (ops : List QueueOp) (bytes : Bytes) (latestKey : Text) (stamp : ℕ) :
    let c := (queueRun peer running maxQueuedBytes ops).conn
    let out := runtimeEnqueue c bytes .reliableOrdered latestKey stamp
    bytes ≠ [] → c.running = true →
    queueBytes (c.sendQueues 0) + bytes.length ≤ maxQueuedBytes / 4 →
      out.2 = true ∧
      out.1.sendQueues 0 =
        c.sendQueues 0 ++ [{ bytes, qos := .reliableOrdered, latestKey, stamp }] ∧
      out.1.sendQueues 1 = c.sendQueues 1 := by
  intro c out hbytes hrunning hsize
  have hmax : c.maxQueuedBytes = maxQueuedBytes := queueRun_maxQueuedBytes peer running _ ops
  obtain ⟨c', hev, hout⟩ := (queueRun_withinBudget peer running maxQueuedBytes ops).accepts hbytes
    hrunning (by rw [hmax]; exact hsize) latestKey stamp
  have hout' : out = _ := hout
  rw [hout']
  refine ⟨rfl, ?_, ?_⟩
  · have hkept : c'.sendQueues 0 = c.sendQueues 0 := hev.sendQueues_eq (Or.inl rfl)
    simp only [Function.update_self]
    rw [hkept]
  · have hkept : c'.sendQueues 1 = c.sendQueues 1 := hev.sendQueues_eq (Or.inr rfl)
    have hne : (1 : Fin 4) ≠ 0 := by decide
    simp only [Function.update_of_ne hne]
    rw [hkept]

/-- The other classes fill what is theirs, and a control frame still finds its room. -/
theorem runtimeEnqueue_reserved_full :
    let c := (queueRun {} true 8
      [.enqueue [1, 2, 3] .bulk [], .enqueue [4, 5, 6] .reliableLatest [7]]).conn
    queueBytes (c.sendQueues 3) = 3 ∧
      (runtimeEnqueue c [9, 9] .reliableOrdered [] 2).2 = true := by
  refine ⟨by decide +kernel, ?_⟩
  exact (runtimeEnqueue_reserved {} true 8 _ [9, 9] [] 2 (by decide) (by decide +kernel)
    (by decide +kernel)).1

end YunLink
