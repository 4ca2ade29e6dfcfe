import Mathlib.Algebra.BigOperators.Fin
import YunLink.Wire.Types

/-!
# The send queues of a connection

`runtime_enqueue`, `take_next_frame` and the eviction behind them
(`runtime_network.cpp`).  A connection keeps four queues, one for each QoS
class, under one byte budget: a frame that does not fit evicts the oldest Bulk
frames, then the oldest BestEffort ones, and a ReliableLatest frame replaces a
queued one of the same key in place.

`size_t` sums are natural numbers, since the frames counted lie in memory; a
subtraction wraps as `size_t` does, and the ghost record `QueueLog` notes when
one did.  The rest of the record notes the frames that left a queue without
being taken.  The code reads none of it, nor the `stamp` of a frame, which tells
apart two accepted frames with the same bytes.

## Main definitions

* `RuntimeConnection` — the connection, as far as its queues go.
* `dropOldest`, `makeRoom`, `runtimeEnqueue`, `takeNextFrame` — the operations.
* `Evicts` — the connections that evictions lead to.
* `EnqueueOutcome` — the outcomes of an enqueue.

## Main results

* `makeRoom_spec` — what `makeRoom` does, in both outcomes.
* `runtimeEnqueue_outcome` — every enqueue has one of its outcomes.
* `takeNextFrame_cases` — the two outcomes of a dequeue.
-/

namespace YunLink

/-- `std::string`s of the transport: where a connection leads. -/
structure Peer where
  id : Text := []
  ip : Text := []
  port : UInt16 := 0
  deriving DecidableEq, Repr, Inhabited

/-- `OutboundFrame`. -/
structure OutboundFrame where
  bytes : Bytes
  qos : QosClass := .reliableOrdered
  latestKey : Text := []
  /-- Ghost: how many frames had been accepted before this one. -/
  stamp : ℕ := 0
  deriving DecidableEq, Repr

/-- Ghost: a frame evicted from a queue, with the number of Bulk frames queued
when it was. -/
structure Drop where
  queue : Fin 4
  frame : OutboundFrame
  bulkQueued : ℕ
  deriving DecidableEq, Repr

/-- Ghost: what the queues did beyond passing frames on. -/
structure QueueLog where
  underflow : Bool := false
  dropped : List Drop := []
  replaced : List (OutboundFrame × OutboundFrame) := []
  deriving DecidableEq, Repr

/-- `RuntimeConnection`, without its socket and its threads. -/
structure RuntimeConnection where
  peer : Peer := {}
  running : Bool := false
  sendQueues : Fin 4 → List OutboundFrame := fun _ => []
  queuedBytes : ℕ := 0
  maxQueuedBytes : ℕ := 16 * 1024 * 1024
  receiveBuffer : Bytes := []
  log : QueueLog := {}
  deriving DecidableEq

/-- A quarter of the budget is for ReliableOrdered alone. -/
def kReliableOrderedReserveFraction : ℕ := 4

/-- `qos_may_drop`. -/
def qosMayDrop (qos : QosClass) : Bool := qos == .bestEffort || qos == .bulk

/-- The number of queues is not zero, so that a numeral names a queue. -/
instance neZero_queues : NeZero 4 := ⟨four_ne_zero⟩

/-- `qos_index`. -/
def qosIndex : QosClass → Fin 4
  | .reliableOrdered => 0
  | .reliableLatest => 1
  | .bestEffort => 2
  | .bulk => 3

/-- Subtraction of `size_t`s. -/
def sizeSub (a b : ℕ) : ℕ := if b ≤ a then a - b else a + 2 ^ 64 - b

/-- `queued_bytes -= n`. -/
def RuntimeConnection.subQueuedBytes (c : RuntimeConnection) (n : ℕ) : RuntimeConnection :=
  { c with
    queuedBytes := sizeSub c.queuedBytes n
    log.underflow := c.log.underflow || decide (c.queuedBytes < n) }

/-- The connection after the eviction of `frame`, which left `rest` behind it. -/
def RuntimeConnection.evicted (c : RuntimeConnection) (queueIndex : Fin 4) (frame : OutboundFrame)
    (rest : List OutboundFrame) : RuntimeConnection :=
  { c.subQueuedBytes frame.bytes.length with
    sendQueues := Function.update c.sendQueues queueIndex rest
    log.dropped := c.log.dropped ++ [⟨queueIndex, frame, (c.sendQueues 3).length⟩] }

/-- Evict the front of a queue; `none` when there is nothing to evict. -/
def dropOldest (c : RuntimeConnection) (queueIndex : Fin 4) : Option RuntimeConnection :=
  match c.sendQueues queueIndex with
  | [] => none
  | frame :: rest => some (c.evicted queueIndex frame rest)

/-- The slice above the limit is kept for control-plane frames. -/
def enqueueLimit (c : RuntimeConnection) (qos : QosClass) : ℕ :=
  if qos = .reliableOrdered then c.maxQueuedBytes
  else c.maxQueuedBytes - c.maxQueuedBytes / kReliableOrderedReserveFraction

theorem dropOldest_eq_some {c c' : RuntimeConnection} {i : Fin 4} (h : dropOldest c i = some c') :
    ∃ frame rest, c.sendQueues i = frame :: rest ∧ c' = c.evicted i frame rest := by
  unfold dropOldest at h
  split at h
  · exact absurd h (by simp)
  · next frame rest hq => exact ⟨frame, rest, hq, (Option.some.inj h).symm⟩

theorem dropOldest_eq_none {c : RuntimeConnection} {i : Fin 4} (h : dropOldest c i = none) :
    c.sendQueues i = [] := by
  unfold dropOldest at h
  split at h
  · next hq => exact hq
  · exact absurd h (by simp)

/-- The loop of `make_room` against a fixed limit. -/
def makeRoomLoop (limit bytes : ℕ) (c : RuntimeConnection) : RuntimeConnection × Bool :=
  if limit < c.queuedBytes + bytes then
    match _h3 : dropOldest c 3 with
    | some c' => makeRoomLoop limit bytes c'
    | none =>
      match _h2 : dropOldest c 2 with
      | some c' => makeRoomLoop limit bytes c'
      | none => (c, false)
  else (c, true)
termination_by (c.sendQueues 3).length + (c.sendQueues 2).length
decreasing_by
  · obtain ⟨frame, rest, hq, rfl⟩ := dropOldest_eq_some _h3
    simp [RuntimeConnection.evicted, hq]
  · obtain ⟨frame, rest, hq, rfl⟩ := dropOldest_eq_some _h2
    simp [RuntimeConnection.evicted, hq]

/-- The eviction loop of `runtime_enqueue`. -/
def makeRoom (c : RuntimeConnection) (bytes : ℕ) (qos : QosClass) : RuntimeConnection × Bool :=
  makeRoomLoop (enqueueLimit c qos) bytes c

/-- The new content of the first queued frame of the key. -/
def replaceFirst (latestKey : Text) (replacement : OutboundFrame) :
    List OutboundFrame → List OutboundFrame
  | [] => []
  | frame :: rest =>
      if frame.latestKey = latestKey then replacement :: rest
      else frame :: replaceFirst latestKey replacement rest

/-- The branch that replaces the queued `frame` in place. -/
def replaceLatest (c : RuntimeConnection) (frame : OutboundFrame) (bytes : Bytes) (stamp : ℕ) :
    RuntimeConnection × Bool :=
  match makeRoom (c.subQueuedBytes frame.bytes.length) bytes.length .reliableLatest with
  | (c', false) => ({ c' with queuedBytes := c'.queuedBytes + frame.bytes.length }, false)
  | (c', true) =>
      ({ c' with
        queuedBytes := c'.queuedBytes + bytes.length
        sendQueues := Function.update c'.sendQueues 1
          (replaceFirst frame.latestKey { frame with bytes, stamp } (c'.sendQueues 1))
        log.replaced := c'.log.replaced ++ [(frame, { frame with bytes, stamp })] }, true)

/-- The branch that appends a frame to its queue. -/
def pushBack (c : RuntimeConnection) (frame : OutboundFrame) : RuntimeConnection × Bool :=
  match makeRoom c frame.bytes.length frame.qos with
  | (c', false) => (c', false)
  | (c', true) =>
      ({ c' with
        queuedBytes := c'.queuedBytes + frame.bytes.length
        sendQueues := Function.update c'.sendQueues (qosIndex frame.qos)
          (c'.sendQueues (qosIndex frame.qos) ++ [frame]) }, true)

/-- `runtime_enqueue`, with the flag it returns. -/
def runtimeEnqueue (c : RuntimeConnection) (bytes : Bytes) (qos : QosClass) (latestKey : Text)
    (stamp : ℕ) : RuntimeConnection × Bool :=
  if bytes.isEmpty || !c.running then (c, false)
  else if enqueueLimit c qos < bytes.length then (c, false)
  else if qos = .reliableLatest ∧ latestKey ≠ [] then
    match (c.sendQueues 1).find? fun frame => frame.latestKey = latestKey with
    | some frame => replaceLatest c frame bytes stamp
    | none => pushBack c { bytes, qos, latestKey, stamp }
  else pushBack c { bytes, qos, latestKey, stamp }

/-- `take_next_frame`: the front of the first queue that is not empty. -/
def takeNextFrame (c : RuntimeConnection) : RuntimeConnection × Option OutboundFrame :=
  match (List.finRange 4).find? fun i => !(c.sendQueues i).isEmpty with
  | none => (c, none)
  | some i =>
      match c.sendQueues i with
      | [] => (c, none)
      | frame :: rest =>
          ({ c.subQueuedBytes frame.bytes.length with
            sendQueues := Function.update c.sendQueues i rest }, some frame)

/-! ### One queue of four is changed -/

theorem forall_mem_update {P : Fin 4 → OutboundFrame → Prop} {queues : Fin 4 → List OutboundFrame}
    (h : ∀ i, ∀ f ∈ queues i, P i f) {j : Fin 4} {queue : List OutboundFrame}
    (hj : ∀ f ∈ queue, P j f) : ∀ i, ∀ f ∈ Function.update queues j queue i, P i f := by
  intro i f hf
  by_cases hi : i = j
  · subst hi
    rw [Function.update_self] at hf
    exact hj f hf
  · rw [Function.update_of_ne hi] at hf
    exact h i f hf

/-- A measure of the queues, after one of them changed. -/
theorem sum_update (μ : List OutboundFrame → ℕ) (queues : Fin 4 → List OutboundFrame) (i : Fin 4)
    (queue : List OutboundFrame) :
    ∑ j, μ (Function.update queues i queue j) + μ (queues i) = ∑ j, μ (queues j) + μ queue := by
  have hrest : ∀ j ∈ Finset.univ.erase i, μ (Function.update queues i queue j) = μ (queues j) := by
    intro j hj
    rw [Function.update_of_ne (Finset.ne_of_mem_erase hj)]
  have hi := Finset.mem_univ i
  rw [← Finset.add_sum_erase _ _ hi, ← Finset.add_sum_erase _ _ hi, Finset.sum_congr rfl hrest,
    Function.update_self]
  omega

/-! ### What the operations do -/

/-- The evictions of `make_room`: Bulk while there is any, then BestEffort. -/
inductive Evicts : RuntimeConnection → RuntimeConnection → Prop
  | refl (c : RuntimeConnection) : Evicts c c
  | bulk {c c' : RuntimeConnection} {frame : OutboundFrame} {rest : List OutboundFrame}
      (hq : c.sendQueues 3 = frame :: rest) (h : Evicts (c.evicted 3 frame rest) c') : Evicts c c'
  | bestEffort {c c' : RuntimeConnection} {frame : OutboundFrame} {rest : List OutboundFrame}
      (h3 : c.sendQueues 3 = []) (hq : c.sendQueues 2 = frame :: rest)
      (h : Evicts (c.evicted 2 frame rest) c') : Evicts c c'

namespace Evicts

variable {c c' : RuntimeConnection}

/-- What every eviction from a lossy queue leaves alone, evictions leave alone. -/
theorem invariant {α : Type*} (f : RuntimeConnection → α)
    (hf : ∀ c i frame rest, (i = 2 ∨ i = 3) → f (c.evicted i frame rest) = f c) (h : Evicts c c') :
    f c' = f c := by
  induction h with
  | refl c => rfl
  | bulk hq _ ih => exact ih.trans (hf _ _ _ _ (Or.inr rfl))
  | bestEffort h3 hq _ ih => exact ih.trans (hf _ _ _ _ (Or.inl rfl))

theorem maxQueuedBytes_eq (h : Evicts c c') : c'.maxQueuedBytes = c.maxQueuedBytes :=
  h.invariant _ fun _ _ _ _ _ => rfl

/-- The reliable queues are never evicted from. -/
theorem sendQueues_eq (h : Evicts c c') {i : Fin 4} (hi : i = 0 ∨ i = 1) :
    c'.sendQueues i = c.sendQueues i := by
  refine h.invariant (fun c => c.sendQueues i) ?_
  intro c j frame rest hj
  have hij : i ≠ j := by
    rcases hi with rfl | rfl <;> rcases hj with rfl | rfl <;> decide
  exact Function.update_of_ne hij _ _

end Evicts

theorem makeRoomLoop_spec (limit bytes : ℕ) (c : RuntimeConnection) :
    Evicts c (makeRoomLoop limit bytes c).1 ∧
      ((makeRoomLoop limit bytes c).2 = true →
        (makeRoomLoop limit bytes c).1.queuedBytes + bytes ≤ limit) ∧
      ((makeRoomLoop limit bytes c).2 = false →
        (makeRoomLoop limit bytes c).1.sendQueues 2 = [] ∧
        (makeRoomLoop limit bytes c).1.sendQueues 3 = [] ∧
        limit < (makeRoomLoop limit bytes c).1.queuedBytes + bytes) := by
  fun_induction makeRoomLoop limit bytes c with
  | case1 c hlt c₁ h3 ih =>
    obtain ⟨frame, rest, hq, rfl⟩ := dropOldest_eq_some h3
    exact ⟨.bulk hq ih.1, ih.2⟩
  | case2 c hlt h3 c₁ h2 ih =>
    obtain ⟨frame, rest, hq, rfl⟩ := dropOldest_eq_some h2
    exact ⟨.bestEffort (dropOldest_eq_none h3) hq ih.1, ih.2⟩
  | case3 c hlt h3 h2 =>
    exact ⟨.refl c, by simp, fun _ => ⟨dropOldest_eq_none h2, dropOldest_eq_none h3, hlt⟩⟩
  | case4 c hlt => exact ⟨.refl c, fun _ => Nat.le_of_not_lt hlt, by simp⟩

/-- **What `makeRoom` does**: it evicts until the frame fits, and gives up only
with both lossy queues empty. -/
theorem makeRoom_spec {c c' : RuntimeConnection} {bytes : ℕ} {qos : QosClass} {ok : Bool}
    (h : makeRoom c bytes qos = (c', ok)) :
    Evicts c c' ∧ (ok = true → c'.queuedBytes + bytes ≤ enqueueLimit c qos) ∧
      (ok = false → c'.sendQueues 2 = [] ∧ c'.sendQueues 3 = [] ∧
        enqueueLimit c qos < c'.queuedBytes + bytes) := by
  have hspec := makeRoomLoop_spec (enqueueLimit c qos) bytes c
  unfold makeRoom at h
  rw [h] at hspec
  exact hspec

/-- The frame of a key that `replaceFirst` finds, and what it leaves around it. -/
theorem replaceFirst_append {latestKey : Text} {replacement frame : OutboundFrame}
    {pre post : List OutboundFrame} (hkey : frame.latestKey = latestKey)
    (hpre : ∀ g ∈ pre, g.latestKey ≠ latestKey) :
    replaceFirst latestKey replacement (pre ++ frame :: post) = pre ++ replacement :: post := by
  induction pre with
  | nil => simp [replaceFirst, hkey]
  | cons g pre ih =>
    have hg : g.latestKey ≠ latestKey := hpre g List.mem_cons_self
    simp only [List.cons_append, replaceFirst, if_neg hg]
    rw [ih fun g' hg' => hpre g' (List.mem_cons_of_mem g hg')]

/-- The outcomes of an enqueue.  A refusal may have evicted, and may have taken a
queued frame out of the count and put it back. -/
inductive EnqueueOutcome (c : RuntimeConnection) (bytes : Bytes) (qos : QosClass) (latestKey : Text)
    (stamp : ℕ) : RuntimeConnection × Bool → Prop
  | ignored (h : bytes = [] ∨ c.running = false ∨ enqueueLimit c qos < bytes.length) :
      EnqueueOutcome c bytes qos latestKey stamp (c, false)
  | refused {c' : RuntimeConnection} (h : Evicts c c')
      (hroom : enqueueLimit c qos < c'.queuedBytes + bytes.length)
      (h2 : c'.sendQueues 2 = []) (h3 : c'.sendQueues 3 = []) :
      EnqueueOutcome c bytes qos latestKey stamp (c', false)
  | kept {c' : RuntimeConnection} {frame : OutboundFrame} (hqos : qos = .reliableLatest)
      (hmem : frame ∈ c.sendQueues 1) (h : Evicts (c.subQueuedBytes frame.bytes.length) c') :
      EnqueueOutcome c bytes qos latestKey stamp
        ({ c' with queuedBytes := c'.queuedBytes + frame.bytes.length }, false)
  | replaced {c' : RuntimeConnection} {frame : OutboundFrame} {pre post : List OutboundFrame}
      (hbytes : bytes ≠ []) (hqos : qos = .reliableLatest) (hkey : frame.latestKey = latestKey)
      (hne : latestKey ≠ []) (hq : c.sendQueues 1 = pre ++ frame :: post)
      (hpre : ∀ g ∈ pre, g.latestKey ≠ latestKey)
      (h : Evicts (c.subQueuedBytes frame.bytes.length) c')
      (hroom : c'.queuedBytes + bytes.length ≤ enqueueLimit c qos) :
      EnqueueOutcome c bytes qos latestKey stamp
        ({ c' with
          queuedBytes := c'.queuedBytes + bytes.length
          sendQueues := Function.update c'.sendQueues 1 (pre ++ { frame with bytes, stamp } :: post)
          log.replaced := c'.log.replaced ++ [(frame, { frame with bytes, stamp })] }, true)
  | pushed {c' : RuntimeConnection} (hbytes : bytes ≠ [])
      (hkey : qos = .reliableLatest → latestKey ≠ [] →
        ∀ g ∈ c.sendQueues 1, g.latestKey ≠ latestKey)
      (h : Evicts c c') (hroom : c'.queuedBytes + bytes.length ≤ enqueueLimit c qos) :
      EnqueueOutcome c bytes qos latestKey stamp
        ({ c' with
          queuedBytes := c'.queuedBytes + bytes.length
          sendQueues := Function.update c'.sendQueues (qosIndex qos)
            (c'.sendQueues (qosIndex qos) ++ [{ bytes, qos, latestKey, stamp }]) }, true)

theorem pushBack_outcome {c : RuntimeConnection} {bytes : Bytes} {qos : QosClass} {latestKey : Text}
    {stamp : ℕ} (hbytes : bytes ≠ [])
    (hkey : qos = .reliableLatest → latestKey ≠ [] →
      ∀ g ∈ c.sendQueues 1, g.latestKey ≠ latestKey) :
    EnqueueOutcome c bytes qos latestKey stamp (pushBack c { bytes, qos, latestKey, stamp }) := by
  unfold pushBack
  split
  · next c' hroom =>
    obtain ⟨hev, -, hfull⟩ := makeRoom_spec hroom
    obtain ⟨h2, h3, hlt⟩ := hfull rfl
    exact .refused hev hlt h2 h3
  · next c' hroom =>
    obtain ⟨hev, hfits, -⟩ := makeRoom_spec hroom
    exact .pushed hbytes hkey hev (hfits rfl)

theorem replaceLatest_outcome {c : RuntimeConnection} {frame : OutboundFrame} {bytes : Bytes}
    {latestKey : Text} {stamp : ℕ} (hbytes : bytes ≠ []) (hne : latestKey ≠ [])
    (hfind : (c.sendQueues 1).find? (fun frame => frame.latestKey = latestKey) = some frame) :
    EnqueueOutcome c bytes .reliableLatest latestKey stamp (replaceLatest c frame bytes stamp) := by
  obtain ⟨hkey, pre, post, hq, hpre⟩ := List.find?_eq_some_iff_append.mp hfind
  obtain rfl : frame.latestKey = latestKey := of_decide_eq_true hkey
  replace hpre : ∀ g ∈ pre, g.latestKey ≠ frame.latestKey := fun g hg => by
    simpa using hpre g hg
  unfold replaceLatest
  split
  · next c' hroom =>
    exact .kept rfl (by rw [hq]; simp) (makeRoom_spec hroom).1
  · next c' hroom =>
    obtain ⟨hev, hfits, -⟩ := makeRoom_spec hroom
    have hq' : c'.sendQueues 1 = pre ++ frame :: post := by
      rw [hev.sendQueues_eq (Or.inr rfl)]
      exact hq
    rw [hq', replaceFirst_append rfl hpre]
    exact .replaced hbytes rfl rfl hne hq hpre hev (hfits rfl)

/-- **The outcomes of an enqueue.** -/
theorem runtimeEnqueue_outcome (c : RuntimeConnection) (bytes : Bytes) (qos : QosClass)
    (latestKey : Text) (stamp : ℕ) :
    EnqueueOutcome c bytes qos latestKey stamp (runtimeEnqueue c bytes qos latestKey stamp) := by
  unfold runtimeEnqueue
  split
  · next h =>
    refine .ignored ?_
    rcases Bool.or_eq_true_iff.mp h with hb | hr
    · exact Or.inl (List.isEmpty_iff.mp hb)
    · exact Or.inr (Or.inl (by simpa using hr))
  next h =>
  have hbytes : bytes ≠ [] := by
    intro hb
    simp [hb] at h
  split
  · next hlimit => exact .ignored (Or.inr (Or.inr hlimit))
  split
  · next hlatest =>
    obtain ⟨rfl, hne⟩ := hlatest
    split
    · next frame hfind => exact replaceLatest_outcome hbytes hne hfind
    · next hfind =>
      refine pushBack_outcome hbytes ?_
      intro _ _ g hg
      simpa using List.find?_eq_none.mp hfind g hg
  · next hlatest =>
    exact pushBack_outcome hbytes fun hqos hne => absurd ⟨hqos, hne⟩ hlatest

/-- **The outcomes of a dequeue**: nothing is queued, or the front of the first
queue that holds a frame is taken. -/
theorem takeNextFrame_cases (c : RuntimeConnection) :
    ((∀ i, c.sendQueues i = []) ∧ takeNextFrame c = (c, none)) ∨
      ∃ i frame rest, c.sendQueues i = frame :: rest ∧ (∀ j < i, c.sendQueues j = []) ∧
        takeNextFrame c = ({ c.subQueuedBytes frame.bytes.length with
          sendQueues := Function.update c.sendQueues i rest }, some frame) := by
  unfold takeNextFrame
  split
  · next hnone =>
    refine Or.inl ⟨fun i => ?_, rfl⟩
    simpa using List.find?_eq_none.mp hnone i (List.mem_finRange i)
  · next i hfind =>
    obtain ⟨hi, pre, post, hrange, hpre⟩ := List.find?_eq_some_iff_append.mp hfind
    split
    · next hq => simp [hq] at hi
    · next frame rest hq =>
      refine Or.inr ⟨i, frame, rest, hq, fun j hj => ?_, rfl⟩
      -- The queues are searched in order, so a queue before `i` was found empty.
      have hmem : j ∈ pre := by
        have hsorted : (pre ++ i :: post).Pairwise (· < ·) := by
          rw [← hrange]
          exact List.pairwise_lt_finRange 4
        have hj' : j ∈ pre ++ i :: post := hrange ▸ List.mem_finRange j
        rcases List.mem_append.mp hj' with hj' | hj'
        · exact hj'
        · obtain ⟨-, hpost, -⟩ := List.pairwise_append.mp hsorted
          rcases List.mem_cons.mp hj' with rfl | hj'
          · exact absurd hj (lt_irrefl _)
          · exact absurd ((List.pairwise_cons.mp hpost).1 j hj') (lt_asymm hj)
      simpa using hpre j hmem

end YunLink
