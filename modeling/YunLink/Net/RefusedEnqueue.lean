import YunLink.Net.QueueBudget

/-!
# Refused frames

`make_room` evicts lossy frames one by one until the new frame fits, and finds out that
it never will only when none is left.  A refused enqueue has then emptied both lossy
queues for nothing.  It does so exactly when there was something to evict and the
reliable frames alone leave no room: the frames that cannot be evicted, less the one that
the new frame would have replaced.

## Main definitions

* `replacedBytes` — the size of the frame that an enqueue would replace.
* `EvictsInVain` — the calls that evict and are refused.

## Main results

* `makeRoom_fails_iff` — when room cannot be made.
* `makeRoom_fails_unchanged_iff` — when the attempt leaves the queues alone.
* `refusedEnqueue_unchanged_iff` — **a refused enqueue changes nothing, except in vain.**
-/

namespace YunLink

/-- The size of the queued frame that the new one replaces. -/
def replacedBytes (c : RuntimeConnection) (qos : QosClass) (latestKey : Text) : ℕ :=
  if qos = .reliableLatest ∧ latestKey ≠ [] then
    match (c.sendQueues 1).find? fun frame => frame.latestKey = latestKey with
    | some frame => frame.bytes.length
    | none => 0
  else 0

/-- The call gets as far as making room, there are lossy frames to evict, and the frames
that cannot be evicted leave too little room. -/
def EvictsInVain (c : RuntimeConnection) (bytes : Bytes) (qos : QosClass) (latestKey : Text) :
    Prop :=
  bytes ≠ [] ∧ c.running = true ∧ bytes.length ≤ enqueueLimit c qos ∧
    (c.sendQueues 2 ≠ [] ∨ c.sendQueues 3 ≠ []) ∧
    enqueueLimit c qos + replacedBytes c qos latestKey <
      queueBytes (c.sendQueues 0) + queueBytes (c.sendQueues 1) + bytes.length

/-! ### Making room -/

section makeRoom

variable {c c' : RuntimeConnection} {hole bytes : ℕ} {qos : QosClass} {ok : Bool}

/-- **Room cannot be made** exactly when the reliable frames that count leave none. -/
theorem makeRoom_fails_iff (h : Accounted c hole) (hroom : makeRoom c bytes qos = (c', ok)) :
    ok = false ↔ enqueueLimit c qos + hole <
      queueBytes (c.sendQueues 0) + queueBytes (c.sendQueues 1) + bytes := by
  obtain ⟨hev, hfits, hfull⟩ := makeRoom_spec hroom
  have htotal := (h.evicts hev).total
  rw [totalBytes_eq, hev.sendQueues_eq (Or.inl rfl), hev.sendQueues_eq (Or.inr rfl)] at htotal
  constructor
  · intro hfalse
    obtain ⟨h2, h3, hover⟩ := hfull hfalse
    rw [h2, h3, queueBytes_nil] at htotal
    omega
  · intro hover
    cases ok with
    | false => rfl
    | true =>
      have hfit := hfits rfl
      omega

/-- Evictions that leave the lossy queues as they are leave everything. -/
theorem Evicts.eq_of_empty (h : Evicts c c') (h2 : c.sendQueues 2 = []) (h3 : c.sendQueues 3 = []) :
    c' = c := by
  cases h with
  | refl => rfl
  | bulk hq =>
    rw [h3] at hq
    cases hq
  | bestEffort _ hq =>
    rw [h2] at hq
    cases hq

/-- **An attempt that fails leaves the queues alone** only when there was nothing to evict. -/
theorem makeRoom_fails_unchanged_iff (hroom : makeRoom c bytes qos = (c', false)) :
    c'.sendQueues = c.sendQueues ∧ c'.queuedBytes = c.queuedBytes ↔
      c.sendQueues 2 = [] ∧ c.sendQueues 3 = [] := by
  obtain ⟨hev, -, hfull⟩ := makeRoom_spec hroom
  obtain ⟨h2, h3, -⟩ := hfull rfl
  constructor
  · rintro ⟨hqueues, -⟩
    rw [hqueues] at h2 h3
    exact ⟨h2, h3⟩
  · rintro ⟨hempty2, hempty3⟩
    rw [hev.eq_of_empty hempty2 hempty3]
    exact ⟨rfl, rfl⟩

end makeRoom

/-! ### The two paths of an enqueue -/

section paths

variable {c : RuntimeConnection} {bytes : Bytes} {latestKey : Text}

/-- A refused call leaves the queues and the counter as they were. -/
def RefusalUnchanged (c : RuntimeConnection) (out : RuntimeConnection × Bool) : Prop :=
  out.2 = false → out.1.sendQueues = c.sendQueues ∧ out.1.queuedBytes = c.queuedBytes

/-- A call that succeeds promises nothing, and one that fails what its attempt shows. -/
theorem refusalUnchanged_iff {out : RuntimeConnection × Bool} {ok : Bool} {p : Prop}
    (hout : out.2 = ok)
    (h : ok = false →
      (out.1.sendQueues = c.sendQueues ∧ out.1.queuedBytes = c.queuedBytes ↔ p)) :
    RefusalUnchanged c out ↔ (ok = false → p) := by
  subst hout
  exact imp_congr_right h

/-- Nothing lossy is queued, or the call succeeds: the shape both paths share. -/
theorem not_evictsInVain_iff {qos : QosClass} (hbytes : bytes ≠ []) (hrunning : c.running = true)
    (hlimit : bytes.length ≤ enqueueLimit c qos) {ok : Bool}
    (hfails : ok = false ↔ enqueueLimit c qos + replacedBytes c qos latestKey <
      queueBytes (c.sendQueues 0) + queueBytes (c.sendQueues 1) + bytes.length) :
    ¬ EvictsInVain c bytes qos latestKey ↔
      (ok = false → c.sendQueues 2 = [] ∧ c.sendQueues 3 = []) := by
  unfold EvictsInVain
  rw [← hfails]
  constructor
  · intro hnot hfalse
    by_contra hsome
    rw [not_and_or] at hsome
    exact hnot ⟨hbytes, hrunning, hlimit, hsome, hfalse⟩
  · rintro himp ⟨-, -, -, hsome, hfalse⟩
    obtain ⟨h2, h3⟩ := himp hfalse
    rcases hsome with hsome | hsome
    · exact hsome h2
    · exact hsome h3

/-- The path that appends a frame. -/
theorem pushBack_unchanged_iff {frame : OutboundFrame} (h : WithinBudget c)
    (hbytes : frame.bytes ≠ []) (hrunning : c.running = true)
    (hlimit : frame.bytes.length ≤ enqueueLimit c frame.qos)
    (hreplaced : replacedBytes c frame.qos frame.latestKey = 0) :
    RefusalUnchanged c (pushBack c frame) ↔
      ¬ EvictsInVain c frame.bytes frame.qos frame.latestKey := by
  unfold pushBack
  rcases hroom : makeRoom c frame.bytes.length frame.qos with ⟨c', ok⟩
  have hfails := makeRoom_fails_iff h.toAccounted hroom
  rw [← hreplaced] at hfails
  rw [not_evictsInVain_iff hbytes hrunning hlimit hfails]
  apply refusalUnchanged_iff
  · cases ok <;> rfl
  · rintro rfl
    exact makeRoom_fails_unchanged_iff hroom

/-- The path that replaces a frame: it is taken out of the count and put back. -/
theorem replaceLatest_unchanged_iff {frame : OutboundFrame} (stamp : ℕ) (h : WithinBudget c)
    (hbytes : bytes ≠ []) (hrunning : c.running = true)
    (hlimit : bytes.length ≤ enqueueLimit c .reliableLatest) (hmem : frame ∈ c.sendQueues 1)
    (hreplaced : replacedBytes c .reliableLatest latestKey = frame.bytes.length) :
    RefusalUnchanged c (replaceLatest c frame bytes stamp) ↔
      ¬ EvictsInVain c bytes .reliableLatest latestKey := by
  unfold replaceLatest
  have hopen := h.toAccounted.open_hole hmem
  have hcount : (c.subQueuedBytes frame.bytes.length).queuedBytes + frame.bytes.length =
      c.queuedBytes := by
    have hbefore := h.total
    have hafter : (c.subQueuedBytes frame.bytes.length).queuedBytes + frame.bytes.length =
        totalBytes c.sendQueues := hopen.total
    omega
  rcases hroom : makeRoom (c.subQueuedBytes frame.bytes.length) bytes.length .reliableLatest with
    ⟨c', ok⟩
  have hfails := makeRoom_fails_iff hopen hroom
  rw [← hreplaced] at hfails
  rw [not_evictsInVain_iff hbytes hrunning hlimit hfails]
  apply refusalUnchanged_iff
  · cases ok <;> rfl
  · rintro rfl
    have hunchanged : c'.sendQueues = c.sendQueues ∧
        c'.queuedBytes = (c.subQueuedBytes frame.bytes.length).queuedBytes ↔
        c.sendQueues 2 = [] ∧ c.sendQueues 3 = [] := makeRoom_fails_unchanged_iff hroom
    rw [← hunchanged]
    -- The frame is counted again, so the counter is back where it was.
    show _ ∧ c'.queuedBytes + frame.bytes.length = c.queuedBytes ↔ _
    refine and_congr_right fun _ => ?_
    omega

end paths

/-- **A refused enqueue changes nothing, except in vain**: on a connection within its
budget. -/
theorem runtimeEnqueue_unchanged_iff {c : RuntimeConnection} (h : WithinBudget c) (bytes : Bytes)
    (qos : QosClass) (latestKey : Text) (stamp : ℕ) :
    RefusalUnchanged c (runtimeEnqueue c bytes qos latestKey stamp) ↔
      ¬ EvictsInVain c bytes qos latestKey := by
  unfold runtimeEnqueue
  by_cases hearly : (bytes.isEmpty || !c.running) = true
  · rw [if_pos hearly]
    refine iff_of_true (fun _ => ⟨rfl, rfl⟩) ?_
    rintro ⟨hbytes, hrunning, -⟩
    rw [hrunning, Bool.not_true, Bool.or_false, List.isEmpty_iff] at hearly
    exact hbytes hearly
  rw [if_neg hearly]
  obtain ⟨hbytes, hrunning⟩ : bytes ≠ [] ∧ c.running = true := by
    simpa using hearly
  by_cases hlarge : enqueueLimit c qos < bytes.length
  · rw [if_pos hlarge]
    refine iff_of_true (fun _ => ⟨rfl, rfl⟩) ?_
    rintro ⟨-, -, hlimit, -⟩
    omega
  rw [if_neg hlarge]
  have hlimit : bytes.length ≤ enqueueLimit c qos := Nat.le_of_not_lt hlarge
  by_cases hlatest : qos = .reliableLatest ∧ latestKey ≠ []
  · rw [if_pos hlatest]
    have hreplaced : replacedBytes c qos latestKey =
        match (c.sendQueues 1).find? fun frame => frame.latestKey = latestKey with
        | some frame => frame.bytes.length
        | none => 0 := if_pos hlatest
    obtain ⟨rfl, -⟩ := hlatest
    cases hfind : (c.sendQueues 1).find? fun frame => frame.latestKey = latestKey with
    | some frame =>
      rw [hfind] at hreplaced
      exact replaceLatest_unchanged_iff stamp h hbytes hrunning hlimit
        (List.mem_of_find?_eq_some hfind) hreplaced
    | none =>
      rw [hfind] at hreplaced
      exact @pushBack_unchanged_iff c ⟨bytes, .reliableLatest, latestKey, stamp⟩ h hbytes
        hrunning hlimit hreplaced
  · rw [if_neg hlatest]
    exact @pushBack_unchanged_iff c ⟨bytes, qos, latestKey, stamp⟩ h hbytes hrunning hlimit
      (if_neg hlatest)

/-- **A refused enqueue changes nothing, except in vain**: in every run of the queues, a
call that returns false leaves the four queues and the counter as they were if and only
if it does not evict in vain. -/
theorem refusedEnqueue_unchanged_iff (peer : Peer) (running : Bool) (maxQueuedBytes : ℕ)
    (ops : List QueueOp) (bytes : Bytes) (qos : QosClass) (latestKey : Text) (stamp : ℕ) :
    let c := (queueRun peer running maxQueuedBytes ops).conn
    RefusalUnchanged c (runtimeEnqueue c bytes qos latestKey stamp) ↔
      ¬ EvictsInVain c bytes qos latestKey :=
  runtimeEnqueue_unchanged_iff (queueRun_withinBudget peer running maxQueuedBytes ops) bytes qos
    latestKey stamp

/-- A control frame is refused, and the media frame that was queued is gone. -/
theorem refusedEnqueue_evicts :
    let c := (queueRun {} true 8 [.enqueue [1, 2] .bulk [], .enqueue [1, 2, 3, 4, 5]
      .reliableOrdered []]).conn
    let out := runtimeEnqueue c [1, 2, 3, 4] .reliableOrdered [] 2
    out.2 = false ∧ queueBytes (c.sendQueues 3) = 2 ∧ out.1.sendQueues 3 = [] ∧
      ¬ RefusalUnchanged c out := by
  intro c out
  have hrefused : out.2 = false := by decide +kernel
  have hqueued : queueBytes (c.sendQueues 3) = 2 := by decide +kernel
  have hgone : out.1.sendQueues 3 = [] := by decide +kernel
  refine ⟨hrefused, hqueued, hgone, fun h => ?_⟩
  rw [← (h hrefused).1, hgone] at hqueued
  cases hqueued

end YunLink
