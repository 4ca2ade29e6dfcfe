import YunLink.Net.QueueDelivery
import YunLink.Net.Receive
import YunLink.Net.SendLoop

/-!
# From one queue to the other end

The queues, the send loop and the receive loop together: what is accepted at one end is
handed over at the other.  The network in between passes bytes on in order and may hold
any number of them back, and the reads cut what arrives at any place.

The bytes that arrive are a prefix of what the loop wrote, which is a stream of whole
frames up to a last one that may be torn.  With the missing bytes of that one at its end,
the stream is one of encoded frames, so the receive loop reassembles as much of it as has
arrived.  A frame that is skipped is lossy; hence the promises of the queues reach as far
as the other end.

## Main definitions

* `ProducerOp.Fits` — a producer enqueues encoded frames that leave room for one read.
* `HandedOver` — what the other end is promised of the frames handed over.
* `NothingMissing` — all that was accepted and must arrive has been handed over.

## Main result

* `endToEnd` — **what is handed over keeps the promises at any time, and once nothing is left
  on the way nothing reliable is missing.**
-/

namespace YunLink

open WireCodec

/-! ### The queues of a send loop -/

/-- The loop takes frames, and may stop the connection. -/
theorem SendLoop.queue_advance (s : SendLoop) (lossyChannel : Bool) :
    ∃ ops : List QueueOp, (s.advance lossyChannel).queue = ops.foldl QueueRun.step s.queue ∧
      ∀ bytes qos latestKey, QueueOp.enqueue bytes qos latestKey ∉ ops := by
  have hwrite : ∀ (s : SendLoop) (frame : OutboundFrame), ∃ ops : List QueueOp,
      (s.write lossyChannel frame).queue = ops.foldl QueueRun.step s.queue ∧
        ∀ bytes qos latestKey, QueueOp.enqueue bytes qos latestKey ∉ ops := by
    intro s frame
    unfold SendLoop.write
    dsimp only
    split
    · exact ⟨[], rfl, by simp⟩
    · split
      · exact ⟨[], rfl, by simp⟩
      · exact ⟨[.setRunning false], rfl, by simp⟩
  have hafter : ∀ s : SendLoop, ∃ ops : List QueueOp,
      (s.afterWait lossyChannel).queue = ops.foldl QueueRun.step s.queue ∧
        ∀ bytes qos latestKey, QueueOp.enqueue bytes qos latestKey ∉ ops := by
    intro s
    unfold SendLoop.afterWait
    dsimp only
    split
    · exact ⟨[], rfl, by simp⟩
    · split
      · exact ⟨[], rfl, by simp⟩
      · next conn frame htake =>
        obtain ⟨ops, hops, hnone⟩ := hwrite
          { s with socket := s.socket.running.2, queue := s.queue.step .take } frame
        refine ⟨.take :: ops, hops, fun bytes qos latestKey hmem => ?_⟩
        rcases List.mem_cons.mp hmem with heq | hmem
        · cases heq
        · exact hnone bytes qos latestKey hmem
  have hwait : ∀ s : SendLoop, ∃ ops : List QueueOp,
      (s.wait lossyChannel).queue = ops.foldl QueueRun.step s.queue ∧
        ∀ bytes qos latestKey, QueueOp.enqueue bytes qos latestKey ∉ ops := by
    intro s
    unfold SendLoop.wait
    dsimp only
    split
    · exact ⟨[], rfl, by simp⟩
    · exact hafter _
  unfold SendLoop.advance
  split
  · exact ⟨[], rfl, by simp⟩
  · exact hwait s
  · dsimp only
    split
    · exact ⟨[], rfl, by simp⟩
    · exact hwait _

/-- **The queues of a loop are those of a run of queue operations**, and what is enqueued is
what the producers enqueue. -/
theorem queue_sendLoopRun (peer : Peer) (running : Bool) (maxQueuedBytes : ℕ)
    (lossyChannel : Bool) (socket : Socket) (rounds : List (List ProducerOp)) :
    ∃ ops : List QueueOp,
      (sendLoopRun peer running maxQueuedBytes lossyChannel socket rounds).queue =
        queueRun peer running maxQueuedBytes ops ∧
      ∀ bytes qos latestKey, QueueOp.enqueue bytes qos latestKey ∈ ops →
        ∃ producers ∈ rounds, ProducerOp.enqueue bytes qos latestKey ∈ producers := by
  induction rounds using List.reverseRecOn with
  | nil => exact ⟨[], rfl, by simp⟩
  | append_singleton rounds producers ih =>
    obtain ⟨ops, hqueue, hops⟩ := ih
    obtain ⟨more, hmore, hnone⟩ := SendLoop.queue_advance
      ((sendLoopRun peer running maxQueuedBytes lossyChannel socket rounds).produce producers)
      lossyChannel
    refine ⟨ops ++ producers.map ProducerOp.toQueueOp ++ more, ?_, ?_⟩
    · rw [sendLoopRun, List.foldl_append, queueRun, List.foldl_append, List.foldl_append]
      rw [queueRun] at hqueue
      rw [← hqueue]
      exact hmore
    · intro bytes qos latestKey hmem
      rcases List.mem_append.mp hmem with hmem | hmem
      · rcases List.mem_append.mp hmem with hmem | hmem
        · obtain ⟨producers', hin, henqueue⟩ := hops bytes qos latestKey hmem
          exact ⟨producers', List.mem_append_left _ hin, henqueue⟩
        · obtain ⟨op, hop, heq⟩ := List.mem_map.mp hmem
          refine ⟨producers, List.mem_append_right _ List.mem_cons_self, ?_⟩
          cases op with
          | setRunning running => cases heq
          | enqueue bytes' qos' latestKey' =>
            cases heq
            exact hop
      · exact absurd hmem (hnone bytes qos latestKey)

/-- An accepted frame was enqueued. -/
theorem enqueue_mem_of_mem_accepted {peer : Peer} {running : Bool} {maxQueuedBytes : ℕ}
    {ops : List QueueOp} {f : OutboundFrame}
    (h : f ∈ (queueRun peer running maxQueuedBytes ops).accepted) :
    QueueOp.enqueue f.bytes f.qos f.latestKey ∈ ops := by
  induction ops using List.reverseRecOn with
  | nil => cases h
  | append_singleton ops op ih =>
    rw [queueRun, List.foldl_append, List.foldl_cons, List.foldl_nil] at h
    have hcases : f ∈ (queueRun peer running maxQueuedBytes ops).accepted ∨
        op = .enqueue f.bytes f.qos f.latestKey := by
      cases op with
      | setRunning running => exact Or.inl h
      | take =>
        simp only [QueueRun.step] at h
        split at h
        · exact Or.inl h
        · exact Or.inl h
      | enqueue bytes qos latestKey =>
        simp only [QueueRun.step] at h
        split at h
        · rcases List.mem_append.mp h with h | h
          · exact Or.inl h
          · rw [List.mem_singleton.mp h]
            exact Or.inr rfl
        · exact Or.inl h
    rcases hcases with hold | hnew
    · exact List.mem_append_left _ (ih hold)
    · exact List.mem_append_right _ (List.mem_singleton.mpr hnew.symm)

/-! ### What arrives -/

/-- What the producers enqueue: encoded frames for which the other end has room. -/
def ProducerOp.Fits (maxBufferBytes : ℕ) : ProducerOp → Prop
  | .enqueue bytes _ _ => Encoded bytes ∧ bytes.length + 8191 ≤ maxBufferBytes
  | .setRunning _ => True

/-- The classes that are never dropped. -/
def OutboundFrame.reliable (f : OutboundFrame) : Bool := !qosMayDrop f.qos

/-- What is not written whole is lossy. -/
theorem filter_reliable_of_done {done : List FrameWrite} (h : ∀ w ∈ done, w.Whole ∨ w.Skipped) :
    ((done.filter fun w => w.Whole).map FrameWrite.frame).filter OutboundFrame.reliable =
      (done.map FrameWrite.frame).filter OutboundFrame.reliable := by
  induction done with
  | nil => rfl
  | cons w done ih =>
    obtain ⟨hhere, hlater⟩ := List.forall_mem_cons.mp h
    by_cases hw : w.Whole
    · rw [List.filter_cons_of_pos (by simpa using hw), List.map_cons, List.map_cons,
        List.filter_cons, List.filter_cons, ih hlater]
    · have hlossy : ¬ w.frame.reliable = true := by
        rw [OutboundFrame.reliable, (hhere.resolve_left hw).2]
        decide
      rw [List.filter_cons_of_neg (by simpa using hw), List.map_cons,
        List.filter_cons_of_neg hlossy, ih hlater]

/-- The stream of a loop: the frames it wrote whole, and a last one that it wrote in part. -/
structure SendLoop.Stream (s : SendLoop) (frames : List OutboundFrame) : Prop where
  taken : frames.Sublist s.queue.taken
  reliable : frames.filter OutboundFrame.reliable = s.queue.taken.filter OutboundFrame.reliable
  wire : ∃ missing, s.wire ++ missing = (frames.map OutboundFrame.bytes).flatten
  whole : s.phase ≠ .left → s.wire = (frames.map OutboundFrame.bytes).flatten

theorem Framing.stream {s : SendLoop} (h : Framing s) : ∃ frames, s.Stream frames := by
  obtain ⟨done, torn, hwrites, hdone, htorn⟩ := h.framed
  refine ⟨(done.filter fun w => w.Whole).map FrameWrite.frame ++ torn.map FrameWrite.frame, ?_⟩
  have htaken : s.queue.taken = done.map FrameWrite.frame ++ torn.map FrameWrite.frame := by
    rw [h.taken, hwrites, List.map_append]
  have hwire : s.wire = ((done.filter fun w => w.Whole).map fun w => w.frame.bytes).flatten ++
      (torn.map FrameWrite.wire).flatten := by
    rw [SendLoop.wire, hwrites, List.map_append, List.flatten_append, flatten_wire_of_done hdone]
  have hbytes : (((done.filter fun w => w.Whole).map FrameWrite.frame ++
      torn.map FrameWrite.frame).map OutboundFrame.bytes).flatten =
      ((done.filter fun w => w.Whole).map fun w => w.frame.bytes).flatten ++
        (torn.map fun w => w.frame.bytes).flatten := by
    rw [List.map_append, List.flatten_append, List.map_map, List.map_map]
    rfl
  refine ⟨?_, ?_, ?_, fun hphase => ?_⟩
  · rw [htaken]
    exact (List.filter_sublist.map _).append_right _
  · rw [htaken, List.filter_append, List.filter_append, filter_reliable_of_done hdone]
  · rw [hwire, hbytes]
    rcases htorn with rfl | ⟨-, w, rfl, ⟨missing, hmissing⟩, -⟩
    · exact ⟨[], List.append_nil _⟩
    · refine ⟨missing, ?_⟩
      rw [List.append_assoc]
      simpa using hmissing
  · rw [hwire, hbytes]
    rcases htorn with rfl | ⟨hleft, -⟩
    · rfl
    · exact absurd hleft hphase

/-- **What arrives of a stream is reassembled.** -/
theorem receiveRun_of_prefix {maxBufferBytes : ℕ} {frames : List Bytes} {reads : List ReadOutcome}
    {rest : Bytes} (hframes : ∀ f ∈ frames, Encoded f ∧ f.length + 8191 ≤ maxBufferBytes)
    (hreads : ∀ r ∈ reads, r.Delivers)
    (hcut : (reads.map ReadOutcome.bytes).flatten ++ rest = frames.flatten) :
    ∃ done todo, frames = done ++ todo ∧
      Reassembled (receiveRun maxBufferBytes reads) done todo rest := by
  have hstart : Reassembled {} [] frames ((reads.map ReadOutcome.bytes).flatten ++ rest) :=
    reassembled_start (fun f hf => (hframes f hf).1) hcut
  exact run_of_read (fun h hframes hread _ => h.read hframes hread) hstart hframes hreads
    (Run.along_of_forall fun _ _ => trivial)

/-! ### The promises at the other end -/

/-- What the other end is promised of the frames handed over. -/
structure HandedOver (r : QueueRun) (handed : List OutboundFrame) : Prop where
  once : (handed.map OutboundFrame.stamp).Nodup
  /-- Of the ReliableOrdered frames none is left out. -/
  ordered : (handed.filter fun f => f.qos = .reliableOrdered) <+:
    r.accepted.filter fun f => f.qos = .reliableOrdered
  latest : ∀ key, (handed.filter fun f => f.qos = .reliableLatest ∧ f.latestKey = key).Sublist
    (r.accepted.filter fun f => f.qos = .reliableLatest ∧ f.latestKey = key)
  lossy : ∀ qos, qosMayDrop qos = true →
    (handed.filter fun f => f.qos = qos).Sublist (r.accepted.filter fun f => f.qos = qos)

/-- Nothing reliable is missing: of a key, the last value has arrived. -/
structure NothingMissing (r : QueueRun) (handed : List OutboundFrame) : Prop where
  ordered : (handed.filter fun f => f.qos = .reliableOrdered) =
    r.accepted.filter fun f => f.qos = .reliableOrdered
  latest : ∀ key, (handed.filter fun f => f.qos = .reliableLatest ∧ f.latestKey = key).getLast? =
    (r.accepted.filter fun f => f.qos = .reliableLatest ∧ f.latestKey = key).getLast?

/-- Frames selected among the reliable ones. -/
theorem filter_of_reliable {frames others : List OutboundFrame}
    (h : frames.filter OutboundFrame.reliable = others.filter OutboundFrame.reliable)
    {p : OutboundFrame → Bool} (hp : ∀ f, p f = true → f.reliable = true) :
    frames.filter p = others.filter p := by
  have hsame : ∀ l : List OutboundFrame, l.filter p = (l.filter OutboundFrame.reliable).filter p := by
    intro l
    rw [List.filter_filter]
    refine List.filter_congr fun f _ => ?_
    cases hf : p f with
    | false => rfl
    | true => rw [hp f hf]; rfl
  rw [hsame frames, h, ← hsame]

theorem reliable_of_qos {qos : QosClass} (hqos : qosMayDrop qos = false) (p : OutboundFrame → Bool)
    (hp : ∀ f, p f = true → f.qos = qos) (f : OutboundFrame) (hf : p f = true) :
    f.reliable = true := by
  rw [OutboundFrame.reliable, hp f hf, hqos]
  rfl

/-- A part of the taken frames, with all the reliable ones that come before its end. -/
theorem handedOver_of_prefix {peer : Peer} {running : Bool} {maxQueuedBytes : ℕ}
    {ops : List QueueOp} {frames handed : List OutboundFrame}
    (htaken : frames.Sublist (queueRun peer running maxQueuedBytes ops).taken)
    (hreliable : frames.filter OutboundFrame.reliable =
      (queueRun peer running maxQueuedBytes ops).taken.filter OutboundFrame.reliable)
    (hhanded : handed <+: frames) :
    HandedOver (queueRun peer running maxQueuedBytes ops) handed := by
  have hpromised := queueRun_deliveryGuarantee peer running maxQueuedBytes ops
  have hsub := hhanded.sublist.trans htaken
  refine ⟨hpromised.taken_nodup.sublist (hsub.map _), ?_, fun key => ?_, fun qos hqos => ?_⟩
  · have hordered : frames.filter (fun f => f.qos = .reliableOrdered) =
        (queueRun peer running maxQueuedBytes ops).taken.filter
          fun f => f.qos = .reliableOrdered :=
      filter_of_reliable hreliable (reliable_of_qos (by decide) _ fun f hf => of_decide_eq_true hf)
    rw [← hpromised.ordered, ← hordered]
    exact (hhanded.filter _).trans (List.prefix_append _ _)
  · exact (hsub.filter _).trans (hpromised.latest_inOrder key)
  · exact (hsub.filter _).trans (hpromised.lossy qos hqos).2

/-- What keeps the last of a list ends like it. -/
theorem getLast?_of_sublist {α : Type} {l before : List α} {last : α}
    (hsub : l.Sublist (before ++ [last])) (hnodup : (before ++ [last]).Nodup) (hmem : last ∈ l) :
    l.getLast? = some last := by
  obtain ⟨front, back, rfl, hfront, hback⟩ := List.sublist_append_iff.mp hsub
  have hnot : last ∉ front := fun h =>
    (List.nodup_append.mp hnodup).2.2 last (hfront.subset h) last List.mem_cons_self rfl
  have hin : last ∈ back := (List.mem_append.mp hmem).resolve_left hnot
  have hone : back = [last] := hback.eq_of_length_le (List.length_pos_of_mem hin)
  rw [hone, List.getLast?_concat]

/-- Of the frames of a key that have all been taken or replaced, the last one is there. -/
theorem getLast?_filter_latest {peer : Peer} {running : Bool} {maxQueuedBytes : ℕ}
    {ops : List QueueOp} (hempty : (queueRun peer running maxQueuedBytes ops).conn.sendQueues 1 = [])
    (key : Text) :
    ((queueRun peer running maxQueuedBytes ops).taken.filter
        fun f => f.qos = .reliableLatest ∧ f.latestKey = key).getLast? =
      ((queueRun peer running maxQueuedBytes ops).accepted.filter
        fun f => f.qos = .reliableLatest ∧ f.latestKey = key).getLast? := by
  have hpromised := queueRun_deliveryGuarantee peer running maxQueuedBytes ops
  have hfaithful := queueRun_faithful peer running maxQueuedBytes ops
  have hsub := hpromised.latest_inOrder key
  generalize queueRun peer running maxQueuedBytes ops = r at hempty hpromised hfaithful hsub ⊢
  rcases List.eq_nil_or_concat' (r.accepted.filter
      fun f => f.qos = .reliableLatest ∧ f.latestKey = key) with hnil | ⟨before, last, hlast⟩
  · rw [hnil] at hsub ⊢
    rw [List.sublist_nil.mp hsub]
  have hmem : last ∈ r.accepted.filter fun f => f.qos = .reliableLatest ∧ f.latestKey = key := by
    rw [hlast]
    exact List.mem_append_right before List.mem_cons_self
  obtain ⟨haccepted, hof⟩ := List.mem_filter.mp hmem
  obtain ⟨hqos, hkey⟩ := of_decide_eq_true hof
  -- In the order of acceptance the stamps grow.
  have hstamps : (r.accepted.filter fun f => f.qos = .reliableLatest ∧ f.latestKey = key).Pairwise
      fun f g => f.stamp < g.stamp := by
    refine List.Pairwise.sublist List.filter_sublist ?_
    have hrange : (r.accepted.map OutboundFrame.stamp).Pairwise (· < ·) := by
      have hsame : r.accepted.map OutboundFrame.stamp = List.range r.accepted.length :=
        hfaithful.stamps
      rw [hsame]
      exact List.pairwise_lt_range
    exact List.pairwise_map.mp hrange
  have htaken : last ∈ r.taken.filter fun f => f.qos = .reliableLatest ∧ f.latestKey = key := by
    rcases hpromised.latest last haccepted hqos with htaken | hqueued | ⟨g, hg, -, hlt, hgqos, hgkey, -⟩
    · exact List.mem_filter.mpr ⟨htaken, hof⟩
    · rw [hempty] at hqueued
      cases hqueued
    · -- A later frame of the key would stand behind the last one.
      have hgmem : g ∈ before ++ [last] := by
        rw [← hlast]
        exact List.mem_filter.mpr ⟨hg, decide_eq_true ⟨hgqos, hgkey.trans hkey⟩⟩
      rw [hlast, List.pairwise_append] at hstamps
      rcases List.mem_append.mp hgmem with hbefore | hself
      · have := hstamps.2.2 g hbefore last List.mem_cons_self
        omega
      · rw [List.mem_singleton.mp hself] at hlt
        exact absurd hlt (lt_irrefl _)
  have hnodup : (r.accepted.filter
      fun f => f.qos = .reliableLatest ∧ f.latestKey = key).Nodup :=
    hfaithful.accepted_nodup.filter _
  rw [hlast] at hsub hnodup ⊢
  rw [getLast?_of_sublist hsub hnodup htaken, List.getLast?_concat]

/-- **What is accepted at one end is handed over at the other.**  Whatever the producers
enqueue, as long as its frames leave room for one read, and however the socket takes it, the
network holds it back and the reads cut it: the frames handed over are decoded copies of
accepted ones, each once.  The ReliableOrdered frames come in their order and without a gap,
the frames of a key and those of a lossy class in theirs.  Once the queues of the reliable
classes are empty and all bytes have arrived, no ReliableOrdered frame is missing, nor the
last frame of any key. -/
theorem endToEnd (peer : Peer) (running : Bool) (maxQueuedBytes : ℕ) (lossyChannel : Bool)
    (socket : Socket) {rounds : List (List ProducerOp)} {maxBufferBytes : ℕ}
    {reads : List ReadOutcome}
    (hfits : ∀ producers ∈ rounds, ∀ op ∈ producers, op.Fits maxBufferBytes)
    (hreads : ∀ r ∈ reads, r.Delivers)
    (harrive : (reads.map ReadOutcome.bytes).flatten <+:
      (sendLoopRun peer running maxQueuedBytes lossyChannel socket rounds).wire) :
    let s := sendLoopRun peer running maxQueuedBytes lossyChannel socket rounds
    ∃ handed, HandedOver s.queue handed ∧
      (receiveRun maxBufferBytes reads).outputs =
        handed.map (fun f => .handle (decode f.bytes).envelope) ∧
      (receiveRun maxBufferBytes reads).left = false ∧
      (s.phase ≠ .left → s.queue.conn.sendQueues 0 = [] → s.queue.conn.sendQueues 1 = [] →
        (reads.map ReadOutcome.bytes).flatten = s.wire → NothingMissing s.queue handed) := by
  intro s
  obtain ⟨ops, hqueue, hops⟩ :=
    queue_sendLoopRun peer running maxQueuedBytes lossyChannel socket rounds
  obtain ⟨frames, hstream⟩ := (sendLoopRun_invariant peer running maxQueuedBytes lossyChannel
    socket rounds).stream
  obtain ⟨missing, hwire⟩ := hstream.wire
  obtain ⟨rest, hrest⟩ := harrive
  have hencoded : ∀ f ∈ frames.map OutboundFrame.bytes,
      Encoded f ∧ f.length + 8191 ≤ maxBufferBytes := by
    intro bytes hbytes
    obtain ⟨f, hf, rfl⟩ := List.mem_map.mp hbytes
    have haccepted : f ∈ (queueRun peer running maxQueuedBytes ops).accepted := by
      refine (queueRun_faithful peer running maxQueuedBytes ops).mem_accepted_of_mem_taken ?_
      have htaken := hstream.taken.subset hf
      rw [hqueue] at htaken
      exact htaken
    obtain ⟨producers, hproducers, hop⟩ := hops _ _ _ (enqueue_mem_of_mem_accepted haccepted)
    exact hfits producers hproducers _ hop
  have hcut : (reads.map ReadOutcome.bytes).flatten ++ (rest ++ missing) =
      (frames.map OutboundFrame.bytes).flatten := by
    rw [← List.append_assoc, hrest]
    exact hwire
  obtain ⟨done, todo, hsplit, hdone⟩ := receiveRun_of_prefix hencoded hreads hcut
  obtain ⟨handed, behind, rfl, rfl, rfl⟩ := List.map_eq_append_iff.mp hsplit
  have htaken : (handed ++ behind).Sublist (queueRun peer running maxQueuedBytes ops).taken := by
    rw [← hqueue]
    exact hstream.taken
  have hreliable : (handed ++ behind).filter OutboundFrame.reliable =
      (queueRun peer running maxQueuedBytes ops).taken.filter OutboundFrame.reliable := by
    rw [← hqueue]
    exact hstream.reliable
  refine ⟨handed, ?_, ?_, hdone.left, fun hphase hordered hlatest hall => ?_⟩
  · show HandedOver (sendLoopRun peer running maxQueuedBytes lossyChannel socket rounds).queue handed
    rw [hqueue]
    exact handedOver_of_prefix htaken hreliable (List.prefix_append _ _)
  · rw [hdone.outputs, List.map_map]
    rfl
  · -- All bytes of the stream have arrived, so the loop has handed all frames over.
    have hnothing : rest ++ missing = [] := by
      have hwhole := hstream.whole hphase
      rw [hall, hwhole] at hcut
      exact List.append_cancel_left (hcut.trans (List.append_nil _).symm)
    rw [hnothing] at hdone
    have hbehind : behind = [] := List.map_eq_nil_iff.mp (hdone.incomplete.eq_nil hdone.cut)
    rw [hbehind, List.append_nil] at hreliable
    have hqueue' : s.queue = queueRun peer running maxQueuedBytes ops := hqueue
    rw [hqueue'] at hordered hlatest ⊢
    refine ⟨?_, fun key => ?_⟩
    · rw [← (queueRun_deliveryGuarantee peer running maxQueuedBytes ops).ordered, hordered,
        List.append_nil]
      exact filter_of_reliable hreliable
        (reliable_of_qos (by decide) _ fun f hf => of_decide_eq_true hf)
    · rw [← getLast?_filter_latest hlatest key]
      refine congrArg List.getLast? (filter_of_reliable hreliable ?_)
      exact reliable_of_qos (by decide) _ fun f hf => (of_decide_eq_true hf).1

/-! ### Frames that arrive -/

/-- A socket that takes what it is given. -/
def openSocket : Socket := ⟨Stream'.const true, Stream'.const ⟨kWriteQuantumBytes, none⟩⟩

/-- On such a socket a small frame is written at once. -/
theorem writeSocket_openSocket {bytes : Bytes} (hne : bytes ≠ [])
    (hlen : bytes.length ≤ kWriteQuantumBytes) :
    writeSocket bytes openSocket =
      (⟨.complete, bytes.length, []⟩, ⟨openSocket, bytes.length, 0, [⟨bytes, bytes.length, none⟩]⟩) := by
  have hpos := List.length_pos_iff.mpr hne
  have hchunk : nextChunk bytes 0 = bytes := by
    rw [nextChunk, List.drop_zero, List.take_of_length_le hlen]
  have hsent : min kWriteQuantumBytes bytes.length = bytes.length := Nat.min_eq_right hlen
  have hwrite : writeChunk Socket.sendChunk bytes kCongestionRetryLimit ⟨openSocket, 0, 0, []⟩ =
      (⟨openSocket, bytes.length, 0, [⟨bytes, bytes.length, none⟩]⟩, none) := by
    have hsend : Socket.sendChunk bytes openSocket = (⟨kWriteQuantumBytes, none⟩, openSocket) := rfl
    unfold writeChunk
    simp only [hchunk, hsend, hsent, Nat.zero_add, List.nil_append]
    rw [if_neg (by omega)]
  have hloop : writeSocket bytes openSocket =
      writeFrameChunksLoop Socket.sendChunk Socket.running bytes kCongestionRetryLimit
        ⟨openSocket, 0, 0, []⟩ := by
    cases bytes with
    | nil => exact absurd rfl hne
    | cons _ _ => rfl
  have hread : openSocket.running = (true, openSocket) := rfl
  rw [hloop, writeFrameChunksLoop, if_pos hpos]
  simp only [hread, if_true]
  split
  · next s' result hnext => cases hwrite.symm.trans hnext
  · next s' hnext =>
    cases hwrite.symm.trans hnext
    rw [writeFrameChunksLoop, if_neg (lt_irrefl _)]

section OpenSocket

variable {peer : Peer} {running : Bool} {maxQueuedBytes : ℕ} {ops : List QueueOp}
  {producers : List ProducerOp} {writes : List FrameWrite} (lossyChannel : Bool)

/-- A round in which the loop takes a small frame, and writes it whole. -/
theorem round_openSocket {frame : OutboundFrame}
    (hqueued : (queueRun peer running maxQueuedBytes
      (ops ++ producers.map ProducerOp.toQueueOp)).conn.queuedBytes ≠ 0)
    (htake : (takeNextFrame (queueRun peer running maxQueuedBytes
      (ops ++ producers.map ProducerOp.toQueueOp)).conn).2 = some frame)
    (hne : frame.bytes ≠ []) (hlen : frame.bytes.length ≤ kWriteQuantumBytes) :
    SendLoop.round lossyChannel
        { queue := queueRun peer running maxQueuedBytes ops, socket := openSocket, writes }
        producers =
      { queue := queueRun peer running maxQueuedBytes
          (ops ++ producers.map ProducerOp.toQueueOp ++ [.take])
        socket := openSocket
        writes := writes ++ [⟨frame, [⟨frame.bytes, frame.bytes.length, none⟩]⟩] } := by
  have hproduced : (producers.map ProducerOp.toQueueOp).foldl QueueRun.step
      (queueRun peer running maxQueuedBytes ops) =
        queueRun peer running maxQueuedBytes (ops ++ producers.map ProducerOp.toQueueOp) := by
    rw [queueRun, queueRun, List.foldl_append]
  have htaken : queueRun peer running maxQueuedBytes
      (ops ++ producers.map ProducerOp.toQueueOp ++ [.take]) =
        (queueRun peer running maxQueuedBytes
          (ops ++ producers.map ProducerOp.toQueueOp)).step .take := by
    rw [queueRun, List.foldl_append]
    rfl
  have hread : openSocket.running = (true, openSocket) := rfl
  rw [htaken]
  unfold SendLoop.round SendLoop.produce
  rw [hproduced]
  generalize queueRun peer running maxQueuedBytes
    (ops ++ producers.map ProducerOp.toQueueOp) = produced at *
  simp only [SendLoop.advance, hread, SendLoop.wait, SendLoop.afterWait, hqueued]
  generalize takeNextFrame produced.conn = taken at htake
  obtain ⟨conn, next⟩ := taken
  dsimp only at htake
  subst htake
  simp [SendLoop.write, writeSocket_openSocket hne hlen]

/-- A round in which there is nothing to take. -/
theorem round_empty
    (hqueued : (queueRun peer running maxQueuedBytes ops).conn.queuedBytes = 0) :
    SendLoop.round lossyChannel
        { queue := queueRun peer running maxQueuedBytes ops, socket := openSocket, writes } [] =
      { queue := queueRun peer running maxQueuedBytes ops
        socket := openSocket
        phase := .waiting
        writes } := by
  have hread : openSocket.running = (true, openSocket) := rfl
  simp [SendLoop.round, SendLoop.produce, SendLoop.advance, hread, SendLoop.wait, hqueued]

end OpenSocket

/-- A frame of the protocol's sample. -/
def sampleFrame (messageId : UInt64) : Bytes := encode { sampleEnvelope with messageId } true 7

/-- The key of two of the frames. -/
def sampleKey : Text := ascii "pose"

/-- An ordered frame and a value of the key are enqueued, and a second value while the first
one still waits. -/
def sampleRounds : List (List ProducerOp) :=
  [[.enqueue (sampleFrame 1) .reliableOrdered [],
      .enqueue (sampleFrame 2) .reliableLatest sampleKey],
    [.enqueue (sampleFrame 3) .reliableLatest sampleKey], []]

/-- What the loop does with the queues meanwhile. -/
def sampleOps : List QueueOp :=
  [.enqueue (sampleFrame 1) .reliableOrdered [],
    .enqueue (sampleFrame 2) .reliableLatest sampleKey, .take,
    .enqueue (sampleFrame 3) .reliableLatest sampleKey, .take]

/-- The loop writes the ordered frame and the second value. -/
theorem sendLoopRun_sampleRounds :
    sendLoopRun {} true 4096 false openSocket sampleRounds =
      { queue := queueRun {} true 4096 sampleOps
        socket := openSocket
        phase := .waiting
        writes := [⟨⟨sampleFrame 1, .reliableOrdered, [], 0⟩,
            [⟨sampleFrame 1, (sampleFrame 1).length, none⟩]⟩,
          ⟨⟨sampleFrame 3, .reliableLatest, sampleKey, 2⟩,
            [⟨sampleFrame 3, (sampleFrame 3).length, none⟩]⟩] } := by
  have hfirst : sampleFrame 1 ≠ [] ∧ (sampleFrame 1).length ≤ kWriteQuantumBytes := by
    decide +kernel
  have hsecond : sampleFrame 3 ≠ [] ∧ (sampleFrame 3).length ≤ kWriteQuantumBytes := by
    decide +kernel
  have hround₁ := @round_openSocket {} true 4096 []
    [.enqueue (sampleFrame 1) .reliableOrdered [],
      .enqueue (sampleFrame 2) .reliableLatest sampleKey] [] false
    ⟨sampleFrame 1, .reliableOrdered, [], 0⟩ (by decide +kernel) (by decide +kernel)
    hfirst.1 hfirst.2
  have hround₂ := @round_openSocket {} true 4096 (sampleOps.take 3)
    [.enqueue (sampleFrame 3) .reliableLatest sampleKey]
    [⟨⟨sampleFrame 1, .reliableOrdered, [], 0⟩,
      [⟨sampleFrame 1, (sampleFrame 1).length, none⟩]⟩] false
    ⟨sampleFrame 3, .reliableLatest, sampleKey, 2⟩ (by decide +kernel) (by decide +kernel)
    hsecond.1 hsecond.2
  have hround₃ := @round_empty {} true 4096 sampleOps
    [⟨⟨sampleFrame 1, .reliableOrdered, [], 0⟩,
      [⟨sampleFrame 1, (sampleFrame 1).length, none⟩]⟩,
      ⟨⟨sampleFrame 3, .reliableLatest, sampleKey, 2⟩,
        [⟨sampleFrame 3, (sampleFrame 3).length, none⟩]⟩] false (by decide +kernel)
  have hops₁ : [] ++ ([.enqueue (sampleFrame 1) .reliableOrdered [],
      .enqueue (sampleFrame 2) .reliableLatest sampleKey] : List ProducerOp).map
      ProducerOp.toQueueOp ++ [.take] = sampleOps.take 3 := rfl
  have hops₂ : sampleOps.take 3 ++ ([.enqueue (sampleFrame 3) .reliableLatest sampleKey] :
      List ProducerOp).map ProducerOp.toQueueOp ++ [.take] = sampleOps := rfl
  rw [hops₁] at hround₁
  rw [hops₂] at hround₂
  rw [queueRun, List.foldl_nil, List.nil_append] at hround₁
  rw [List.cons_append, List.nil_append] at hround₂
  rw [sendLoopRun, sampleRounds, List.foldl_cons, List.foldl_cons, List.foldl_cons,
    List.foldl_nil, hround₁, hround₂, hround₃]

/-- Both frames arrive, cut in two in the midst of the first: the value of the key that was
replaced is not handed over, and nothing is missing. -/
theorem endToEnd_sampleRounds :
    let sent := sendLoopRun {} true 4096 false openSocket sampleRounds
    let reads := [ReadOutcome.data (sent.wire.take 40), .retry, .data (sent.wire.drop 40)]
    (receiveRun 16384 reads).outputs =
        [.handle (decode (sampleFrame 1)).envelope, .handle (decode (sampleFrame 3)).envelope] ∧
      ∃ handed, HandedOver sent.queue handed ∧
        (receiveRun 16384 reads).outputs =
          handed.map (fun f => .handle (decode f.bytes).envelope) ∧
        (receiveRun 16384 reads).left = false ∧
        NothingMissing sent.queue handed := by
  intro sent reads
  have hwire : sent.wire = sampleFrame 1 ++ sampleFrame 3 := by
    rw [show sent = _ from sendLoopRun_sampleRounds]
    simp [SendLoop.wire, FrameWrite.wire, callsWire]
  have hsize : ∀ messageId, sampleFrame messageId ≠ [] ∧
      (sampleFrame messageId).length + 8191 ≤ 16384 →
        Encoded (sampleFrame messageId) ∧ (sampleFrame messageId).length + 8191 ≤ 16384 :=
    fun messageId h => ⟨⟨h.1, _, true, 7, rfl⟩, h.2⟩
  have hfirst := hsize 1 (by decide +kernel)
  have hreplaced := hsize 2 (by decide +kernel)
  have hsecond := hsize 3 (by decide +kernel)
  have hfits : ∀ producers ∈ sampleRounds, ∀ op ∈ producers, op.Fits 16384 := by
    simp only [sampleRounds, List.forall_mem_cons]
    exact ⟨⟨hfirst, hreplaced, List.forall_mem_nil _⟩, ⟨hsecond, List.forall_mem_nil _⟩,
      List.forall_mem_nil _, List.forall_mem_nil _⟩
  have hreads : ∀ r ∈ reads, r.Delivers := by
    simp only [reads, hwire, List.forall_mem_cons]
    exact ⟨by decide +kernel, trivial, by decide +kernel, List.forall_mem_nil _⟩
  have hbytes : (reads.map ReadOutcome.bytes).flatten = sent.wire := by
    simp [reads, ReadOutcome.bytes]
  have hcut : (reads.map ReadOutcome.bytes).flatten ++ [] =
      [sampleFrame 1, sampleFrame 3].flatten := by
    rw [hbytes, hwire, List.append_nil]
    simp
  have hframes : ∀ f ∈ [sampleFrame 1, sampleFrame 3], Encoded f ∧ f.length + 8191 ≤ 16384 :=
    List.forall_mem_cons.mpr ⟨hfirst, List.forall_mem_singleton.mpr hsecond⟩
  obtain ⟨done, todo, hsplit, hdone⟩ := receiveRun_of_prefix hframes hreads hcut
  have htodo : todo = [] := hdone.incomplete.eq_nil hdone.cut
  rw [htodo, List.append_nil] at hsplit
  obtain ⟨handed, hpromised, houtputs, hleft, hmissing⟩ :=
    endToEnd {} true 4096 false openSocket hfits hreads (hbytes ▸ List.prefix_rfl)
  refine ⟨?_, handed, hpromised, houtputs, hleft, hmissing ?_ ?_ ?_ hbytes⟩
  · rw [hdone.outputs, ← hsplit]
    rfl
  · rw [sendLoopRun_sampleRounds]
    decide
  · rw [sendLoopRun_sampleRounds]
    decide +kernel
  · rw [sendLoopRun_sampleRounds]
    decide +kernel

end YunLink
