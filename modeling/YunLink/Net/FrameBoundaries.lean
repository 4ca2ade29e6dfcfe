import YunLink.Lib.Runs
import YunLink.Net.Receive

/-!
# Frame boundaries and overflow

The receive loop knows frames only by the lengths their headers declare.  While it
takes whole frames off its buffer, handing them over or dropping them, what is left
starts with a frame again.  Two branches take less.  `pop_frame` skips one byte of a
frame that could never fit the buffer, and goes on looking for a frame inside it; and
overflow recovery drops what has arrived of a frame, and takes what arrives of it
later for something new.  A payload can then hold a frame of its own, and the loop
hands that over.

## Main definitions

* `delivered`, `envelopes` — what was handed over, what the frames encode.
* `DropsLossy` — all was handed over but some BestEffort or Bulk envelopes.
* `stepsOff` — a pass takes less than a whole frame off the buffer.
* `InStep` — the buffer starts where a frame starts.

## Main results

* `recoverReceiveOverflow_spec` — recovery drops whole lossy frames.
* `delivered_sublist` — **while no pass steps off the frame boundaries, nothing is
  handed over that no frame encodes.**
* `delivered_dropsLossy` — **no reliable frame is lost silently**, as long as every
  frame fits the buffer.
-/

namespace YunLink

open WireCodec

/-! ### What is handed over -/

/-- The envelopes handed to `runtime_handle_envelope`. -/
def delivered (outputs : List ReceiveOutput) : List Envelope :=
  outputs.filterMap fun output =>
    match output with
    | .handle envelope => some envelope
    | _ => none

/-- The envelopes that frames encode. -/
def envelopes (frames : List Bytes) : List Envelope := frames.map fun f => (decode f).envelope

/-- The envelopes of the classes that are never dropped. -/
def reliableOnly (sent : List Envelope) : List Envelope :=
  sent.filter fun envelope => !qosMayDrop envelope.qosClass

/-- What was handed over is what was sent, less some BestEffort or Bulk envelopes. -/
structure DropsLossy (sent got : List Envelope) : Prop where
  sublist : got.Sublist sent
  reliable : reliableOnly got = reliableOnly sent

namespace DropsLossy

theorem refl (sent : List Envelope) : DropsLossy sent sent := ⟨List.Sublist.refl _, rfl⟩

theorem append {sent got sent' got' : List Envelope} (h : DropsLossy sent got)
    (h' : DropsLossy sent' got') : DropsLossy (sent ++ sent') (got ++ got') := by
  refine ⟨h.sublist.append h'.sublist, ?_⟩
  unfold reliableOnly
  rw [List.filter_append, List.filter_append]
  exact congrArg₂ (· ++ ·) h.reliable h'.reliable

/-- Lossy envelopes may all be dropped. -/
theorem of_lossy {sent : List Envelope}
    (h : ∀ envelope ∈ sent, qosMayDrop envelope.qosClass = true) : DropsLossy sent [] := by
  refine ⟨List.nil_sublist _, ?_⟩
  unfold reliableOnly
  rw [List.filter_nil]
  refine (List.filter_eq_nil_iff.mpr ?_).symm
  intro envelope hmem
  simp [h envelope hmem]

end DropsLossy

theorem delivered_append (outputs more : List ReceiveOutput) :
    delivered (outputs ++ more) = delivered outputs ++ delivered more := List.filterMap_append

theorem delivered_map_handle (frames : List Bytes) :
    delivered (frames.map fun f => .handle (decode f).envelope) = envelopes frames := by
  induction frames with
  | nil => rfl
  | cons f frames ih => exact congrArg ((decode f).envelope :: ·) ih

/-! ### Overflow -/

section overflow

variable {maxBytes : ℕ}

/-- Recovery at a buffer that holds its first frame whole. -/
theorem recoverReceiveOverflow_of_frame {f : Bytes} (hf : Encoded f) {more : Bytes}
    (hover : maxBytes < (f ++ more).length) :
    recoverReceiveOverflow maxBytes (f ++ more) =
      if qosMayDrop (decode f).envelope.qosClass then recoverReceiveOverflow maxBytes more
      else (f ++ more, false) := by
  obtain ⟨value, hv, hframe⟩ := hf.eq_frame
  rw [hframe] at hover ⊢
  rw [qosClass_decode_frame hv]
  have hlen : (frame value ++ more).length = (frame value).length + more.length :=
    List.length_append
  have hmin := length_frame_le hv
  have hlength := length_frame hv
  have hpeek := peekFrameHeader_of_frame hv (List.append_nil (frame value ++ more)) (by omega)
  conv_lhs => rw [recoverReceiveOverflow]
  rw [if_pos hover, hpeek]
  dsimp only
  rw [← hlength, Nat.min_eq_right (by omega), List.drop_left]
  cases qosMayDrop value.qosClass <;> rfl

/-- Recovery gives up at part of a frame, where dropping it would lose the framing. -/
theorem recoverReceiveOverflow_of_part {f b x : Bytes} (hf : Encoded f) (hb : b ++ x = f)
    (hlen : b.length < f.length) (hover : maxBytes < b.length)
    (hframing : losesFraming maxBytes b = false) :
    recoverReceiveOverflow maxBytes b = (b, false) := by
  obtain ⟨value, hv, hframe⟩ := hf.eq_frame
  rw [hframe] at hb hlen
  have hlength := length_frame hv
  rw [losesFraming, if_pos hover] at hframing
  rw [recoverReceiveOverflow, if_pos hover]
  by_cases h15 : 15 ≤ b.length
  · rw [peekFrameHeader_of_frame hv (hb.trans (List.append_nil _).symm) h15] at hframing ⊢
    dsimp only at hframing ⊢
    rw [← hlength, if_pos hlen] at hframing
    cases hdrop : qosMayDrop value.qosClass with
    | false => rfl
    | true => simp [hdrop] at hframing
  · have hpeek : peekFrameHeader b = none := by
      unfold peekFrameHeader
      rw [decide_eq_true (Nat.lt_of_not_le h15)]
      rfl
    rw [hpeek] at hframing
    exact absurd hframing (by simp)

/-- **Recovery drops whole lossy frames**, while the framing is kept. -/
theorem recoverReceiveOverflow_spec (frames : List Bytes) (buffer rest : Bytes)
    (hframes : ∀ f ∈ frames, Encoded f) (hframing : losesFraming maxBytes buffer = false)
    (hcut : buffer ++ rest = frames.flatten) :
    ∃ dropped todo buffer' recovered, frames = dropped ++ todo ∧
      (∀ f ∈ dropped, qosMayDrop (decode f).envelope.qosClass = true) ∧
      recoverReceiveOverflow maxBytes buffer = (buffer', recovered) ∧
      buffer' ++ rest = todo.flatten ∧
      (recovered = true → buffer'.length ≤ maxBytes ∧ losesFraming maxBytes buffer' = false) := by
  induction frames generalizing buffer with
  | nil =>
    have hnil : buffer = [] := (List.append_eq_nil_iff.mp hcut).1
    refine ⟨[], [], buffer, true, rfl, by simp, ?_, hcut, fun _ => ⟨?_, hframing⟩⟩
    · rw [recoverReceiveOverflow, if_neg (by rw [hnil]; exact Nat.not_lt_zero _)]
    · rw [hnil]
      exact Nat.zero_le _
  | cons f frames ih =>
    by_cases hover : maxBytes < buffer.length
    · have hf := hframes f List.mem_cons_self
      rw [List.flatten_cons] at hcut
      rcases cut_cases hcut with ⟨hlen, x, hprefix⟩ | ⟨more, rfl, hmore⟩
      · -- The frame has not arrived whole, and recovery gives up.
        refine ⟨[], f :: frames, buffer, false, rfl, by simp, ?_, hcut, by simp⟩
        exact recoverReceiveOverflow_of_part hf hprefix hlen hover hframing
      · -- A whole frame is dropped if it is lossy, and ends the recovery if not.
        rw [recoverReceiveOverflow_of_frame hf hover]
        cases hdrop : qosMayDrop (decode f).envelope.qosClass with
        | false => exact ⟨[], f :: frames, f ++ more, false, rfl, by simp, rfl, hcut, by simp⟩
        | true =>
          rw [losesFraming_of_frame hf, hdrop, if_neg (by simp)] at hframing
          obtain ⟨dropped, todo, buffer', recovered, rfl, hdropped, hrecover, hrest, hkept⟩ :=
            ih more (fun g hg => hframes g (List.mem_cons_of_mem _ hg)) hframing hmore
          refine ⟨f :: dropped, todo, buffer', recovered, rfl, ?_, hrecover, hrest, hkept⟩
          exact List.forall_mem_cons.mpr ⟨hdrop, hdropped⟩
    · refine ⟨[], f :: frames, buffer, true, rfl, by simp, ?_, hcut, fun _ => ⟨?_, hframing⟩⟩
      · rw [recoverReceiveOverflow, if_neg hover]
      · exact Nat.le_of_not_lt hover

end overflow

/-! ### Passes of the loop -/

/-- A pass that takes less than a whole frame off the buffer. -/
def stepsOff (maxBufferBytes : ℕ) (s : ReceiveLoop) : ReadOutcome → Bool
  | .data chunk => !s.left && losesFraming maxBufferBytes (s.receiveBuffer ++ chunk)
  | _ => false

/-- `done` of the stream is behind the loop, and until it is left the buffer starts
with the frames `todo`. -/
structure InStep (s : ReceiveLoop) (done todo : List Bytes) (rest : Bytes) : Prop where
  behind : DropsLossy (envelopes done) (delivered s.outputs)
  cut : s.left = false → s.receiveBuffer ++ rest = todo.flatten
  incomplete : s.left = false → Partial s.receiveBuffer todo

section passes

variable {maxBufferBytes : ℕ} {s : ReceiveLoop} {done todo : List Bytes} {rest : Bytes}

/-- Draining a buffer that fits. -/
theorem InStep.drained {buffer : Bytes} (hframes : ∀ f ∈ todo, Encoded f)
    (hbehind : DropsLossy (envelopes done) (delivered s.outputs))
    (hfits : buffer.length ≤ maxBufferBytes)
    (hframing : losesFraming maxBufferBytes buffer = false)
    (hcut : buffer ++ rest = todo.flatten) (hbuffer : s.receiveBuffer = buffer) :
    ∃ more todo', todo = more ++ todo' ∧
      InStep (s.drained maxBufferBytes) (done ++ more) todo' rest := by
  obtain ⟨more, todo', rfl, buffer', hdrain, hrest, hpartial⟩ :=
    drain_spec todo buffer rest hframes hfits hframing hcut
  refine ⟨more, todo', rfl, ?_⟩
  rw [ReceiveLoop.drained, hbuffer, hdrain]
  refine ⟨?_, fun _ => hrest, fun _ => hpartial⟩
  dsimp only
  rw [delivered_append, delivered_map_handle, envelopes, List.map_append]
  exact hbehind.append (.refl _)

/-- An error event hands nothing over. -/
theorem InStep.emit_error (hbehind : DropsLossy (envelopes done) (delivered s.outputs))
    (code : ErrorCode) (message : Text) :
    DropsLossy (envelopes done) (delivered (s.emit (.error code message)).outputs) := by
  have hsame : delivered (s.emit (.error code message)).outputs = delivered s.outputs := by
    rw [ReceiveLoop.emit, delivered_append]
    exact List.append_nil _
  rw [hsame]
  exact hbehind

/-- **A pass that does not step off the frame boundaries keeps them.** -/
theorem InStep.read {outcome : ReadOutcome} (h : InStep s done todo (outcome.bytes ++ rest))
    (hframes : ∀ f ∈ todo, Encoded f) (hread : outcome.Delivers)
    (hstep : stepsOff maxBufferBytes s outcome = false) :
    ∃ more todo', todo = more ++ todo' ∧
      InStep (s.read maxBufferBytes outcome) (done ++ more) todo' rest := by
  unfold ReceiveLoop.read
  by_cases hleft : s.left = true
  · rw [if_pos hleft]
    refine ⟨[], todo, rfl, ?_⟩
    rw [List.append_nil]
    refine ⟨h.behind, ?_, ?_⟩ <;> exact fun hstays => absurd (hleft.symm.trans hstays) (by simp)
  rw [if_neg hleft]
  have hleft : s.left = false := Bool.eq_false_iff.mpr hleft
  cases outcome with
  | retry =>
    refine ⟨[], todo, rfl, ?_⟩
    rw [List.append_nil]
    exact h
  | closed => exact absurd hread id
  | failed message => exact absurd hread id
  | stopped => exact absurd hread id
  | data chunk =>
    have hcut : s.receiveBuffer ++ chunk ++ rest = todo.flatten := by
      rw [List.append_assoc]
      exact h.cut hleft
    have hframing : losesFraming maxBufferBytes (s.receiveBuffer ++ chunk) = false := by
      simpa [stepsOff, hleft] using hstep
    dsimp only
    split
    · -- The buffer overflows; recovery drops whole lossy frames off its front.
      obtain ⟨dropped, todo', buffer', recovered, rfl, hdropped, hrecover, hrest, hkept⟩ :=
        recoverReceiveOverflow_spec todo _ rest hframes hframing hcut
      have hbehind : DropsLossy (envelopes (done ++ dropped)) (delivered s.outputs) := by
        rw [envelopes, List.map_append, ← List.append_nil (delivered s.outputs)]
        refine h.behind.append (DropsLossy.of_lossy ?_)
        exact List.forall_mem_map.mpr hdropped
      rw [hrecover]
      cases recovered with
      | true =>
        obtain ⟨hfits, hframing'⟩ := hkept rfl
        obtain ⟨more, todo'', rfl, hnext⟩ := InStep.drained
          (s := ({ s with receiveBuffer := buffer', overflowed := true } : ReceiveLoop).emit
            (.error .decodeError (ascii "receive buffer dropped lossy frames")))
          (fun f hf => hframes f (List.mem_append_right _ hf)) (InStep.emit_error hbehind _ _)
          hfits hframing' hrest rfl
        refine ⟨dropped ++ more, todo'', by rw [List.append_assoc], ?_⟩
        rw [← List.append_assoc]
        exact hnext
      | false =>
        -- The loop is left; what it did before stays.
        refine ⟨dropped, todo', rfl, ?_, ?_, ?_⟩
        · dsimp only [ReceiveLoop.leave, ReceiveLoop.emit]
          rw [delivered_append, delivered_append, delivered_append]
          simpa [delivered] using hbehind
        · exact fun hstays => absurd hstays (by simp [ReceiveLoop.leave, ReceiveLoop.emit])
        · exact fun hstays => absurd hstays (by simp [ReceiveLoop.leave, ReceiveLoop.emit])
    · next hfits =>
      exact InStep.drained hframes h.behind (Nat.le_of_not_lt hfits) hframing hcut rfl

/-- Passes that never step off keep the frame boundaries to the end. -/
theorem InStep.run {reads : List ReadOutcome}
    (h : InStep s done todo ((reads.map ReadOutcome.bytes).flatten ++ rest))
    (hframes : ∀ f ∈ todo, Encoded f) (hreads : ∀ r ∈ reads, r.Delivers)
    (hsteps : Run.Along (ReceiveLoop.read maxBufferBytes)
      (fun s r => stepsOff maxBufferBytes s r = false) s reads) :
    ∃ more todo', todo = more ++ todo' ∧
      InStep (reads.foldl (ReceiveLoop.read maxBufferBytes) s) (done ++ more) todo' rest := by
  exact run_of_read (fun h hframes hread hstep => h.read hframes hread hstep) h hframes hreads
    hsteps

/-- While all frames fit the buffer, no pass steps off. -/
theorem InStep.along {reads : List ReadOutcome}
    (h : InStep s done todo ((reads.map ReadOutcome.bytes).flatten ++ rest))
    (hframes : ∀ f ∈ todo, Encoded f ∧ f.length ≤ maxBufferBytes)
    (hreads : ∀ r ∈ reads, r.Delivers) :
    Run.Along (ReceiveLoop.read maxBufferBytes)
      (fun s r => stepsOff maxBufferBytes s r = false) s reads := by
  induction reads generalizing s done todo with
  | nil => trivial
  | cons r reads ih =>
    rw [List.map_cons, List.flatten_cons, List.append_assoc] at h
    have hstep : stepsOff maxBufferBytes s r = false := by
      cases r with
      | data chunk =>
        cases hleft : s.left with
        | true => simp [stepsOff, hleft]
        | false =>
          have hcut := h.cut hleft
          rw [ReadOutcome.bytes, ← List.append_assoc] at hcut
          simp only [stepsOff, hleft, Bool.not_false, Bool.true_and]
          exact losesFraming_of_fits todo _ _ hframes hcut
      | _ => rfl
    obtain ⟨more, todo', rfl, hnext⟩ :=
      h.read (fun f hf => (hframes f hf).1) (hreads r List.mem_cons_self) hstep
    exact ⟨hstep, ih hnext (fun f hf => hframes f (List.mem_append_right _ hf))
      fun r' hr' => hreads r' (List.mem_cons_of_mem r hr')⟩

/-- A connection starts at the first frame of its stream. -/
theorem inStep_start {frames : List Bytes} {stream : Bytes} (hframes : ∀ f ∈ frames, Encoded f)
    (hcut : stream = frames.flatten) : InStep {} [] frames stream :=
  ⟨.refl [], fun _ => hcut, fun _ => partial_nil hframes⟩

end passes

/-! ### Streams of frames -/

/-- **Nothing is handed over that no frame encodes**, while no pass steps off the frame
boundaries: of any stream of frames, read in any cuts as far as it may be, the
envelopes handed over are some of those it encodes, in their order. -/
theorem delivered_sublist (maxBufferBytes : ℕ) (frames : List Bytes) (reads : List ReadOutcome)
    (rest : Bytes) (hframes : ∀ f ∈ frames, Encoded f) (hreads : ∀ r ∈ reads, r.Delivers)
    (hcut : (reads.map ReadOutcome.bytes).flatten ++ rest = frames.flatten)
    (hsteps : Run.Along (ReceiveLoop.read maxBufferBytes)
      (fun s r => stepsOff maxBufferBytes s r = false) {} reads) :
    (delivered (receiveRun maxBufferBytes reads).outputs).Sublist (envelopes frames) := by
  obtain ⟨done, todo, rfl, h⟩ := (inStep_start hframes hcut).run hframes hreads hsteps
  refine h.behind.sublist.trans ?_
  rw [List.nil_append, envelopes, envelopes, List.map_append]
  exact List.sublist_append_left _ _

/-- **No reliable frame is lost silently.**  When every frame fits the buffer and the
loop reads the whole stream without leaving, all envelopes are handed over but for some
BestEffort or Bulk ones, however often the buffer overflows. -/
theorem delivered_dropsLossy (maxBufferBytes : ℕ) (frames : List Bytes) (reads : List ReadOutcome)
    (hframes : ∀ f ∈ frames, Encoded f ∧ f.length ≤ maxBufferBytes)
    (hreads : ∀ r ∈ reads, r.Delivers)
    (hcut : (reads.map ReadOutcome.bytes).flatten = frames.flatten)
    (hstays : (receiveRun maxBufferBytes reads).left = false) :
    DropsLossy (envelopes frames) (delivered (receiveRun maxBufferBytes reads).outputs) := by
  have hencoded : ∀ f ∈ frames, Encoded f := fun f hf => (hframes f hf).1
  have hstart : InStep {} [] frames ((reads.map ReadOutcome.bytes).flatten ++ []) :=
    inStep_start hencoded ((List.append_nil _).trans hcut)
  obtain ⟨done, todo, rfl, h⟩ := hstart.run hencoded hreads (hstart.along hframes hreads)
  -- What is left of the stream is part of a frame, and all of every frame in it.
  have htodo : todo = [] := (h.incomplete hstays).eq_nil (h.cut hstays)
  subst htodo
  rw [List.append_nil]
  exact h.behind

/-! ### A frame inside a payload -/

/-- The frame of a small envelope with the given class and payload. -/
def smallFrame (qosClass : QosClass) (payload : Bytes) : Bytes :=
  encode { sampleEnvelope with qosClass, payload } true 7

theorem encoded_smallFrame {qosClass : QosClass} {payload : Bytes}
    (h : smallFrame qosClass payload ≠ []) : Encoded (smallFrame qosClass payload) :=
  ⟨h, _, true, 7, rfl⟩

/-- Three frames, one with a frame as its payload, are cut anywhere and handed over; the one
inside the payload is not. -/
theorem delivered_sublist_smallFrame :
    let inner := smallFrame .bestEffort []
    let frames := [smallFrame .bestEffort [8, 1], smallFrame .reliableOrdered inner,
      smallFrame .bulk [9]]
    let reads := [ReadOutcome.data (frames.flatten.take 200), .retry,
      .data (frames.flatten.drop 200)]
    (delivered (receiveRun 1024 reads).outputs).map Envelope.payload = [[8, 1], inner, [9]] ∧
      (delivered (receiveRun 1024 reads).outputs).Sublist (envelopes frames) := by
  intro inner frames reads
  refine ⟨by decide +kernel, delivered_sublist 1024 frames reads [] ?_ ?_ ?_ ?_⟩
  · refine List.forall_mem_cons.mpr ⟨encoded_smallFrame (by decide +kernel), ?_⟩
    refine List.forall_mem_cons.mpr ⟨encoded_smallFrame (by decide +kernel), ?_⟩
    exact List.forall_mem_singleton.mpr (encoded_smallFrame (by decide +kernel))
  · decide +kernel
  · simp [reads, ReadOutcome.bytes]
  · decide +kernel

/-- A BestEffort frame that is dropped when the frame behind it overflows the buffer. -/
theorem delivered_dropsLossy_overflow :
    let lossy := smallFrame .bestEffort [1]
    let control := smallFrame .reliableOrdered [2]
    DropsLossy (envelopes [lossy, control])
      (delivered (receiveRun 250 [.data (lossy ++ control)]).outputs) := by
  intro lossy control
  refine delivered_dropsLossy 250 [lossy, control] [.data (lossy ++ control)] ?_ ?_ ?_ ?_
  · intro f hf
    rcases List.mem_cons.mp hf with rfl | hf
    · exact ⟨encoded_smallFrame (by decide +kernel), by decide +kernel⟩
    · rw [List.mem_singleton.mp hf]
      exact ⟨encoded_smallFrame (by decide +kernel), by decide +kernel⟩
  · decide +kernel
  · simp [ReadOutcome.bytes]
  · decide +kernel

/-- The payload of a frame too large for the receiver is a frame itself, and that one
is handed over. -/
theorem embeddedFrame_delivered :
    let inner := smallFrame .bestEffort []
    let outer := smallFrame .reliableOrdered inner
    let reads := [ReadOutcome.data (outer.take 200), .data (outer.drop 200)]
    Encoded outer ∧ (∀ r ∈ reads, r.Delivers) ∧
      (reads.map ReadOutcome.bytes).flatten = [outer].flatten ∧
      ¬ (delivered (receiveRun 250 reads).outputs).Sublist (envelopes [outer]) := by
  intro inner outer reads
  refine ⟨encoded_smallFrame (by decide +kernel), by decide +kernel, ?_, ?_⟩
  · simp [reads, ReadOutcome.bytes]
  intro hsub
  have hpayloads : (delivered (receiveRun 250 reads).outputs).map Envelope.payload = [[]] := by
    decide +kernel
  have hsent : (envelopes [outer]).map Envelope.payload = [inner] := by decide +kernel
  have hmap := hsub.map Envelope.payload
  rw [hpayloads, hsent] at hmap
  exact absurd hmap (by decide)

end YunLink
