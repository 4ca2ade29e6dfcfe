import YunLink.Net.FrameBoundaries

/-!
# When the receive buffer overflows

The loop tests the size of its buffer after it has appended a read and before it drains
it.  So what counts are not only the bytes of the frame that is still incomplete, but all
the bytes of the read; and since no frame is larger than the limit, the frame at the head
of an overflowing buffer has always arrived.  Overflow recovery then takes frames off the
front that the next line would have handed over.

Recovery itself does what it is for: on a buffer that starts where a frame starts it drops
whole lossy frames, the last of them perhaps with the part of it that has not arrived, and
gives up exactly at a reliable one.

## Main definitions

* `HeadIncomplete` — recovery is not called while a frame stands whole at the head.
* `KeepsProcessable` — a run calls recovery only then, and hands everything over.
* `PassesFit` — the reads, against the bytes of the frames that have arrived before each.
* `pieces` — frames and the part of a frame behind them, each with its class.

## Main results

* `keepsProcessable_iff` — **nothing is lost exactly when the passes fit.**
* `recoverReceiveOverflow_drops` — **recovery drops whole lossy frames**, and says so.
-/

namespace YunLink

open WireCodec

/-! ### Passes that overflow -/

/-- The bytes of the frames that are whole in the first `received` bytes of a stream. -/
def completedBytes : List Bytes → ℕ → ℕ
  | [], _ => 0
  | f :: frames, received =>
      if f.length ≤ received then f.length + completedBytes frames (received - f.length) else 0

/-- When the pass calls `recover_receive_overflow`, no frame within the limit stands whole
at the head of the buffer. -/
def HeadIncomplete (maxBufferBytes : ℕ) (s : ReceiveLoop) (outcome : ReadOutcome) : Prop :=
  s.left = false → maxBufferBytes < (s.receiveBuffer ++ outcome.bytes).length →
    ∀ f more, Encoded f → f.length ≤ maxBufferBytes → s.receiveBuffer ++ outcome.bytes ≠ f ++ more

/-- A run that calls recovery only on an incomplete frame, and neither discards a frame nor
closes the connection. -/
structure KeepsProcessable (maxBufferBytes : ℕ) (frames : List Bytes) (reads : List ReadOutcome) :
    Prop where
  heads : Run.Along (ReceiveLoop.read maxBufferBytes) (HeadIncomplete maxBufferBytes) {} reads
  kept : delivered (receiveRun maxBufferBytes reads).outputs = envelopes frames
  stays : (receiveRun maxBufferBytes reads).left = false

/-- Each read brings the bytes received, less those of the frames that had arrived before
it, to the limit at most. -/
def PassesFit (maxBufferBytes : ℕ) (frames : List Bytes) : ℕ → List ReadOutcome → Prop
  | _, [] => True
  | received, r :: reads =>
      received + r.bytes.length ≤ completedBytes frames received + maxBufferBytes ∧
        PassesFit maxBufferBytes frames (received + r.bytes.length) reads

section passes

variable {maxBufferBytes : ℕ} {s : ReceiveLoop} {done todo : List Bytes} {rest : Bytes}

/-- The frames behind and part of the next one: the frames behind have arrived. -/
theorem completedBytes_append {waiting : Bytes} (h : Partial waiting todo) :
    completedBytes (done ++ todo) (done.flatten.length + waiting.length) =
      done.flatten.length := by
  induction done with
  | nil =>
    cases todo with
    | nil => rfl
    | cons f todo =>
      have hpartial : waiting.length < f.length := h
      rw [List.nil_append, completedBytes, if_neg]
      · rfl
      · rw [List.flatten_nil, List.length_nil]
        omega
  | cons f done ih =>
    rw [List.cons_append, completedBytes, List.flatten_cons, List.length_append,
      if_pos (by omega)]
    have hbehind : f.length + done.flatten.length + waiting.length - f.length =
        done.flatten.length + waiting.length := by omega
    rw [hbehind, ih]

/-- **A frame within the limit that overflows the buffer has arrived.** -/
theorem Reassembled.headIncomplete_iff {outcome : ReadOutcome}
    (h : Reassembled s done todo (outcome.bytes ++ rest))
    (hframes : ∀ f ∈ todo, Encoded f ∧ f.length ≤ maxBufferBytes) :
    HeadIncomplete maxBufferBytes s outcome ↔
      (s.receiveBuffer ++ outcome.bytes).length ≤ maxBufferBytes := by
  constructor
  · intro hhead
    by_contra hover
    have hlong := Nat.lt_of_not_le hover
    have hcut := h.cut
    rw [← List.append_assoc] at hcut
    cases todo with
    | nil =>
      rw [(List.append_eq_nil_iff.mp hcut).1] at hlong
      exact Nat.not_lt_zero _ hlong
    | cons f todo =>
      obtain ⟨hf, hmax⟩ := hframes f List.mem_cons_self
      rw [List.flatten_cons] at hcut
      rcases cut_cases hcut with ⟨hshort, -⟩ | ⟨more, hwhole, -⟩
      · omega
      · exact hhead h.left hlong f more hf hmax hwhole
  · intro hfits _ hover
    exact absurd hfits (Nat.not_le.mpr hover)

/-- What a pass takes over from the stream. -/
theorem Reassembled.received {outcome : ReadOutcome} {s' : ReceiveLoop} {more todo' : List Bytes}
    (h : Reassembled s done (more ++ todo') (outcome.bytes ++ rest))
    (h' : Reassembled s' (done ++ more) todo' rest) :
    (done ++ more).flatten.length + s'.receiveBuffer.length =
      done.flatten.length + s.receiveBuffer.length + outcome.bytes.length := by
  have hbefore := congrArg List.length h.cut
  have hafter := congrArg List.length h'.cut
  rw [List.flatten_append, List.length_append, List.length_append, List.length_append] at hbefore
  rw [List.length_append] at hafter
  rw [List.flatten_append, List.length_append]
  omega

/-- **The passes fit as long as recovery is not called on a frame that has arrived.** -/
theorem Reassembled.heads_iff {reads : List ReadOutcome}
    (h : Reassembled s done todo (reads.map ReadOutcome.bytes).flatten)
    (hframes : ∀ f ∈ todo, Encoded f ∧ f.length ≤ maxBufferBytes)
    (hreads : ∀ r ∈ reads, r.Delivers) :
    Run.Along (ReceiveLoop.read maxBufferBytes) (HeadIncomplete maxBufferBytes) s reads ↔
      PassesFit maxBufferBytes (done ++ todo) (done.flatten.length + s.receiveBuffer.length)
        reads := by
  induction reads generalizing s done todo with
  | nil => exact Iff.rfl
  | cons r reads ih =>
    rw [List.map_cons, List.flatten_cons] at h
    have hpass : HeadIncomplete maxBufferBytes s r ↔
        done.flatten.length + s.receiveBuffer.length + r.bytes.length ≤
          completedBytes (done ++ todo) (done.flatten.length + s.receiveBuffer.length) +
            maxBufferBytes := by
      rw [h.headIncomplete_iff hframes, completedBytes_append h.incomplete, List.length_append]
      omega
    unfold Run.Along PassesFit
    rw [← hpass]
    refine and_congr_right fun hhead => ?_
    obtain ⟨more, todo', rfl, hnext⟩ := h.read_of_fits hframes (hreads r List.mem_cons_self)
      ((h.headIncomplete_iff hframes).mp hhead)
    rw [← h.received hnext, ← List.append_assoc]
    exact ih hnext (fun f hf => hframes f (List.mem_append_right _ hf))
      fun r' hr' => hreads r' (List.mem_cons_of_mem r hr')

/-- While recovery is not called on a frame that has arrived, everything is handed over. -/
theorem Reassembled.run_of_heads {reads : List ReadOutcome}
    (h : Reassembled s done todo (reads.map ReadOutcome.bytes).flatten)
    (hframes : ∀ f ∈ todo, Encoded f ∧ f.length ≤ maxBufferBytes)
    (hreads : ∀ r ∈ reads, r.Delivers)
    (hheads : Run.Along (ReceiveLoop.read maxBufferBytes) (HeadIncomplete maxBufferBytes) s
      reads) :
    ∃ more todo', todo = more ++ todo' ∧
      Reassembled (reads.foldl (ReceiveLoop.read maxBufferBytes) s) (done ++ more) todo' [] := by
  rw [← List.append_nil (List.flatten _)] at h
  refine run_of_read ?_ h hframes hreads hheads
  intro s done todo r rest h hframes hread hhead
  exact h.read_of_fits hframes hread ((h.headIncomplete_iff hframes).mp hhead)

end passes

/-- **Nothing that could be handed over is lost exactly when the passes fit**: for frames
within the limit, read in any cuts, recovery is never called on a frame that has arrived,
no frame is discarded and the connection stays, if and only if each read brings what has
been received since the last whole frame to the limit at most. -/
theorem keepsProcessable_iff (maxBufferBytes : ℕ) (frames : List Bytes) (reads : List ReadOutcome)
    (hframes : ∀ f ∈ frames, Encoded f ∧ f.length ≤ maxBufferBytes)
    (hreads : ∀ r ∈ reads, r.Delivers)
    (hcut : (reads.map ReadOutcome.bytes).flatten = frames.flatten) :
    KeepsProcessable maxBufferBytes frames reads ↔ PassesFit maxBufferBytes frames 0 reads := by
  have hstart : Reassembled {} [] frames (reads.map ReadOutcome.bytes).flatten :=
    reassembled_start (fun f hf => (hframes f hf).1) hcut
  have hiff := hstart.heads_iff hframes hreads
  rw [List.nil_append, List.flatten_nil] at hiff
  constructor
  · intro h
    exact hiff.mp h.heads
  · intro hfit
    obtain ⟨done, todo, rfl, hlast⟩ := hstart.run_of_heads hframes hreads (hiff.mpr hfit)
    obtain rfl := hlast.incomplete.eq_nil hlast.cut
    refine ⟨hiff.mpr hfit, ?_, hlast.left⟩
    rw [receiveRun, hlast.outputs, List.nil_append, delivered_map_handle, List.append_nil]

/-- Two frames, the second in a read of its own. -/
theorem keepsProcessable_smallFrames :
    let f := smallFrame .reliableOrdered [8, 1]
    KeepsProcessable 250 [f, f] [.data f, .data f] := by
  intro f
  have hf : Encoded f ∧ f.length ≤ 250 :=
    ⟨encoded_smallFrame (by decide +kernel), by decide +kernel⟩
  refine (keepsProcessable_iff 250 [f, f] [.data f, .data f] ?_ ?_ ?_).mpr ?_
  · intro g hg
    rcases List.mem_cons.mp hg with rfl | hg
    · exact hf
    · rw [List.mem_singleton.mp hg]
      exact hf
  · decide +kernel
  · simp [ReadOutcome.bytes]
  · have hfirst : 0 + f.length ≤ completedBytes [f, f] 0 + 250 := by decide +kernel
    have hsecond : 0 + f.length + f.length ≤ completedBytes [f, f] (0 + f.length) + 250 := by
      decide +kernel
    exact ⟨hfirst, hsecond, trivial⟩

/-- The same two frames in one read: both have arrived, and the connection is closed. -/
theorem wholeFrames_discarded :
    let f := smallFrame .reliableOrdered [8, 1]
    Encoded f ∧ f.length ≤ 250 ∧ (ReadOutcome.data (f ++ f)).Delivers ∧
      (receiveRun 250 [.data (f ++ f)]).left = true ∧
      ¬ KeepsProcessable 250 [f, f] [.data (f ++ f)] := by
  intro f
  have hf : Encoded f ∧ f.length ≤ 250 :=
    ⟨encoded_smallFrame (by decide +kernel), by decide +kernel⟩
  refine ⟨hf.1, hf.2, by decide +kernel, by decide +kernel, fun h => ?_⟩
  exact h.heads.1 rfl (by decide +kernel) f f hf.1 hf.2 rfl

/-! ### Recovery -/

/-- Whatever the bytes are, recovery leaves a suffix of them, and reports success exactly
when that fits. -/
theorem recoverReceiveOverflow_suffix (maxBytes : ℕ) (buffer : Bytes) :
    (recoverReceiveOverflow maxBytes buffer).1 <:+ buffer ∧
      ((recoverReceiveOverflow maxBytes buffer).2 = true ↔
        (recoverReceiveOverflow maxBytes buffer).1.length ≤ maxBytes) := by
  fun_induction recoverReceiveOverflow maxBytes buffer with
  | case1 buffer hover headerLen payloadLen qos hpeek hkeep =>
    exact ⟨List.suffix_refl _, by simpa using hover⟩
  | case2 buffer hover headerLen payloadLen qos hpeek hdrop frameLen ih =>
    exact ⟨ih.1.trans (List.drop_suffix _ _), ih.2⟩
  | case3 buffer hover hpeek magic hend =>
    exact ⟨List.nil_suffix, by simp⟩
  | case4 buffer hover hpeek magic hfound ih =>
    exact ⟨ih.1.trans (List.drop_suffix _ _), ih.2⟩
  | case5 buffer hfits =>
    exact ⟨List.suffix_refl _, by simpa using hfits⟩

/-- Frames, and behind them the part of `next` that has arrived, each with the class its
header declares. -/
def pieces (frames : List Bytes) (part next : Bytes) : List (Bytes × QosClass) :=
  frames.map (fun f => (f, (decode f).envelope.qosClass)) ++
    [(part, (decode next).envelope.qosClass)]

/-- `recover_receive_overflow` has dropped whole lossy pieces off the front and stopped at
`kept`: with false exactly when the first piece kept is reliable and the limit is still
exceeded. -/
structure DropsPieces (maxBytes : ℕ) (all kept : List (Bytes × QosClass))
    (result : Bytes × Bool) : Prop where
  dropped : ∃ dropped, all = dropped ++ kept ∧ ∀ piece ∈ dropped, qosMayDrop piece.2 = true
  left : result.1 = (kept.map Prod.fst).flatten
  failed : result.2 = false ↔
    (∃ piece ∈ kept.head?, qosMayDrop piece.2 = false) ∧ maxBytes < result.1.length

section recovery

variable {maxBytes : ℕ}

theorem flatten_pieces (frames : List Bytes) (part next : Bytes) :
    ((pieces frames part next).map Prod.fst).flatten = frames.flatten ++ part := by
  simp [pieces, Function.comp_def]

/-- A buffer that fits stays as it is. -/
theorem dropsPieces_of_fits {all : List (Bytes × QosClass)} {buffer : Bytes}
    (hbuffer : buffer = (all.map Prod.fst).flatten) (hfits : buffer.length ≤ maxBytes) :
    DropsPieces maxBytes all all (recoverReceiveOverflow maxBytes buffer) := by
  rw [recoverReceiveOverflow, if_neg (Nat.not_lt.mpr hfits)]
  refine ⟨⟨[], rfl, by simp⟩, hbuffer, ?_⟩
  simp [hfits]

/-- Recovery gives up in front of a reliable piece. -/
theorem dropsPieces_of_reliable {piece : Bytes × QosClass} {more : List (Bytes × QosClass)}
    {buffer : Bytes} (hbuffer : buffer = ((piece :: more).map Prod.fst).flatten)
    (hover : maxBytes < buffer.length) (hkeep : qosMayDrop piece.2 = false) :
    DropsPieces maxBytes (piece :: more) (piece :: more) (buffer, false) := by
  refine ⟨⟨[], rfl, by simp⟩, hbuffer, ?_⟩
  simp [hkeep, hover]

/-- A lossy piece in front of those that were dropped. -/
theorem DropsPieces.cons {piece : Bytes × QosClass} {all kept : List (Bytes × QosClass)}
    {result : Bytes × Bool} (h : DropsPieces maxBytes all kept result)
    (hdrop : qosMayDrop piece.2 = true) : DropsPieces maxBytes (piece :: all) kept result := by
  obtain ⟨dropped, rfl, hlossy⟩ := h.dropped
  exact ⟨⟨piece :: dropped, rfl, List.forall_mem_cons.mpr ⟨hdrop, hlossy⟩⟩, h.left, h.failed⟩

/-- Recovery at part of a frame whose class has arrived. -/
theorem recoverReceiveOverflow_of_class {next part x : Bytes} (hnext : Encoded next)
    (hpart : part ++ x = next) (hshort : part.length < next.length)
    (hover : maxBytes < part.length) (hmax : 15 ≤ maxBytes) :
    recoverReceiveOverflow maxBytes part =
      if qosMayDrop (decode next).envelope.qosClass then ([], true) else (part, false) := by
  obtain ⟨value, hv, hframe⟩ := hnext.eq_frame
  rw [hframe] at hpart hshort ⊢
  have hlength := length_frame hv
  have hpeek := peekFrameHeader_of_frame hv (hpart.trans (List.append_nil _).symm)
    (show 15 ≤ part.length by omega)
  rw [qosClass_decode_frame hv, recoverReceiveOverflow, if_pos hover, hpeek]
  dsimp only
  cases qosMayDrop value.qosClass with
  | false => rfl
  | true =>
    -- the declared frame goes on behind the buffer, and all of the buffer is dropped
    rw [← hlength, Nat.min_eq_left (by omega), List.drop_length, recoverReceiveOverflow,
      if_neg (by simp)]
    rfl

/-- **Recovery drops whole lossy frames**, the last of them perhaps the one that has not
arrived whole. -/
theorem dropsPieces_recover (frames : List Bytes) {part next : Bytes}
    (hframes : ∀ f ∈ frames, Encoded f) (hnext : Encoded next) (hpart : part <+: next)
    (hne : part ≠ next) (hmax : 15 ≤ maxBytes) :
    ∃ kept, DropsPieces maxBytes (pieces frames part next) kept
      (recoverReceiveOverflow maxBytes (frames.flatten ++ part)) := by
  induction frames with
  | nil =>
    -- Only the frame that has not arrived whole is left.
    by_cases hover : maxBytes < part.length
    · obtain ⟨x, hx⟩ := hpart
      have hshort : part.length < next.length := by
        rcases Nat.eq_zero_or_pos x.length with hzero | hpos
        · rw [List.length_eq_zero_iff.mp hzero, List.append_nil] at hx
          exact absurd hx hne
        · rw [← hx, List.length_append]
          omega
      rw [List.flatten_nil, List.nil_append,
        recoverReceiveOverflow_of_class hnext hx hshort hover hmax]
      cases hdrop : qosMayDrop (decode next).envelope.qosClass with
      | false =>
        exact ⟨_, dropsPieces_of_reliable (flatten_pieces [] part next).symm hover hdrop⟩
      | true =>
        refine ⟨[], ⟨pieces [] part next, (List.append_nil _).symm, ?_⟩, rfl, by simp⟩
        simpa [pieces] using hdrop
    · exact ⟨_, dropsPieces_of_fits (flatten_pieces [] part next).symm (Nat.le_of_not_lt hover)⟩
  | cons f frames ih =>
    have hflat := flatten_pieces (f :: frames) part next
    by_cases hover : maxBytes < ((f :: frames).flatten ++ part).length
    · rw [List.flatten_cons, List.append_assoc] at hover hflat ⊢
      rw [recoverReceiveOverflow_of_frame (hframes f List.mem_cons_self) hover]
      cases hdrop : qosMayDrop (decode f).envelope.qosClass with
      | false => exact ⟨_, dropsPieces_of_reliable hflat.symm hover hdrop⟩
      | true =>
        obtain ⟨kept, h⟩ := ih fun g hg => hframes g (List.mem_cons_of_mem _ hg)
        exact ⟨kept, h.cons hdrop⟩
    · exact ⟨_, dropsPieces_of_fits hflat.symm (Nat.le_of_not_lt hover)⟩

end recovery

/-- **Overflow recovery drops only lossy frames.**  Of any bytes it leaves a suffix, with
true exactly when that fits; and of frames with part of a frame behind them it drops a
whole number of lossy ones, with false exactly at a reliable one that does not fit. -/
theorem recoverReceiveOverflow_drops (maxBytes : ℕ) :
    (∀ buffer, (recoverReceiveOverflow maxBytes buffer).1 <:+ buffer ∧
      ((recoverReceiveOverflow maxBytes buffer).2 = true ↔
        (recoverReceiveOverflow maxBytes buffer).1.length ≤ maxBytes)) ∧
    ∀ (frames : List Bytes) (part next : Bytes), (∀ f ∈ frames, Encoded f) → Encoded next →
      part <+: next → part ≠ next → 15 ≤ maxBytes →
      ∃ kept, DropsPieces maxBytes (pieces frames part next) kept
        (recoverReceiveOverflow maxBytes (frames.flatten ++ part)) :=
  ⟨recoverReceiveOverflow_suffix maxBytes,
    fun frames _ _ hframes hnext hpart hne hmax =>
      dropsPieces_recover frames hframes hnext hpart hne hmax⟩

/-- A lossy frame, and the first bytes of a reliable one behind it. -/
theorem recoverReceiveOverflow_drops_smallFrames :
    let lossy := smallFrame .bestEffort [1]
    let control := smallFrame .reliableOrdered [2]
    ∃ kept, DropsPieces 100 (pieces [lossy] (control.take 20) control) kept
      (recoverReceiveOverflow 100 ([lossy].flatten ++ control.take 20)) := by
  intro lossy control
  refine (recoverReceiveOverflow_drops 100).2 [lossy] (control.take 20) control ?_ ?_ ?_ ?_ ?_
  · intro f hf
    rw [List.mem_singleton.mp hf]
    exact encoded_smallFrame (by decide)
  · exact encoded_smallFrame (by decide)
  · exact List.take_prefix _ _
  · intro heq
    exact absurd (congrArg List.length heq) (by decide +kernel)
  · decide

end YunLink
