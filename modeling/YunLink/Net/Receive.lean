import YunLink.Lib.Runs
import YunLink.Net.SendQueue
import YunLink.Wire.RoundTrip

/-!
# The receive loop

`pop_frame` and `runtime_receive_loop` (`runtime_receive.cpp`), with the overflow
recovery of `runtime_network.cpp`.  The loop appends what it reads to the receive
buffer of the connection, drops data when the buffer outgrows its limit, and hands
every frame it can cut off the front to `runtime_handle_envelope`.

What the socket returns comes from outside, one `ReadOutcome` for each pass of
the loop; what the loop does to the rest of the runtime is a list of
`ReceiveOutput`s.

## Main definitions

* `popFrame`, `drain` — cutting frames off the front of the buffer.
* `recoverReceiveOverflow` — making a buffer fit its limit.
* `ReceiveLoop.read`, `receiveRun` — the loop.
* `Encoded`, `ReadOutcome.Delivers` — streams of whole frames, read in any cuts.
* `losesFraming` — handling a buffer takes less than a whole frame off it.

## Main results

* `popFrame_of_prefix`, `popFrame_of_frame` — a frame is popped exactly when all
  of it has arrived.
* `drain_spec` — draining a buffer cut anywhere from a stream of frames.
* `receiveRun_reassembles` — **every cutting of a stream is reassembled.**
-/

namespace YunLink

open WireCodec

/-! ### Cutting frames off the buffer -/

/-- The first position from `magic` on where a frame may start, or the first one
too close to the end to tell. -/
def scanMagic (buffer : Bytes) (magic : ℕ) : ℕ :=
  if magic + 3 < buffer.length ∧ hasMagic (buffer.drop magic) = false then
    scanMagic buffer (magic + 1)
  else magic
termination_by buffer.length - magic

theorem le_scanMagic (buffer : Bytes) (magic : ℕ) : magic ≤ scanMagic buffer magic := by
  fun_induction scanMagic buffer magic with
  | case1 magic h ih => omega
  | case2 magic h => exact le_rfl

/-- `pop_frame`: the buffer it leaves, and the envelope or the error when it
returns true.  The body of its loop returns on every path. -/
def popFrame (maxBufferBytes : ℕ) (buffer : Bytes) : Bytes × Option (Except ErrorCode Envelope) :=
  if 4 ≤ buffer.length then
    let magic := scanMagic buffer 0
    if buffer.length ≤ magic + 3 then ([], none)
    else
      let buffer := buffer.drop magic
      if buffer.length < 14 then (buffer, none)
      else
        let headerLen := (readU16 (buffer.drop 8)).toNat
        let payloadLen := (readU32 (buffer.drop 10)).toNat
        let frameLen := headerLen + payloadLen + kTrailerSize
        if headerLen < kFixedHeaderSize ∨ maxBufferBytes < frameLen then
          (buffer.drop 1, some (.error .decodeError))
        else if buffer.length < frameLen then (buffer, none)
        else
          let decoded := decode (buffer.take frameLen)
          if decoded.code ≠ .ok then (buffer.drop frameLen, some (.error decoded.code))
          else (buffer.drop decoded.consumed, some (.ok decoded.envelope))
  else (buffer, none)

/-- A frame popped, or an error, shortens the buffer. -/
theorem length_lt_of_popFrame {maxBufferBytes : ℕ} {buffer buffer' : Bytes}
    {result : Except ErrorCode Envelope}
    (h : popFrame maxBufferBytes buffer = (buffer', some result)) :
    buffer'.length < buffer.length := by
  -- The exits of `pop_frame` in its order; three of them return something.
  unfold popFrame at h
  split at h
  · simp only at h
    split at h
    · simp at h
    split at h
    · simp at h
    next hlong hheader =>
    have hdrop : (buffer.drop (scanMagic buffer 0)).length ≤ buffer.length := by simp
    split at h
    · obtain ⟨rfl, -⟩ := Prod.mk.inj h
      rw [List.length_drop]
      omega
    next hsize =>
    split at h
    · simp at h
    split at h
    · obtain ⟨rfl, -⟩ := Prod.mk.inj h
      have hpos : kFixedHeaderSize = 80 := rfl
      rw [List.length_drop]
      omega
    next hshort hok =>
    obtain ⟨rfl, -⟩ := Prod.mk.inj h
    have hpos := kMinEnvelopeSize_le_consumed (not_not.mp hok)
    have hmin : kMinEnvelopeSize = 84 := rfl
    rw [List.length_drop]
    omega
  · simp at h

/-! ### Overflow -/

/-- `peek_frame_header`: the lengths and the class the buffer starts with. -/
def peekFrameHeader (buffer : Bytes) : Option (UInt16 × UInt32 × QosClass) :=
  if buffer.length < 15 || !hasMagic buffer then none
  else
    let headerLen := readU16 (buffer.drop 8)
    let payloadLen := readU32 (buffer.drop 10)
    let qosValue := buffer.getD 14 0
    if headerLen.toNat < kFixedHeaderSize || !validQos qosValue then none
    else some (headerLen, payloadLen, QosClass.ofUInt8 qosValue)

/-- `recover_receive_overflow`: drop lossy frames, and what is no frame, until
the buffer fits; false at a frame that must not be dropped. -/
def recoverReceiveOverflow (maxBytes : ℕ) (buffer : Bytes) : Bytes × Bool :=
  if maxBytes < buffer.length then
    match peekFrameHeader buffer with
    | some (headerLen, payloadLen, qos) =>
        if !qosMayDrop qos then (buffer, false)
        else
          let frameLen := headerLen.toNat + payloadLen.toNat + kTrailerSize
          recoverReceiveOverflow maxBytes (buffer.drop (min buffer.length frameLen))
    | none =>
        let magic := scanMagic buffer 1
        if buffer.length ≤ magic + 3 then ([], true)
        else recoverReceiveOverflow maxBytes (buffer.drop magic)
  else (buffer, true)
termination_by buffer.length
decreasing_by
  · have hpos : 0 < kTrailerSize := by decide
    rw [List.length_drop]
    omega
  · have hpos := le_scanMagic buffer 1
    rw [List.length_drop]
    omega

/-! ### The loop -/

/-- What the loop does to the rest of the runtime. -/
inductive ReceiveOutput
  /-- A call of `runtime_handle_envelope`. -/
  | handle (envelope : Envelope)
  /-- An error event. -/
  | error (code : ErrorCode) (message : Text)
  /-- A call of `runtime_drop_peer_state`. -/
  | dropPeerState
  /-- The event that the link is down. -/
  | linkDown
  deriving DecidableEq

/-- What a pass of the loop gets from the outside. -/
inductive ReadOutcome
  | data (chunk : Bytes)
  /-- `would_block` or `try_again`. -/
  | retry
  /-- One of the errors of `socket_closed`. -/
  | closed
  | failed (message : Text)
  /-- The runtime or the connection is no longer running. -/
  | stopped
  deriving DecidableEq

/-- The size of the array a read fills. -/
def kReadChunkBytes : ℕ := 8192

/-- The variables of the loop, and what it has done so far. -/
structure ReceiveLoop where
  receiveBuffer : Bytes := []
  outputs : List ReceiveOutput := []
  left : Bool := false
  /-- Ghost: the buffer outgrew its limit at some time. -/
  overflowed : Bool := false
  deriving DecidableEq

/-- The output for what `pop_frame` returned. -/
def popped : Except ErrorCode Envelope → ReceiveOutput
  | .ok envelope => .handle envelope
  | .error code => .error code (ascii "wire frame rejected")

/-- The inner loop: pop until there is nothing to pop. -/
def drain (maxBufferBytes : ℕ) (buffer : Bytes) : Bytes × List ReceiveOutput :=
  match _h : popFrame maxBufferBytes buffer with
  | (rest, none) => (rest, [])
  | (rest, some result) =>
      let (final, outputs) := drain maxBufferBytes rest
      (final, popped result :: outputs)
termination_by buffer.length
decreasing_by exact length_lt_of_popFrame _h

namespace ReceiveLoop

/-- One more output. -/
def emit (s : ReceiveLoop) (output : ReceiveOutput) : ReceiveLoop :=
  { s with outputs := s.outputs ++ [output] }

/-- What follows the loop. -/
def leave (s : ReceiveLoop) : ReceiveLoop :=
  ({ s with left := true }.emit .dropPeerState).emit .linkDown

/-- The state after the inner loop. -/
def drained (maxBufferBytes : ℕ) (s : ReceiveLoop) : ReceiveLoop :=
  let (buffer, outputs) := drain maxBufferBytes s.receiveBuffer
  { s with receiveBuffer := buffer, outputs := s.outputs ++ outputs }

/-- One pass of `runtime_receive_loop`. -/
def read (maxBufferBytes : ℕ) (s : ReceiveLoop) (outcome : ReadOutcome) : ReceiveLoop :=
  if s.left then s
  else
    match outcome with
    | .stopped => s.leave
    | .retry => s
    | .closed => s.leave
    | .failed message => (s.emit (.error .internal message)).leave
    | .data chunk =>
        let buffer := s.receiveBuffer ++ chunk
        if maxBufferBytes < buffer.length then
          match recoverReceiveOverflow maxBufferBytes buffer with
          | (buffer, true) =>
              drained maxBufferBytes
                ({ s with receiveBuffer := buffer, overflowed := true }.emit
                  (.error .decodeError (ascii "receive buffer dropped lossy frames")))
          | (buffer, false) =>
              leave
                ({ s with receiveBuffer := buffer, overflowed := true }.emit
                  (.error .decodeError (ascii "receive buffer limit exceeded")))
        else drained maxBufferBytes { s with receiveBuffer := buffer }

end ReceiveLoop

/-- The loop on a fresh connection. -/
def receiveRun (maxBufferBytes : ℕ) (reads : List ReadOutcome) : ReceiveLoop :=
  reads.foldl (ReceiveLoop.read maxBufferBytes) {}

/-! ### Streams of encoded frames -/

/-- A frame that `WireCodec::encode` returned. -/
def Encoded (f : Bytes) : Prop := f ≠ [] ∧ ∃ input auto now, encode input auto now = f

theorem Encoded.eq_frame {f : Bytes} (hf : Encoded f) :
    ∃ value, WellFormed value ∧ f = frame value := by
  obtain ⟨hne, input, auto, now, rfl⟩ := hf
  exact ⟨_, encode_eq_frame hne⟩

/-- A pass that reads bytes, or finds none to read yet. -/
def ReadOutcome.Delivers : ReadOutcome → Prop
  | .data chunk => 1 ≤ chunk.length ∧ chunk.length ≤ kReadChunkBytes
  | .retry => True
  | _ => False

instance : DecidablePred ReadOutcome.Delivers
  | .data chunk => inferInstanceAs (Decidable (1 ≤ chunk.length ∧ chunk.length ≤ kReadChunkBytes))
  | .retry => .isTrue trivial
  | .closed => .isFalse id
  | .failed _ => .isFalse id
  | .stopped => .isFalse id

/-- The bytes of the read. -/
def ReadOutcome.bytes : ReadOutcome → Bytes
  | .data chunk => chunk
  | _ => []

/-- A read sees only the bytes of its word. -/
theorem readU16_drop_append {b : Bytes} {n : ℕ} (h : n + 2 ≤ b.length) (x : Bytes) :
    readU16 ((b ++ x).drop n) = readU16 (b.drop n) := by
  have hlen : 2 ≤ (b.drop n).length := by rw [List.length_drop]; omega
  rw [List.drop_append_of_le_length (by omega)]
  unfold readU16
  rw [List.getD_append _ _ _ _ (by omega), List.getD_append _ _ _ _ (by omega)]

theorem readU32_drop_append {b : Bytes} {n : ℕ} (h : n + 4 ≤ b.length) (x : Bytes) :
    readU32 ((b ++ x).drop n) = readU32 (b.drop n) := by
  have hlen : 4 ≤ (b.drop n).length := by rw [List.length_drop]; omega
  have hget : ∀ i < 4, (b.drop n ++ x).getD i 0 = (b.drop n).getD i 0 := fun i hi =>
    List.getD_append _ _ _ _ (by omega)
  rw [List.drop_append_of_le_length (by omega)]
  refine List.foldl_ext _ _ _ ?_
  intro value shift hshift
  have hbyte : shift.toNat / 8 < 4 := by
    revert hshift
    simp only [List.mem_cons, List.not_mem_nil, or_false]
    rintro (rfl | rfl | rfl | rfl) <;> decide
  rw [hget _ hbyte]

theorem hasMagic_append {b : Bytes} (h : 4 ≤ b.length) (x : Bytes) :
    hasMagic (b ++ x) = hasMagic b := by
  have hget : ∀ i < 4, (b ++ x).getD i 0 = b.getD i 0 := fun i hi =>
    List.getD_append _ _ _ _ (by omega)
  have hlen : 4 ≤ (b ++ x).length := by rw [List.length_append]; omega
  unfold hasMagic
  rw [decide_eq_true h, decide_eq_true hlen, hget 0 (by omega), hget 1 (by omega),
    hget 2 (by omega), hget 3 (by omega)]

/-- A buffer that starts with the magic is scanned no further. -/
theorem scanMagic_of_hasMagic {buffer : Bytes} (h : hasMagic buffer = true) :
    scanMagic buffer 0 = 0 := by
  rw [scanMagic, if_neg]
  rw [List.drop_zero, h]
  simp

/-- The header fields of a frame, in any buffer that holds its first bytes. -/
theorem header_of_frame {value : Envelope} {b x y : Bytes} (hb : b ++ x = frame value ++ y) :
    (4 ≤ b.length → hasMagic b = true) ∧
      (14 ≤ b.length → readU16 (b.drop 8) = value.headerLen ∧
        readU32 (b.drop 10) = value.payloadLen) := by
  have hframe : frame value ++ y = fixedHeader value ++
      (variablePart value ++ value.payload ++ appendU32 (checksum (frameBody value)) ++ y) := by
    simp only [frame, frameBody, List.append_assoc]
  rw [hframe] at hb
  refine ⟨fun hlen => ?_, fun hlen => ⟨?_, ?_⟩⟩
  · rw [← hasMagic_append hlen x, hb]
    exact hasMagic_fixedHeader value _
  · rw [← readU16_drop_append (by omega) x, hb]
    exact (read_guards value _).2.2.2.1
  · rw [← readU32_drop_append (by omega) x, hb]
    exact (read_guards value _).2.2.2.2.1

/-- The header of a frame as overflow recovery sees it. -/
theorem peekFrameHeader_of_frame {value : Envelope} (hv : WellFormed value) {b x y : Bytes}
    (hb : b ++ x = frame value ++ y) (hlen : 15 ≤ b.length) :
    peekFrameHeader b = some (value.headerLen, value.payloadLen, value.qosClass) := by
  obtain ⟨hmagic, hheader⟩ := header_of_frame hb
  obtain ⟨hu16, hu32⟩ := hheader (by omega)
  have hqos : b.getD 14 0 = value.qosClass.toUInt8 := by
    have hframe : frame value ++ y = fixedHeader value ++
        (variablePart value ++ value.payload ++ appendU32 (checksum (frameBody value)) ++ y) := by
      simp only [frame, frameBody, List.append_assoc]
    rw [← List.getD_append b x _ _ (by omega), hb, hframe]
    exact (read_guards value _).2.2.2.2.2.1
  unfold peekFrameHeader
  rw [hmagic (by omega), hu16, hu32, hqos]
  dsimp only
  rw [(valid_toUInt8 value).1]
  simp only [Bool.not_true, Bool.or_false, decide_eq_true_iff]
  rw [if_neg (by omega), if_neg (Nat.not_lt.mpr ?_)]
  · cases value.qosClass <;> rfl
  · rw [hv.headerLen]
    exact Nat.le_add_right _ _

/-! ### Frame boundaries -/

/-- Whether the handling of a buffer takes less than a whole frame off its front:
overflow recovery drops a frame that goes on behind the buffer, or `pop_frame` meets
one too large for the buffer and skips a byte of it.  The frames are told by the
lengths they declare. -/
def losesFraming (maxBufferBytes : ℕ) (buffer : Bytes) : Bool :=
  if maxBufferBytes < buffer.length then
    match peekFrameHeader buffer with
    | none => true
    | some (headerLen, payloadLen, qos) =>
        let frameLen := headerLen.toNat + payloadLen.toNat + kTrailerSize
        -- Here the loop is left.
        if !qosMayDrop qos then false
        else if buffer.length < frameLen then true
        else losesFraming maxBufferBytes (buffer.drop frameLen)
  else if buffer.length < 14 then false
  else
    let frameLen :=
      (readU16 (buffer.drop 8)).toNat + (readU32 (buffer.drop 10)).toNat + kTrailerSize
    if maxBufferBytes < frameLen then true
    else if buffer.length < frameLen then false
    else losesFraming maxBufferBytes (buffer.drop frameLen)
termination_by buffer.length
decreasing_by
  all_goals
    have hpos : 0 < kTrailerSize := by decide
    rw [List.length_drop]
    omega

/-- A buffer cut from a stream holds part of its first frame, or all of it. -/
theorem cut_cases {buffer rest f tail : Bytes} (h : buffer ++ rest = f ++ tail) :
    (buffer.length < f.length ∧ ∃ x, buffer ++ x = f) ∨
      ∃ more, buffer = f ++ more ∧ more ++ rest = tail := by
  rcases List.append_eq_append_iff.mp h with ⟨x, hf, -⟩ | ⟨more, hbuffer, htail⟩
  · by_cases hx : x = []
    · refine Or.inr ⟨[], ?_, ?_⟩
      · rw [hf, hx, List.append_nil, List.append_nil]
      · rw [hf, hx, List.append_nil] at h
        exact List.append_cancel_left h
    · refine Or.inl ⟨?_, x, hf.symm⟩
      have hpos := List.length_pos_iff.mpr hx
      rw [hf, List.length_append]
      omega
  · exact Or.inr ⟨more, hbuffer, htail.symm⟩

section Boundaries

variable {maxBufferBytes : ℕ}

/-- The frame length that `pop_frame` reads off a frame passes its check. -/
theorem kFixedHeaderSize_le_headerLen {value : Envelope} (hv : WellFormed value) :
    kFixedHeaderSize ≤ value.headerLen.toNat := by
  rw [hv.headerLen]
  exact Nat.le_add_right _ _

theorem length_frame_le {value : Envelope} (hv : WellFormed value) : 84 ≤ (frame value).length := by
  have hfixed := kFixedHeaderSize_le_headerLen hv
  have hsize : kFixedHeaderSize = 80 := rfl
  have htrailer : kTrailerSize = 4 := rfl
  rw [length_frame hv]
  omega

/-- The class a frame decodes to is that of its envelope. -/
theorem qosClass_decode_frame {value : Envelope} (hv : WellFormed value) :
    (decode (frame value)).envelope.qosClass = value.qosClass := by
  have hdecode := decode_frame hv []
  rw [List.append_nil] at hdecode
  rw [hdecode]

/-- A buffer that holds its first frame whole is handled like what follows the frame,
unless the loop is left there. -/
theorem losesFraming_of_frame {f : Bytes} (hf : Encoded f) (more : Bytes) :
    losesFraming maxBufferBytes (f ++ more) =
      if maxBufferBytes < (f ++ more).length ∧
          qosMayDrop (decode f).envelope.qosClass = false then false
      else losesFraming maxBufferBytes more := by
  obtain ⟨value, hv, hframe⟩ := hf.eq_frame
  rw [hframe, qosClass_decode_frame hv]
  have hlen : (frame value ++ more).length = (frame value).length + more.length :=
    List.length_append
  have hmin := length_frame_le hv
  have hlength := length_frame hv
  obtain ⟨-, hheader⟩ := header_of_frame (List.append_nil (frame value ++ more))
  obtain ⟨hu16, hu32⟩ := hheader (by omega)
  have hpeek := peekFrameHeader_of_frame hv (List.append_nil (frame value ++ more)) (by omega)
  conv_lhs => rw [losesFraming]
  by_cases hover : maxBufferBytes < (frame value ++ more).length
  · rw [if_pos hover, hpeek]
    dsimp only
    rw [← hlength, if_neg (show ¬ (frame value ++ more).length < _ by omega), List.drop_left]
    cases hdrop : qosMayDrop value.qosClass with
    | false => rw [if_pos (by rfl), if_pos ⟨hover, rfl⟩]
    | true => simp
  · have hstay : ¬ (maxBufferBytes < (frame value ++ more).length ∧
        qosMayDrop value.qosClass = false) := fun h => hover h.1
    rw [if_neg hover, if_neg hstay, if_neg (by omega), hu16, hu32]
    dsimp only
    rw [← hlength, if_neg (by omega), if_neg (by omega), List.drop_left]

/-- A buffer that holds part of its first frame, within its limit. -/
theorem losesFraming_of_part {f : Bytes} (hf : Encoded f) {b x : Bytes} (hb : b ++ x = f)
    (hlen : b.length < f.length) (hfits : b.length ≤ maxBufferBytes) :
    losesFraming maxBufferBytes b = decide (14 ≤ b.length ∧ maxBufferBytes < f.length) := by
  obtain ⟨value, hv, hframe⟩ := hf.eq_frame
  rw [hframe] at hb hlen ⊢
  have hlength := length_frame hv
  obtain ⟨-, hheader⟩ := header_of_frame (hb.trans (List.append_nil _).symm)
  rw [losesFraming, if_neg (by omega)]
  by_cases h14 : b.length < 14
  · rw [if_pos h14]
    exact (decide_eq_false (by omega)).symm
  · obtain ⟨hu16, hu32⟩ := hheader (by omega)
    rw [if_neg h14, hu16, hu32]
    dsimp only
    rw [← hlength]
    by_cases hmax : maxBufferBytes < (frame value).length
    · rw [if_pos hmax]
      exact (decide_eq_true ⟨by omega, hmax⟩).symm
    · rw [if_neg hmax, if_pos hlen]
      exact (decide_eq_false fun h => hmax h.2).symm

/-- **Frames within the limit never lose their framing**, wherever the stream is cut. -/
theorem losesFraming_of_fits (frames : List Bytes) (buffer rest : Bytes)
    (hframes : ∀ f ∈ frames, Encoded f ∧ f.length ≤ maxBufferBytes)
    (hcut : buffer ++ rest = frames.flatten) : losesFraming maxBufferBytes buffer = false := by
  induction frames generalizing buffer with
  | nil =>
    rw [(List.append_eq_nil_iff.mp hcut).1, losesFraming]
    simp
  | cons f frames ih =>
    obtain ⟨hf, hmax⟩ := hframes f List.mem_cons_self
    rw [List.flatten_cons] at hcut
    rcases cut_cases hcut with ⟨hlen, x, hprefix⟩ | ⟨more, rfl, hmore⟩
    · rw [losesFraming_of_part hf hprefix hlen (by omega)]
      exact decide_eq_false fun h => Nat.not_lt.mpr hmax h.2
    · rw [losesFraming_of_frame hf]
      split
      · rfl
      · exact ih more (fun g hg => hframes g (List.mem_cons_of_mem _ hg)) hmore

end Boundaries

/-! ### Reassembly -/

section Reassembly

variable {maxBufferBytes : ℕ}

/-- Nothing is popped while the frame at the front is incomplete. -/
theorem popFrame_of_prefix {f b x : Bytes} (hf : Encoded f)
    (hmax : 14 ≤ b.length → f.length ≤ maxBufferBytes) (hb : b ++ x = f)
    (hlen : b.length < f.length) : popFrame maxBufferBytes b = (b, none) := by
  obtain ⟨value, hv, hframe⟩ := hf.eq_frame
  rw [hframe] at hmax hb hlen
  have hlength := length_frame hv
  have hfixed := kFixedHeaderSize_le_headerLen hv
  obtain ⟨hmagic, hheader⟩ := header_of_frame (hb.trans (List.append_nil _).symm)
  unfold popFrame
  by_cases h4 : 4 ≤ b.length
  · rw [if_pos h4, scanMagic_of_hasMagic (hmagic h4)]
    simp only [List.drop_zero]
    rw [if_neg (by omega)]
    by_cases h14 : b.length < 14
    · rw [if_pos h14]
    · obtain ⟨hu16, hu32⟩ := hheader (by omega)
      have hmax := hmax (by omega)
      rw [if_neg h14, hu16, hu32, if_neg (by omega), if_pos (by omega)]
  · rw [if_neg h4]

/-- A frame that has arrived is popped, decoded, whatever follows it. -/
theorem popFrame_of_frame {f : Bytes} (hf : Encoded f) (hmax : f.length ≤ maxBufferBytes)
    (rest : Bytes) :
    popFrame maxBufferBytes (f ++ rest) = (rest, some (.ok (decode f).envelope)) := by
  obtain ⟨value, hv, hframe⟩ := hf.eq_frame
  rw [hframe] at hmax ⊢
  have hlength := length_frame hv
  have hfixed := kFixedHeaderSize_le_headerLen hv
  have hsize : kFixedHeaderSize = 80 := rfl
  have hdecode := decode_frame hv []
  rw [List.append_nil] at hdecode
  obtain ⟨hmagic, hheader⟩ := header_of_frame (List.append_nil (frame value ++ rest))
  have hlen : (frame value ++ rest).length = (frame value).length + rest.length :=
    List.length_append
  obtain ⟨hu16, hu32⟩ := hheader (by omega)
  unfold popFrame
  rw [if_pos (by omega), scanMagic_of_hasMagic (hmagic (by omega))]
  simp only [List.drop_zero]
  rw [if_neg (by omega), if_neg (by omega), hu16, hu32, if_neg (by omega), if_neg (by omega),
    ← hlength, List.take_left]
  generalize decode (frame value) = decoded at hdecode ⊢
  subst hdecode
  rw [if_neg (not_not_intro rfl), List.drop_left]

/-- What draining leaves of a stream: nothing, or part of its next frame. -/
def Partial (buffer : Bytes) (frames : List Bytes) : Prop :=
  match frames with
  | [] => buffer = []
  | f :: _ => buffer.length < f.length

theorem partial_nil {frames : List Bytes} (hframes : ∀ f ∈ frames, Encoded f) :
    Partial [] frames := by
  cases frames with
  | nil => rfl
  | cons f frames => exact List.length_pos_iff.mpr (hframes f List.mem_cons_self).1

/-- A buffer that holds all that is left of a stream holds its frames whole. -/
theorem Partial.eq_nil {buffer : Bytes} {frames : List Bytes} (h : Partial buffer frames)
    (hcut : buffer ++ [] = frames.flatten) : frames = [] := by
  cases frames with
  | nil => rfl
  | cons f frames =>
    have hpartial : buffer.length < f.length := h
    have hlength := congrArg List.length hcut
    rw [List.append_nil, List.flatten_cons, List.length_append] at hlength
    omega

/-- **Draining a buffer cut anywhere from a stream of frames** hands over the
frames that are complete, as long as none is met that is too large. -/
theorem drain_spec (frames : List Bytes) (buffer rest : Bytes)
    (hframes : ∀ f ∈ frames, Encoded f) (hfits : buffer.length ≤ maxBufferBytes)
    (hframing : losesFraming maxBufferBytes buffer = false)
    (hcut : buffer ++ rest = frames.flatten) :
    ∃ done todo, frames = done ++ todo ∧ ∃ buffer',
      drain maxBufferBytes buffer =
        (buffer', done.map fun f => .handle (decode f).envelope) ∧
      buffer' ++ rest = todo.flatten ∧ Partial buffer' todo := by
  induction frames generalizing buffer with
  | nil =>
    have hnil : buffer = [] := (List.append_eq_nil_iff.mp hcut).1
    subst hnil
    refine ⟨[], [], rfl, [], ?_, hcut, rfl⟩
    rw [drain]
    rfl
  | cons f frames ih =>
    have hf := hframes f List.mem_cons_self
    rw [List.flatten_cons] at hcut
    rcases cut_cases hcut with ⟨hlen, x, hprefix⟩ | ⟨more, rfl, hmore⟩
    · -- The front frame is incomplete.
      rw [losesFraming_of_part hf hprefix hlen hfits, decide_eq_false_iff_not] at hframing
      have hmax : 14 ≤ buffer.length → f.length ≤ maxBufferBytes := fun h14 =>
        Nat.le_of_not_lt fun hlt => hframing ⟨h14, hlt⟩
      refine ⟨[], f :: frames, rfl, buffer, ?_, hcut, hlen⟩
      rw [drain, popFrame_of_prefix hf hmax hprefix hlen]
      rfl
    · -- The front frame has arrived; the rest of the buffer is cut from the rest.
      have hlen : (f ++ more).length = f.length + more.length :=
        List.length_append
      rw [losesFraming_of_frame hf, if_neg fun h => absurd h.1 (by omega)] at hframing
      obtain ⟨done, todo, rfl, buffer', hdrain, hrest, hpartial⟩ :=
        ih more (fun g hg => hframes g (List.mem_cons_of_mem _ hg)) (by omega) hframing hmore
      refine ⟨f :: done, todo, rfl, buffer', ?_, hrest, hpartial⟩
      rw [drain, popFrame_of_frame hf (by omega) more]
      simp only [hdrain]
      rfl

/-- What the loop has done when `done` of a stream is handed over. -/
structure Reassembled (s : ReceiveLoop) (done todo : List Bytes) (rest : Bytes) : Prop where
  outputs : s.outputs = done.map fun f => .handle (decode f).envelope
  left : s.left = false
  overflowed : s.overflowed = false
  cut : s.receiveBuffer ++ rest = todo.flatten
  incomplete : Partial s.receiveBuffer todo

/-- One pass of the loop hands over the frames its chunk completes, if the buffer takes
the chunk. -/
theorem Reassembled.read_of_fits {s : ReceiveLoop} {done todo : List Bytes} {outcome : ReadOutcome}
    {rest : Bytes} (h : Reassembled s done todo (outcome.bytes ++ rest))
    (hframes : ∀ f ∈ todo, Encoded f ∧ f.length ≤ maxBufferBytes) (hread : outcome.Delivers)
    (hfits : (s.receiveBuffer ++ outcome.bytes).length ≤ maxBufferBytes) :
    ∃ more todo', todo = more ++ todo' ∧
      Reassembled (s.read maxBufferBytes outcome) (done ++ more) todo' rest := by
  have hleft := h.left
  unfold ReceiveLoop.read
  rw [if_neg (by rw [hleft]; decide)]
  cases outcome with
  | retry => exact ⟨[], todo, rfl, by rw [List.append_nil]; exact h⟩
  | closed => exact absurd hread id
  | failed message => exact absurd hread id
  | stopped => exact absurd hread id
  | data chunk =>
    have hcut : s.receiveBuffer ++ chunk ++ rest = todo.flatten := by
      rw [List.append_assoc]
      exact h.cut
    have hroom : ¬ maxBufferBytes < (s.receiveBuffer ++ chunk).length := Nat.not_lt.mpr hfits
    obtain ⟨more, todo', rfl, buffer', hdrain, hrest, hpartial⟩ :=
      drain_spec todo (s.receiveBuffer ++ chunk) rest (fun f hf => (hframes f hf).1) hfits
        (losesFraming_of_fits todo _ rest hframes hcut) hcut
    refine ⟨more, todo', rfl, ?_⟩
    simp only
    rw [if_neg hroom, ReceiveLoop.drained, hdrain]
    refine ⟨?_, hleft, h.overflowed, hrest, hpartial⟩
    rw [h.outputs, List.map_append]

/-- One pass of the loop, when every frame leaves room for one read. -/
theorem Reassembled.read {s : ReceiveLoop} {done todo : List Bytes} {outcome : ReadOutcome}
    {rest : Bytes} (h : Reassembled s done todo (outcome.bytes ++ rest))
    (hframes : ∀ f ∈ todo, Encoded f ∧ f.length + 8191 ≤ maxBufferBytes)
    (hread : outcome.Delivers) :
    ∃ more todo', todo = more ++ todo' ∧
      Reassembled (s.read maxBufferBytes outcome) (done ++ more) todo' rest := by
  have hsmall : ∀ f ∈ todo, Encoded f ∧ f.length ≤ maxBufferBytes := fun f hf =>
    ⟨(hframes f hf).1, by have := (hframes f hf).2; omega⟩
  refine h.read_of_fits hsmall hread ?_
  -- Less than one frame was waiting, so the chunk cannot overflow the buffer.
  have hchunk : outcome.bytes.length ≤ 8192 := by
    cases outcome with
    | data chunk => exact hread.2
    | _ => exact Nat.zero_le _
  have hcut := h.cut
  cases todo with
  | nil =>
    rw [List.flatten_nil, ← List.append_assoc] at hcut
    rw [(List.append_eq_nil_iff.mp hcut).1]
    exact Nat.zero_le _
  | cons f todo =>
    have hpartial : s.receiveBuffer.length < f.length := h.incomplete
    have hsize := (hframes f List.mem_cons_self).2
    rw [List.length_append]
    omega

/-- What each pass keeps of the relation between the loop and the stream, a run keeps: the
frames behind the loop become more, those in front of it fewer. -/
theorem run_of_read {related : ReceiveLoop → List Bytes → List Bytes → Bytes → Prop}
    {good : Bytes → Prop} {ok : ReceiveLoop → ReadOutcome → Prop}
    (hread : ∀ {s : ReceiveLoop} {done todo : List Bytes} {r : ReadOutcome} {rest : Bytes},
      related s done todo (r.bytes ++ rest) → (∀ f ∈ todo, good f) → r.Delivers → ok s r →
      ∃ more todo', todo = more ++ todo' ∧
        related (s.read maxBufferBytes r) (done ++ more) todo' rest)
    {s : ReceiveLoop} {done todo : List Bytes} {reads : List ReadOutcome} {rest : Bytes}
    (h : related s done todo ((reads.map ReadOutcome.bytes).flatten ++ rest))
    (hframes : ∀ f ∈ todo, good f) (hreads : ∀ r ∈ reads, r.Delivers)
    (hsteps : Run.Along (ReceiveLoop.read maxBufferBytes) ok s reads) :
    ∃ more todo', todo = more ++ todo' ∧
      related (reads.foldl (ReceiveLoop.read maxBufferBytes) s) (done ++ more) todo' rest := by
  induction reads generalizing s done todo with
  | nil =>
    refine ⟨[], todo, rfl, ?_⟩
    rw [List.append_nil]
    exact h
  | cons r reads ih =>
    rw [List.map_cons, List.flatten_cons, List.append_assoc] at h
    obtain ⟨more, todo', rfl, hnext⟩ := hread h hframes (hreads r List.mem_cons_self) hsteps.1
    obtain ⟨more', todo'', rfl, hlast⟩ := ih hnext
      (fun f hf => hframes f (List.mem_append_right _ hf))
      (fun r' hr' => hreads r' (List.mem_cons_of_mem r hr')) hsteps.2
    refine ⟨more ++ more', todo'', by rw [List.append_assoc], ?_⟩
    rw [← List.append_assoc]
    exact hlast

theorem Reassembled.run {s : ReceiveLoop} {done todo : List Bytes} {reads : List ReadOutcome}
    (h : Reassembled s done todo (reads.map ReadOutcome.bytes).flatten)
    (hframes : ∀ f ∈ todo, Encoded f ∧ f.length + 8191 ≤ maxBufferBytes)
    (hreads : ∀ r ∈ reads, r.Delivers) :
    ∃ more todo', todo = more ++ todo' ∧
      Reassembled (reads.foldl (ReceiveLoop.read maxBufferBytes) s) (done ++ more) todo' [] := by
  rw [← List.append_nil (List.flatten _)] at h
  exact run_of_read (fun h hframes hread _ => h.read hframes hread) h hframes hreads
    (Run.along_of_forall fun _ _ => trivial)

/-- The loop on a fresh connection, in front of a stream of frames. -/
theorem reassembled_start {frames : List Bytes} {stream : Bytes} (hframes : ∀ f ∈ frames, Encoded f)
    (hcut : stream = frames.flatten) : Reassembled {} [] frames stream :=
  ⟨rfl, rfl, rfl, hcut, partial_nil hframes⟩

/-- **Every cutting of a stream is reassembled.**  Frames that leave room for one
read are handed over decoded, in order and once each, with no error event, no
overflow and nothing left in the buffer. -/
theorem receiveRun_reassembles (maxBufferBytes : ℕ) (frames : List Bytes) (reads : List ReadOutcome)
    (hframes : ∀ f ∈ frames, Encoded f ∧ f.length + 8191 ≤ maxBufferBytes)
    (hreads : ∀ r ∈ reads, r.Delivers)
    (hcut : (reads.map ReadOutcome.bytes).flatten = frames.flatten) :
    receiveRun maxBufferBytes reads =
      { outputs := frames.map fun f => .handle (decode f).envelope } := by
  have hstart : Reassembled {} [] frames (reads.map ReadOutcome.bytes).flatten :=
    reassembled_start (fun f hf => (hframes f hf).1) hcut
  obtain ⟨done, todo, rfl, h⟩ := hstart.run hframes hreads
  obtain rfl := h.incomplete.eq_nil h.cut
  have hbuffer : (reads.foldl (ReceiveLoop.read maxBufferBytes) {}).receiveBuffer = [] :=
    h.incomplete
  have houtputs := h.outputs
  have hleft := h.left
  have hoverflowed := h.overflowed
  rw [List.nil_append] at houtputs
  unfold receiveRun
  generalize reads.foldl (ReceiveLoop.read maxBufferBytes) {} = s
    at hbuffer houtputs hleft hoverflowed
  obtain ⟨buffer, outputs, left, overflowed⟩ := s
  simp only at hbuffer houtputs hleft hoverflowed
  rw [hbuffer, houtputs, hleft, hoverflowed, List.append_nil]

/-- Two frames, cut inside the magic of the first and behind the start of the
second. -/
theorem receiveRun_reassembles_sample :
    let f := encode sampleEnvelope true 7
    let reads := [ReadOutcome.data (f.take 2), .retry, .data (f.drop 2 ++ f.take 20),
      .data (f.drop 20)]
    (receiveRun 9000 reads).outputs =
      [.handle (decode f).envelope, .handle (decode f).envelope] := by
  intro f reads
  have hrun := receiveRun_reassembles 9000 [f, f] reads ?_ ?_ ?_
  · rw [hrun]
    rfl
  · have hf : Encoded f ∧ f.length + 8191 ≤ 9000 :=
      ⟨⟨by decide +kernel, sampleEnvelope, true, 7, rfl⟩, by decide +kernel⟩
    intro g hg
    rcases List.mem_cons.mp hg with rfl | hg
    · exact hf
    · rw [List.mem_singleton.mp hg]
      exact hf
  · decide +kernel
  · decide +kernel

end Reassembly

end YunLink
