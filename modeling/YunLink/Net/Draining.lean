import YunLink.Net.Segmentation

/-!
# Draining a receive buffer

The inner loop of `runtime_receive_loop` calls `pop_frame` until it returns false.  Each of
the exits of `pop_frame` takes something off the front of the buffer or has nothing left to
take, whatever bytes a peer has sent, so the loop ends.  What it hands over was never put
together from two places: an envelope is what `WireCodec::decode` makes of one stretch of
the buffer, as long as its header says, and the buffer goes on right behind it.

The sum of a 16-bit and a 32-bit length fits into a `size_t`.

## Main definitions

* `WholeFrame` — a byte string that the decoder takes for one frame, to its last byte.

## Main results

* `popFrame_suffix`, `popFrame_popFrame` — every call leaves a suffix, and a call that
  returned false has nothing more to do.
* `popFrame_ok` — an envelope is cut out in one piece.
* `drain_suffix` — the loop ends with a buffer that holds nothing to pop.
* `popFrame_progress` — **the drain loop makes progress and never splices.**
-/

namespace YunLink

open WireCodec

/-- The decoder takes the byte string for one frame, to its last byte, of the length that
its header announces. -/
structure WholeFrame (maxBufferBytes : ℕ) (slice : Bytes) (envelope : Envelope) : Prop where
  decoded : decode slice = { code := .ok, consumed := slice.length, envelope }
  length_eq : slice.length =
    (readU16 (slice.drop 8)).toNat + (readU32 (slice.drop 10)).toNat + kTrailerSize
  headerLen : envelope.headerLen = readU16 (slice.drop 8)
  payloadLen : envelope.payloadLen = readU32 (slice.drop 10)
  within : slice.length ≤ maxBufferBytes

/-! ### The decoder -/

/-- What the decoder consumes when it accepts is what the header announces. -/
theorem consumed_of_ok {data : Bytes} (h : (decode data).code = .ok) :
    (decode data).consumed =
        (readU16 (data.drop 8)).toNat + (readU32 (data.drop 10)).toNat + kTrailerSize ∧
      (decode data).envelope.headerLen = readU16 (data.drop 8) ∧
      (decode data).envelope.payloadLen = readU32 (data.drop 10) := by
  revert h
  fun_cases decode data with
  | case10 => exact fun _ => ⟨rfl, rfl, rfl⟩
  | _ => exact fun h => ErrorCode.noConfusion h

/-- The frame that a buffer starts with, as its header has it. -/
theorem wholeFrame_take {maxBufferBytes frameLen : ℕ} {front : Bytes}
    (hlen : (readU16 (front.drop 8)).toNat + (readU32 (front.drop 10)).toNat + kTrailerSize =
      frameLen)
    (hheader : kFixedHeaderSize ≤ (readU16 (front.drop 8)).toNat) (hwhole : frameLen ≤ front.length)
    (hwithin : frameLen ≤ maxBufferBytes) (hcode : (decode (front.take frameLen)).code = .ok) :
    WholeFrame maxBufferBytes (front.take frameLen) (decode (front.take frameLen)).envelope ∧
      (decode (front.take frameLen)).consumed = frameLen := by
  have hlong : 14 ≤ frameLen := by
    have hfixed : kFixedHeaderSize = 80 := rfl
    omega
  have htake : (front.take frameLen).length = frameLen := by
    rw [List.length_take]
    exact Nat.min_eq_left hwhole
  -- the slice has the header of the buffer it was cut from
  have hu16 : readU16 ((front.take frameLen).drop 8) = readU16 (front.drop 8) := by
    rw [← readU16_drop_append (by omega) (front.drop frameLen), List.take_append_drop]
  have hu32 : readU32 ((front.take frameLen).drop 10) = readU32 (front.drop 10) := by
    rw [← readU32_drop_append (by omega) (front.drop frameLen), List.take_append_drop]
  obtain ⟨hconsumed, hheaderLen, hpayloadLen⟩ := consumed_of_ok hcode
  rw [hu16, hu32, hlen] at hconsumed
  have hdecoded : ∀ decoded : DecodeResult, decoded.code = .ok → decoded.consumed = frameLen →
      decoded = { code := .ok, consumed := frameLen, envelope := decoded.envelope } := by
    rintro ⟨code, consumed, envelope⟩ rfl rfl
    rfl
  refine ⟨⟨?_, ?_, hheaderLen, hpayloadLen, htake.trans_le hwithin⟩, hconsumed⟩
  · rw [htake]
    exact hdecoded _ hcode hconsumed
  · rw [htake, hu16, hu32, hlen]

/-! ### One call -/

section popping

variable {maxBufferBytes : ℕ} {buffer left : Bytes}

/-- Every exit takes off a prefix. -/
theorem popFrame_suffix (maxBufferBytes : ℕ) (buffer : Bytes) :
    (popFrame maxBufferBytes buffer).1 <:+ buffer := by
  have hmagic : buffer.drop (scanMagic buffer 0) <:+ buffer := List.drop_suffix _ _
  unfold popFrame
  simp only
  split_ifs
  · exact List.nil_suffix
  · exact hmagic
  · exact (List.drop_suffix _ _).trans hmagic
  · exact hmagic
  · exact (List.drop_suffix _ _).trans hmagic
  · exact (List.drop_suffix _ _).trans hmagic
  · exact List.suffix_rfl

/-- **A call that returned false has nothing more to do.** -/
theorem popFrame_popFrame (h : popFrame maxBufferBytes buffer = (left, none)) :
    popFrame maxBufferBytes left = (left, none) := by
  rcases Nat.lt_or_ge buffer.length 4 with hlen | hlen
  · have hsame : popFrame maxBufferBytes buffer = (buffer, none) := popFrame_of_short hlen
    obtain rfl : buffer = left := (Prod.mk.inj (hsame.symm.trans h)).1
    exact h
  rcases Nat.lt_or_ge (scanMagic buffer 0 + 3) buffer.length with hfound | hnone
  · -- what is left starts with the magic, and is looked at the same way again
    obtain rfl := popFrame_waits hfound h
    have hstart := scanMagic_of_hasMagic (hasMagic_scanMagic hfound)
    refine (popFrame_congr hfound ?_ ?_).symm.trans h
    · rw [hstart, List.length_drop]
      omega
    · rw [hstart, List.drop_zero]
  · have hcleared : popFrame maxBufferBytes buffer = ([], none) :=
      popFrame_of_no_magic hlen hnone
    obtain rfl : [] = left := (Prod.mk.inj (hcleared.symm.trans h)).1
    exact popFrame_of_short (by decide)

/-- **An envelope is cut out in one piece**, and the buffer goes on behind it. -/
theorem popFrame_ok {envelope : Envelope}
    (h : popFrame maxBufferBytes buffer = (left, some (.ok envelope))) :
    ∃ before slice, buffer = before ++ slice ++ left ∧
      WholeFrame maxBufferBytes slice envelope := by
  unfold popFrame at h
  simp only at h
  split_ifs at h with hlen hnone hheader hlimit hpart hcode
  · cases (Prod.mk.inj h).2
  · cases (Prod.mk.inj h).2
  · cases (Prod.mk.inj h).2
  · cases (Prod.mk.inj h).2
  · cases (Prod.mk.inj h).2
  · obtain ⟨rfl, hresult⟩ := Prod.mk.inj h
    obtain ⟨hfixed, hwithin⟩ := not_or.mp hlimit
    obtain ⟨hslice, hconsumed⟩ := wholeFrame_take rfl (Nat.le_of_not_lt hfixed)
      (Nat.le_of_not_lt hpart) (Nat.le_of_not_lt hwithin) (not_not.mp hcode)
    rw [Except.ok.inj (Option.some.inj hresult)] at hslice
    refine ⟨buffer.take (scanMagic buffer 0), _, ?_, hslice⟩
    rw [hconsumed, List.append_assoc, List.take_append_drop, List.take_append_drop]
  · cases (Prod.mk.inj h).2

end popping

/-! ### The loop -/

/-- **The loop ends with a buffer that holds nothing to pop**, after no more calls than the
buffer had bytes. -/
theorem drain_suffix (maxBufferBytes : ℕ) (buffer : Bytes) :
    (drain maxBufferBytes buffer).1 <:+ buffer ∧
      (drain maxBufferBytes buffer).2.length ≤ buffer.length ∧
      popFrame maxBufferBytes (drain maxBufferBytes buffer).1 =
        ((drain maxBufferBytes buffer).1, none) := by
  rw [drain_eq, List.length_map]
  refine ⟨Cutting.Cutter.rest_suffix (popFrame_suffix maxBufferBytes) buffer,
    Cutting.Cutter.length_outputs_le buffer, ?_⟩
  have hlast : popFrame maxBufferBytes ((frameCutter maxBufferBytes).last buffer) =
      ((frameCutter maxBufferBytes).rest buffer, none) :=
    @Cutting.Cutter.pop_last _ _ (frameCutter maxBufferBytes) buffer
  exact popFrame_popFrame hlast

/-- **The drain loop makes progress and never splices.**  A call that returns true leaves a
proper suffix of the buffer, and one that returns false a suffix on which a second call
returns false and changes nothing.  An envelope is what the decoder makes of one slice of the
buffer, as long as its header says and within the limit, all of which is removed.  So the
loop ends. -/
theorem popFrame_progress (maxBufferBytes : ℕ) (buffer : Bytes) :
    (∀ left result, popFrame maxBufferBytes buffer = (left, some result) →
      left <:+ buffer ∧ left.length < buffer.length) ∧
    (∀ left, popFrame maxBufferBytes buffer = (left, none) →
      left <:+ buffer ∧ popFrame maxBufferBytes left = (left, none)) ∧
    (∀ left envelope, popFrame maxBufferBytes buffer = (left, some (.ok envelope)) →
      ∃ before slice, buffer = before ++ slice ++ left ∧
        WholeFrame maxBufferBytes slice envelope) ∧
    (drain maxBufferBytes buffer).1 <:+ buffer ∧
    (drain maxBufferBytes buffer).2.length ≤ buffer.length ∧
    popFrame maxBufferBytes (drain maxBufferBytes buffer).1 =
      ((drain maxBufferBytes buffer).1, none) := by
  have hsuffix := popFrame_suffix maxBufferBytes buffer
  refine ⟨fun left result h => ?_, fun left h => ?_, fun left envelope h => popFrame_ok h,
    drain_suffix maxBufferBytes buffer⟩
  · rw [h] at hsuffix
    exact ⟨hsuffix, length_lt_of_popFrame h⟩
  · rw [h] at hsuffix
    exact ⟨hsuffix, popFrame_popFrame h⟩

/-- A frame behind a byte of garbage, with the start of another behind it. -/
theorem popFrame_progress_smallFrame :
    let f := smallFrame .reliableOrdered [8, 1]
    let envelope := (decode f).envelope
    popFrame 250 (0 :: f ++ f.take 5) = (f.take 5, some (.ok envelope)) ∧
      ∃ before slice, 0 :: f ++ f.take 5 = before ++ slice ++ f.take 5 ∧
        WholeFrame 250 slice envelope := by
  intro f envelope
  have hpop : popFrame 250 (0 :: f ++ f.take 5) = (f.take 5, some (.ok envelope)) := by
    decide +kernel
  exact ⟨hpop, (popFrame_progress 250 (0 :: f ++ f.take 5)).2.2.1 _ _ hpop⟩

end YunLink
