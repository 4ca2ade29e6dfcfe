import YunLink.Lib.Hashing
import YunLink.Wire.Canonical

/-!
# A damaged byte is detected

Whatever byte of a frame is changed on the way, the decoder refuses the result, also
with more bytes behind it.  A change that leaves the two length words of the header
alone is caught by the checksum, since a pass of FNV-1a can be undone and tells its
bytes apart.  A change of the header length moves the payload and the checksum, and the
checksum of other bytes may well fit by accident; what catches it are the six lengths
and the targets of the variable part, which add up to one header length only.  The
payload length has no such second witness, and is left out.

## Main definitions

* `WireCodec.checksumStep` — a pass of the checksum.

## Main results

* `WireCodec.checksum_set_ne` — one changed byte changes the checksum.
* `WireCodec.readVariable_unique` — **the variable part fits one header length.**
* `WireCodec.decode_damaged` — **no single damaged byte is accepted.**
-/

namespace YunLink

namespace WireCodec

/-! ### The checksum -/

/-- A pass of the checksum. -/
def checksumStep (hash : UInt32) (b : UInt8) : UInt32 := (hash ^^^ b.toUInt32) * 16777619

/-- A pass of the checksum, undone: the factor is odd and has an inverse. -/
def checksumUndo (hash : UInt32) (b : UInt8) : UInt32 := hash * 899433627 ^^^ b.toUInt32

theorem checksumUndo_checksumStep (hash : UInt32) (b : UInt8) :
    checksumUndo (checksumStep hash b) b = hash := by
  have hinverse : (16777619 * 899433627 : UInt32) = 1 := by decide
  rw [checksumUndo, checksumStep, UInt32.mul_assoc, hinverse, UInt32.mul_one, UInt32.xor_assoc,
    UInt32.xor_self, UInt32.xor_zero]

theorem checksumStep_injective (hash : UInt32) : Function.Injective (checksumStep hash) := by
  intro b c heq
  have hinverse : (16777619 * 899433627 : UInt32) = 1 := by decide
  have hmixed : hash ^^^ b.toUInt32 = hash ^^^ c.toUInt32 := by
    have hmul := congrArg (· * (899433627 : UInt32)) heq
    simpa only [checksumStep, UInt32.mul_assoc, hinverse, UInt32.mul_one] using hmul
  have hbyte : b.toUInt32 = c.toUInt32 := by
    have hxor := congrArg (hash ^^^ ·) hmixed
    simpa only [← UInt32.xor_assoc, UInt32.xor_self, UInt32.zero_xor] using hxor
  have hnat := congrArg UInt32.toNat hbyte
  exact UInt8.toNat_inj.mp (by simpa using hnat)

/-- **One changed byte changes the checksum.** -/
theorem checksum_set_ne {data : Bytes} {position : ℕ} (hposition : position < data.length)
    {byte : UInt8} (hne : byte ≠ data[position]) :
    checksum (data.set position byte) ≠ checksum data :=
  Hashing.foldl_set_ne checksumUndo_checksumStep checksumStep_injective hposition hne _

/-! ### One header length -/

section unique

variable {data : Bytes} {headerLen headerLen' : ℕ}

/-- What is read inside a header is read inside a longer one. -/
theorem readText_mono (hle : headerLen ≤ headerLen') {cursor textLen : ℕ} {read : Text × ℕ}
    (h : readText data headerLen cursor textLen = some read) :
    readText data headerLen' cursor textLen = some read := by
  unfold readText at h ⊢
  split at h
  · cases h
  · rw [if_neg (by omega)]
    exact h

theorem readTargets_mono (hle : headerLen ≤ headerLen') (count : ℕ) {cursor : ℕ}
    {read : List Text × ℕ} (h : readTargets data headerLen count cursor = some read) :
    readTargets data headerLen' count cursor = some read := by
  induction count generalizing cursor read with
  | zero => exact h
  | succ count ih =>
    unfold readTargets at h ⊢
    split at h
    · cases h
    rw [if_neg (by omega)]
    split at h
    · cases h
    next uid behind htext =>
    rw [readText_mono hle htext]
    split at h
    · cases h
    next uids last hrest =>
    simp only [ih hrest]
    exact h

/-- Of two header lengths that the variable part fits, the shorter is the longer. -/
theorem readVariable_unique_of_le (hle : headerLen ≤ headerLen') {fields fields' : VariableFields}
    (h : readVariable data headerLen = some fields)
    (h' : readVariable data headerLen' = some fields') : headerLen = headerLen' := by
  unfold readVariable at h h'
  simp only [Option.bind_eq_bind, Option.bind_eq_some_iff, Prod.exists] at h
  obtain ⟨endpointUid, c1, h1, entityUid, c2, h2, uids, c3, h3, authTag, c4, h4, profileId, c5, h5,
    typeName, c6, h6, hend⟩ := h
  -- the longer header lets every read of the shorter one through
  simp only [Option.bind_eq_bind, readText_mono hle h1, readText_mono hle h2,
    readTargets_mono hle _ h3, readText_mono hle h4, readText_mono hle h5, readText_mono hle h6,
    Option.bind_some] at h'
  split at hend
  · cases hend
  next hlast =>
  split at h'
  · cases h'
  next hlast' =>
  omega

/-- **The variable part fits one header length.** -/
theorem readVariable_unique {fields fields' : VariableFields}
    (h : readVariable data headerLen = some fields)
    (h' : readVariable data headerLen' = some fields') : headerLen = headerLen' := by
  rcases Nat.le_total headerLen headerLen' with hle | hle
  · exact readVariable_unique_of_le hle h h'
  · exact (readVariable_unique_of_le hle h' h).symm

end unique

/-! ### Words around a changed byte -/

section words

variable {data other : Bytes} {k : ℕ}

/-- Equal words were read from equal bytes. -/
theorem getElem?_of_readU16 (h : readU16 (data.drop k) = readU16 (other.drop k))
    (hdata : k + 2 ≤ data.length) (hother : k + 2 ≤ other.length) {i : ℕ} (hi : i < 2) :
    data[k + i]? = other[k + i]? := by
  have htake : (data.drop k).take 2 = (other.drop k).take 2 := by
    rw [← appendU16_readU16 (by rw [List.length_drop]; omega), h,
      appendU16_readU16 (by rw [List.length_drop]; omega)]
  have hbyte := congrArg (fun bytes : Bytes => bytes[i]?) htake
  simpa [List.getElem?_take, hi, List.getElem?_drop] using hbyte

theorem getElem?_of_readU32 (h : readU32 (data.drop k) = readU32 (other.drop k))
    (hdata : k + 4 ≤ data.length) (hother : k + 4 ≤ other.length) {i : ℕ} (hi : i < 4) :
    data[k + i]? = other[k + i]? := by
  have htake : (data.drop k).take 4 = (other.drop k).take 4 := by
    rw [← appendU32_readU32 (by rw [List.length_drop]; omega), h,
      appendU32_readU32 (by rw [List.length_drop]; omega)]
  have hbyte := congrArg (fun bytes : Bytes => bytes[i]?) htake
  simpa [List.getElem?_take, hi, List.getElem?_drop] using hbyte

/-- A word that does not hold the changed byte is read as before. -/
theorem readU16_set {position : ℕ} (h : position < k ∨ k + 2 ≤ position) (byte : UInt8) :
    readU16 ((data.set position byte).drop k) = readU16 (data.drop k) := by
  have h0 : position ≠ k := by omega
  have h1 : position ≠ k + 1 := by omega
  simp [readU16, List.getD_eq_getElem?_getD, List.getElem?_drop, List.getElem?_set_ne h0,
    List.getElem?_set_ne h1]

theorem readU32_set {position : ℕ} (h : position < k ∨ k + 4 ≤ position) (byte : UInt8) :
    readU32 ((data.set position byte).drop k) = readU32 (data.drop k) := by
  have h0 : position ≠ k := by omega
  have h1 : position ≠ k + 1 := by omega
  have h2 : position ≠ k + 2 := by omega
  have h3 : position ≠ k + 3 := by omega
  simp [readU32, List.getD_eq_getElem?_getD, List.getElem?_drop, List.getElem?_set_ne h0,
    List.getElem?_set_ne h1, List.getElem?_set_ne h2, List.getElem?_set_ne h3]

end words

/-! ### A damaged frame -/

section damaged

variable {value : Envelope} {trailing : Bytes} {fields : VariableFields} {position : ℕ} {byte : UInt8}

/-- A damaged frame that is accepted announces the header length it was written with. -/
theorem headerLen_of_damaged (hv : WellFormed value)
    (h : Accepted ((frame value ++ trailing).set position byte) fields) :
    readU16 (((frame value ++ trailing).set position byte).drop 8) = value.headerLen := by
  obtain ⟨rest, hrest⟩ : ∃ rest, rest =
      value.payload ++ (appendU32 (checksum (frameBody value)) ++ trailing) := ⟨_, rfl⟩
  have hbytes : frame value ++ trailing = fixedHeader value ++ (variablePart value ++ rest) := by
    simp only [frame, frameBody, List.append_assoc, hrest]
  obtain ⟨-, -, -, g8, -⟩ := read_guards value (variablePart value ++ rest)
  rw [← hbytes] at g8
  by_cases hword : position < 8 ∨ 10 ≤ position
  · rw [readU16_set hword, g8]
  · -- the word itself is damaged, and the variable part tells what it was
    obtain ⟨r60, r62, r64, r66, r68, r70⟩ := readU16_lengths value (variablePart value ++ rest)
    have h80 : (frame value ++ trailing).drop kFixedHeaderSize = variablePart value ++ rest := by
      rw [hbytes, ← length_fixedHeader value, List.drop_left]
    have hsize : kFixedHeaderSize = 80 := rfl
    rw [← hbytes] at r60 r62 r64 r66 r68 r70
    rw [← List.drop_set_of_lt (show position < kFixedHeaderSize by omega)] at h80
    rw [← readU16_set (Or.inl (by omega : position < _)) byte] at r60 r62 r64 r66 r68 r70
    have hvariable := readVariable_of_drop hv h80 r60 r62 r64 r66 r68 r70
    exact UInt16.toNat_inj.mp (readVariable_unique h.fields_eq hvariable)

/-- **No damaged frame is accepted.** -/
theorem not_accepted_of_damaged (hv : WellFormed value) (hposition : position < (frame value).length)
    (houtside : position < 10 ∨ 14 ≤ position) (hbyte : byte ≠ (frame value)[position]) :
    ¬ Accepted ((frame value ++ trailing).set position byte) fields := by
  intro h
  have hheader := headerLen_of_damaged hv h
  have hlengths := hv.headerLen
  have hframe := length_frame hv
  have hbody := length_frameBody hv
  have hsize : kFixedHeaderSize = 80 := rfl
  have htrailer : kTrailerSize = 4 := rfl
  obtain ⟨-, -, -, g8, g10, -⟩ := read_guards value
    (variablePart value ++ (value.payload ++ (appendU32 (checksum (frameBody value)) ++ trailing)))
  have hbytes : fixedHeader value ++ (variablePart value ++ (value.payload ++
      (appendU32 (checksum (frameBody value)) ++ trailing))) = frame value ++ trailing := by
    simp only [frame, frameBody, List.append_assoc]
  rw [hbytes] at g8 g10
  have hlength : (frame value ++ trailing).length = (frame value).length + trailing.length :=
    List.length_append
  have hchanged : ((frame value ++ trailing).set position byte)[position]? ≠
      (frame value ++ trailing)[position]? := by
    rw [List.getElem?_set_self (by omega), List.getElem?_append_left hposition,
      List.getElem?_eq_getElem hposition]
    exact fun heq => hbyte (Option.some.inj heq)
  by_cases hword : position < 8 ∨ 10 ≤ position
  · -- both length words are as written, so the checksum is taken over the damaged body
    have hpayload := @readU32_set (frame value ++ trailing) 10 _ houtside byte
    have hchecksum := h.checksum
    rw [hheader, hpayload, g10, ← hbody] at hchecksum
    have hwhole : frame value ++ trailing =
        frameBody value ++ (appendU32 (checksum (frameBody value)) ++ trailing) := by
      rw [frame, List.append_assoc]
    rw [hwhole] at hchecksum
    by_cases hinside : position < (frameBody value).length
    · rw [List.set_append_left _ _ hinside, List.drop_left' (List.length_set ..),
        List.take_left' (List.length_set ..), readU32_append] at hchecksum
      have hne : byte ≠ (frameBody value)[position] := by
        simpa only [frame, List.getElem_append_left hinside] using hbyte
      exact checksum_set_ne hinside hne hchecksum.symm
    · -- the checksum itself is damaged
      have hle : (frameBody value).length ≤ position := by omega
      rw [List.take_set_of_le hle, List.take_left, ← hwhole] at hchecksum
      have hsum : readU32 ((frame value ++ trailing).drop (frameBody value).length) =
          checksum (frameBody value) := by
        rw [hwhole, List.drop_left, readU32_append]
      refine hchanged ?_
      have hat := getElem?_of_readU32 (hchecksum.trans hsum.symm)
        (by rw [List.length_set]; omega) (by omega)
        (show position - (frameBody value).length < 4 by omega)
      rwa [Nat.add_sub_cancel' hle] at hat
  · -- the header length itself is damaged
    refine hchanged ?_
    have hat := getElem?_of_readU16 (hheader.trans g8.symm) (by rw [List.length_set]; omega)
      (by omega) (show position - 8 < 2 by omega)
    rwa [Nat.add_sub_cancel' (show 8 ≤ position by omega)] at hat

end damaged

/-- **No single damaged byte is accepted**: of a frame, one byte outside the payload
length changed and any bytes behind it. -/
theorem decode_damaged (input : Envelope) (auto : Bool) (now : UInt64) {position : ℕ}
    (hposition : position < (encode input auto now).length)
    (houtside : position < 10 ∨ 14 ≤ position) {byte : UInt8}
    (hbyte : byte ≠ (encode input auto now)[position]) (trailing : Bytes) :
    (decode ((encode input auto now).set position byte ++ trailing)).code ≠ .ok := by
  have hne : encode input auto now ≠ [] := by
    intro hempty
    rw [hempty] at hposition
    exact Nat.not_lt_zero _ hposition
  obtain ⟨hv, hframe⟩ := encode_eq_frame hne
  intro hok
  obtain ⟨fields, haccepted, -⟩ := decode_of_ok hok
  rw [← List.set_append_left _ _ hposition] at haccepted
  simp only [hframe] at hposition hbyte haccepted
  exact not_accepted_of_damaged hv hposition houtside hbyte haccepted

/-- The first byte of the payload of the sample changed, and more bytes behind it. -/
theorem decode_damaged_sampleEnvelope :
    167 < (encode sampleEnvelope true 0).length ∧
      (decode ((encode sampleEnvelope true 0).set 167 7 ++ [89, 76])).code ≠ .ok := by
  have hposition : 167 < (encode sampleEnvelope true 0).length := by decide +kernel
  have hpayload : (encode sampleEnvelope true 0)[167]? = some 8 := by decide
  have hbyte : (7 : UInt8) ≠ (encode sampleEnvelope true 0)[167] := by
    intro heq
    rw [List.getElem?_eq_getElem hposition, ← heq] at hpayload
    exact absurd hpayload (by decide)
  exact ⟨hposition, decode_damaged sampleEnvelope true 0 hposition (Or.inr (by decide)) hbyte
    [89, 76]⟩

end WireCodec

end YunLink
