import YunLink.Lib.Access
import YunLink.Wire.Codec

/-!
# The decoder stays inside its input

`WireCodec::decode` takes a pointer and a length and follows lengths that a peer
wrote.  Here the decoder is written a second time, with every read of `data` at the
place where the code makes it, every sum and every unsigned difference checked: a
read outside the input, a difference `header_len - cursor` below zero or a sum past
the end of a 32-bit `size_t` would be a fault.  There is none, and what the checked
decoder returns is what the decoder of the codec returns.

The invariant of the moving cursor is `cursor ≤ headerLen ≤ data.length`; each
variable-length read keeps it (`readText_le`, `readTargets_le`).

## Main definitions

* `WireCodec.Checked.decode` — the decoder with checked memory access.

## Main results

* `WireCodec.Checked.readTargets_eq` — the target loop, for every number of targets.
* `WireCodec.Checked.decode_eq` — **the checked decoder never faults** and returns
  what the decoder returns.
* `WireCodec.consumed_le_length` — the decoder never consumes more than it was given.
-/

namespace YunLink

namespace WireCodec

namespace Checked

open Access (byteAt range)

/-- The number of values of a 32-bit `size_t`. A wider one only leaves the sums more room. -/
def sizeValues : ℕ := 2 ^ 32

/-- `read_u16` at an offset. -/
def readU16 (data : Bytes) (offset : ℕ) : Access UInt16 := do
  let low ← byteAt data offset
  let high ← byteAt data (offset + 1)
  return low.toUInt16 ||| high.toUInt16 <<< 8

/-- `read_u32` at an offset. -/
def readU32 (data : Bytes) (offset : ℕ) : Access UInt32 :=
  ([0, 8, 16, 24] : List UInt32).foldlM
    (fun value shift => do
      let part ← byteAt data (offset + shift.toNat / 8)
      return value ||| part.toUInt32 <<< shift) 0

/-- `read_u64` at an offset. -/
def readU64 (data : Bytes) (offset : ℕ) : Access UInt64 :=
  ([0, 8, 16, 24, 32, 40, 48, 56] : List UInt64).foldlM
    (fun value shift => do
      let part ← byteAt data (offset + shift.toNat / 8)
      return value ||| part.toUInt64 <<< shift) 0

/-- `data[offset] == expected`, read where the conjunction gets to it. -/
def isByte (data : Bytes) (offset : ℕ) (expected : UInt8) : Access Bool := do
  return (← byteAt data offset) == expected

/-- `has_magic`; the length is tested first. -/
def hasMagic (data : Bytes) : Access Bool :=
  .ok (decide (4 ≤ data.length)) <&&> isByte data 0 kMagic0 <&&> isByte data 1 kMagic1 <&&>
    isByte data 2 kMagic2 <&&> isByte data 3 kMagic3

/-- `checksum` over the first `len` bytes. -/
def checksum (data : Bytes) (len : ℕ) : Access UInt32 :=
  Access.fold (fun hash b => (hash ^^^ b.toUInt32) * 16777619) data 2166136261 len

/-- `read_text`, and the same test and copy written out for the authentication tag. -/
def readText (data : Bytes) (headerLen cursor textLen : ℕ) : Access (Option (Text × ℕ)) := do
  let left ← Access.sub headerLen cursor
  if left < textLen then return none
  let text ← range data cursor textLen
  let cursor ← Access.add sizeValues cursor textLen
  return some (text, cursor)

/-- The loop over the target list. -/
def readTargets (data : Bytes) (headerLen : ℕ) : ℕ → ℕ → Access (Option (List Text × ℕ))
  | 0, cursor => return some ([], cursor)
  | count + 1, cursor => do
      let behind ← Access.add sizeValues cursor 2
      if headerLen < behind then return none
      let uidLen ← readU16 data cursor
      match ← readText data headerLen behind uidLen.toNat with
      | none => return none
      | some (uid, cursor) =>
        match ← readTargets data headerLen count cursor with
        | none => return none
        | some (uids, cursor) => return some (uid :: uids, cursor)

/-- The variable part of the header. -/
def readVariable (data : Bytes) (headerLen : ℕ) : Access (Option VariableFields) := do
  let endpointLen ← readU16 data 60
  let entityLen ← readU16 data 62
  let targetCount ← readU16 data 64
  let authLen ← readU16 data 66
  let profileLen ← readU16 data 68
  let typeLen ← readU16 data 70
  let some (endpointUid, cursor) ← readText data headerLen kFixedHeaderSize endpointLen.toNat
    | return none
  let some (entityUid, cursor) ← readText data headerLen cursor entityLen.toNat | return none
  let some (uids, cursor) ← readTargets data headerLen targetCount.toNat cursor | return none
  let some (authTag, cursor) ← readText data headerLen cursor authLen.toNat | return none
  let some (profileId, cursor) ← readText data headerLen cursor profileLen.toNat | return none
  let some (typeName, cursor) ← readText data headerLen cursor typeLen.toNat | return none
  if cursor ≠ headerLen then return none
  return some { endpointUid, entityUid, uids, authTag, profileId, typeName }

/-- The fixed fields of the header, read before the variable part is. -/
def readHeader (data : Bytes) : Access (VariableFields → Envelope) := do
  let protocolMajor ← byteAt data 4
  let headerVersion ← byteAt data 5
  let flags ← readU16 data 6
  let headerLen ← readU16 data 8
  let payloadLen ← readU32 data 10
  let qosClass ← byteAt data 14
  let family ← byteAt data 15
  let operation ← byteAt data 16
  let schemaVersion ← readU16 data 18
  let sessionId ← readU64 data 20
  let messageId ← readU64 data 28
  let correlationId ← readU64 data 36
  let createdAtMs ← readU64 data 44
  let ttlMs ← readU32 data 52
  let keyEpoch ← readU32 data 56
  let scope ← byteAt data 72
  let major ← readU16 data 74
  let minor ← readU16 data 76
  return fun fields => {
    protocolMajor, headerVersion, flags, headerLen, payloadLen, operation, schemaVersion
    sessionId, messageId, correlationId, createdAtMs, ttlMs
    qosClass := .ofUInt8 qosClass
    family := .ofUInt8 family
    source := ⟨fields.endpointUid, fields.entityUid⟩
    target := ⟨.ofUInt8 scope, fields.uids⟩
    type := ⟨fields.profileId, major, minor, fields.typeName⟩
    security := ⟨keyEpoch, fields.authTag⟩ }

/-- `data[4] != kProtocolMajor || …`, each operand read where the disjunction gets to it. -/
def otherProtocol (data : Bytes) : Access Bool :=
  (return (← byteAt data 4) != kProtocolMajor) <||>
    (return (← byteAt data 5) != kHeaderVersion) <||>
    (return (← readU16 data 18) != kSchemaVersion)

/-- `!valid_qos(data[14]) || …` -/
def otherEnumerator (data : Bytes) : Access Bool :=
  (return !validQos (← byteAt data 14)) <||> (return !validFamily (← byteAt data 15)) <||>
    (return !validScope (← byteAt data 72))

/-- `WireCodec::decode` of a whole byte string. -/
def decode (data : Bytes) : Access DecodeResult := do
  let reject (code : ErrorCode) (consumed : ℕ) : Access DecodeResult :=
    return { code, consumed }
  if data.length < kMinEnvelopeSize then reject .decodeError 0
  else if !(← hasMagic data) then reject .invalidHeader 0
  else if ← otherProtocol data then reject .protocolMismatch 0
  else
    let headerLen := (← readU16 data 8).toNat
    let payloadLen := (← readU32 data 10).toNat
    if headerLen < kFixedHeaderSize ∨ kMaxPayloadBytes < payloadLen then reject .decodeError 0
    else
      let bodyLen ← Access.add sizeValues headerLen payloadLen
      let totalLen ← Access.add sizeValues bodyLen kTrailerSize
      if data.length < totalLen then reject .decodeError 0
      else if ← otherEnumerator data then reject .decodeError totalLen
      else
        let header ← readHeader data
        match ← readVariable data headerLen with
        | none => reject .decodeError totalLen
        | some fields =>
          let value := header fields
          if !acceptable value then reject .decodeError totalLen
          else
            let covered ← Access.sub totalLen kTrailerSize
            let wireChecksum ← readU32 data covered
            if wireChecksum ≠ (← checksum data covered) then reject .checksumMismatch totalLen
            else
              let payload ← range data headerLen payloadLen
              return {
                code := .ok
                consumed := totalLen
                envelope := { value with
                  payload := payload
                  checksum := wireChecksum } }

/-! ### One read -/

section reads

variable {data : Bytes} {offset : ℕ}

/-- The byte at a position behind an offset, as the codec reads it. -/
theorem byteAt_drop (i : ℕ) (h : offset + i < data.length) :
    byteAt data (offset + i) = .ok ((data.drop offset).getD i 0) := by
  rw [Access.byteAt_eq 0 h]
  simp [List.getD_eq_getElem?_getD]

theorem readU16_eq (h : offset + 2 ≤ data.length) :
    readU16 data offset = .ok (YunLink.readU16 (data.drop offset)) := by
  have h0 : byteAt data offset = .ok ((data.drop offset).getD 0 0) := byteAt_drop 0 (by omega)
  have h1 : byteAt data (offset + 1) = .ok ((data.drop offset).getD 1 0) :=
    byteAt_drop 1 (by omega)
  simp only [readU16, h0, h1, Access.ok_bind, Access.pure_eq, YunLink.readU16]

/-- A loop over shifts reads one byte for each. -/
theorem foldlM_byteAt {α : Type} (place : α → ℕ) (step : α → UInt8 → α → α) (shifts : List α)
    (h : ∀ shift ∈ shifts, offset + place shift < data.length) (init : α) :
    (shifts.foldlM (fun value shift => do
        let part ← byteAt data (offset + place shift)
        return step value part shift) init : Access α) =
      .ok (shifts.foldl
        (fun value shift => step value ((data.drop offset).getD (place shift) 0) shift) init) := by
  induction shifts generalizing init with
  | nil => rfl
  | cons shift shifts ih =>
    rw [List.foldlM_cons, byteAt_drop (place shift) (h shift List.mem_cons_self)]
    exact ih (fun other hmem => h other (List.mem_cons_of_mem _ hmem)) _

theorem readU32_eq (h : offset + 4 ≤ data.length) :
    readU32 data offset = .ok (YunLink.readU32 (data.drop offset)) := by
  refine foldlM_byteAt (fun shift => shift.toNat / 8)
    (fun value part shift => value ||| part.toUInt32 <<< shift) _ ?_ 0
  have hplaces : ([0, 8, 16, 24] : List UInt32).all (fun shift => shift.toNat / 8 < 4) = true := by
    decide
  intro shift hmem
  have hplace : shift.toNat / 8 < 4 := of_decide_eq_true (List.all_eq_true.mp hplaces shift hmem)
  omega

theorem readU64_eq (h : offset + 8 ≤ data.length) :
    readU64 data offset = .ok (YunLink.readU64 (data.drop offset)) := by
  refine foldlM_byteAt (fun shift => shift.toNat / 8)
    (fun value part shift => value ||| part.toUInt64 <<< shift) _ ?_ 0
  have hplaces : ([0, 8, 16, 24, 32, 40, 48, 56] : List UInt64).all
      (fun shift => shift.toNat / 8 < 8) = true := by
    decide
  intro shift hmem
  have hplace : shift.toNat / 8 < 8 := of_decide_eq_true (List.all_eq_true.mp hplaces shift hmem)
  omega

theorem checksum_eq {len : ℕ} (h : len ≤ data.length) :
    checksum data len = .ok (WireCodec.checksum (data.take len)) :=
  Access.fold_eq _ h _

end reads

/-! ### The moving cursor -/

section cursor

variable {data : Bytes} {headerLen : ℕ}

theorem readText_eq {cursor : ℕ} (textLen : ℕ) (hcursor : cursor ≤ headerLen)
    (hheader : headerLen ≤ data.length) (hsize : headerLen ≤ uint16Max) :
    readText data headerLen cursor textLen =
      .ok (WireCodec.readText data headerLen cursor textLen) := by
  simp only [readText, Access.sub_eq hcursor, Access.ok_bind]
  by_cases hleft : headerLen - cursor < textLen
  · rw [if_pos hleft, WireCodec.readText, if_pos hleft]
    rfl
  · have hrange : cursor + textLen ≤ data.length := by omega
    have hsum : cursor + textLen < sizeValues := by
      have hmax : uint16Max < sizeValues := by decide
      omega
    rw [if_neg hleft, WireCodec.readText, if_neg hleft]
    simp only [Access.range_eq hrange, Access.add_eq hsum, Access.ok_bind, Access.pure_eq]

/-- A text that was read ends inside the header. -/
theorem readText_le {cursor cursor' textLen : ℕ} {text : Text} (hcursor : cursor ≤ headerLen)
    (h : WireCodec.readText data headerLen cursor textLen = some (text, cursor')) :
    cursor' ≤ headerLen := by
  unfold WireCodec.readText at h
  split at h
  · cases h
  · injection h with h
    injection h with _ hend
    omega

/-- **The target loop reads inside the header**, however many targets are announced. -/
theorem readTargets_eq (hheader : headerLen ≤ data.length) (hsize : headerLen ≤ uint16Max)
    (count : ℕ) {cursor : ℕ} (hcursor : cursor ≤ headerLen) :
    readTargets data headerLen count cursor =
      .ok (WireCodec.readTargets data headerLen count cursor) := by
  induction count generalizing cursor with
  | zero => rfl
  | succ count ih =>
    have hsum : cursor + 2 < sizeValues := by
      have hmax : uint16Max + 2 < sizeValues := by decide
      omega
    simp only [readTargets, WireCodec.readTargets, Access.add_eq hsum, Access.ok_bind]
    by_cases hbehind : headerLen < cursor + 2
    · rw [if_pos hbehind, if_pos hbehind]
      rfl
    · rw [if_neg hbehind, if_neg hbehind]
      simp only [readU16_eq (show cursor + 2 ≤ data.length by omega), Access.ok_bind,
        readText_eq _ (show cursor + 2 ≤ headerLen by omega) hheader hsize]
      cases htext : WireCodec.readText data headerLen (cursor + 2)
          (YunLink.readU16 (data.drop cursor)).toNat with
      | none => rfl
      | some read =>
        obtain ⟨uid, behind⟩ := read
        have hle : behind ≤ headerLen := readText_le (by omega) htext
        simp only [ih hle, Access.ok_bind]
        cases WireCodec.readTargets data headerLen count behind with
        | none => rfl
        | some rest => rfl

/-- The target loop leaves the cursor inside the header. -/
theorem readTargets_le (count : ℕ) {cursor cursor' : ℕ} {uids : List Text}
    (hcursor : cursor ≤ headerLen)
    (h : WireCodec.readTargets data headerLen count cursor = some (uids, cursor')) :
    cursor' ≤ headerLen := by
  induction count generalizing cursor cursor' uids with
  | zero =>
    injection h with h
    injection h with _ hend
    omega
  | succ count ih =>
    unfold WireCodec.readTargets at h
    split at h
    · cases h
    · split at h
      · cases h
      · next uid behind htext =>
        split at h
        · cases h
        · next rest last hrest =>
          injection h with h
          injection h with _ hend
          rw [← hend]
          exact ih (readText_le (by omega) htext) hrest

/-- The variable part of the header is read inside the header. -/
theorem readVariable_eq (hfixed : kFixedHeaderSize ≤ headerLen) (hheader : headerLen ≤ data.length)
    (hsize : headerLen ≤ uint16Max) :
    readVariable data headerLen = .ok (WireCodec.readVariable data headerLen) := by
  have hlen : 72 ≤ data.length := by
    have hsize : kFixedHeaderSize = 80 := rfl
    omega
  have read {cursor : ℕ} (textLen : ℕ) (hcursor : cursor ≤ headerLen) :=
    readText_eq textLen hcursor hheader hsize
  simp only [readVariable, WireCodec.readVariable, readU16_eq (show 60 + 2 ≤ data.length by omega),
    readU16_eq (show 62 + 2 ≤ data.length by omega),
    readU16_eq (show 64 + 2 ≤ data.length by omega),
    readU16_eq (show 66 + 2 ≤ data.length by omega),
    readU16_eq (show 68 + 2 ≤ data.length by omega),
    readU16_eq (show 70 + 2 ≤ data.length by omega), Access.ok_bind, read _ hfixed]
  -- one case for each field: a refused read ends both, a successful one keeps the invariant
  cases h0 : WireCodec.readText data headerLen kFixedHeaderSize _ with
  | none => rfl
  | some r0 =>
  obtain ⟨endpointUid, c0⟩ := r0
  have le0 : c0 ≤ headerLen := readText_le hfixed h0
  simp only [Option.bind_eq_bind, Option.bind_some, read _ le0, Access.ok_bind]
  cases h1 : WireCodec.readText data headerLen c0 _ with
  | none => rfl
  | some r1 =>
  obtain ⟨entityUid, c1⟩ := r1
  have le1 : c1 ≤ headerLen := readText_le le0 h1
  simp only [Option.bind_some, readTargets_eq hheader hsize _ le1, Access.ok_bind]
  cases h2 : WireCodec.readTargets data headerLen _ c1 with
  | none => rfl
  | some r2 =>
  obtain ⟨uids, c2⟩ := r2
  have le2 : c2 ≤ headerLen := readTargets_le _ le1 h2
  simp only [Option.bind_some, read _ le2, Access.ok_bind]
  cases h3 : WireCodec.readText data headerLen c2 _ with
  | none => rfl
  | some r3 =>
  obtain ⟨authTag, c3⟩ := r3
  have le3 : c3 ≤ headerLen := readText_le le2 h3
  simp only [Option.bind_some, read _ le3, Access.ok_bind]
  cases h4 : WireCodec.readText data headerLen c3 _ with
  | none => rfl
  | some r4 =>
  obtain ⟨profileId, c4⟩ := r4
  have le4 : c4 ≤ headerLen := readText_le le3 h4
  simp only [Option.bind_some, read _ le4, Access.ok_bind]
  cases h5 : WireCodec.readText data headerLen c4 _ with
  | none => rfl
  | some r5 =>
  simp only [Option.bind_some]
  split
  · rfl
  · rfl

end cursor

/-! ### The whole decoder -/

theorem hasMagic_eq (data : Bytes) : hasMagic data = .ok (WireCodec.hasMagic data) := by
  unfold hasMagic WireCodec.hasMagic
  by_cases hlen : 4 ≤ data.length
  · have read {offset : ℕ} (h : offset < 4) : byteAt data offset = .ok (data.getD offset 0) :=
      Access.byteAt_eq 0 (by omega)
    simp (disch := decide) only [isByte, read, Access.ok_bind, Access.pure_eq, Access.andM_ok,
      Bool.and_assoc]
  · simp only [hlen, decide_false, Access.andM_ok_false, Bool.false_and]

section guards

variable {data : Bytes}

/-- Under the length check of the decoder every fixed offset is inside. -/
theorem byteAt_fixed (hmin : kMinEnvelopeSize ≤ data.length) {offset : ℕ}
    (h : offset < kFixedHeaderSize) : byteAt data offset = .ok (data.getD offset 0) :=
  Access.byteAt_eq 0 (by simp only [kMinEnvelopeSize] at hmin; omega)

theorem otherProtocol_eq (hmin : kMinEnvelopeSize ≤ data.length) :
    otherProtocol data = .ok (decide (data.getD 4 0 ≠ kProtocolMajor ∨
      data.getD 5 0 ≠ kHeaderVersion ∨ YunLink.readU16 (data.drop 18) ≠ kSchemaVersion)) := by
  have hlen : kMinEnvelopeSize = 84 := rfl
  simp only [otherProtocol, byteAt_fixed hmin (show 4 < kFixedHeaderSize by decide),
    byteAt_fixed hmin (show 5 < kFixedHeaderSize by decide),
    readU16_eq (show 18 + 2 ≤ data.length by omega), Access.ok_bind, Access.pure_eq,
    Access.orM_ok, Bool.decide_or, decide_not, bne, beq_eq_decide]

theorem otherEnumerator_eq (hmin : kMinEnvelopeSize ≤ data.length) :
    otherEnumerator data = .ok (!validQos (data.getD 14 0) || (!validFamily (data.getD 15 0) ||
      !validScope (data.getD 72 0))) := by
  simp only [otherEnumerator, byteAt_fixed hmin (show 14 < kFixedHeaderSize by decide),
    byteAt_fixed hmin (show 15 < kFixedHeaderSize by decide),
    byteAt_fixed hmin (show 72 < kFixedHeaderSize by decide), Access.ok_bind, Access.pure_eq,
    Access.orM_ok]

theorem readHeader_eq (hmin : kMinEnvelopeSize ≤ data.length) :
    readHeader data = .ok (WireCodec.readHeader data) := by
  have hlen : kMinEnvelopeSize = 84 := rfl
  have byte {offset : ℕ} (h : offset < 80) : byteAt data offset = .ok (data.getD offset 0) :=
    byteAt_fixed hmin h
  have word16 {offset : ℕ} (h : offset + 2 ≤ 84) :
      readU16 data offset = .ok (YunLink.readU16 (data.drop offset)) := readU16_eq (by omega)
  have word32 {offset : ℕ} (h : offset + 4 ≤ 84) :
      readU32 data offset = .ok (YunLink.readU32 (data.drop offset)) := readU32_eq (by omega)
  have word64 {offset : ℕ} (h : offset + 8 ≤ 84) :
      readU64 data offset = .ok (YunLink.readU64 (data.drop offset)) := readU64_eq (by omega)
  simp (disch := decide) only [readHeader, byte, word16, word32, word64, Access.ok_bind,
    Access.pure_eq]
  rfl

end guards

/-- **The checked decoder never faults**, and returns what the decoder returns: every
read is below the length of the input, the cursor never passes the end of the header,
and no sum leaves the word. -/
theorem decode_eq (data : Bytes) : decode data = .ok (WireCodec.decode data) := by
  have hlen : kMinEnvelopeSize = 84 := rfl
  unfold decode WireCodec.decode
  by_cases hshort : data.length < kMinEnvelopeSize
  · simp only [hshort, if_true, Access.pure_eq]
  have hmin : kMinEnvelopeSize ≤ data.length := by omega
  simp only [hshort, if_false, hasMagic_eq, Access.ok_bind]
  cases hmagic : WireCodec.hasMagic data with
  | false => rfl
  | true =>
  simp only [otherProtocol_eq hmin, Access.ok_bind, decide_eq_true_eq,
    readU16_eq (show 8 + 2 ≤ data.length by omega),
    readU32_eq (show 10 + 4 ≤ data.length by omega), Bool.not_true, Bool.false_eq_true, if_false]
  generalize hheader : (YunLink.readU16 (data.drop 8)).toNat = headerLen
  generalize hpayload : (YunLink.readU32 (data.drop 10)).toNat = payloadLen
  by_cases hversion : data.getD 4 0 ≠ kProtocolMajor ∨ data.getD 5 0 ≠ kHeaderVersion ∨
      YunLink.readU16 (data.drop 18) ≠ kSchemaVersion
  · rw [if_pos hversion, if_pos hversion]
    rfl
  rw [if_neg hversion, if_neg hversion]
  by_cases hlengths : headerLen < kFixedHeaderSize ∨ kMaxPayloadBytes < payloadLen
  · rw [if_pos hlengths, if_pos hlengths]
    rfl
  rw [if_neg hlengths, if_neg hlengths]
  -- the announced lengths are bounded, so that the total length is a sum that fits
  have hmax : headerLen ≤ uint16Max := by
    have hlt := (YunLink.readU16 (data.drop 8)).toNat_lt
    have hval : uint16Max = 65535 := rfl
    omega
  have hsum : headerLen + payloadLen + kTrailerSize < sizeValues := by
    have hbound : uint16Max + kMaxPayloadBytes + kTrailerSize < sizeValues := by decide
    omega
  simp only [Access.add_eq (show headerLen + payloadLen < sizeValues by omega),
    Access.add_eq hsum, otherEnumerator_eq hmin, Access.ok_bind, ← Bool.or_assoc]
  by_cases htotal : data.length < headerLen + payloadLen + kTrailerSize
  · rw [if_pos htotal, if_pos htotal]
    rfl
  rw [if_neg htotal, if_neg htotal]
  cases hvalid : (!validQos (data.getD 14 0) || !validFamily (data.getD 15 0) ||
      !validScope (data.getD 72 0)) with
  | true => rfl
  | false =>
  have hfixed : kFixedHeaderSize ≤ headerLen := by omega
  have htrailer : kTrailerSize = 4 := rfl
  have hinside : headerLen ≤ data.length := by omega
  simp only [readHeader_eq hmin, readVariable_eq hfixed hinside hmax, Access.ok_bind,
    Bool.false_eq_true, if_false]
  cases WireCodec.readVariable data headerLen with
  | none => rfl
  | some fields =>
  have hsub : kTrailerSize ≤ headerLen + payloadLen + kTrailerSize := by omega
  have htake : headerLen + payloadLen + kTrailerSize - kTrailerSize ≤ data.length := by omega
  have hword : headerLen + payloadLen + kTrailerSize - kTrailerSize + 4 ≤ data.length := by omega
  have hrange : headerLen + payloadLen ≤ data.length := by omega
  simp only [Access.sub_eq hsub, readU32_eq hword, checksum_eq htake, Access.range_eq hrange,
    Access.ok_bind]
  split_ifs with hacceptable hchecksum
  · rfl
  · rfl
  · rfl

end Checked

/-- The decoder never consumes more than it was given. -/
theorem consumed_le_length (data : Bytes) : (decode data).consumed ≤ data.length := by
  fun_cases decode data with
  | case1 => exact Nat.zero_le _
  | case2 => exact Nat.zero_le _
  | case3 => exact Nat.zero_le _
  | case4 => exact Nat.zero_le _
  | case5 => exact Nat.zero_le _
  -- everything behind the length check consumes the announced length
  | case6 _ _ _ _ _ _ _ _ htotal => exact Nat.le_of_not_lt htotal
  | case7 _ _ _ _ _ _ _ _ htotal => exact Nat.le_of_not_lt htotal
  | case8 _ _ _ _ _ _ _ _ htotal => exact Nat.le_of_not_lt htotal
  | case9 _ _ _ _ _ _ _ _ htotal => exact Nat.le_of_not_lt htotal
  | case10 _ _ _ _ _ _ _ htotal => exact Nat.le_of_not_lt htotal

/-- **The decoder's memory discipline.**  With every read, sum and difference checked,
decoding a byte string returns what the decoder returns, and consumes at most the byte
string. -/
theorem checkedDecode_total (data : Bytes) :
    Checked.decode data = .ok (decode data) ∧ (decode data).consumed ≤ data.length :=
  ⟨Checked.decode_eq data, consumed_le_length data⟩

end WireCodec

end YunLink
