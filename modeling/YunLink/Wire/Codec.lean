import YunLink.Wire.Types

/-!
# The Wire v2 envelope codec

`WireCodec::encode` and `WireCodec::decode` of `wire_v2_codec.cpp`.  A frame is
an 80-byte fixed header, a variable part whose lengths the header announces, the
payload, and a four-byte FNV-1a trailer over everything before it.

A pointer `data + n` is the suffix `data.drop n`; a read past the end of the
input gives `0` here, which the length checks of the code keep from happening.
The wall clock the encoder may read is an argument.

## Main definitions

* `appendU16` … `readU64` — words in little-endian order, as the code shifts them.
* `WireCodec.frame` — the bytes written for a checked and filled envelope.
* `WireCodec.encode`, `WireCodec.decode` — the codec.

## Main results

* `readU16_append`, `readU32_append`, `readU64_append` — a word written is read back.
* `appendU16_readU16`, `appendU32_readU32`, `appendU64_readU64` — a word read is
  written back.
* `WireCodec.encode_eq_frame` — a non-empty encoding is the frame of a
  well-formed envelope.
-/

namespace YunLink

open Words

/-! ### Words -/

/-- What `append_u16` appends. -/
def appendU16 (value : UInt16) : Bytes := [value.toUInt8, (value >>> 8).toUInt8]

/-- What `append_u32` appends. -/
def appendU32 (value : UInt32) : Bytes :=
  ([0, 8, 16, 24] : List UInt32).map fun shift => (value >>> shift).toUInt8

/-- What `append_u64` appends. -/
def appendU64 (value : UInt64) : Bytes :=
  ([0, 8, 16, 24, 32, 40, 48, 56] : List UInt64).map fun shift => (value >>> shift).toUInt8

/-- What `read_u16` reads at the front. -/
def readU16 (data : Bytes) : UInt16 :=
  (data.getD 0 0).toUInt16 ||| (data.getD 1 0).toUInt16 <<< 8

/-- What `read_u32` reads at the front. -/
def readU32 (data : Bytes) : UInt32 :=
  ([0, 8, 16, 24] : List UInt32).foldl
    (fun value shift => value ||| (data.getD (shift.toNat / 8) 0).toUInt32 <<< shift) 0

/-- What `read_u64` reads at the front. -/
def readU64 (data : Bytes) : UInt64 :=
  ([0, 8, 16, 24, 32, 40, 48, 56] : List UInt64).foldl
    (fun value shift => value ||| (data.getD (shift.toNat / 8) 0).toUInt64 <<< shift) 0

@[simp] theorem length_appendU16 (v : UInt16) : (appendU16 v).length = 2 := rfl

@[simp] theorem length_appendU32 (v : UInt32) : (appendU32 v).length = 4 := rfl

@[simp] theorem length_appendU64 (v : UInt64) : (appendU64 v).length = 8 := rfl

theorem appendU16_eq_leBytes (v : UInt16) : appendU16 v = leBytes 2 v.toNat := by
  simp only [appendU16, leBytes, List.cons.injEq, and_true]
  refine ⟨?_, ?_⟩ <;> (apply UInt8.toNat_inj.mp; simp [Nat.shiftRight_eq_div_pow])

theorem appendU32_eq_leBytes (v : UInt32) : appendU32 v = leBytes 4 v.toNat := by
  simp only [appendU32, List.map, leBytes, List.cons.injEq, and_true]
  refine ⟨?_, ?_, ?_, ?_⟩ <;>
    (apply UInt8.toNat_inj.mp; simp [Nat.shiftRight_eq_div_pow, Nat.div_div_eq_div_mul])

theorem appendU64_eq_leBytes (v : UInt64) : appendU64 v = leBytes 8 v.toNat := by
  simp only [appendU64, List.map, leBytes, List.cons.injEq, and_true]
  refine ⟨?_, ?_, ?_, ?_, ?_, ?_, ?_, ?_⟩ <;>
    (apply UInt8.toNat_inj.mp; simp [Nat.shiftRight_eq_div_pow, Nat.div_div_eq_div_mul])

theorem toNat_readU16 (a b : UInt8) (rest : Bytes) :
    (readU16 (a :: b :: rest)).toNat = leValue [a, b] := by
  have ha := a.toNat_lt
  have hor : (readU16 (a :: b :: rest)).toNat = a.toNat ||| b.toNat <<< 8 := by
    simp [readU16, mod_shiftLeft_byte]
  rw [hor]
  simp (disch := omega) only [or_shiftLeft_eq_add, leValue_cons, leValue_nil]
  omega

theorem toNat_readU32 (a b c d : UInt8) (rest : Bytes) :
    (readU32 (a :: b :: c :: d :: rest)).toNat = leValue [a, b, c, d] := by
  have ha := a.toNat_lt
  have hb := b.toNat_lt
  have hc := c.toNat_lt
  have hor : (readU32 (a :: b :: c :: d :: rest)).toNat =
      a.toNat ||| b.toNat <<< 8 ||| c.toNat <<< 16 ||| d.toNat <<< 24 := by
    simp [readU32, mod_shiftLeft_byte]
  rw [hor]
  simp (disch := omega) only [or_shiftLeft_eq_add, leValue_cons, leValue_nil]
  omega

theorem toNat_readU64 (a b c d e f g h : UInt8) (rest : Bytes) :
    (readU64 (a :: b :: c :: d :: e :: f :: g :: h :: rest)).toNat =
      leValue [a, b, c, d, e, f, g, h] := by
  have ha := a.toNat_lt
  have hb := b.toNat_lt
  have hc := c.toNat_lt
  have hd := d.toNat_lt
  have he := e.toNat_lt
  have hf := f.toNat_lt
  have hg := g.toNat_lt
  have hor : (readU64 (a :: b :: c :: d :: e :: f :: g :: h :: rest)).toNat =
      a.toNat ||| b.toNat <<< 8 ||| c.toNat <<< 16 ||| d.toNat <<< 24 ||| e.toNat <<< 32 |||
        f.toNat <<< 40 ||| g.toNat <<< 48 ||| h.toNat <<< 56 := by
    simp [readU64, mod_shiftLeft_byte]
  rw [hor]
  simp (disch := omega) only [or_shiftLeft_eq_add, leValue_cons, leValue_nil]
  omega

/-- **A word written is read back**, whatever follows it. -/
@[simp] theorem readU16_append (v : UInt16) (rest : Bytes) : readU16 (appendU16 v ++ rest) = v := by
  apply UInt16.toNat_inj.mp
  have h := toNat_readU16 v.toUInt8 (v >>> 8).toUInt8 rest
  exact h.trans (by rw [← appendU16, appendU16_eq_leBytes, leValue_leBytes 2 _ v.toNat_lt])

@[simp] theorem readU32_append (v : UInt32) (rest : Bytes) : readU32 (appendU32 v ++ rest) = v := by
  apply UInt32.toNat_inj.mp
  refine (toNat_readU32 _ _ _ _ rest).trans ?_
  exact (congrArg leValue (appendU32_eq_leBytes v)).trans (leValue_leBytes 4 _ v.toNat_lt)

@[simp] theorem readU64_append (v : UInt64) (rest : Bytes) : readU64 (appendU64 v ++ rest) = v := by
  apply UInt64.toNat_inj.mp
  refine (toNat_readU64 _ _ _ _ _ _ _ _ rest).trans ?_
  exact (congrArg leValue (appendU64_eq_leBytes v)).trans (leValue_leBytes 8 _ v.toNat_lt)

/-- **A word read is written back** as the bytes it was read from. -/
theorem appendU16_readU16 {data : Bytes} (h : 2 ≤ data.length) :
    appendU16 (readU16 data) = data.take 2 := by
  match data, h with
  | a :: b :: rest, _ =>
    rw [appendU16_eq_leBytes, toNat_readU16]
    exact leBytes_leValue [a, b]

theorem appendU32_readU32 {data : Bytes} (h : 4 ≤ data.length) :
    appendU32 (readU32 data) = data.take 4 := by
  match data, h with
  | a :: b :: c :: d :: rest, _ =>
    rw [appendU32_eq_leBytes, toNat_readU32]
    exact leBytes_leValue [a, b, c, d]

theorem appendU64_readU64 {data : Bytes} (h : 8 ≤ data.length) :
    appendU64 (readU64 data) = data.take 8 := by
  match data, h with
  | a :: b :: c :: d :: e :: f :: g :: i :: rest, _ =>
    rw [appendU64_eq_leBytes, toNat_readU64]
    exact leBytes_leValue [a, b, c, d, e, f, g, i]

namespace WireCodec

/-- `Y`. -/
def kMagic0 : UInt8 := 89

/-- `L`. -/
def kMagic1 : UInt8 := 76

/-- `N`. -/
def kMagic2 : UInt8 := 78

/-- `K`. -/
def kMagic3 : UInt8 := 75

/-- The part of the header that has no texts in it. -/
def kFixedHeaderSize : ℕ := 80

/-- The checksum. -/
def kTrailerSize : ℕ := 4

/-- The shortest frame. -/
def kMinEnvelopeSize : ℕ := kFixedHeaderSize + kTrailerSize

/-- `valid_family`. -/
def validFamily (value : UInt8) : Bool := 1 ≤ value && value ≤ 9

/-- `valid_qos`. -/
def validQos (value : UInt8) : Bool := 1 ≤ value && value ≤ 4

/-- `valid_scope`. -/
def validScope (value : UInt8) : Bool := 1 ≤ value && value ≤ 4

/-- `has_magic`. -/
def hasMagic (data : Bytes) : Bool :=
  4 ≤ data.length && data.getD 0 0 == kMagic0 && data.getD 1 0 == kMagic1 &&
    data.getD 2 0 == kMagic2 && data.getD 3 0 == kMagic3

/-- The 32-bit FNV-1a hash. -/
def checksum (data : Bytes) : UInt32 :=
  data.foldl (fun hash b => (hash ^^^ b.toUInt32) * 16777619) 2166136261

/-! ### Encoding -/

/-- `targets_bytes`: the space the target list takes. -/
def targetsBytes (uids : List Text) : ℕ := (uids.map fun uid => 2 + uid.length).sum

/-- `variable_size`: the header bytes after the fixed part. -/
def variableSize (value : Envelope) : ℕ :=
  value.source.endpointUid.length + value.source.entityUid.length +
    targetsBytes value.target.uids + value.security.authTag.length +
    value.type.profileId.length + value.type.typeName.length

/-- The checks `encode` makes before it fills the header. -/
def encodable (value : Envelope) : Bool :=
  !(value.protocolMajor != kProtocolMajor || value.headerVersion != kHeaderVersion ||
      value.schemaVersion != kSchemaVersion || !validUid value.source.endpointUid ||
      (!value.source.entityUid.isEmpty && !validUid value.source.entityUid) ||
      !validTypeRef value.type || kMaxPayloadBytes < value.payload.length ||
      uint16Max < value.target.uids.length) &&
    (if value.target.scope = .broadcast then value.target.uids.isEmpty
      else !value.target.uids.isEmpty) &&
    value.target.uids.all validUid &&
    !(uint16Max - kFixedHeaderSize < variableSize value ||
      uint16Max < value.security.authTag.length)

/-- The header fields `auto_fill_header` computes; `now` is the wall clock. -/
def fillHeader (value : Envelope) (now : UInt64) : Envelope :=
  let createdAtMs := if value.createdAtMs = 0 then now else value.createdAtMs
  { value with
    headerLen := UInt16.ofNat (kFixedHeaderSize + variableSize value)
    payloadLen := UInt32.ofNat value.payload.length
    createdAtMs := createdAtMs
    messageId := if value.messageId = 0 then createdAtMs else value.messageId }

/-- The fixed part of the header. -/
def fixedHeader (value : Envelope) : Bytes :=
  [kMagic0, kMagic1, kMagic2, kMagic3] ++
    [value.protocolMajor, value.headerVersion] ++
    appendU16 value.flags ++
    appendU16 value.headerLen ++
    appendU32 value.payloadLen ++
    [value.qosClass.toUInt8, value.family.toUInt8, value.operation, 0] ++
    appendU16 value.schemaVersion ++
    appendU64 value.sessionId ++
    appendU64 value.messageId ++
    appendU64 value.correlationId ++
    appendU64 value.createdAtMs ++
    appendU32 value.ttlMs ++
    appendU32 value.security.keyEpoch ++
    appendU16 (UInt16.ofNat value.source.endpointUid.length) ++
    appendU16 (UInt16.ofNat value.source.entityUid.length) ++
    appendU16 (UInt16.ofNat value.target.uids.length) ++
    appendU16 (UInt16.ofNat value.security.authTag.length) ++
    appendU16 (UInt16.ofNat value.type.profileId.length) ++
    appendU16 (UInt16.ofNat value.type.typeName.length) ++
    [value.target.scope.toUInt8, 0] ++
    appendU16 value.type.major ++
    appendU16 value.type.minor ++
    appendU16 0

/-- The target list: each UID behind its length. -/
def encodeTargets (uids : List Text) : Bytes :=
  uids.flatMap fun uid => appendU16 (UInt16.ofNat uid.length) ++ uid

/-- The variable part of the header. -/
def variablePart (value : Envelope) : Bytes :=
  value.source.endpointUid ++ (value.source.entityUid ++ (encodeTargets value.target.uids ++
    (value.security.authTag ++ (value.type.profileId ++ value.type.typeName))))

/-- Everything the checksum covers. -/
def frameBody (value : Envelope) : Bytes :=
  fixedHeader value ++ (variablePart value ++ value.payload)

/-- The whole frame. -/
def frame (value : Envelope) : Bytes :=
  frameBody value ++ appendU32 (checksum (frameBody value))

/-- `WireCodec::encode`; the empty byte string reports a refused envelope. -/
def encode (input : Envelope) (autoFillHeader : Bool) (now : UInt64) : Bytes :=
  if !encodable input then []
  else
    let value := if autoFillHeader then fillHeader input now else input
    if value.headerLen.toNat ≠ kFixedHeaderSize + variableSize value ∨
        value.payloadLen.toNat ≠ value.payload.length then []
    else frame value

/-! ### Decoding -/

/-- `read_text`: `textLen` bytes at the cursor, unless the header ends first. -/
def readText (data : Bytes) (headerLen cursor textLen : ℕ) : Option (Text × ℕ) :=
  if headerLen - cursor < textLen then none
  else some ((data.drop cursor).take textLen, cursor + textLen)

/-- The loop over the target list. -/
def readTargets (data : Bytes) (headerLen : ℕ) : ℕ → ℕ → Option (List Text × ℕ)
  | 0, cursor => some ([], cursor)
  | count + 1, cursor =>
      if headerLen < cursor + 2 then none
      else
        match readText data headerLen (cursor + 2) (readU16 (data.drop cursor)).toNat with
        | none => none
        | some (uid, cursor) =>
          match readTargets data headerLen count cursor with
          | none => none
          | some (uids, cursor) => some (uid :: uids, cursor)

/-- The fields of the variable part. -/
structure VariableFields where
  endpointUid : Text
  entityUid : Text
  uids : List Text
  authTag : Bytes
  profileId : Text
  typeName : Text

/-- The variable part of the header, which has to end exactly where the header
does. -/
def readVariable (data : Bytes) (headerLen : ℕ) : Option VariableFields := do
  let (endpointUid, cursor) ←
    readText data headerLen kFixedHeaderSize (readU16 (data.drop 60)).toNat
  let (entityUid, cursor) ← readText data headerLen cursor (readU16 (data.drop 62)).toNat
  let (uids, cursor) ← readTargets data headerLen (readU16 (data.drop 64)).toNat cursor
  let (authTag, cursor) ← readText data headerLen cursor (readU16 (data.drop 66)).toNat
  let (profileId, cursor) ← readText data headerLen cursor (readU16 (data.drop 68)).toNat
  let (typeName, cursor) ← readText data headerLen cursor (readU16 (data.drop 70)).toNat
  if cursor ≠ headerLen then none
  else some { endpointUid, entityUid, uids, authTag, profileId, typeName }

/-- The envelope before its payload and checksum are filled in. -/
def readHeader (data : Bytes) (fields : VariableFields) : Envelope where
  protocolMajor := data.getD 4 0
  headerVersion := data.getD 5 0
  flags := readU16 (data.drop 6)
  headerLen := readU16 (data.drop 8)
  payloadLen := readU32 (data.drop 10)
  qosClass := .ofUInt8 (data.getD 14 0)
  family := .ofUInt8 (data.getD 15 0)
  operation := data.getD 16 0
  schemaVersion := readU16 (data.drop 18)
  sessionId := readU64 (data.drop 20)
  messageId := readU64 (data.drop 28)
  correlationId := readU64 (data.drop 36)
  source := ⟨fields.endpointUid, fields.entityUid⟩
  target := ⟨.ofUInt8 (data.getD 72 0), fields.uids⟩
  type := ⟨fields.profileId, readU16 (data.drop 74), readU16 (data.drop 76), fields.typeName⟩
  createdAtMs := readU64 (data.drop 44)
  ttlMs := readU32 (data.drop 52)
  security := ⟨readU32 (data.drop 56), fields.authTag⟩

/-- The checks on the fields read. -/
def acceptable (value : Envelope) : Bool :=
  validUid value.source.endpointUid &&
    (value.source.entityUid.isEmpty || validUid value.source.entityUid) &&
    validTypeRef value.type &&
    ((value.target.scope == .broadcast) == value.target.uids.isEmpty) &&
    value.target.uids.all validUid

/-- `WireCodec::decode` of a whole byte string. -/
def decode (data : Bytes) : DecodeResult :=
  let reject (code : ErrorCode) (consumed : ℕ) : DecodeResult := { code, consumed }
  if data.length < kMinEnvelopeSize then reject .decodeError 0
  else if !hasMagic data then reject .invalidHeader 0
  else if data.getD 4 0 ≠ kProtocolMajor ∨ data.getD 5 0 ≠ kHeaderVersion ∨
      readU16 (data.drop 18) ≠ kSchemaVersion then reject .protocolMismatch 0
  else
    let headerLen := (readU16 (data.drop 8)).toNat
    let payloadLen := (readU32 (data.drop 10)).toNat
    if headerLen < kFixedHeaderSize ∨ kMaxPayloadBytes < payloadLen then reject .decodeError 0
    else
      let totalLen := headerLen + payloadLen + kTrailerSize
      if data.length < totalLen then reject .decodeError 0
      else if !validQos (data.getD 14 0) || !validFamily (data.getD 15 0) ||
          !validScope (data.getD 72 0) then reject .decodeError totalLen
      else
        match readVariable data headerLen with
        | none => reject .decodeError totalLen
        | some fields =>
          let value := readHeader data fields
          if !acceptable value then reject .decodeError totalLen
          else
            let wireChecksum := readU32 (data.drop (totalLen - kTrailerSize))
            if wireChecksum ≠ checksum (data.take (totalLen - kTrailerSize)) then
              reject .checksumMismatch totalLen
            else
              { code := .ok
                consumed := totalLen
                envelope := { value with
                  payload := (data.drop headerLen).take payloadLen
                  checksum := wireChecksum } }

/-- An accepted frame takes at least the space of an empty one. -/
theorem kMinEnvelopeSize_le_consumed {data : Bytes} (h : (decode data).code = .ok) :
    kMinEnvelopeSize ≤ (decode data).consumed := by
  revert h
  fun_cases decode data with
  | case10 reject hshort hmagic hversion headerLen payloadLen hlen totalLen htotal =>
    intro _
    simp only [kMinEnvelopeSize]
    omega
  | _ => exact fun h => ErrorCode.noConfusion h

end WireCodec

end YunLink
