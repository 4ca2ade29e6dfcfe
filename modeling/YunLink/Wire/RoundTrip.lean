import YunLink.Wire.Codec

/-!
# The wire round trip

What the encoder writes the decoder reads back, whatever follows the frame in
the buffer.  The two functions are written independently, one appending fields
and one reading at fixed offsets, so the proof is a comparison of two layouts:
`fixedHeader_append` spells the fixed header out as one right-nested list, and
every read at an offset is then a walk along it; the variable part is compared
field by field, with the cursor of the decoder at the end of what precedes the
field (`readText_of_drop`, `readTargets_of_drop`).

## Main definitions

* `WireCodec.WellFormed` — an envelope that passed the checks and whose length
  fields are filled in: what the encoder writes.

## Main results

* `WireCodec.encode_eq_frame` — a non-empty encoding is the frame of a
  well-formed envelope.
* `WireCodec.decode_frame` — **the decoder reads a frame back.**
* `WireCodec.decode_encode` — the round trip for `encode` itself.
-/

namespace YunLink

namespace WireCodec

/-! ### What the encoder writes -/

/-- An envelope ready to be written: checked, with the length fields set. -/
structure WellFormed (value : Envelope) : Prop where
  encodable : encodable value = true
  headerLen : value.headerLen.toNat = kFixedHeaderSize + variableSize value
  payloadLen : value.payloadLen.toNat = value.payload.length

/-- The value `encode` writes: the input, with its header filled in on request. -/
def filled (input : Envelope) (autoFillHeader : Bool) (now : UInt64) : Envelope :=
  if autoFillHeader then fillHeader input now else input

/-- **A non-empty encoding is the frame of a well-formed envelope.** -/
theorem encode_eq_frame {input : Envelope} {auto : Bool} {now : UInt64}
    (h : encode input auto now ≠ []) :
    WellFormed (filled input auto now) ∧
      encode input auto now = frame (filled input auto now) := by
  unfold encode at h ⊢
  by_cases he : WireCodec.encodable input = true
  · rw [if_neg (by simp [he])] at h ⊢
    by_cases hl : (filled input auto now).headerLen.toNat ≠
          kFixedHeaderSize + variableSize (filled input auto now) ∨
        (filled input auto now).payloadLen.toNat ≠ (filled input auto now).payload.length
    · exact absurd (if_pos hl) h
    · refine ⟨⟨?_, ?_, ?_⟩, if_neg hl⟩
      · cases auto
        · exact he
        · exact he
      · exact not_not.mp fun hn => hl (Or.inl hn)
      · exact not_not.mp fun hn => hl (Or.inr hn)
  · exact absurd (if_pos (by simpa using he)) h

/-! ### What well-formedness gives -/

/-- The checks of `encodable`, one by one. -/
theorem encodable_iff (value : Envelope) :
    WireCodec.encodable value = true ↔
      value.protocolMajor = kProtocolMajor ∧ value.headerVersion = kHeaderVersion ∧
      value.schemaVersion = kSchemaVersion ∧ validUid value.source.endpointUid = true ∧
      (value.source.entityUid = [] ∨ validUid value.source.entityUid = true) ∧
      validTypeRef value.type = true ∧ value.payload.length ≤ kMaxPayloadBytes ∧
      value.target.uids.length ≤ uint16Max ∧
      (value.target.scope = .broadcast ↔ value.target.uids = []) ∧
      (∀ uid ∈ value.target.uids, validUid uid = true) ∧
      variableSize value ≤ uint16Max - kFixedHeaderSize ∧
      value.security.authTag.length ≤ uint16Max := by
  have hscope : (if value.target.scope = .broadcast then value.target.uids.isEmpty
      else !value.target.uids.isEmpty) = true ↔
      (value.target.scope = .broadcast ↔ value.target.uids = []) := by
    split
    · next h => simp [h]
    · next h => simp [h]
  unfold WireCodec.encodable
  simp only [Bool.and_eq_true, Bool.not_eq_true', Bool.or_eq_false_iff, hscope,
    bne_eq_false_iff_eq, Bool.not_eq_false', Bool.and_eq_false_iff, decide_eq_false_iff_not,
    Nat.not_lt, List.all_eq_true, List.isEmpty_iff]
  constructor
  · rintro ⟨⟨⟨⟨⟨⟨⟨⟨⟨⟨hmajor, hheader⟩, hschema⟩, hendpoint⟩, hentity⟩, htype⟩, hpayload⟩, hcount⟩,
      hscope⟩, huids⟩, hsize, htag⟩
    exact ⟨hmajor, hheader, hschema, hendpoint, hentity, htype, hpayload, hcount, hscope, huids,
      hsize, htag⟩
  · rintro ⟨hmajor, hheader, hschema, hendpoint, hentity, htype, hpayload, hcount, hscope, huids,
      hsize, htag⟩
    exact ⟨⟨⟨⟨⟨⟨⟨⟨⟨⟨hmajor, hheader⟩, hschema⟩, hendpoint⟩, hentity⟩, htype⟩, hpayload⟩, hcount⟩,
      hscope⟩, huids⟩, hsize, htag⟩

section layout

variable {value : Envelope}

@[simp] theorem length_fixedHeader (value : Envelope) :
    (fixedHeader value).length = kFixedHeaderSize := by
  unfold fixedHeader
  simp only [List.length_append, length_appendU16, length_appendU32, length_appendU64,
    List.length_cons, List.length_nil]
  rfl

@[simp] theorem length_encodeTargets (uids : List Text) :
    (encodeTargets uids).length = targetsBytes uids := by
  induction uids with
  | nil => rfl
  | cons uid uids ih =>
    simp only [encodeTargets, targetsBytes, List.flatMap_cons, List.length_append,
      length_appendU16, List.map_cons, List.sum_cons] at ih ⊢
    rw [ih]

@[simp] theorem length_variablePart (value : Envelope) :
    (variablePart value).length = variableSize value := by
  simp only [variablePart, List.length_append, length_encodeTargets, variableSize]
  omega

theorem length_frameBody (hv : WellFormed value) :
    (frameBody value).length = value.headerLen.toNat + value.payloadLen.toNat := by
  rw [frameBody, List.length_append, List.length_append, length_fixedHeader,
    length_variablePart, hv.headerLen, hv.payloadLen]
  omega

theorem length_frame (hv : WellFormed value) :
    (frame value).length = value.headerLen.toNat + value.payloadLen.toNat + kTrailerSize := by
  rw [frame, List.length_append, length_frameBody hv]
  rfl

end layout

/-! ### Reading at fixed offsets -/

/-- The fixed header spelled out in front of what follows it. -/
theorem fixedHeader_append (value : Envelope) (rest : Bytes) :
    fixedHeader value ++ rest =
      kMagic0 :: kMagic1 :: kMagic2 :: kMagic3 :: value.protocolMajor :: value.headerVersion ::
      (appendU16 value.flags ++ (appendU16 value.headerLen ++ (appendU32 value.payloadLen ++
      value.qosClass.toUInt8 :: value.family.toUInt8 :: value.operation :: 0 ::
      (appendU16 value.schemaVersion ++ (appendU64 value.sessionId ++
      (appendU64 value.messageId ++ (appendU64 value.correlationId ++
      (appendU64 value.createdAtMs ++ (appendU32 value.ttlMs ++
      (appendU32 value.security.keyEpoch ++
      (appendU16 (UInt16.ofNat value.source.endpointUid.length) ++
      (appendU16 (UInt16.ofNat value.source.entityUid.length) ++
      (appendU16 (UInt16.ofNat value.target.uids.length) ++
      (appendU16 (UInt16.ofNat value.security.authTag.length) ++
      (appendU16 (UInt16.ofNat value.type.profileId.length) ++
      (appendU16 (UInt16.ofNat value.type.typeName.length) ++
      value.target.scope.toUInt8 :: 0 ::
      (appendU16 value.type.major ++ (appendU16 value.type.minor ++
      (appendU16 0 ++ rest))))))))))))))))))) := by
  unfold fixedHeader
  simp only [List.append_assoc, List.cons_append, List.nil_append]

theorem drop_appendU16 (v : UInt16) (rest : Bytes) (n : ℕ) :
    (appendU16 v ++ rest).drop (n + 2) = rest.drop n := rfl

theorem drop_appendU32 (v : UInt32) (rest : Bytes) (n : ℕ) :
    (appendU32 v ++ rest).drop (n + 4) = rest.drop n := rfl

theorem drop_appendU64 (v : UInt64) (rest : Bytes) (n : ℕ) :
    (appendU64 v ++ rest).drop (n + 8) = rest.drop n := rfl

theorem getD_appendU16 (v : UInt16) (rest : Bytes) (n : ℕ) (d : UInt8) :
    (appendU16 v ++ rest).getD (n + 2) d = rest.getD n d := rfl

theorem getD_appendU32 (v : UInt32) (rest : Bytes) (n : ℕ) (d : UInt8) :
    (appendU32 v ++ rest).getD (n + 4) d = rest.getD n d := rfl

theorem getD_appendU64 (v : UInt64) (rest : Bytes) (n : ℕ) (d : UInt8) :
    (appendU64 v ++ rest).getD (n + 8) d = rest.getD n d := rfl

/-- The length fields of the variable part, at their offsets. -/
theorem readU16_lengths (value : Envelope) (rest : Bytes) :
    readU16 ((fixedHeader value ++ rest).drop 60) =
        UInt16.ofNat value.source.endpointUid.length ∧
      readU16 ((fixedHeader value ++ rest).drop 62) =
        UInt16.ofNat value.source.entityUid.length ∧
      readU16 ((fixedHeader value ++ rest).drop 64) = UInt16.ofNat value.target.uids.length ∧
      readU16 ((fixedHeader value ++ rest).drop 66) =
        UInt16.ofNat value.security.authTag.length ∧
      readU16 ((fixedHeader value ++ rest).drop 68) = UInt16.ofNat value.type.profileId.length ∧
      readU16 ((fixedHeader value ++ rest).drop 70) = UInt16.ofNat value.type.typeName.length := by
  rw [fixedHeader_append]
  simp only [List.drop_succ_cons, drop_appendU16, drop_appendU32, drop_appendU64, List.drop_zero,
    readU16_append, and_self]

/-- The fields the decoder checks before it reads the variable part. -/
theorem read_guards (value : Envelope) (rest : Bytes) :
    (fixedHeader value ++ rest).getD 4 0 = value.protocolMajor ∧
      (fixedHeader value ++ rest).getD 5 0 = value.headerVersion ∧
      readU16 ((fixedHeader value ++ rest).drop 18) = value.schemaVersion ∧
      readU16 ((fixedHeader value ++ rest).drop 8) = value.headerLen ∧
      readU32 ((fixedHeader value ++ rest).drop 10) = value.payloadLen ∧
      (fixedHeader value ++ rest).getD 14 0 = value.qosClass.toUInt8 ∧
      (fixedHeader value ++ rest).getD 15 0 = value.family.toUInt8 ∧
      (fixedHeader value ++ rest).getD 72 0 = value.target.scope.toUInt8 := by
  rw [fixedHeader_append]
  simp only [List.drop_succ_cons, drop_appendU16, drop_appendU32, List.drop_zero,
    List.getD_cons_succ, List.getD_cons_zero, getD_appendU16, getD_appendU32, getD_appendU64,
    readU16_append, readU32_append, and_self]

/-- The two fields `auto_fill_header` may fill in besides the lengths. -/
theorem read_stamps (value : Envelope) (rest : Bytes) :
    readU64 ((fixedHeader value ++ rest).drop 28) = value.messageId ∧
      readU64 ((fixedHeader value ++ rest).drop 44) = value.createdAtMs := by
  rw [fixedHeader_append]
  simp only [List.drop_succ_cons, drop_appendU16, drop_appendU32, drop_appendU64, List.drop_zero,
    readU64_append, and_self]

/-- The header is read back once its variable fields are. -/
theorem readHeader_fixedHeader (value : Envelope) (rest : Bytes) (fields : VariableFields)
    (hendpoint : fields.endpointUid = value.source.endpointUid)
    (hentity : fields.entityUid = value.source.entityUid)
    (huids : fields.uids = value.target.uids)
    (hauth : fields.authTag = value.security.authTag)
    (hprofile : fields.profileId = value.type.profileId)
    (htype : fields.typeName = value.type.typeName) :
    readHeader (fixedHeader value ++ rest) fields =
      { value with payload := [], checksum := 0 } := by
  unfold readHeader
  rw [fixedHeader_append]
  simp only [List.drop_succ_cons, drop_appendU16, drop_appendU32, drop_appendU64, List.drop_zero,
    List.getD_cons_succ, List.getD_cons_zero, getD_appendU16, getD_appendU32, getD_appendU64,
    readU16_append, readU32_append, readU64_append, QosClass.ofUInt8_toUInt8,
    MessageFamily.ofUInt8_toUInt8, TargetScope.ofUInt8_toUInt8, hendpoint, hentity, huids, hauth,
    hprofile, htype]

/-! ### Reading the variable part -/

/-- Behind a text the cursor stands at what follows it. -/
theorem drop_add_length {data text rest : Bytes} {cursor : ℕ}
    (h : data.drop cursor = text ++ rest) :
    data.drop (cursor + text.length) = rest := by
  rw [← List.drop_drop, h, List.drop_left]

/-- A text is read back when the cursor stands at its first byte and the length
word announces it. -/
theorem readText_of_drop {data text rest : Bytes} (headerLen : ℕ) {cursor : ℕ} {word : UInt16}
    (h : data.drop cursor = text ++ rest) (hword : word = UInt16.ofNat text.length)
    (hmax : text.length ≤ uint16Max) (hfit : cursor + text.length ≤ headerLen) :
    readText data headerLen cursor word.toNat = some (text, cursor + text.length) := by
  have hlen : word.toNat = text.length := by
    rw [hword]
    exact toNat_ofNat_of_le hmax
  rw [hlen, readText, if_neg (by omega), h, List.take_left]

/-- The target list is read back when the cursor stands at its first length. -/
theorem readTargets_of_drop {data rest : Bytes} (headerLen : ℕ) :
    ∀ (uids : List Text) (cursor : ℕ), data.drop cursor = encodeTargets uids ++ rest →
      (∀ uid ∈ uids, uid.length ≤ uint16Max) → cursor + targetsBytes uids ≤ headerLen →
      readTargets data headerLen uids.length cursor =
        some (uids, cursor + targetsBytes uids) := by
  intro uids
  induction uids with
  | nil => intro cursor _ _ _; rfl
  | cons uid uids ih =>
    intro cursor h hlen hfit
    have hsize : targetsBytes (uid :: uids) = 2 + uid.length + targetsBytes uids := by
      simp [targetsBytes]
    have hword : data.drop cursor =
        appendU16 (UInt16.ofNat uid.length) ++ (uid ++ (encodeTargets uids ++ rest)) := by
      rw [h]
      simp [encodeTargets]
    rw [hsize] at hfit ⊢
    -- the length word, then the text behind it, then the rest of the list
    have htext : data.drop (cursor + 2) = uid ++ (encodeTargets uids ++ rest) :=
      drop_add_length hword
    have hread := readText_of_drop headerLen htext rfl (hlen uid List.mem_cons_self) (by omega)
    have hrest := ih _ (drop_add_length htext) (fun u hu => hlen u (List.mem_cons_of_mem _ hu))
      (by omega)
    rw [List.length_cons, readTargets, if_neg (by omega), hword, readU16_append, hread]
    simp only [hrest]
    congr 2
    omega

/-- **The variable part is read back** behind any 80 bytes that announce its
lengths, with the cursor ending at the header's end. -/
theorem readVariable_of_drop {value : Envelope} (hv : WellFormed value) {rest data : Bytes}
    (h80 : data.drop kFixedHeaderSize = variablePart value ++ rest)
    (h60 : readU16 (data.drop 60) = UInt16.ofNat value.source.endpointUid.length)
    (h62 : readU16 (data.drop 62) = UInt16.ofNat value.source.entityUid.length)
    (h64 : readU16 (data.drop 64) = UInt16.ofNat value.target.uids.length)
    (h66 : readU16 (data.drop 66) = UInt16.ofNat value.security.authTag.length)
    (h68 : readU16 (data.drop 68) = UInt16.ofNat value.type.profileId.length)
    (h70 : readU16 (data.drop 70) = UInt16.ofNat value.type.typeName.length) :
    readVariable data value.headerLen.toNat =
      some ⟨value.source.endpointUid, value.source.entityUid, value.target.uids,
        value.security.authTag, value.type.profileId, value.type.typeName⟩ := by
  obtain ⟨-, -, -, -, -, -, -, hcount, -, huids, hsize, -⟩ := (encodable_iff value).mp hv.encodable
  have hheader := hv.headerLen
  have hmax : variableSize value ≤ uint16Max := hsize.trans (by decide)
  simp only [variableSize] at hheader hmax
  have hcounted : (readU16 (data.drop 64)).toNat = value.target.uids.length := by
    rw [h64]
    exact toNat_ofNat_of_le hcount
  have huidlen : ∀ uid ∈ value.target.uids, uid.length ≤ uint16Max := fun uid hmem =>
    (length_le_of_validUid (huids uid hmem)).trans (by decide)
  -- where the cursor stands before each field
  rw [variablePart] at h80
  simp only [List.append_assoc] at h80
  have d1 := drop_add_length h80
  have d2 := drop_add_length d1
  have d3 := drop_add_length d2
  rw [length_encodeTargets] at d3
  have d4 := drop_add_length d3
  have d5 := drop_add_length d4
  -- the six reads
  have e0 := readText_of_drop value.headerLen.toNat h80 h60 (by omega) (by omega)
  have e1 := readText_of_drop value.headerLen.toNat d1 h62 (by omega) (by omega)
  have e2 := readTargets_of_drop value.headerLen.toNat _ _ d2 huidlen (by omega)
  have e3 := readText_of_drop value.headerLen.toNat d3 h66 (by omega) (by omega)
  have e4 := readText_of_drop value.headerLen.toNat d4 h68 (by omega) (by omega)
  have e5 := readText_of_drop value.headerLen.toNat d5 h70 (by omega) (by omega)
  have hend : kFixedHeaderSize + value.source.endpointUid.length + value.source.entityUid.length +
      targetsBytes value.target.uids + value.security.authTag.length +
      value.type.profileId.length + value.type.typeName.length = value.headerLen.toNat := by
    omega
  unfold readVariable
  simp only [e0, e1, hcounted, e2, e3, e4, e5, hend, Option.bind_eq_bind, Option.bind_some, ne_eq,
    not_true_eq_false, if_false]

/-! ### The round trip -/

theorem hasMagic_fixedHeader (value : Envelope) (rest : Bytes) :
    hasMagic (fixedHeader value ++ rest) = true := by
  rw [fixedHeader_append]
  simp [hasMagic]

theorem valid_toUInt8 (value : Envelope) :
    validQos value.qosClass.toUInt8 = true ∧ validFamily value.family.toUInt8 = true ∧
      validScope value.target.scope.toUInt8 = true := by
  refine ⟨?_, ?_, ?_⟩
  · cases value.qosClass <;> rfl
  · cases value.family <;> rfl
  · cases value.target.scope <;> rfl

/-- What the encoder checks of the fields, the decoder accepts. -/
theorem acceptable_of_encodable {value : Envelope} (h : WireCodec.encodable value = true) :
    acceptable value = true := by
  obtain ⟨-, -, -, hendpoint, hentity, htype, -, -, hscope, huids, -, -⟩ :=
    (encodable_iff value).mp h
  have htarget : ((value.target.scope == .broadcast) == value.target.uids.isEmpty) = true := by
    rw [beq_iff_eq, Bool.eq_iff_iff, beq_iff_eq, List.isEmpty_iff]
    exact hscope
  have hentity' : (value.source.entityUid.isEmpty || validUid value.source.entityUid) = true := by
    rcases hentity with he | he
    · simp [he]
    · simp [he]
  simp only [acceptable, hendpoint, hentity', htype, htarget, List.all_eq_true.mpr huids,
    Bool.and_self]

/-- **The decoder reads a frame back**, whatever follows it. -/
theorem decode_frame {value : Envelope} (hv : WellFormed value) (suffix : Bytes) :
    decode (frame value ++ suffix) =
      { code := .ok
        consumed := (frame value).length
        envelope := { value with checksum := checksum (frameBody value) } } := by
  obtain ⟨hmajor, hheaderVersion, hschema, -, -, -, hpayload, -⟩ :=
    (encodable_iff value).mp hv.encodable
  have hframelen := length_frame hv
  have hbodylen := length_frameBody hv
  -- the frame as the decoder meets it: fixed header, variable part, and the rest
  obtain ⟨rest, hrest⟩ : ∃ rest, rest =
      value.payload ++ (appendU32 (checksum (frameBody value)) ++ suffix) := ⟨_, rfl⟩
  have hbytes : frame value ++ suffix = fixedHeader value ++ (variablePart value ++ rest) := by
    simp only [frame, frameBody, List.append_assoc, hrest]
  obtain ⟨g4, g5, g18, g8, g10, g14, g15, g72⟩ := read_guards value (variablePart value ++ rest)
  obtain ⟨r60, r62, r64, r66, r68, r70⟩ := readU16_lengths value (variablePart value ++ rest)
  have hmagic := hasMagic_fixedHeader value (variablePart value ++ rest)
  have h80 : (frame value ++ suffix).drop kFixedHeaderSize = variablePart value ++ rest := by
    rw [hbytes, ← length_fixedHeader value, List.drop_left]
  have hhdr := readHeader_fixedHeader value (variablePart value ++ rest) ⟨_, _, _, _, _, _⟩
    rfl rfl rfl rfl rfl rfl
  rw [← hbytes] at g4 g5 g18 g8 g10 g14 g15 g72 r60 r62 r64 r66 r68 r70 hmagic hhdr
  rw [hmajor] at g4
  rw [hheaderVersion] at g5
  rw [hschema] at g18
  have hvar := readVariable_of_drop hv h80 r60 r62 r64 r66 r68 r70
  have hdropped : (frame value ++ suffix).drop value.headerLen.toNat =
      value.payload ++ (appendU32 (checksum (frameBody value)) ++ suffix) := by
    rw [hv.headerLen, ← length_variablePart value, drop_add_length h80, hrest]
  have hpart : ((frame value ++ suffix).drop value.headerLen.toNat).take value.payloadLen.toNat =
      value.payload := by
    rw [hdropped, hv.payloadLen, List.take_left]
  have hbody : (frame value ++ suffix).take
      (value.headerLen.toNat + value.payloadLen.toNat) = frameBody value := by
    rw [← hbodylen, frame, List.append_assoc, List.take_left]
  have hsum : readU32 ((frame value ++ suffix).drop
      (value.headerLen.toNat + value.payloadLen.toNat)) = checksum (frameBody value) := by
    rw [hv.payloadLen, drop_add_length hdropped, readU32_append]
  have hlen : (frame value ++ suffix).length =
      value.headerLen.toNat + value.payloadLen.toNat + kTrailerSize + suffix.length := by
    rw [List.length_append, hframelen]
  obtain ⟨vq, vf, vs⟩ := valid_toUInt8 value
  -- the decoder checks the envelope before it reads the payload and the checksum
  have hacc : acceptable { value with payload := [], checksum := 0 } = true := by
    have hacc := acceptable_of_encodable hv.encodable
    exact hacc
  have hfixed : kFixedHeaderSize ≤ value.headerLen.toNat := by
    rw [hv.headerLen]
    exact Nat.le_add_right _ _
  have hlimit : value.payloadLen.toNat ≤ kMaxPayloadBytes := by
    rw [hv.payloadLen]
    exact hpayload
  have hmin : ¬ (frame value ++ suffix).length < kMinEnvelopeSize := by
    rw [hlen, kMinEnvelopeSize]
    omega
  have htotal : ¬ (frame value ++ suffix).length <
      value.headerLen.toNat + value.payloadLen.toNat + kTrailerSize := by
    omega
  rw [hframelen]
  generalize frame value ++ suffix = data at *
  unfold decode
  simp only [hmagic, g4, g5, g18, g8, g10, g14, g15, g72, hvar, hhdr, vq, vf, vs, hacc, hmin,
    htotal, hpart, Nat.add_sub_cancel, hbody, hsum, if_false, Bool.not_true, Bool.false_eq_true,
    Bool.or_self, ne_eq, not_true_eq_false, or_self]
  rw [if_neg (by omega)]

/-- An envelope that passes the checks is written, with its header filled in, and read
back. -/
theorem decode_of_encodable {input : Envelope} (h : encodable input = true) (now : UInt64) :
    encode input true now ≠ [] ∧
      decode (encode input true now) =
        { code := .ok
          consumed := (encode input true now).length
          envelope := { fillHeader input now with
            checksum := checksum (frameBody (fillHeader input now)) } } := by
  obtain ⟨-, -, -, -, -, -, hpayload, -, -, -, hvariable, -⟩ := (encodable_iff input).mp h
  -- The words of the header can hold the lengths.
  have hheader : (UInt16.ofNat (kFixedHeaderSize + variableSize input)).toNat =
      kFixedHeaderSize + variableSize input := by
    apply UInt16.toNat_ofNat_of_lt'
    have hmax : uint16Max - kFixedHeaderSize = 65455 := rfl
    have hfixed : kFixedHeaderSize = 80 := rfl
    have hsize : UInt16.size = 65536 := rfl
    omega
  have hlength : (UInt32.ofNat input.payload.length).toNat = input.payload.length :=
    UInt32.toNat_ofNat_of_lt' (lt_of_le_of_lt hpayload (by decide))
  have hvalue : WellFormed (fillHeader input now) := ⟨h, hheader, hlength⟩
  have hframe : encode input true now = frame (fillHeader input now) := by
    unfold encode
    rw [if_neg (by simp [h])]
    refine if_neg ?_
    rintro (hbad | hbad)
    · exact hbad hheader
    · exact hbad hlength
  have hdecode := decode_frame hvalue []
  rw [List.append_nil] at hdecode
  rw [hframe]
  refine ⟨fun hempty => ?_, hdecode⟩
  have hlen := length_frame hvalue
  rw [hempty] at hlen
  exact absurd hlen (by simp [kTrailerSize])

/-- **The wire round trip.**  A non-empty encoding followed by any bytes decodes,
consuming exactly the encoding, to the input itself; only the length fields, the
checksum and what `auto_fill_header` filled in are those written in the frame. -/
theorem decode_encode (input : Envelope) (auto : Bool) (now : UInt64)
    (h : encode input auto now ≠ []) (suffix : Bytes) :
    decode (encode input auto now ++ suffix) =
      { code := .ok
        consumed := (encode input auto now).length
        envelope := { input with
          headerLen := readU16 ((encode input auto now).drop 8)
          payloadLen := readU32 ((encode input auto now).drop 10)
          messageId := if auto ∧ input.messageId = 0 then readU64 ((encode input auto now).drop 28)
            else input.messageId
          createdAtMs := if auto ∧ input.createdAtMs = 0 then
            readU64 ((encode input auto now).drop 44) else input.createdAtMs
          checksum := readU32 ((encode input auto now).drop
            ((encode input auto now).length - kTrailerSize)) } } := by
  obtain ⟨hv, hframe⟩ := encode_eq_frame h
  obtain ⟨value, hvalue⟩ : ∃ value, value = filled input auto now := ⟨_, rfl⟩
  rw [← hvalue] at hv hframe
  -- the fields the frame holds are those of the value written
  obtain ⟨-, -, -, g8, g10, -⟩ := read_guards value
    (variablePart value ++ value.payload ++ appendU32 (checksum (frameBody value)))
  obtain ⟨g28, g44⟩ := read_stamps value
    (variablePart value ++ value.payload ++ appendU32 (checksum (frameBody value)))
  have hbytes : fixedHeader value ++
      (variablePart value ++ value.payload ++ appendU32 (checksum (frameBody value))) =
      frame value := by
    simp only [frame, frameBody, List.append_assoc]
  rw [hbytes] at g8 g10 g28 g44
  have hsum : readU32 ((frame value).drop ((frame value).length - kTrailerSize)) =
      checksum (frameBody value) := by
    have hlen : (frame value).length - kTrailerSize = (frameBody value).length := by
      rw [frame, List.length_append]
      exact Nat.add_sub_cancel _ _
    rw [hlen, frame, List.drop_left]
    simpa using readU32_append (checksum (frameBody value)) []
  rw [hframe, decode_frame hv suffix, g8, g10, g28, g44, hsum, hvalue]
  cases auto with
  | false => simp [filled]
  | true =>
    simp only [filled, fillHeader, if_true, true_and]
    by_cases hm : input.messageId = 0
    · by_cases hc : input.createdAtMs = 0
      · simp [hm, hc]
      · simp [hm, hc]
    · by_cases hc : input.createdAtMs = 0
      · simp [hm, hc]
      · simp [hm, hc]

/-- A telemetry sample, as the protocol's own round-trip test builds it. -/
def sampleEnvelope : Envelope where
  family := .stream
  operation := 4
  qosClass := .reliableLatest
  sessionId := 42
  messageId := 99
  source := ⟨ascii "bridge.alpha", ascii "e-bridge.alpha-uav-1"⟩
  target := .ofEntity (ascii "gcs.operator")
  type := ⟨ascii "com.yundrone.sunray", 2, 0, ascii "FlightControlState"⟩
  createdAtMs := 1000
  ttlMs := 250
  payload := [8, 1]
  security := ⟨7, [1, 2, 3, 4]⟩

theorem decode_encode_sampleEnvelope :
    encode sampleEnvelope true 0 ≠ [] ∧
      (decode (encode sampleEnvelope true 0 ++ [89, 76])).code = .ok := by
  have hne : encode sampleEnvelope true 0 ≠ [] := by decide
  refine ⟨hne, ?_⟩
  rw [decode_encode sampleEnvelope true 0 hne [89, 76]]

end WireCodec

end YunLink
