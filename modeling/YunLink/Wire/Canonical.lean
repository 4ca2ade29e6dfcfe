import YunLink.Wire.RoundTrip

/-!
# Decoding is canonical

Encoding what `WireCodec::decode` made of some bytes gives these bytes back.  Every
check of the encoder is implied by one of the decoder, and every byte of the frame is
kept in some field, but for four bytes the header reserves: the decoder does not look
at them and the encoder writes zeros, over which it takes the checksum anew.

## Main definitions

* `slice` — the bytes of a field at its offset.
* `zeroReserved` — a frame with its reserved bytes set to zero.

## Main results

* `readVariable_sound` — the variable part is what its fields are written as.
* `fixedHeader_readHeader` — so is the fixed header, but for the reserved bytes.
* `encode_decode` — **what was decoded is encoded as it was received.**
-/

namespace YunLink

namespace WireCodec

/-! ### Slices -/

/-- `n` bytes from offset `k` on. -/
def slice (data : Bytes) (k n : ℕ) : Bytes := (data.drop k).take n

section slice

variable (data : Bytes) (k n : ℕ)

theorem slice_add (m : ℕ) : slice data k (n + m) = slice data k n ++ slice data (k + n) m := by
  rw [slice, List.take_add, List.drop_drop]
  rfl

variable {data k n}

theorem length_slice (h : k + n ≤ data.length) : (slice data k n).length = n := by
  rw [slice, List.length_take, List.length_drop]
  omega

theorem slice_byte (k n : ℕ) (h : k + 1 ≤ data.length) :
    slice data k (n + 1) = data.getD k 0 :: slice data (k + 1) n := by
  have hone : slice data k 1 = [data.getD k 0] := by
    rw [slice, List.drop_eq_getElem_cons (by omega), List.take_succ_cons, List.take_zero,
      List.getD_eq_getElem _ _ (by omega)]
  rw [Nat.add_comm, slice_add, hone]
  rfl

theorem slice_u16 (k n : ℕ) (h : k + 2 ≤ data.length) :
    slice data k (n + 2) = appendU16 (readU16 (data.drop k)) ++ slice data (k + 2) n := by
  rw [Nat.add_comm, slice_add, appendU16_readU16 (by rw [List.length_drop]; omega)]
  rfl

theorem slice_u32 (k n : ℕ) (h : k + 4 ≤ data.length) :
    slice data k (n + 4) = appendU32 (readU32 (data.drop k)) ++ slice data (k + 4) n := by
  rw [Nat.add_comm, slice_add, appendU32_readU32 (by rw [List.length_drop]; omega)]
  rfl

theorem slice_u64 (k n : ℕ) (h : k + 8 ≤ data.length) :
    slice data k (n + 8) = appendU64 (readU64 (data.drop k)) ++ slice data (k + 8) n := by
  rw [Nat.add_comm, slice_add, appendU64_readU64 (by rw [List.length_drop]; omega)]
  rfl

theorem slice_none (k : ℕ) : slice data k 0 = [] := List.take_zero

end slice

/-! ### The variable part -/

section variablePart

variable {data : Bytes} {headerLen : ℕ}

/-- A text that was read stands where the cursor stood. -/
theorem readText_sound {cursor textLen cursor' : ℕ} {text : Text} (hdata : headerLen ≤ data.length)
    (hcursor : cursor ≤ headerLen)
    (h : readText data headerLen cursor textLen = some (text, cursor')) :
    text = slice data cursor textLen ∧ text.length = textLen ∧ cursor' = cursor + textLen ∧
      cursor' ≤ headerLen := by
  unfold readText at h
  split at h
  · exact absurd h (by simp)
  next hfit =>
  obtain ⟨rfl, rfl⟩ := Prod.mk.inj (Option.some.inj h)
  have hlen : cursor + textLen ≤ data.length := by omega
  exact ⟨rfl, length_slice hlen, rfl, by omega⟩

/-- The targets that were read are written as what stands behind the cursor. -/
theorem readTargets_sound (hdata : headerLen ≤ data.length) :
    ∀ (count cursor cursor' : ℕ) (uids : List Text), cursor ≤ headerLen →
      readTargets data headerLen count cursor = some (uids, cursor') →
      encodeTargets uids = slice data cursor (targetsBytes uids) ∧ uids.length = count ∧
        cursor' = cursor + targetsBytes uids ∧ cursor' ≤ headerLen := by
  intro count
  induction count with
  | zero =>
    intro cursor cursor' uids hcursor h
    obtain ⟨rfl, rfl⟩ := Prod.mk.inj (Option.some.inj h)
    exact ⟨rfl, rfl, rfl, hcursor⟩
  | succ count ih =>
    intro cursor cursor' uids hcursor h
    rw [readTargets] at h
    split at h
    · exact absurd h (by simp)
    next hfit =>
    cases htext : readText data headerLen (cursor + 2) (readU16 (data.drop cursor)).toNat with
    | none =>
      rw [htext] at h
      exact absurd h (by simp)
    | some read =>
      obtain ⟨uid, next⟩ := read
      obtain ⟨huid, hlen, hnext, hle⟩ := readText_sound hdata (by omega) htext
      cases hrest : readTargets data headerLen count next with
      | none =>
        simp only [htext, hrest] at h
        exact absurd h (by simp)
      | some rest =>
        obtain ⟨others, last⟩ := rest
        obtain ⟨hothers, hcount, hlast, hend⟩ := ih next last others hle hrest
        simp only [htext, hrest, Option.some.injEq, Prod.mk.injEq] at h
        obtain ⟨rfl, rfl⟩ := h
        have hsize : targetsBytes (uid :: others) = targetsBytes others + uid.length + 2 := by
          simp [targetsBytes]
          omega
        have hword : UInt16.ofNat uid.length = readU16 (data.drop cursor) := by
          rw [hlen, UInt16.ofNat_toNat]
        refine ⟨?_, by rw [List.length_cons, hcount], by omega, hend⟩
        -- the length word, the uid, and the targets behind it
        rw [hsize, slice_u16 cursor _ (by omega), Nat.add_comm (targetsBytes others), slice_add,
          ← hword]
        simp only [encodeTargets, List.flatMap_cons] at hothers ⊢
        rw [List.append_assoc, hothers, hnext, ← hlen]
        refine congrArg (_ ++ ·) (congrArg (· ++ _) ?_)
        rw [hlen]
        exact huid

/-- **The variable part is what its fields are written as.** -/
theorem readVariable_sound {fields : VariableFields} (hdata : headerLen ≤ data.length)
    (hheader : kFixedHeaderSize ≤ headerLen) (h : readVariable data headerLen = some fields) :
    (UInt16.ofNat fields.endpointUid.length = readU16 (data.drop 60) ∧
      UInt16.ofNat fields.entityUid.length = readU16 (data.drop 62) ∧
      UInt16.ofNat fields.uids.length = readU16 (data.drop 64) ∧
      UInt16.ofNat fields.authTag.length = readU16 (data.drop 66) ∧
      UInt16.ofNat fields.profileId.length = readU16 (data.drop 68) ∧
      UInt16.ofNat fields.typeName.length = readU16 (data.drop 70)) ∧
    fields.uids.length ≤ uint16Max ∧ fields.authTag.length ≤ uint16Max ∧
    kFixedHeaderSize + (fields.endpointUid.length + fields.entityUid.length +
      targetsBytes fields.uids + fields.authTag.length + fields.profileId.length +
      fields.typeName.length) = headerLen ∧
    fields.endpointUid ++ (fields.entityUid ++ (encodeTargets fields.uids ++
        (fields.authTag ++ (fields.profileId ++ fields.typeName)))) =
      slice data kFixedHeaderSize (headerLen - kFixedHeaderSize) := by
  unfold readVariable at h
  simp only [Option.bind_eq_bind, Option.bind_eq_some_iff, Prod.exists] at h
  obtain ⟨endpointUid, c1, h1, entityUid, c2, h2, uids, c3, h3, authTag, c4, h4, profileId, c5, h5,
    typeName, c6, h6, hend⟩ := h
  have hword : ∀ w : UInt16, w.toNat ≤ uint16Max := fun w => Nat.le_of_lt_succ w.toNat_lt
  -- Each reader starts where the one before it stopped, which the bounds `b1` to `b5` pass on.
  obtain ⟨t1, l1, e1, b1⟩ := readText_sound hdata hheader h1
  obtain ⟨t2, l2, e2, b2⟩ := readText_sound hdata b1 h2
  obtain ⟨t3, l3, e3, b3⟩ := readTargets_sound hdata _ _ _ _ b2 h3
  obtain ⟨t4, l4, e4, b4⟩ := readText_sound hdata b3 h4
  obtain ⟨t5, l5, e5, b5⟩ := readText_sound hdata b4 h5
  obtain ⟨t6, l6, e6, b6⟩ := readText_sound hdata b5 h6
  split at hend
  · exact absurd hend (by simp)
  next hlast =>
  obtain rfl := Option.some.inj hend
  refine ⟨⟨?_, ?_, ?_, ?_, ?_, ?_⟩, ?_, ?_, ?_, ?_⟩
  · rw [l1, UInt16.ofNat_toNat]
  · rw [l2, UInt16.ofNat_toNat]
  · rw [l3, UInt16.ofNat_toNat]
  · rw [l4, UInt16.ofNat_toNat]
  · rw [l5, UInt16.ofNat_toNat]
  · rw [l6, UInt16.ofNat_toNat]
  · rw [l3]
    exact hword _
  · rw [l4]
    exact hword _
  · dsimp only
    omega
  · -- the fields stand one behind the other, up to the end of the header
    dsimp only
    have hsplit : headerLen - kFixedHeaderSize = (readU16 (data.drop 60)).toNat +
        ((readU16 (data.drop 62)).toNat + (targetsBytes uids + ((readU16 (data.drop 66)).toNat +
          ((readU16 (data.drop 68)).toNat + (readU16 (data.drop 70)).toNat)))) := by
      omega
    subst e1 e2 e3 e4 e5 e6
    rw [hsplit, slice_add, slice_add, slice_add, slice_add, slice_add, ← t1, ← t2, ← t3, ← t4,
      ← t5, ← t6]

end variablePart

/-! ### The fixed header -/

theorem toUInt8_qosClass :
    ∀ b : UInt8, validQos b = true → (QosClass.ofUInt8 b).toUInt8 = b := by
  apply Words.forall_byte
  decide +kernel

theorem toUInt8_scope :
    ∀ b : UInt8, validScope b = true → (TargetScope.ofUInt8 b).toUInt8 = b := by
  apply Words.forall_byte
  decide +kernel

theorem toUInt8_family :
    ∀ b : UInt8, validFamily b = true → (MessageFamily.ofUInt8 b).toUInt8 = b := by
  apply Words.forall_byte
  decide +kernel

/-- **The fixed header is what it was read from**, but for its reserved bytes. -/
theorem fixedHeader_readHeader {data : Bytes} {fields : VariableFields}
    (hdata : kFixedHeaderSize ≤ data.length) (hmagic : hasMagic data = true)
    (hqos : validQos (data.getD 14 0) = true) (hfamily : validFamily (data.getD 15 0) = true)
    (hscope : validScope (data.getD 72 0) = true)
    (hlengths : UInt16.ofNat fields.endpointUid.length = readU16 (data.drop 60) ∧
      UInt16.ofNat fields.entityUid.length = readU16 (data.drop 62) ∧
      UInt16.ofNat fields.uids.length = readU16 (data.drop 64) ∧
      UInt16.ofNat fields.authTag.length = readU16 (data.drop 66) ∧
      UInt16.ofNat fields.profileId.length = readU16 (data.drop 68) ∧
      UInt16.ofNat fields.typeName.length = readU16 (data.drop 70)) :
    fixedHeader (readHeader data fields) =
      slice data 0 17 ++ 0 :: (slice data 18 55 ++ 0 :: (slice data 74 4 ++ [0, 0])) := by
  have hsize : 80 ≤ data.length := hdata
  simp only [hasMagic, Bool.and_eq_true, beq_iff_eq] at hmagic
  obtain ⟨⟨⟨⟨-, hm0⟩, hm1⟩, hm2⟩, hm3⟩ := hmagic
  -- The stretches between the reserved bytes, each cut into the fields it is written from.
  have hfirst : slice data 0 17 = kMagic0 :: kMagic1 :: kMagic2 :: kMagic3 :: data.getD 4 0 ::
      data.getD 5 0 :: (appendU16 (readU16 (data.drop 6)) ++ (appendU16 (readU16 (data.drop 8)) ++
      (appendU32 (readU32 (data.drop 10)) ++
        [data.getD 14 0, data.getD 15 0, data.getD 16 0]))) := by
    rw [slice_byte 0 16 (by omega), slice_byte 1 15 (by omega), slice_byte 2 14 (by omega),
      slice_byte 3 13 (by omega), slice_byte 4 12 (by omega), slice_byte 5 11 (by omega),
      slice_u16 6 9 (by omega), slice_u16 8 7 (by omega), slice_u32 10 3 (by omega),
      slice_byte 14 2 (by omega), slice_byte 15 1 (by omega), slice_byte 16 0 (by omega),
      slice_none, hm0, hm1, hm2, hm3]
  have hsecond : slice data 18 55 = appendU16 (readU16 (data.drop 18)) ++
      (appendU64 (readU64 (data.drop 20)) ++ (appendU64 (readU64 (data.drop 28)) ++
      (appendU64 (readU64 (data.drop 36)) ++ (appendU64 (readU64 (data.drop 44)) ++
      (appendU32 (readU32 (data.drop 52)) ++ (appendU32 (readU32 (data.drop 56)) ++
      (appendU16 (readU16 (data.drop 60)) ++ (appendU16 (readU16 (data.drop 62)) ++
      (appendU16 (readU16 (data.drop 64)) ++ (appendU16 (readU16 (data.drop 66)) ++
      (appendU16 (readU16 (data.drop 68)) ++ (appendU16 (readU16 (data.drop 70)) ++
      [data.getD 72 0])))))))))))) := by
    rw [slice_u16 18 53 (by omega), slice_u64 20 45 (by omega), slice_u64 28 37 (by omega),
      slice_u64 36 29 (by omega), slice_u64 44 21 (by omega), slice_u32 52 17 (by omega),
      slice_u32 56 13 (by omega), slice_u16 60 11 (by omega), slice_u16 62 9 (by omega),
      slice_u16 64 7 (by omega), slice_u16 66 5 (by omega), slice_u16 68 3 (by omega),
      slice_u16 70 1 (by omega), slice_byte 72 0 (by omega), slice_none]
  have hthird : slice data 74 4 =
      appendU16 (readU16 (data.drop 74)) ++ appendU16 (readU16 (data.drop 76)) := by
    rw [slice_u16 74 2 (by omega), slice_u16 76 0 (by omega), slice_none, List.append_nil]
  obtain ⟨h60, h62, h64, h66, h68, h70⟩ := hlengths
  rw [hfirst, hsecond, hthird, ← List.append_nil (fixedHeader _), fixedHeader_append]
  simp only [readHeader, toUInt8_qosClass _ hqos, toUInt8_family _ hfamily,
    toUInt8_scope _ hscope, h60, h62, h64, h66, h68, h70, List.cons_append, List.append_assoc, List.nil_append]
  rfl

/-! ### Reserved bytes -/

/-- The offsets of the bytes that are always written as zero. -/
def kReservedOffsets : List ℕ := [17, 73, 78, 79]

/-- A frame with its reserved bytes set to zero. -/
def zeroReserved (data : Bytes) : Bytes :=
  kReservedOffsets.foldl (fun bytes k => bytes.set k 0) data

section reserved

variable {data : Bytes}

/-- A frame around its reserved bytes. -/
theorem eq_around_reserved (h : kFixedHeaderSize ≤ data.length) :
    data = slice data 0 17 ++ data.getD 17 0 :: (slice data 18 55 ++ data.getD 73 0 ::
      (slice data 74 4 ++ data.getD 78 0 :: data.getD 79 0 ::
        slice data kFixedHeaderSize (data.length - kFixedHeaderSize))) := by
  obtain ⟨rest, hrest⟩ : ∃ rest, data.length = 80 + rest := ⟨data.length - 80, by
    have hsize : 80 ≤ data.length := h
    omega⟩
  have htotal : data.length = 17 + (55 + (4 + (rest + 1 + 1) + 1) + 1) := by omega
  have hwhole : slice data 0 data.length = data := List.take_length
  have htail : data.length - kFixedHeaderSize = rest := by
    rw [hrest]
    exact Nat.add_sub_cancel_left 80 rest
  rw [htail]
  conv_lhs =>
    rw [← hwhole, htotal, slice_add, slice_byte (0 + 17) _ (by omega), slice_add _ _ 55,
      slice_byte (0 + 17 + 1 + 55) _ (by omega), slice_add _ _ 4,
      slice_byte (0 + 17 + 1 + 55 + 1 + 4) _ (by omega),
      slice_byte (0 + 17 + 1 + 55 + 1 + 4 + 1) _ (by omega)]
  rfl

/-- Four zeros at their places. -/
theorem zeroReserved_append {first second third rest : Bytes} {a b c d : UInt8}
    (h1 : first.length = 17) (h2 : second.length = 55) (h3 : third.length = 4) :
    zeroReserved (first ++ a :: (second ++ b :: (third ++ c :: d :: rest))) =
      first ++ 0 :: (second ++ 0 :: (third ++ 0 :: 0 :: rest)) := by
  simp [zeroReserved, kReservedOffsets, h1, h2, h3]

theorem zeroReserved_eq (h : kFixedHeaderSize ≤ data.length) :
    zeroReserved data = slice data 0 17 ++ 0 :: (slice data 18 55 ++ 0 :: (slice data 74 4 ++
      0 :: 0 :: slice data kFixedHeaderSize (data.length - kFixedHeaderSize))) := by
  have hsize : 80 ≤ data.length := h
  conv_lhs => rw [eq_around_reserved h]
  exact zeroReserved_append (length_slice (by omega)) (length_slice (by omega))
    (length_slice (by omega))

/-- Nothing changes exactly when the bytes are zero already. -/
theorem zeroReserved_eq_self_iff (h : kFixedHeaderSize ≤ data.length) :
    zeroReserved data = data ↔ ∀ k ∈ kReservedOffsets, data.getD k 0 = 0 := by
  rw [zeroReserved_eq h]
  conv_lhs => rhs; rw [eq_around_reserved h]
  simp only [List.append_cancel_left_eq, List.cons.injEq, kReservedOffsets, List.forall_mem_cons,
    List.not_mem_nil, false_imp_iff, implies_true, and_true]
  constructor
  · rintro ⟨h17, h73, h78, h79⟩
    exact ⟨h17.symm, h73.symm, h78.symm, h79.symm⟩
  · rintro ⟨h17, h73, h78, h79⟩
    exact ⟨h17.symm, h73.symm, h78.symm, h79.symm⟩

/-- The reserved bytes lie in the fixed header. -/
theorem reserved_take {n : ℕ} (h : kFixedHeaderSize ≤ n) :
    (∀ k ∈ kReservedOffsets, (data.take n).getD k 0 = 0) ↔
      ∀ k ∈ kReservedOffsets, data.getD k 0 = 0 := by
  have hsize : kFixedHeaderSize = 80 := rfl
  refine forall₂_congr fun k hk => ?_
  have hk' : k < n := by
    simp only [kReservedOffsets, List.mem_cons, List.not_mem_nil, or_false] at hk
    omega
  rw [List.getD_eq_getElem?_getD, List.getD_eq_getElem?_getD, List.getElem?_take_of_lt hk']

/-- A slice of the front of the data. -/
theorem slice_take {k n m : ℕ} (h : k + n ≤ m) : slice (data.take m) k n = slice data k n := by
  rw [slice, slice, List.drop_take, List.take_take, Nat.min_eq_left (by omega)]

end reserved

/-! ### Decoding -/

/-- What the decoder found out about bytes it accepted. -/
structure Accepted (data : Bytes) (fields : VariableFields) : Prop where
  hasMagic : hasMagic data = true
  versions : data.getD 4 0 = kProtocolMajor ∧ data.getD 5 0 = kHeaderVersion ∧
    readU16 (data.drop 18) = kSchemaVersion
  headerLen : kFixedHeaderSize ≤ (readU16 (data.drop 8)).toNat
  payloadLen : (readU32 (data.drop 10)).toNat ≤ kMaxPayloadBytes
  length : (readU16 (data.drop 8)).toNat + (readU32 (data.drop 10)).toNat + kTrailerSize ≤
    data.length
  enumerations : validQos (data.getD 14 0) = true ∧ validFamily (data.getD 15 0) = true ∧
    validScope (data.getD 72 0) = true
  fields_eq : readVariable data (readU16 (data.drop 8)).toNat = some fields
  acceptable : acceptable (readHeader data fields) = true
  checksum : readU32 (data.drop ((readU16 (data.drop 8)).toNat + (readU32 (data.drop 10)).toNat)) =
    checksum (data.take ((readU16 (data.drop 8)).toNat + (readU32 (data.drop 10)).toNat))

/-- The envelope of accepted bytes. -/
def acceptedEnvelope (data : Bytes) (fields : VariableFields) : Envelope :=
  { readHeader data fields with
    payload := slice data (readU16 (data.drop 8)).toNat (readU32 (data.drop 10)).toNat
    checksum := readU32
      (data.drop ((readU16 (data.drop 8)).toNat + (readU32 (data.drop 10)).toNat)) }

theorem decode_of_ok {data : Bytes} (h : (decode data).code = .ok) :
    ∃ fields, Accepted data fields ∧
      decode data =
        { code := .ok
          consumed :=
            (readU16 (data.drop 8)).toNat + (readU32 (data.drop 10)).toNat + kTrailerSize
          envelope := acceptedEnvelope data fields } := by
  revert h
  fun_cases decode data with
  | case10 hshort hmagic hversion headerLen payloadLen hlen totalLen htotal henums fields
      hvariable value hacceptable wireChecksum hchecksum =>
    intro _
    have hsum : totalLen - kTrailerSize = headerLen + payloadLen := Nat.add_sub_cancel _ _
    have hword : wireChecksum = readU32 (data.drop (headerLen + payloadLen)) :=
      congrArg (fun k => readU32 (data.drop k)) hsum
    simp only [Bool.not_eq_true', Bool.not_eq_false, Bool.or_eq_true, not_or, not_not,
      Nat.not_lt] at hmagic hversion hlen htotal henums hacceptable hchecksum
    rw [hsum, hword] at hchecksum
    refine ⟨fields, ⟨hmagic, hversion, hlen.1, hlen.2, htotal, ?_, hvariable, hacceptable,
      hchecksum⟩, ?_⟩
    · exact ⟨henums.1.1, henums.1.2, henums.2⟩
    · rw [hword]
      rfl
  | _ => exact fun h => ErrorCode.noConfusion h

section accepted

variable {data : Bytes} {fields : VariableFields}

/-- **Every check of the encoder is implied by one of the decoder.** -/
theorem Accepted.wellFormed (h : Accepted data fields) :
    WellFormed (acceptedEnvelope data fields) := by
  have hlength : kTrailerSize = 4 := rfl
  obtain ⟨-, huids, htag, hsize, -⟩ :=
    readVariable_sound (by have := h.length; omega) h.headerLen h.fields_eq
  obtain ⟨hmajor, hheader, hschema⟩ := h.versions
  have hacceptable := h.acceptable
  simp only [WireCodec.acceptable, Bool.and_eq_true, Bool.or_eq_true, beq_iff_eq,
    Bool.eq_iff_iff (b := List.isEmpty _), List.isEmpty_iff, List.all_eq_true] at hacceptable
  obtain ⟨⟨⟨⟨hendpoint, hentity⟩, htype⟩, hscope⟩, hvalid⟩ := hacceptable
  have hpayload : (slice data (readU16 (data.drop 8)).toNat (readU32 (data.drop 10)).toNat).length =
      (readU32 (data.drop 10)).toNat := length_slice (by have := h.length; omega)
  have hvariable : kFixedHeaderSize + variableSize (acceptedEnvelope data fields) =
      (readU16 (data.drop 8)).toNat := hsize
  have hword : (readU16 (data.drop 8)).toNat ≤ uint16Max := Nat.le_of_lt_succ (UInt16.toNat_lt _)
  refine ⟨(encodable_iff _).mpr ⟨hmajor, hheader, hschema, hendpoint, hentity, htype, ?_, huids,
    hscope, hvalid, ?_, htag⟩, hvariable.symm, hpayload.symm⟩
  · exact hpayload.trans_le h.payloadLen
  · omega

/-- **Every byte is kept in some field**, but for the reserved ones. -/
theorem Accepted.frameBody (h : Accepted data fields) :
    frameBody (acceptedEnvelope data fields) = zeroReserved
      (data.take ((readU16 (data.drop 8)).toNat + (readU32 (data.drop 10)).toNat)) := by
  obtain ⟨hmagic, -, hheader, -, hlength, ⟨hqos, hfamily, hscope⟩, hfields, -, -⟩ := h
  obtain ⟨hlengths, -, -, -, hvariable⟩ := readVariable_sound (by omega) hheader hfields
  have hpart : variablePart (readHeader data fields) = slice data kFixedHeaderSize
      ((readU16 (data.drop 8)).toNat - kFixedHeaderSize) := hvariable
  have hsize : kFixedHeaderSize = 80 := rfl
  have hfixed := fixedHeader_readHeader (by omega) hmagic hqos hfamily hscope hlengths
  generalize hn : (readU16 (data.drop 8)).toNat = headerLen at hheader hlength hpart
  generalize hm : (readU32 (data.drop 10)).toNat = payloadLen at hlength
  have htaken : (data.take (headerLen + payloadLen)).length = headerLen + payloadLen := by
    rw [List.length_take]
    omega
  -- the variable part and the payload stand one behind the other
  have htail : slice data kFixedHeaderSize (headerLen + payloadLen - kFixedHeaderSize) =
      slice data kFixedHeaderSize (headerLen - kFixedHeaderSize) ++
        slice data headerLen payloadLen := by
    have hsum : headerLen + payloadLen - kFixedHeaderSize =
        (headerLen - kFixedHeaderSize) + payloadLen := by omega
    rw [hsum, slice_add, Nat.add_sub_cancel' hheader]
  rw [zeroReserved_eq (by omega), htaken, slice_take (by omega), slice_take (by omega),
    slice_take (by omega), slice_take (by omega), htail, ← hpart]
  calc WireCodec.frameBody (acceptedEnvelope data fields)
      = fixedHeader (readHeader data fields) ++ (variablePart (readHeader data fields) ++
          slice data headerLen payloadLen) := by
        rw [← hn, ← hm]
        rfl
    _ = _ := by
        rw [hfixed]
        simp only [List.append_assoc, List.cons_append, List.nil_append]

end accepted

theorem encode_of_wellFormed {value : Envelope} (hv : WellFormed value) (now : UInt64) :
    encode value false now = frame value := by
  unfold encode
  rw [if_neg (by simp [hv.encodable])]
  exact if_neg (by simp [hv.headerLen, hv.payloadLen])

/-- **What was decoded is encoded as it was received**, up to the reserved bytes and the
checksum over them. -/
theorem encode_decode {data : Bytes} (h : (decode data).code = .ok) (now : UInt64) :
    let value := (decode data).envelope
    let body := zeroReserved (data.take ((decode data).consumed - kTrailerSize))
    encode value false now ≠ [] ∧
      (encode value false now).length = (decode data).consumed ∧
      encode value false now = body ++ appendU32 (checksum body) ∧
      (encode value false now = data.take (decode data).consumed ↔
        ∀ k ∈ kReservedOffsets, data.getD k 0 = 0) := by
  obtain ⟨fields, haccepted, hdecode⟩ := decode_of_ok h
  have hwf := haccepted.wellFormed
  have hlength : (frame (acceptedEnvelope data fields)).length = (readU16 (data.drop 8)).toNat +
      (readU32 (data.drop 10)).toNat + kTrailerSize := length_frame hwf
  have hbody := haccepted.frameBody
  obtain ⟨-, -, hheader, -, hfits, -, -, -, hchecksum⟩ := haccepted
  rw [hdecode]
  dsimp only
  rw [encode_of_wellFormed hwf]
  generalize hn : (readU16 (data.drop 8)).toNat + (readU32 (data.drop 10)).toNat = bodyLen at *
  have hsize : kFixedHeaderSize = 80 := rfl
  have htrailer : kTrailerSize = 4 := rfl
  have htaken : (data.take bodyLen).length = bodyLen := by
    rw [List.length_take]
    omega
  have hwhole : data.take (bodyLen + kTrailerSize) =
      data.take bodyLen ++ appendU32 (checksum (data.take bodyLen)) := by
    rw [← hchecksum, appendU32_readU32 (by rw [List.length_drop]; omega), List.take_add]
    rfl
  have hcut : bodyLen + kTrailerSize - kTrailerSize = bodyLen := Nat.add_sub_cancel _ _
  have hframe : frame (acceptedEnvelope data fields) = zeroReserved (data.take bodyLen) ++
      appendU32 (checksum (zeroReserved (data.take bodyLen))) := by
    rw [frame, hbody]
  rw [hcut]
  refine ⟨?_, hlength, hframe, ?_⟩
  · exact List.ne_nil_of_length_pos (by omega)
  · have hle : kFixedHeaderSize ≤ bodyLen := by omega
    rw [hwhole, hframe, ← reserved_take hle, ← zeroReserved_eq_self_iff (by omega)]
    -- The checksums follow the bodies, so the frames agree where the reserved bytes do.
    constructor
    · intro heq
      exact (List.append_inj' heq rfl).1
    · intro heq
      rw [heq]

/-- A frame that uses a reserved byte, with the start of another behind it. -/
def reservedSample : Bytes :=
  let body := (frameBody (fillHeader sampleEnvelope 0)).set 17 5
  body ++ appendU32 (checksum body) ++ [89, 76]

theorem encode_decode_reservedSample :
    (decode reservedSample).code = .ok ∧
      encode (decode reservedSample).envelope false 0 ≠ [] ∧
      encode (decode reservedSample).envelope false 0 ≠
        reservedSample.take (decode reservedSample).consumed := by
  have hok : (decode reservedSample).code = .ok := by decide +kernel
  obtain ⟨hne, -, -, hiff⟩ := encode_decode hok 0
  refine ⟨hok, hne, fun heq => ?_⟩
  exact absurd (hiff.mp heq 17 (by decide)) (by decide)

end WireCodec

end YunLink
