import YunLink.Lib.Joined
import YunLink.Runtime.Send
import YunLink.Wire.RoundTrip

/-!
# The keys of ReliableLatest streams

`latest_key` (`runtime_api.cpp`) names the stream of an envelope, so that a newer sample
replaces an older one that is still queued.  It writes the fields one behind the other
with colons between them, and three of them may hold colons themselves: the UID of the
entity, those of the targets, and the profile; the name of the type may hold anything.
Two streams have one key when a colon of the one falls on a boundary of the other.

## Main definitions

* `keyFields` — the fields in the key.
* `SameStream` — the envelopes that a replacement may exchange.
* `Shifted` — the fields have the same pieces between colons, spread differently.

## Main results

* `keyFields_eq_iff` — the fields of the key tell the stream.
* `latestKey_separates_iff` — **one key is one stream exactly when nothing is shifted.**
-/

namespace YunLink

open WireCodec

/-! ### Numbers in a key -/

/-- A digit is read back from its byte. -/
theorem char_of_digit {c : Char} (h : c.isDigit) : Char.ofNat (UInt8.ofNat c.toNat).toNat = c := by
  have hle : c.toNat ≤ 57 := (Char.isDigit_iff_toNat.mp h).2
  have hsmall : c.toNat < 256 := by omega
  rw [UInt8.toNat_ofNat_of_lt' hsmall, Char.ofNat_toNat]

/-- The digits of a number are read back from its text. -/
theorem map_decimal (n : ℕ) : (decimal n).map (fun b => Char.ofNat b.toNat) = Nat.toDigits 10 n := by
  have hrepr : (toString n).toList = Nat.toDigits 10 n := Nat.toList_repr
  rw [decimal, ascii, List.map_map, hrepr]
  conv_rhs => rw [← List.map_id (Nat.toDigits 10 n)]
  refine List.map_congr_left fun c hc => ?_
  exact char_of_digit (Nat.isDigit_of_mem_toDigits (by decide) (by decide) hc)

/-- A number is told by its text. -/
theorem decimal_injective : Function.Injective decimal := by
  intro n m h
  have hdigits : Nat.toDigits 10 n = Nat.toDigits 10 m := by
    rw [← map_decimal, h, map_decimal]
  calc n = Nat.ofDigitChars 10 (Nat.toDigits 10 n) 0 := (Nat.ofDigitChars_ten_toDigits).symm
    _ = Nat.ofDigitChars 10 (Nat.toDigits 10 m) 0 := by rw [hdigits]
    _ = m := Nat.ofDigitChars_ten_toDigits

/-! ### The key -/

/-- `:`. -/
def kColon : UInt8 := 58

/-- `,`. -/
def kComma : UInt8 := 44

/-- The texts that `latest_key` puts colons between. -/
def keyFields (envelope : Envelope) : List Text :=
  [decimal envelope.sessionId.toNat, decimal envelope.family.toUInt8.toNat,
    envelope.source.entityUid, decimal envelope.target.scope.toUInt8.toNat,
    envelope.target.uids.flatMap (fun uid => uid ++ [kComma]), envelope.type.profileId,
    decimal envelope.type.major.toNat, decimal envelope.type.minor.toNat, envelope.type.typeName]

/-- Samples of one stream, of which a newer replaces an older. -/
structure SameStream (a b : Envelope) : Prop where
  sessionId : a.sessionId = b.sessionId
  family : a.family = b.family
  entityUid : a.source.entityUid = b.source.entityUid
  scope : a.target.scope = b.target.scope
  uids : a.target.uids = b.target.uids
  type : a.type = b.type

/-- The fields of both, cut at their colons, are the same pieces, but not every field has
as many colons as its counterpart. -/
def Shifted (a b : Envelope) : Prop :=
  Joined.pieces kColon (keyFields a) = Joined.pieces kColon (keyFields b) ∧
    (keyFields a).map (List.count kColon) ≠ (keyFields b).map (List.count kColon)

theorem latestKey_eq (envelope : Envelope) :
    latestKey envelope = [kColon].intercalate (keyFields envelope) := by
  have hcolon : ascii ":" = [kColon] := rfl
  have hcomma : ascii "," = [kComma] := rfl
  simp [latestKey, keyFields, List.intercalate_cons_cons, hcolon, hcomma]

/-- A UID holds no comma. -/
theorem kComma_notMem_of_validUid {uid : Text} (h : validUid uid = true) : kComma ∉ uid := by
  intro hmem
  unfold validUid at h
  split at h
  · cases h
  · exact absurd (List.all_eq_true.mp h _ hmem) (by decide)

/-- **The fields of the key tell the stream.** -/
theorem keyFields_eq_iff {a b : Envelope} (ha : ∀ uid ∈ a.target.uids, validUid uid = true)
    (hb : ∀ uid ∈ b.target.uids, validUid uid = true) :
    keyFields a = keyFields b ↔ SameStream a b := by
  constructor
  · intro h
    simp only [keyFields, List.cons.injEq, and_true] at h
    obtain ⟨hsession, hfamily, hentity, hscope, huids, hprofile, hmajor, hminor, hname⟩ := h
    refine ⟨?_, ?_, hentity, ?_, ?_, ?_⟩
    · exact UInt64.toNat_inj.mp (decimal_injective hsession)
    · have hbyte := UInt8.toNat_inj.mp (decimal_injective hfamily)
      rw [← MessageFamily.ofUInt8_toUInt8 a.family, hbyte, MessageFamily.ofUInt8_toUInt8]
    · have hbyte := UInt8.toNat_inj.mp (decimal_injective hscope)
      rw [← TargetScope.ofUInt8_toUInt8 a.target.scope, hbyte, TargetScope.ofUInt8_toUInt8]
    · exact Joined.flatMap_terminated_injective
        (fun uid huid => kComma_notMem_of_validUid (ha uid huid))
        (fun uid huid => kComma_notMem_of_validUid (hb uid huid)) huids
    · have hmajor' := UInt16.toNat_inj.mp (decimal_injective hmajor)
      have hminor' := UInt16.toNat_inj.mp (decimal_injective hminor)
      cases ha : a.type
      cases hb : b.type
      simp only [ha, hb] at hprofile hmajor' hminor' hname
      rw [hprofile, hmajor', hminor', hname]
  · intro h
    simp only [keyFields, h.sessionId, h.family, h.entityUid, h.scope, h.uids, h.type]

/-- **One key is one stream exactly when nothing is shifted**, for envelopes that are
encoded. -/
theorem latestKey_separates_iff (a b : Envelope) (auto auto' : Bool) (now now' : UInt64)
    (ha : encode a auto now ≠ []) (hb : encode b auto' now' ≠ []) :
    (latestKey a = latestKey b → SameStream a b) ↔ ¬ Shifted a b := by
  have huids : ∀ {e : Envelope} {auto : Bool} {now : UInt64}, encode e auto now ≠ [] →
      ∀ uid ∈ e.target.uids, validUid uid = true := by
    intro e auto now h
    obtain ⟨hv, -⟩ := encode_eq_frame h
    have htarget : (filled e auto now).target = e.target := by cases auto <;> rfl
    obtain ⟨-, -, -, -, -, -, -, -, -, hvalid, -⟩ := (encodable_iff _).mp hv.encodable
    rw [htarget] at hvalid
    exact hvalid
  rw [latestKey_eq, latestKey_eq, ← keyFields_eq_iff (huids ha) (huids hb)]
  exact Joined.intercalate_separates_iff (List.cons_ne_nil _ _) (List.cons_ne_nil _ _)

/-- The key tells the sample from a stream of another profile. -/
theorem latestKey_separates_sampleEnvelope :
    let a := sampleEnvelope
    let b : Envelope := { sampleEnvelope with type := ⟨ascii "p", 1, 2, ascii "T"⟩ }
    ((latestKey a = latestKey b → SameStream a b) ↔ ¬ Shifted a b) ∧ latestKey a ≠ latestKey b := by
  intro a b
  refine ⟨latestKey_separates_iff a b true true 7 7 ?_ ?_, ?_⟩
  · decide
  · decide
  · decide

/-- Types of two profiles: `p` with a type named `3:T`, and `p:1` with a type named `T`. -/
theorem shiftedType_sameKey :
    let a : Envelope := { sampleEnvelope with type := ⟨ascii "p", 1, 2, ascii "3:T"⟩ }
    let b : Envelope := { sampleEnvelope with type := ⟨ascii "p:1", 2, 3, ascii "T"⟩ }
    encode a true 7 ≠ [] ∧ encode b true 7 ≠ [] ∧ latestKey a = latestKey b ∧
      ¬ SameStream a b := by
  intro a b
  refine ⟨by decide, by decide, by decide, fun h => ?_⟩
  exact absurd (congrArg TypeRef.major h.type) (by decide)

end YunLink
