import Mathlib.Data.List.Induction
import YunLink.Discovery.Codec

/-!
# Discovery datagrams come back

A datagram that was written is read with the same secret.  The three formats share one writer
and one reader, which leave the same fields out.

## Main definitions

* `Discovery.magicOf` — the magic that is written of a version.
* `Discovery.DiscoveryAdvertisement.project` — what a format carries of an advertisement.

## Main results

* `Discovery.authenticated_append` — a datagram with its tag is authenticated.
* `Discovery.yields_format` — the magic of a format announces it.
* `Discovery.yields_reply` — what is written of an advertisement is read as what the format
  keeps of it.
* `Discovery.discovery_roundTrip` — **a query is read as itself, and a reply as what its format
  carries.**
-/

namespace YunLink.Discovery

open Codec

/-! ### Words -/

theorem ofBigEndian16_cons (a b : UInt8) (rest : Bytes) :
    ofBigEndian16 (a :: b :: rest) = YunLink.readU16 [b, a] :=
  UInt16.or_comm _ _

/-- Bytes assembled from the other end give the same word. -/
theorem or_reverse32 (p q r s : UInt32) :
    0 ||| p ||| q ||| r ||| s = 0 ||| s ||| r ||| q ||| p := by
  ac_rfl

theorem or_reverse64 (p q r s t u v w : UInt64) :
    0 ||| p ||| q ||| r ||| s ||| t ||| u ||| v ||| w =
      0 ||| w ||| v ||| u ||| t ||| s ||| r ||| q ||| p := by
  ac_rfl

theorem ofBigEndian32_cons (a b c d : UInt8) (rest : Bytes) :
    ofBigEndian32 (a :: b :: c :: d :: rest) = YunLink.readU32 [d, c, b, a] :=
  or_reverse32 _ _ _ _

theorem ofBigEndian64_cons (a b c d e f g h : UInt8) (rest : Bytes) :
    ofBigEndian64 (a :: b :: c :: d :: e :: f :: g :: h :: rest) =
      YunLink.readU64 [h, g, f, e, d, c, b, a] :=
  or_reverse64 _ _ _ _ _ _ _ _

theorem ofBigEndian16_append (value : UInt16) (rest : Bytes) :
    ofBigEndian16 (bigEndian16 value ++ rest) = value :=
  (ofBigEndian16_cons _ _ rest).trans (readU16_append value [])

theorem ofBigEndian32_append (value : UInt32) (rest : Bytes) :
    ofBigEndian32 (bigEndian32 value ++ rest) = value :=
  (ofBigEndian32_cons _ _ _ _ rest).trans (readU32_append value [])

theorem ofBigEndian64_append (value : UInt64) (rest : Bytes) :
    ofBigEndian64 (bigEndian64 value ++ rest) = value :=
  (ofBigEndian64_cons _ _ _ _ _ _ _ _ rest).trans (readU64_append value [])

/-- One more byte behind those that were read. -/
theorem toNat_shiftIn (supplied : UInt64) (byte : UInt8) (h : supplied.toNat < 2 ^ 56) :
    (shiftIn supplied byte).toNat = byte.toNat + 256 * supplied.toNat := by
  have hshift : supplied.toNat <<< 8 % 2 ^ 64 = supplied.toNat <<< 8 := by
    rw [Nat.shiftLeft_eq]
    exact Nat.mod_eq_of_lt (by omega)
  have hbyte : byte.toNat < 2 ^ 8 := byte.toNat_lt
  rw [shiftIn, UInt64.toNat_or, UInt64.toNat_shiftLeft, UInt8.toNat_toUInt64]
  show supplied.toNat <<< 8 % 2 ^ 64 ||| byte.toNat = _
  rw [hshift, Nat.or_comm, Words.or_shiftLeft_eq_add hbyte]
  omega

/-- The bytes of a number, most significant first. -/
theorem toNat_foldl_shiftIn {bytes : Bytes} (h : bytes.length ≤ 8) :
    (bytes.foldl shiftIn 0).toNat =
      Words.leValue bytes.reverse := by
  induction bytes using List.reverseRecOn with
  | nil => rfl
  | append_singleton bytes byte ih =>
    rw [List.length_append, List.length_singleton] at h
    have hvalue := ih (by omega)
    have hlt := Words.leValue_lt bytes.reverse
    rw [List.foldl_append, List.reverse_append]
    simp only [List.foldl_cons, List.foldl_nil]
    rw [toNat_shiftIn _ byte ?_, hvalue]
    · rfl
    · rw [hvalue]
      rw [List.length_reverse] at hlt
      refine hlt.trans_le ?_
      calc 256 ^ bytes.length ≤ 256 ^ 7 := Nat.pow_le_pow_right (by decide) (by omega)
        _ = 2 ^ 56 := by decide

theorem foldl_shiftIn_bigEndian64 (value : UInt64) :
    (bigEndian64 value).foldl shiftIn 0 = value := by
  apply UInt64.toNat_inj.mp
  rw [toNat_foldl_shiftIn (by rfl)]
  exact (congrArg Words.leValue (appendU64_eq_leBytes value)).trans
    (Words.leValue_leBytes 8 _ value.toNat_lt)

/-! ### Fields -/

section fields

theorem yields_u8 (value : UInt8) (w : Writer) : Yields readU8 w (w.u8 value) (some value) :=
  .put (fun _ => rfl) w

theorem yields_u16 (value : UInt16) (w : Writer) : Yields readU16 w (w.u16 value) (some value) :=
  yields_word value rfl (ofBigEndian16_append value) w

theorem yields_u32 (value : UInt32) (w : Writer) : Yields readU32 w (w.u32 value) (some value) :=
  yields_word value rfl (ofBigEndian32_append value) w

theorem yields_u64 (value : UInt64) (w : Writer) : Yields readU64 w (w.u64 value) (some value) :=
  yields_word value rfl (ofBigEndian64_append value) w

theorem yields_text (value : Text) (w : Writer) :
    Yields readText w (w.text value) (some value) := by
  unfold Writer.text
  split
  · exact .invalidate w _
  next h =>
  refine (yields_u16 _ w).bind (.put (fun rest => ?_) _)
  simp [toNat_ofNat_of_le (Nat.le_of_not_lt h)]

/-- The loop over the attributes goes over those that were written. -/
theorem yields_attributesLoop (m : SortedMap Text Text) :
    ∀ (todo : List (Text × Text)) (values : SortedMap Text Text) (w : Writer),
      values.entries ++ todo = m.entries →
      Yields (readAttributesLoop todo.length values) w (Writer.attributesLoop w todo) (some m) := by
  intro todo
  induction todo with
  | nil =>
    intro values w hsplit
    have hsame : values = m := by
      cases values
      cases m
      simpa using hsplit
    rw [hsame]
    exact .pure m w
  | cons e todo ih =>
    intro values w hsplit
    unfold Writer.attributesLoop
    split
    · next hfits =>
      have hsorted := m.sorted
      rw [← hsplit] at hsorted
      have hbehind : ∀ d ∈ values.entries, d.1 < e.1 := fun d hd =>
        (List.pairwise_append.mp hsorted).2.2 d hd e List.mem_cons_self
      obtain ⟨hnone, hinsert⟩ := SortedMap.entries_insert_of_lt hbehind e.2
      simp only [Writer.fits, Bool.not_eq_true', Bool.or_eq_false_iff, decide_eq_false_iff_not,
        Nat.not_lt] at hfits
      obtain ⟨⟨hempty, hkey⟩, hvalue⟩ := hfits
      refine (yields_checked (yields_text e.1 w) ?_).bind ?_
      · simp [hempty, hkey]
      refine (yields_checked (yields_text e.2 _) (by simpa using hvalue)).bind ?_
      -- the keys come in ascending order, so the loop has not met this one
      refine .check ?_ (ih _ _ ?_)
      · rw [hnone]
        rfl
      · rw [hinsert, List.append_assoc]
        exact hsplit
    · exact .invalidate w _

/-- A count of at most 255 is in its byte. -/
theorem toNat_ofNat_of_le_uint8Max {n : ℕ} (h : n ≤ uint8Max) : (UInt8.ofNat n).toNat = n :=
  UInt8.toNat_ofNat_of_lt' (Nat.lt_succ_of_le h)

theorem yields_attributes (m : SortedMap Text Text) (w : Writer) :
    Yields readAttributes w (w.attributes m) (some m) := by
  unfold Writer.attributes
  split
  · exact .invalidate w _
  next h =>
  have hle : m.entries.length ≤ kMaxAttributeCount := Nat.le_of_not_lt h
  have hcount := toNat_ofNat_of_le_uint8Max (hle.trans (by decide))
  refine (yields_checked (yields_u8 (UInt8.ofNat m.entries.length) w) ?_).bind ?_
  · rw [hcount]
    exact decide_eq_true hle
  · rw [hcount]
    exact yields_attributesLoop m m.entries .empty _ rfl

theorem yields_counted {α β : Type} {item : PayloadReader β} {write : Writer → α → Writer}
    {image : α → β} {values : List α} (hlength : values.length ≤ uint8Max)
    (h : ∀ a w, Yields item w (write w a) (some (image a))) (w : Writer) :
    Yields (readCounted item) w (w.counted values write) (some (values.map image)) := by
  refine (Discovery.yields_u8 (UInt8.ofNat values.length) w).bind ?_
  rw [toNat_ofNat_of_le_uint8Max hlength, list_eq_times]
  have htimes := Yields.times values (w.u8 (UInt8.ofNat values.length)) fun a _ w => h a w
  have hall : values.mapM (fun a => some (image a)) = some (values.map image) := by
    simpa using List.mapM_pure (m := Option) (l := values) (f := image)
  rwa [hall] at htimes

theorem yields_counted_self {α : Type} {item : PayloadReader α} {write : Writer → α → Writer}
    {values : List α} (hlength : values.length ≤ uint8Max)
    (h : ∀ a w, Yields item w (write w a) (some a)) (w : Writer) :
    Yields (readCounted item) w (w.counted values write) (some values) := by
  have hcounted := yields_counted hlength h w
  rwa [List.map_id'] at hcounted

/-- A field that may be left out is read as its default then. -/
theorem yields_if {α : Type} {present : Bool} {reader : PayloadReader α}
    {write : Writer → α → Writer} {value default : α} (w : Writer)
    (h : ∀ w, Yields reader w (write w value) (some value)) :
    Yields (readIf present reader default) w (writeIf present write w value)
      (some (if present then value else default)) := by
  cases present with
  | false => exact .pure default w
  | true => exact h w

/-- A field that has to have this value. -/
theorem yields_equal {α : Type} [BEq α] [LawfulBEq α] {reader : PayloadReader α} {value : α}
    {w w' : Writer} (h : Yields reader w w' (some value)) :
    Yields (PayloadReader.checked reader fun read => read == value) w w' (some value) :=
  yields_checked h (beq_self_eq_true value)

theorem magic_append (expected rest : Bytes) :
    magic expected (expected ++ rest) = some ((), rest) := by
  simp [magic]

theorem magic_of_ne {other expected : Bytes} (hlength : other.length = expected.length)
    (hne : other ≠ expected) (rest : Bytes) : magic expected (other ++ rest) = none := by
  have htake : (other ++ rest).take expected.length = other := by rw [← hlength, List.take_left]
  simp [magic, htake, hne]

theorem orElse_apply {α : Type} (first second : PayloadReader α) (input : Bytes) :
    (first <|> second) input = (first input <|> second input) := rfl

/-- A magic is followed by what it announces. -/
theorem announce_append (expected rest : Bytes) (version : UInt8) :
    (do magic expected; pure version : PayloadReader UInt8) (expected ++ rest) =
      some (version, rest) :=
  Codec.Reader.bind_eq_some.mpr ⟨(), rest, magic_append expected rest, rfl⟩

theorem announce_of_ne {other expected : Bytes} (hlength : other.length = expected.length)
    (hne : other ≠ expected) (rest : Bytes) (version : UInt8) :
    (do magic expected; pure version : PayloadReader UInt8) (other ++ rest) = none := by
  rw [Option.eq_none_iff_forall_ne_some]
  rintro ⟨version', rest'⟩ h
  obtain ⟨_, _, hmagic, -⟩ := Codec.Reader.bind_eq_some.mp h
  rw [magic_of_ne hlength hne] at hmagic
  exact absurd hmagic (by simp)

/-- The magic that is written of a version. -/
def magicOf (magicV4 magicV3 magicV2 : Bytes) (version : UInt8) : Bytes :=
  if version = 4 then magicV4 else if version = 3 then magicV3 else magicV2

/-- The magic that `encode_discovery_reply` picks. -/
theorem ite_le_eq_magicOf {version : UInt8} (hversion : version = 2 ∨ version = 3 ∨ version = 4)
    (magicV4 magicV3 magicV2 : Bytes) :
    (if decide (kDiscoveryFormatV4 ≤ version) then magicV4
      else if decide (kDiscoveryFormatV3 ≤ version) then magicV3
      else magicV2) = magicOf magicV4 magicV3 magicV2 version := by
  rcases hversion with rfl | rfl | rfl <;> rfl

/-- **The magic of a format announces it.** -/
theorem yields_format {magicV4 magicV3 magicV2 : Bytes} (h34 : magicV3.length = magicV4.length)
    (h24 : magicV2.length = magicV4.length) (hne34 : magicV3 ≠ magicV4)
    (hne24 : magicV2 ≠ magicV4) (hne23 : magicV2 ≠ magicV3) {version : UInt8}
    (hversion : version = 2 ∨ version = 3 ∨ version = 4) (w : Writer) :
    Yields (readFormat magicV4 magicV3 magicV2) w
      (w.bytes (magicOf magicV4 magicV3 magicV2 version)) (some version) := by
  refine .put (fun rest => ?_) w
  rw [readFormat, orElse_apply, orElse_apply]
  rcases hversion with rfl | rfl | rfl
  · have hmagic : magicOf magicV4 magicV3 magicV2 2 = magicV2 := rfl
    rw [hmagic, announce_of_ne h24 hne24, announce_of_ne (h24.trans h34.symm) hne23,
      announce_append]
    rfl
  · have hmagic : magicOf magicV4 magicV3 magicV2 3 = magicV3 := rfl
    rw [hmagic, announce_of_ne h34 hne34, announce_append]
    rfl
  · have hmagic : magicOf magicV4 magicV3 magicV2 4 = magicV4 := rfl
    rw [hmagic, announce_append]
    rfl

end fields

/-! ### Whole datagrams -/

theorem drop_data_append (data tag : Bytes) (h : tag.length = 8) :
    (data ++ tag).take ((data ++ tag).length - 8) = data ∧
      (data ++ tag).drop ((data ++ tag).length - 8) = tag := by
  have hlength : (data ++ tag).length - 8 = data.length := by rw [List.length_append, h]; rfl
  rw [hlength, List.take_left, List.drop_left]
  exact ⟨rfl, rfl⟩

/-- **A datagram with its tag is authenticated.** -/
theorem authenticated_append (data : Bytes) (secret : Text) :
    authenticated (data ++ bigEndian64 (authTag secret data)) secret = true := by
  obtain ⟨hdata, htag⟩ := drop_data_append data (bigEndian64 (authTag secret data)) rfl
  have hlength : 8 ≤ (data ++ bigEndian64 (authTag secret data)).length := by
    rw [List.length_append]
    exact Nat.le_add_left _ _
  rw [authenticated, if_neg (Nat.not_lt.mpr hlength), suppliedTag, hdata, htag,
    foldl_shiftIn_bigEndian64]
  exact beq_self_eq_true _

theorem finish_of_ne_nil {w : Writer} {secret : Text} (h : w.finish secret ≠ []) :
    w.valid = true ∧ w.data.length + 8 ≤ kMaxDiscoveryBytes ∧
      w.finish secret = w.data ++ bigEndian64 (authTag secret w.data) := by
  unfold Writer.finish at h ⊢
  split at h
  · exact absurd rfl h
  next hchecked =>
  rw [if_neg hchecked]
  simp only [Bool.not_eq_true', Bool.or_eq_true, decide_eq_true_eq, not_or, Nat.not_lt,
    Bool.not_eq_false] at hchecked
  exact ⟨hchecked.1, hchecked.2, rfl⟩

/-- What is written in front of the tag is read in front of it. -/
theorem decodeAll_finish {α : Type} {reader : PayloadReader α} {w : Writer} {out : α}
    {secret : Text} (h : Yields reader {} w (some out)) (hne : w.finish secret ≠ []) :
    decodeAll reader ((w.finish secret).take ((w.finish secret).length - 8)) = some out := by
  obtain ⟨hvalid, -, hfinish⟩ := finish_of_ne_nil hne
  have hread := decodeAll_take h hvalid
  rw [Buffer.take_of_valid hvalid] at hread
  rw [hfinish, (drop_data_append w.data _ rfl).1, hread]

/-! ### Queries -/

theorem yields_queryFormat {version : UInt8}
    (hversion : version = 2 ∨ version = 3 ∨ version = 4) (w : Writer) :
    Yields (readFormat kQueryMagicV4 kQueryMagicV3 kQueryMagicV2) w
      (w.bytes (magicOf kQueryMagicV4 kQueryMagicV3 kQueryMagicV2 version)) (some version) := by
  refine yields_format ?_ ?_ ?_ ?_ ?_ hversion w <;> decide

theorem yields_query {query : DiscoveryQuery} (hversion : query.formatVersion = 2 ∨
    query.formatVersion = 3 ∨ query.formatVersion = 4) :
    Yields readQuery {} (((Writer.bytes {} (magicOf kQueryMagicV4 kQueryMagicV3 kQueryMagicV2
      query.formatVersion)).u64 query.nonce).u16 query.responseWindowMs) (some query) := by
  refine (yields_queryFormat hversion {}).bind ?_
  refine (yields_u64 query.nonce _).bind ?_
  exact (yields_u16 query.responseWindowMs _).bind (.pure query _)

/-- What is known of a query that can be written. -/
theorem encodeDiscoveryQuery_of_ne_nil {query : DiscoveryQuery} {secret : Text}
    (h : encodeDiscoveryQuery query secret ≠ []) :
    (query.nonce ≠ 0 ∧ query.responseWindowMs ≠ 0) ∧
    (query.formatVersion = 2 ∨ query.formatVersion = 3 ∨ query.formatVersion = 4) ∧
    encodeDiscoveryQuery query secret =
      (((Writer.bytes {} (magicOf kQueryMagicV4 kQueryMagicV3 kQueryMagicV2
        query.formatVersion)).u64 query.nonce).u16 query.responseWindowMs).finish secret := by
  unfold encodeDiscoveryQuery at h ⊢
  split at h
  · exact absurd rfl h
  next hchecked =>
  rw [if_neg hchecked]
  simp only [Bool.or_eq_true, Bool.and_eq_true, beq_iff_eq, bne_iff_ne, not_or, not_and,
    kDiscoveryFormatV2, kDiscoveryFormatV3, kDiscoveryFormatV4] at hchecked
  refine ⟨hchecked.1, ?_, ?_⟩
  · by_cases h2 : query.formatVersion = 2
    · exact Or.inl h2
    by_cases h3 : query.formatVersion = 3
    · exact Or.inr (Or.inl h3)
    · exact Or.inr (Or.inr (not_not.mp (hchecked.2 ⟨h2, h3⟩)))
  · simp only [magicOf, beq_iff_eq, kDiscoveryFormatV3, kDiscoveryFormatV4]

/-- **A query that is written is read as itself.** -/
theorem decodeDiscoveryQuery_encodeDiscoveryQuery {query : DiscoveryQuery} {secret : Text}
    (h : encodeDiscoveryQuery query secret ≠ []) :
    decodeDiscoveryQuery (encodeDiscoveryQuery query secret) secret = some query := by
  obtain ⟨⟨hnonce, hwindow⟩, hversion, hencode⟩ := encodeDiscoveryQuery_of_ne_nil h
  rw [hencode] at h ⊢
  obtain ⟨-, -, hfinish⟩ := finish_of_ne_nil h
  have hlength : (magicOf kQueryMagicV4 kQueryMagicV3 kQueryMagicV2 query.formatVersion).length
      = 4 := by
    rcases hversion with hv | hv | hv <;> rw [hv] <;> rfl
  have hall : ((((Writer.bytes {} (magicOf kQueryMagicV4 kQueryMagicV3 kQueryMagicV2
      query.formatVersion)).u64 query.nonce).u16 query.responseWindowMs).finish secret).length
      = 22 := by
    rw [hfinish]
    simp [Writer.u16, Writer.u64, Writer.bytes, Buffer.put, hlength, bigEndian64, bigEndian16]
  have hauth := authenticated_append (((Writer.bytes {} (magicOf kQueryMagicV4 kQueryMagicV3
    kQueryMagicV2 query.formatVersion)).u64 query.nonce).u16 query.responseWindowMs).data secret
  rw [← hfinish] at hauth
  rw [decodeDiscoveryQuery, hall, hauth, if_neg (by decide), ← hall,
    decodeAll_finish (yields_query hversion) h]
  simp [hnonce, hwindow]

/-! ### Replies -/

/-- What a reply keeps of an entity. -/
def DiscoveryEntitySummary.keep (agentId attributes : Bool) (entity : DiscoveryEntitySummary) :
    DiscoveryEntitySummary :=
  { entity with
    agentId := if agentId then entity.agentId else 0
    attributes := if attributes then entity.attributes else .empty }

/-- What a reply keeps of an advertisement. -/
def DiscoveryAdvertisement.keep (agentId attributes : Bool)
    (advertisement : DiscoveryAdvertisement) : DiscoveryAdvertisement :=
  { advertisement with
    attributes := if attributes then advertisement.attributes else .empty
    entities := advertisement.entities.map (DiscoveryEntitySummary.keep agentId attributes) }

theorem yields_profile (profile : ProfileDescriptor) (w : Writer) :
    Yields readProfile w (writeProfile w profile) (some profile) := by
  refine (yields_text profile.profileId w).bind ?_
  refine (yields_u16 profile.major _).bind ?_
  refine (yields_u16 profile.minor _).bind ?_
  exact (yields_text profile.schemaDigest _).bind (.pure profile _)

theorem yields_entity (agentId attributes : Bool) (entity : DiscoveryEntitySummary) (w : Writer) :
    Yields (readEntity agentId attributes) w (writeEntity agentId attributes w entity)
      (some (entity.keep agentId attributes)) := by
  refine (yields_text entity.entityUid w).bind ?_
  refine (yields_text entity.kind _).bind ?_
  refine (yields_text entity.displayName _).bind ?_
  refine (yields_checked (yields_u8 entity.availability.toUInt8 _) ?_).bind ?_
  · cases entity.availability <;> decide
  refine (yields_if _ fun w => yields_u32 entity.agentId w).bind ?_
  refine (yields_if _ fun w => yields_attributes entity.attributes w).bind ?_
  have havailability : Availability.ofUInt8 entity.availability.toUInt8 = entity.availability := by
    cases entity.availability <;> decide
  rw [havailability]
  exact .pure _ _

/-- The checks of `valid_advertisement`, one by one. -/
theorem validAdvertisement_eq_true {value : DiscoveryAdvertisement} :
    validAdvertisement value = true ↔
      (validUid value.endpointUid = true ∧ value.tcpListenPort ≠ 0 ∧
        value.capabilities.length ≤ uint8Max ∧ value.profiles.length ≤ uint8Max ∧
        value.entities.length ≤ uint8Max) ∧
      validAttributes value.attributes = true ∧
      (∀ profile ∈ value.profiles, (validProfileId profile.profileId && 0 < profile.major) = true) ∧
      ∀ entity ∈ value.entities, validUid entity.entityUid = true ∧
        validAttributes entity.attributes = true := by
  unfold validAdvertisement
  split
  · next h =>
    simp only [Bool.or_eq_true, Bool.not_eq_true', beq_iff_eq, decide_eq_true_eq] at h
    constructor
    · intro hfalse
      exact absurd hfalse Bool.false_ne_true
    · rintro ⟨⟨huid, hport, hcapabilities, hprofiles, hentities⟩, -⟩
      rcases h with (((h | h) | h) | h) | h
      · exact absurd huid (by rw [h]; exact Bool.false_ne_true)
      · exact absurd h hport
      · omega
      · omega
      · omega
  · next h =>
    simp only [Bool.or_eq_true, Bool.not_eq_true', beq_iff_eq, decide_eq_true_eq, not_or,
      Nat.not_lt, Bool.not_eq_false] at h
    obtain ⟨⟨⟨⟨huid, hport⟩, hcapabilities⟩, hprofiles⟩, hentities⟩ := h
    simp only [huid, hcapabilities, hprofiles, hentities, Bool.and_eq_true, List.all_eq_true,
      decide_eq_true_eq, ne_eq, hport, not_false_eq_true, true_and, and_assoc]

/-- What a reply keeps of a valid advertisement is valid. -/
theorem validAdvertisement_keep {advertisement : DiscoveryAdvertisement}
    (h : validAdvertisement advertisement = true) (agentId attributes : Bool) :
    validAdvertisement (advertisement.keep agentId attributes) = true := by
  rw [validAdvertisement_eq_true] at h ⊢
  obtain ⟨⟨huid, hport, hcapabilities, hprofiles, hentities⟩, hattributes, hprofile, hentity⟩ := h
  have hempty : validAttributes .empty = true := rfl
  refine ⟨⟨huid, hport, hcapabilities, hprofiles, ?_⟩, ?_, hprofile, ?_⟩
  · show (advertisement.entities.map _).length ≤ uint8Max
    rwa [List.length_map]
  · cases attributes with
    | false => exact hempty
    | true => exact hattributes
  · intro entity hmem
    obtain ⟨original, horiginal, rfl⟩ := List.mem_map.mp hmem
    refine ⟨(hentity original horiginal).1, ?_⟩
    cases attributes with
    | false => exact hempty
    | true => exact (hentity original horiginal).2

theorem yields_replyFormat {version : UInt8}
    (hversion : version = 2 ∨ version = 3 ∨ version = 4) (w : Writer) :
    Yields (readFormat kReplyMagicV4 kReplyMagicV3 kReplyMagicV2) w
      (w.bytes (magicOf kReplyMagicV4 kReplyMagicV3 kReplyMagicV2 version)) (some version) := by
  refine yields_format ?_ ?_ ?_ ?_ ?_ hversion w <;> decide

/-- **What is written of an advertisement is read as what the format keeps of it.** -/
theorem yields_reply {query : DiscoveryQuery} {advertisement : DiscoveryAdvertisement}
    (hversion : query.formatVersion = 2 ∨ query.formatVersion = 3 ∨ query.formatVersion = 4)
    (hvalid : validAdvertisement advertisement = true) :
    Yields (readReply query.nonce) {} (writeReply query advertisement)
      (some (advertisement.keep (decide (kDiscoveryFormatV3 ≤ query.formatVersion))
        (decide (kDiscoveryFormatV4 ≤ query.formatVersion)))) := by
  obtain ⟨⟨-, -, hcapabilities, hprofiles, hentities⟩, -⟩ := validAdvertisement_eq_true.mp hvalid
  unfold writeReply
  dsimp only
  rw [ite_le_eq_magicOf hversion]
  refine (yields_replyFormat hversion {}).bind ?_
  refine (yields_equal (yields_u64 query.nonce _)).bind ?_
  refine (yields_equal (yields_u8 kProtocolMajor _)).bind ?_
  refine (yields_equal (yields_u8 kHeaderVersion _)).bind ?_
  refine (yields_equal (yields_u16 query.formatVersion.toUInt16 _)).bind ?_
  refine (yields_text advertisement.endpointUid _).bind ?_
  refine (yields_text advertisement.displayName _).bind ?_
  refine (yields_u16 advertisement.tcpListenPort _).bind ?_
  refine (yields_counted_self hcapabilities yields_text _).bind ?_
  refine (yields_counted_self hprofiles yields_profile _).bind ?_
  refine (yields_if _ fun w => yields_attributes advertisement.attributes w).bind ?_
  refine (yields_counted hentities (yields_entity _ _) _).bind ?_
  refine (yields_u64 advertisement.startedAtMs _).bind ?_
  refine (yields_u64 advertisement.sequence _).bind ?_
  exact .pure _ _

/-! ### Round trip -/

/-- What a format carries of an advertisement: format 4 all of it, format 3 all but the
attributes, format 2 neither attributes nor agent ids. -/
def DiscoveryAdvertisement.project (formatVersion : UInt8)
    (advertisement : DiscoveryAdvertisement) : DiscoveryAdvertisement :=
  if formatVersion = 4 then advertisement
  else if formatVersion = 3 then
    { advertisement with
      attributes := .empty
      entities := advertisement.entities.map fun entity => { entity with attributes := .empty } }
  else
    { advertisement with
      attributes := .empty
      entities := advertisement.entities.map fun entity =>
        { entity with agentId := 0, attributes := .empty } }

theorem keep_eq_project {version : UInt8} (hversion : version = 2 ∨ version = 3 ∨ version = 4)
    (advertisement : DiscoveryAdvertisement) :
    advertisement.keep (decide (kDiscoveryFormatV3 ≤ version))
      (decide (kDiscoveryFormatV4 ≤ version)) = advertisement.project version := by
  rcases hversion with rfl | rfl | rfl
  · rfl
  · rfl
  · have hsame : advertisement.entities.map (DiscoveryEntitySummary.keep true true) =
        advertisement.entities := List.map_id' _
    exact congrArg (fun entities => { advertisement with entities }) hsame

/-- A reply that is written is read as what its format carries. -/
theorem decodeDiscoveryReply_encodeDiscoveryReply {query : DiscoveryQuery}
    {advertisement : DiscoveryAdvertisement} {secret : Text}
    (hversion : query.formatVersion = 2 ∨ query.formatVersion = 3 ∨ query.formatVersion = 4)
    (h : encodeDiscoveryReply query advertisement secret ≠ []) :
    decodeDiscoveryReply (encodeDiscoveryReply query advertisement secret) secret query.nonce =
      some (advertisement.project query.formatVersion) := by
  unfold encodeDiscoveryReply at h ⊢
  split at h
  · exact absurd rfl h
  next hchecked =>
  rw [if_neg hchecked]
  simp only [Bool.or_eq_true, Bool.not_eq_true', not_or, Bool.not_eq_false] at hchecked
  obtain ⟨-, hvalid⟩ := hchecked
  obtain ⟨-, hle, hfinish⟩ := finish_of_ne_nil h
  have hlength :
      ¬ kMaxDiscoveryBytes < ((writeReply query advertisement).finish secret).length := by
    rw [hfinish, List.length_append]
    exact Nat.not_lt.mpr hle
  have hauth := authenticated_append (writeReply query advertisement).data secret
  rw [← hfinish] at hauth
  rw [decodeDiscoveryReply, hauth, if_neg (by simpa using hlength),
    decodeAll_finish (yields_reply hversion hvalid) h]
  show (if !validAdvertisement _ then none else some _) = _
  rw [validAdvertisement_keep hvalid, keep_eq_project hversion]
  rfl

/-- **Discovery datagrams come back.**  With the same secret, a query that is written is read
as itself, and a reply in one of the three formats is read as what the format carries of the
advertisement. -/
theorem discovery_roundTrip (secret : Text) :
    (∀ query, encodeDiscoveryQuery query secret ≠ [] →
      decodeDiscoveryQuery (encodeDiscoveryQuery query secret) secret = some query) ∧
    ∀ (query : DiscoveryQuery) (advertisement : DiscoveryAdvertisement),
      query.formatVersion = 2 ∨ query.formatVersion = 3 ∨ query.formatVersion = 4 →
      encodeDiscoveryReply query advertisement secret ≠ [] →
      decodeDiscoveryReply (encodeDiscoveryReply query advertisement secret) secret query.nonce =
        some (advertisement.project query.formatVersion) :=
  ⟨fun _ => decodeDiscoveryQuery_encodeDiscoveryQuery,
    fun _ _ => decodeDiscoveryReply_encodeDiscoveryReply⟩

/-- A query in format 3. -/
def sampleQuery : DiscoveryQuery where
  nonce := 43
  formatVersion := kDiscoveryFormatV3

/-- An endpoint with one entity. -/
def sampleAdvertisement : DiscoveryAdvertisement where
  endpointUid := ascii "endpoint:alpha"
  capabilities := [ascii "stream", ascii "action"]
  profiles := [{ profileId := ascii "com.example.demo", major := 2, minor := 3 }]
  attributes := ⟨[(ascii "site", ascii "lab-a")], List.pairwise_singleton _ _⟩
  entities := [
    { entityUid := ascii "entity:uav:1"
      kind := ascii "uav"
      availability := .online
      agentId := 1
      attributes := ⟨[(ascii "model", ascii "sim")], List.pairwise_singleton _ _⟩ }]
  startedAtMs := 1000
  sequence := 7

/-- The sample query and the reply to it come back, the latter without its attributes. -/
theorem discovery_roundTrip_sampleAdvertisement :
    decodeDiscoveryQuery (encodeDiscoveryQuery sampleQuery (ascii "test-secret"))
      (ascii "test-secret") = some sampleQuery ∧
    decodeDiscoveryReply (encodeDiscoveryReply sampleQuery sampleAdvertisement
      (ascii "test-secret")) (ascii "test-secret") 43 =
      some (sampleAdvertisement.project kDiscoveryFormatV3) :=
  ⟨(discovery_roundTrip _).1 sampleQuery (by decide),
    (discovery_roundTrip _).2 sampleQuery sampleAdvertisement (by decide) (by decide +kernel)⟩

end YunLink.Discovery
