import YunLink.Lib.Codec
import YunLink.Wire.Codec

/-!
# Payloads

The payloads the runtime itself reads and writes: texts and profile lists
(`runtime_common.cpp`), authority requests and statuses (`core_messages_v2.cpp`).
A reader is a state transformer over the bytes not read yet, which is what the
source's cursor stands for.

## Main definitions

* `PayloadReader`, `decodeAll` — readers, and reading a whole payload.
* `decodeText`, `decodeProfileList`, `AuthorityRequest.decode` — the decoders.
* `encodeText`, `encodeProfileList`, `AuthorityStatus.encode` — the encoders; the
  empty byte string reports a value that cannot be written.
-/

namespace YunLink

/-! ### Readers -/

/-- A reader of the bytes behind the cursor. -/
abbrev PayloadReader := StateT Bytes Option

namespace PayloadReader

/-- One byte. -/
def u8 : PayloadReader UInt8 := fun input =>
  match input with
  | [] => none
  | value :: rest => some (value, rest)

/-- `take_u16`. -/
def u16 : PayloadReader UInt16 := fun input =>
  if input.length < 2 then none else some (readU16 input, input.drop 2)

/-- Four bytes, the lowest one first. -/
def u32 : PayloadReader UInt32 := fun input =>
  if input.length < 4 then none else some (readU32 input, input.drop 4)

/-- A length word and the bytes it announces. -/
def text : PayloadReader Text := do
  let size ← u16
  fun input =>
    if input.length < size.toNat then none
    else some (input.take size.toNat, input.drop size.toNat)

/-- `count` values in a row. -/
def list {α : Type} (item : PayloadReader α) : ℕ → PayloadReader (List α)
  | 0 => pure []
  | count + 1 => do
      let value ← item
      let values ← list item count
      pure (value :: values)

end PayloadReader

/-- The value of a payload that the reader reads to its end. -/
def decodeAll {α : Type} (reader : PayloadReader α) (payload : Bytes) : Option α :=
  match reader payload with
  | some (value, []) => some value
  | _ => none

/-! ### Texts and profile lists -/

/-- `append_text`. -/
def appendText (value : Text) : Bytes := appendU16 (UInt16.ofNat value.length) ++ value

/-- `encode_text`; a text that is too long gives nothing. -/
def encodeText (value : Text) : Bytes := if uint16Max < value.length then [] else appendText value

/-- `decode_text`. -/
def decodeText (payload : Bytes) : Option Text := decodeAll PayloadReader.text payload

/-- `encode_profile_list`. -/
def encodeProfileList (profiles : List ProfileDescriptor) : Bytes :=
  if uint16Max < profiles.length then []
  else if profiles.any fun profile =>
      !validProfileId profile.profileId || uint16Max < profile.schemaDigest.length then []
  else appendU16 (UInt16.ofNat profiles.length) ++ profiles.flatMap fun profile =>
    appendText profile.profileId ++ appendU16 profile.major ++ appendU16 profile.minor ++
      appendText profile.schemaDigest

/-- One entry of a profile list. -/
def readProfile : PayloadReader ProfileDescriptor := do
  let profileId ← PayloadReader.text
  let major ← PayloadReader.u16
  let minor ← PayloadReader.u16
  let schemaDigest ← PayloadReader.text
  if !validProfileId profileId || major = 0 then failure
  else pure { profileId, major, minor, schemaDigest }

/-- `decode_profile_list`. -/
def decodeProfileList (payload : Bytes) : Option (List ProfileDescriptor) :=
  decodeAll (do
    let count ← PayloadReader.u16
    PayloadReader.list readProfile count.toNat) payload

/-! ### Round trips -/

/-- The reader takes exactly these bytes, whatever follows them, and makes the value
of them. -/
def PayloadReader.Reads {α : Type} (reader : PayloadReader α) (bytes : Bytes) (value : α) : Prop :=
  ∀ rest, reader (bytes ++ rest) = some (value, rest)

namespace PayloadReader.Reads

variable {α β : Type}

theorem pure (value : α) : Reads (Pure.pure value) [] value := fun _ => rfl

/-- Readers in a row read what their writers wrote in a row. -/
theorem bind {reader : PayloadReader α} {next : α → PayloadReader β} {bytes bytes' : Bytes}
    {value : α} {value' : β} (h : Reads reader bytes value) (h' : Reads (next value) bytes' value') :
    Reads (reader >>= next) (bytes ++ bytes') value' := by
  intro rest
  rw [List.append_assoc]
  show (reader (bytes ++ (bytes' ++ rest))).bind (fun out => next out.1 out.2) = _
  rw [h, Option.bind_some]
  exact h' rest

/-- The last reader may only check. -/
theorem check {reader : PayloadReader α} {next : α → PayloadReader β} {bytes : Bytes} {value : α}
    {value' : β} (h : Reads reader bytes value) (h' : Reads (next value) [] value') :
    Reads (reader >>= next) bytes value' := by
  have hboth := h.bind h'
  rwa [List.append_nil] at hboth

theorem decodeAll {reader : PayloadReader α} {bytes : Bytes} {value : α}
    (h : Reads reader bytes value) : decodeAll reader bytes = some value := by
  unfold YunLink.decodeAll
  have hread := h []
  rw [List.append_nil] at hread
  rw [hread]

theorem u16 (word : UInt16) : Reads PayloadReader.u16 (appendU16 word) word := by
  intro rest
  unfold PayloadReader.u16
  rw [if_neg (by rw [List.length_append, length_appendU16]; omega), readU16_append]
  rfl

theorem text {value : Text} (h : value.length ≤ uint16Max) :
    Reads PayloadReader.text (appendText value) value := by
  refine (u16 _).bind ?_
  have hsize : (UInt16.ofNat value.length).toNat = value.length :=
    toNat_ofNat_of_le h
  intro rest
  simp [hsize]

theorem list {item : PayloadReader α} {write : α → Bytes} :
    ∀ {values : List α}, (∀ value ∈ values, Reads item (write value) value) →
      Reads (PayloadReader.list item values.length) (values.flatMap write) values := by
  intro values
  induction values with
  | nil => exact fun _ => pure []
  | cons value values ih =>
    intro h
    obtain ⟨hvalue, hvalues⟩ := List.forall_mem_cons.mp h
    refine hvalue.bind ?_
    exact (ih hvalues).check (pure (value :: values))

end PayloadReader.Reads

/-! What readers accept. -/

section accepts

variable {α β : Type}

/-- What holds of everything the reader of an item makes holds of all items of a list. -/
theorem PayloadReader.forall_mem_list {item : PayloadReader α} {P : α → Prop}
    (h : ∀ input value rest, item input = some (value, rest) → P value) :
    ∀ {count : ℕ} {input rest : Bytes} {values : List α},
      PayloadReader.list item count input = some (values, rest) → ∀ value ∈ values, P value := by
  intro count
  induction count with
  | zero =>
    intro input rest values hread
    obtain ⟨rfl, -⟩ := Prod.ext_iff.mp (Option.some.inj hread)
    simp
  | succ count ih =>
    intro input rest values hread
    obtain ⟨first, middle, hfirst, hmore⟩ := Codec.Reader.bind_eq_some.mp hread
    obtain ⟨others, last, hothers, hdone⟩ := Codec.Reader.bind_eq_some.mp hmore
    obtain ⟨rfl, -⟩ := Prod.ext_iff.mp (Option.some.inj hdone)
    exact List.forall_mem_cons.mpr ⟨h _ _ _ hfirst, ih hothers⟩

theorem eq_some_of_decodeAll {reader : PayloadReader α} {payload : Bytes} {value : α}
    (h : decodeAll reader payload = some value) : reader payload = some (value, []) := by
  unfold decodeAll at h
  split at h
  · next hread => rw [hread, Option.some.inj h]
  · exact absurd h (by simp)

end accepts

/-- A text that can be written is read back. -/
theorem decodeText_encodeText {value : Text} (h : value.length ≤ uint16Max) :
    decodeText (encodeText value) = some value := by
  rw [encodeText, if_neg (Nat.not_lt.mpr h)]
  exact (PayloadReader.Reads.text h).decodeAll

/-- What `Runtime::start` asks of a profile. -/
def ProfileDescriptor.Valid (profile : ProfileDescriptor) : Prop :=
  validProfileId profile.profileId = true ∧ profile.major ≠ 0

theorem reads_readProfile {profile : ProfileDescriptor} (h : profile.Valid)
    (hdigest : profile.schemaDigest.length ≤ uint16Max) :
    PayloadReader.Reads readProfile (appendText profile.profileId ++ appendU16 profile.major ++
      appendU16 profile.minor ++ appendText profile.schemaDigest) profile := by
  obtain ⟨hid, hmajor⟩ := h
  have hlength : profile.profileId.length ≤ uint16Max := by
    have huid : validUid profile.profileId = true := by
      simp only [validProfileId, Bool.and_eq_true] at hid
      exact hid.1
    exact (length_le_of_validUid huid).trans (by decide)
  rw [List.append_assoc, List.append_assoc]
  refine (PayloadReader.Reads.text hlength).bind ?_
  refine (PayloadReader.Reads.u16 profile.major).bind ?_
  refine (PayloadReader.Reads.u16 profile.minor).bind ?_
  refine (PayloadReader.Reads.text hdigest).check ?_
  rw [if_neg (by simp [hid, hmajor])]
  exact .pure profile

/-- A profile list that can be written is read back. -/
theorem decodeProfileList_encodeProfileList {profiles : List ProfileDescriptor}
    (hvalid : ∀ profile ∈ profiles, profile.Valid) (h : encodeProfileList profiles ≠ []) :
    decodeProfileList (encodeProfileList profiles) = some profiles := by
  unfold encodeProfileList at h ⊢
  split at h
  · exact absurd rfl h
  next hcount =>
  split at h
  · exact absurd rfl h
  next hany =>
  rw [if_neg hcount, if_neg hany]
  have hcount' : (UInt16.ofNat profiles.length).toNat = profiles.length :=
    toNat_ofNat_of_le (Nat.le_of_not_lt hcount)
  refine PayloadReader.Reads.decodeAll ((PayloadReader.Reads.u16 _).bind ?_)
  rw [hcount']
  refine PayloadReader.Reads.list fun profile hmem => reads_readProfile (hvalid profile hmem) ?_
  -- Every digest was short enough to be written.
  have hno := List.any_eq_false.mp (Bool.eq_false_iff.mpr hany) profile hmem
  simp only [Bool.or_eq_true, decide_eq_true_iff, not_or] at hno
  exact Nat.le_of_not_lt hno.2

theorem valid_of_readProfile {input rest : Bytes} {profile : ProfileDescriptor}
    (h : readProfile input = some (profile, rest)) : profile.Valid := by
  obtain ⟨profileId, _, -, h⟩ := Codec.Reader.bind_eq_some.mp h
  obtain ⟨major, _, -, h⟩ := Codec.Reader.bind_eq_some.mp h
  obtain ⟨minor, _, -, h⟩ := Codec.Reader.bind_eq_some.mp h
  obtain ⟨schemaDigest, _, -, h⟩ := Codec.Reader.bind_eq_some.mp h
  split at h
  · exact absurd h (by simp [failure, Alternative.failure, StateT.failure])
  · next hvalid =>
    obtain ⟨rfl, -⟩ := Prod.ext_iff.mp (Option.some.inj h)
    simpa [ProfileDescriptor.Valid] using hvalid

/-- A list that is read holds valid profiles only. -/
theorem valid_of_decodeProfileList {payload : Bytes} {profiles : List ProfileDescriptor}
    (h : decodeProfileList payload = some profiles) : ∀ profile ∈ profiles, profile.Valid := by
  obtain ⟨count, _, -, hlist⟩ := Codec.Reader.bind_eq_some.mp (eq_some_of_decodeAll h)
  exact PayloadReader.forall_mem_list (fun _ _ _ => valid_of_readProfile) hlist

/-! ### Authority messages -/

/-- The payload of a claim, a renewal or a release. -/
structure AuthorityRequest where
  authorityScope : Text := []
  leaseTtlMs : UInt32 := 0
  allowPreempt : Bool := false
  deriving DecidableEq, Repr, Inhabited

/-- The payload of the reply. -/
structure AuthorityStatus where
  authorityScope : Text := []
  state : Text := []
  leaseTtlMs : UInt32 := 0
  reasonCode : UInt16 := 0
  detail : Text := []
  deriving DecidableEq, Repr, Inhabited

/-- `decode`, for a request. -/
def AuthorityRequest.decode (payload : Bytes) : Option AuthorityRequest :=
  decodeAll (do
    let authorityScope ← PayloadReader.text
    let leaseTtlMs ← PayloadReader.u32
    let preempt ← PayloadReader.u8
    if 1 < preempt then failure
    else pure { authorityScope, leaseTtlMs, allowPreempt := preempt != 0 }) payload

/-- `encode`, for a request. -/
def AuthorityRequest.encode (value : AuthorityRequest) : Bytes :=
  if uint16Max < value.authorityScope.length then []
  else appendText value.authorityScope ++ appendU32 value.leaseTtlMs ++
    [if value.allowPreempt then 1 else 0]

/-- `encode`, for a status. -/
def AuthorityStatus.encode (value : AuthorityStatus) : Bytes :=
  if uint16Max < value.authorityScope.length || uint16Max < value.state.length ||
      uint16Max < value.detail.length then []
  else appendText value.authorityScope ++ appendText value.state ++ appendU32 value.leaseTtlMs ++
    appendU16 value.reasonCode ++ appendText value.detail

end YunLink
