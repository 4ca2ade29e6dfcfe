import YunLink.Messages.ConfigurationRoundTrip

/-!
# Relaying configuration messages

A relay decodes a payload and encodes the value again.  Every limit of the encoder is
checked by the decoder too, except for one: a string is read up to the 65535 bytes its
length can announce, and written up to `kMaxCoreStringBytes`.  So a payload can be sent on
exactly when its strings have at most this many bytes.  It is sent on byte for byte, but
for a describe request with an empty locale, which is left out.

## Main definitions

* `ConfigValue.texts`, `ConfigMessage.texts` — the strings of a value and of a message.
* `ShortTexts` — strings that can be written.

## Main results

* `relays_value`, `relays_schema`, `relays_snapshot` — what is read is written back if its
  strings are short.
* `configMessage_resendable_iff` — **an accepted payload can be sent again exactly when its
  strings are short.**
-/

namespace YunLink

open Codec PayloadReader BufferWriter

/-! ### The strings of a message -/

/-- The strings of a value: those of the member that its type names. -/
def ConfigValue.texts (value : ConfigValue) : List Text :=
  match value.type with
  | .string => [value.stringValue]
  | .stringList => value.stringListValue
  | .bool | .int64 | .double | .doubleList | .unset => []

/-- The strings of a descriptor. -/
def ConfigResourceDescriptor.texts (value : ConfigResourceDescriptor) : List Text :=
  [value.id, value.title, value.description]

/-- The strings of a choice. -/
def ConfigChoice.texts (choice : ConfigChoice) : List Text := choice.value.texts ++ [choice.label]

/-- The strings of a schema. -/
def ConfigFieldSchema.texts (schema : ConfigFieldSchema) : List Text :=
  [schema.path, schema.title, schema.description, schema.validationPattern]
    ++ schema.choices.flatMap ConfigChoice.texts
    ++ [schema.groupPath, schema.unit]
    ++ (if schema.hasDefaultValue then schema.defaultValue.texts else [])

/-- The strings of a field. -/
def ConfigFieldValue.texts (field : ConfigFieldValue) : List Text :=
  field.path :: field.value.texts

/-- The strings of a snapshot. -/
def ConfigSnapshot.texts (snapshot : ConfigSnapshot) : List Text :=
  [snapshot.resourceId, snapshot.revision, snapshot.appliedRevision, snapshot.variantId,
      snapshot.activeVariantId]
    ++ snapshot.values.flatMap ConfigFieldValue.texts
    ++ snapshot.userOverriddenPaths

/-- The strings of a variant. -/
def ConfigVariantDescriptor.texts (value : ConfigVariantDescriptor) : List Text :=
  [value.id, value.title, value.revision]

/-- The strings of a field error. -/
def ConfigFieldError.texts (value : ConfigFieldError) : List Text :=
  [value.path, value.code, value.message]

/-- The strings of the effects of a change. -/
def ConfigEffects.texts (value : ConfigEffects) : List Text := value.affectedComponents

namespace ConfigMessage

/-- The strings of a message, those of an optional part only if it is there. -/
def texts : (kind : ConfigMessage) → kind.Value → List Text
  | listRequest => fun _ => []
  | listResponse => fun payload : ConfigResourceListResponse =>
      payload.message :: payload.resources.flatMap ConfigResourceDescriptor.texts
  | describeRequest => fun payload : ConfigResourceDescribeRequest =>
      [payload.resourceId, payload.locale]
  | describeResponse => fun payload : ConfigResourceDescribeResponse =>
      payload.message :: payload.resource.texts ++ payload.fields.flatMap ConfigFieldSchema.texts
  | getRequest => fun payload : ConfigResourceGetRequest =>
      [payload.resourceId, payload.variantId]
  | getResponse => fun payload : ConfigResourceGetResponse =>
      payload.message :: payload.snapshot.texts
  | patchRequest => fun payload : ConfigResourcePatchRequest =>
      [payload.resourceId, payload.variantId, payload.expectedRevision]
        ++ payload.updates.flatMap ConfigFieldValue.texts
  | patchResponse => fun payload : ConfigResourcePatchResponse =>
      payload.message :: payload.snapshot.texts
        ++ (if payload.hasCandidateSnapshot then payload.candidateSnapshot.texts else [])
        ++ payload.errors.flatMap ConfigFieldError.texts
        ++ payload.effects.texts
  | applyRequest => fun payload : ConfigResourceApplyRequest =>
      [payload.resourceId, payload.expectedRevision]
  | applyResponse => fun payload : ConfigResourceApplyResponse =>
      [payload.message, payload.appliedRevision] ++ payload.effects.texts
  | variantListRequest => fun payload : ConfigResourceVariantListRequest => [payload.resourceId]
  | variantListResponse => fun payload : ConfigResourceVariantListResponse =>
      [payload.message, payload.activeVariantId]
        ++ payload.variants.flatMap ConfigVariantDescriptor.texts
  | variantCreateRequest => fun payload : ConfigResourceVariantCreateRequest =>
      [payload.resourceId, payload.variantId, payload.expectedActiveRevision]
  | variantCreateResponse => fun payload : ConfigResourceVariantCreateResponse =>
      payload.message :: payload.variant.texts ++ payload.effects.texts
  | variantSaveCurrentRequest => fun payload : ConfigResourceVariantSaveCurrentRequest =>
      [payload.resourceId, payload.variantId, payload.expectedVariantRevision,
        payload.expectedActiveRevision]
  | variantSaveCurrentResponse => fun payload : ConfigResourceVariantSaveCurrentResponse =>
      payload.message :: payload.variant.texts ++ payload.effects.texts
  | variantActivateRequest => fun payload : ConfigResourceVariantActivateRequest =>
      [payload.resourceId, payload.variantId, payload.expectedActiveRevision]
  | variantActivateResponse => fun payload : ConfigResourceVariantActivateResponse =>
      [payload.message, payload.appliedRevision] ++ payload.effects.texts
  | variantDeleteRequest => fun payload : ConfigResourceVariantDeleteRequest =>
      [payload.resourceId, payload.variantId, payload.expectedRevision]
  | variantDeleteResponse => fun payload : ConfigResourceVariantDeleteResponse =>
      [payload.message]

end ConfigMessage

/-- Strings that `write_string` writes. -/
def ShortTexts (texts : List Text) : Prop := ∀ text ∈ texts, text.length ≤ kMaxCoreStringBytes

instance (texts : List Text) : Decidable (ShortTexts texts) :=
  inferInstanceAs (Decidable (∀ text ∈ texts, _))

section shortTexts

variable {α : Type}

@[simp] theorem shortTexts_nil : ShortTexts [] := by simp [ShortTexts]

@[simp] theorem shortTexts_cons {text : Text} {texts : List Text} :
    ShortTexts (text :: texts) ↔ text.length ≤ kMaxCoreStringBytes ∧ ShortTexts texts := by
  simp [ShortTexts]

@[simp] theorem shortTexts_append {texts more : List Text} :
    ShortTexts (texts ++ more) ↔ ShortTexts texts ∧ ShortTexts more := by
  simp [ShortTexts, or_imp, forall_and]

@[simp] theorem shortTexts_flatMap {values : List α} {textsOf : α → List Text} :
    ShortTexts (values.flatMap textsOf) ↔ ∀ a ∈ values, ShortTexts (textsOf a) := by
  simp only [ShortTexts, List.forall_mem_flatMap]

/-- The strings of an optional part. -/
@[simp] theorem shortTexts_ite {present : Bool} {texts : List Text} :
    ShortTexts (if present then texts else []) ↔ (present = true → ShortTexts texts) := by
  cases present <;> simp

end shortTexts

/-! ### Strings, numbers and vectors -/

section fields

variable {α : Type} {input rest : Bytes}

theorem relays_u8 {value : UInt8} (h : u8 input = some (value, rest)) (w : BufferWriter) :
    Relays True w (w.writeU8 value) input rest := .of_restores (restores_u8 h w)

theorem relays_u64 {value : UInt64} (h : u64 input = some (value, rest)) (w : BufferWriter) :
    Relays True w (w.writeU64 value) input rest := .of_restores (restores_u64 h w)

theorem relays_bool {value : Bool} (h : readBool input = some (value, rest)) (w : BufferWriter) :
    Relays True w (w.writeBool value) input rest := .of_restores (restores_flag h w)

/-- **A string is written back if it is short.** -/
theorem relays_string {value : Text} (h : readString input = some (value, rest))
    (w : BufferWriter) :
    Relays (value.length ≤ kMaxCoreStringBytes) w (w.writeString value) input rest := by
  have hrestored : Restores True w (Writer.text w value) input rest := restores_text h w
  obtain ⟨read, written, hinput, hwritten, hsame⟩ := hrestored
  refine ⟨read, hinput, fun hshort => ?_, fun hvalid => ?_⟩
  · have hwrite : w.writeString value = Writer.text w value := by
      rw [BufferWriter.writeString, if_neg (Nat.not_lt.mpr hshort), Writer.text,
        if_neg (Nat.not_lt.mpr (length_le_of_text h))]
      rfl
    rw [hwrite, hwritten, hsame trivial]
  · unfold BufferWriter.writeString at hvalid
    split at hvalid
    · exact absurd hvalid Bool.false_ne_true
    · next hlong => exact ⟨hvalid, Nat.le_of_not_lt hlong⟩

theorem relays_finite {value : UInt64} (h : readFinite input = some (value, rest))
    (w : BufferWriter) : Relays True w (w.writeFinite value) input rest := by
  obtain ⟨hread, hfinite⟩ := checked_eq_some.mp h
  rw [BufferWriter.writeFinite, hfinite]
  exact relays_u64 hread w

/-- A byte of an enumeration that has passed its check. -/
theorem relays_enumerator {valid : UInt8 → Bool} {code : UInt8 → UInt8}
    (hall : ∀ byte, valid byte = true → code byte = byte) {byte : UInt8}
    (h : checked u8 valid input = some (byte, rest)) (w : BufferWriter) :
    Relays True w (w.writeU8 (code byte)) input rest := by
  obtain ⟨hread, hvalid⟩ := checked_eq_some.mp h
  rw [hall byte hvalid]
  exact relays_u8 hread w

/-- **A vector is written back if its items are.** -/
theorem relays_vector {read : PayloadReader α} {write : BufferWriter → α → BufferWriter}
    {good : α → Prop}
    (h : ∀ {input a rest}, read input = some (a, rest) →
      ∀ w, Relays (good a) w (write w a) input rest)
    {values : List α} (hread : readVector read input = some (values, rest)) (w : BufferWriter) :
    Relays (∀ a ∈ values, good a) w (w.writeVector values write) input rest := by
  obtain ⟨count, middle, hcount, hvalues⟩ := Reader.bind_eq_some.mp hread
  obtain ⟨hword, hle⟩ := checked_eq_some.mp hcount
  rw [list_eq_times] at hvalues
  obtain ⟨hlength, hrelays⟩ := Relays.times h _ hvalues
  have hle' : count.toNat ≤ kMaxConfigItems.toNat :=
    UInt16.le_iff_toNat_le.mp (of_decide_eq_true hle)
  rw [BufferWriter.writeVector, if_neg (by omega), hlength, UInt16.ofNat_toNat]
  have hfirst : Relays True w (w.writeU16 count) input middle :=
    .of_restores (restores_u16 hword w)
  exact (hfirst.trans (hrelays _)).congr (by simp)

theorem relays_strings {values : List Text} (h : readStrings input = some (values, rest))
    (w : BufferWriter) : Relays (ShortTexts values) w (w.writeStrings values) input rest :=
  relays_vector relays_string h w

/-- An optional part is written back if it fits, and a part that is left out always. -/
theorem relays_readIf {read : PayloadReader α} {write : BufferWriter → α → BufferWriter}
    {good : α → Prop}
    (h : ∀ {input a rest}, read input = some (a, rest) →
      ∀ w, Relays (good a) w (write w a) input rest)
    {present : Bool} {value absent : α}
    (hread : readIf present read absent input = some (value, rest)) (w : BufferWriter) :
    Relays (present = true → good value) w (if present then write w value else w) input rest := by
  cases present
  · obtain ⟨-, rfl⟩ := Reader.pure_eq_some.mp hread
    exact (Relays.refl w input).congr (by simp)
  · exact (h hread w).congr (by simp)

end fields

/-! ### Parts of messages -/

section parts

variable {input rest : Bytes}

/-- A byte that is checked for an enumeration is the byte of what it is read as. -/
theorem toUInt8_ofUInt8_of_valid : ∀ byte : UInt8,
    (validValueType byte = true → (ConfigValueType.ofUInt8 byte).toUInt8 = byte) ∧
    (validSchemaValueType byte = true → (ConfigValueType.ofUInt8 byte).toUInt8 = byte) ∧
    (validStatus byte = true → (ConfigServiceStatus.ofUInt8 byte).toUInt8 = byte) ∧
    (validRequirement byte = true → (ConfigApplyRequirement.ofUInt8 byte).toUInt8 = byte) ∧
    (validOutcome byte = true → (ConfigApplyOutcome.ofUInt8 byte).toUInt8 = byte) ∧
    (validUpdatePolicy byte = true → (ConfigFieldUpdatePolicy.ofUInt8 byte).toUInt8 = byte) ∧
    (validVariantSource byte = true → (ConfigVariantSource.ofUInt8 byte).toUInt8 = byte) := by
  apply Words.forall_byte
  decide +kernel

theorem ConfigValueType.toUInt8_ofUInt8 :
    ∀ byte, validValueType byte = true → (ofUInt8 byte).toUInt8 = byte :=
  fun byte => (toUInt8_ofUInt8_of_valid byte).1

theorem ConfigValueType.toUInt8_ofUInt8_of_schema :
    ∀ byte, validSchemaValueType byte = true → (ofUInt8 byte).toUInt8 = byte :=
  fun byte => (toUInt8_ofUInt8_of_valid byte).2.1

theorem ConfigServiceStatus.toUInt8_ofUInt8 :
    ∀ byte, validStatus byte = true → (ofUInt8 byte).toUInt8 = byte :=
  fun byte => (toUInt8_ofUInt8_of_valid byte).2.2.1

theorem ConfigApplyRequirement.toUInt8_ofUInt8 :
    ∀ byte, validRequirement byte = true → (ofUInt8 byte).toUInt8 = byte :=
  fun byte => (toUInt8_ofUInt8_of_valid byte).2.2.2.1

theorem ConfigApplyOutcome.toUInt8_ofUInt8 :
    ∀ byte, validOutcome byte = true → (ofUInt8 byte).toUInt8 = byte :=
  fun byte => (toUInt8_ofUInt8_of_valid byte).2.2.2.2.1

theorem ConfigFieldUpdatePolicy.toUInt8_ofUInt8 :
    ∀ byte, validUpdatePolicy byte = true → (ofUInt8 byte).toUInt8 = byte :=
  fun byte => (toUInt8_ofUInt8_of_valid byte).2.2.2.2.2.1

theorem ConfigVariantSource.toUInt8_ofUInt8 :
    ∀ byte, validVariantSource byte = true → (ofUInt8 byte).toUInt8 = byte :=
  fun byte => (toUInt8_ofUInt8_of_valid byte).2.2.2.2.2.2

/-- The member of a value, read and written behind its type. -/
theorem relays_member {μ : Type} {read : PayloadReader μ} {write : BufferWriter → μ → BufferWriter}
    {good : μ → Prop}
    (h : ∀ {input a rest}, read input = some (a, rest) →
      ∀ w, Relays (good a) w (write w a) input rest)
    {make : μ → ConfigValue} {value : ConfigValue}
    (hread : (do let member ← read; pure (make member)) input = some (value, rest)) :
    ∃ member, make member = value ∧ ∀ w, Relays (good member) w (write w member) input rest := by
  simp only [Reader.bind_eq_some, Reader.pure_eq_some] at hread
  obtain ⟨member, _, hmember, hmake, rfl⟩ := hread
  exact ⟨member, hmake, h hmember⟩

/-- **A value is written back if its strings are short.** -/
theorem relays_value {value : ConfigValue} (h : readValue input = some (value, rest))
    (w : BufferWriter) : Relays (ShortTexts value.texts) w (writeValue w value) input rest := by
  obtain ⟨byte, middle, hbyte, hvalue⟩ := Reader.bind_eq_some.mp h
  have htype := relays_enumerator ConfigValueType.toUInt8_ofUInt8 hbyte w
  generalize ConfigValueType.ofUInt8 byte = type at htype hvalue
  cases type with
  | bool =>
    obtain ⟨_, rfl, hmember⟩ := relays_member relays_bool hvalue
    exact (htype.trans (hmember _)).congr (by simp [ConfigValue.texts])
  | int64 =>
    obtain ⟨_, rfl, hmember⟩ := relays_member relays_u64 hvalue
    exact (htype.trans (hmember _)).congr (by simp [ConfigValue.texts])
  | double =>
    obtain ⟨_, rfl, hmember⟩ := relays_member relays_finite hvalue
    exact (htype.trans (hmember _)).congr (by simp [ConfigValue.texts])
  | string =>
    obtain ⟨_, rfl, hmember⟩ := relays_member relays_string hvalue
    exact (htype.trans (hmember _)).congr (by simp [ConfigValue.texts])
  | stringList =>
    obtain ⟨_, rfl, hmember⟩ := relays_member relays_strings hvalue
    exact (htype.trans (hmember _)).congr (by simp [ConfigValue.texts])
  | doubleList =>
    obtain ⟨_, rfl, hmember⟩ := relays_member (relays_vector relays_finite) hvalue
    exact (htype.trans (hmember _)).congr (by simp [ConfigValue.texts])
  | unset =>
    obtain ⟨rfl, rfl⟩ := Reader.pure_eq_some.mp hvalue
    exact htype.congr (by simp [ConfigValue.texts])

theorem relays_descriptor {value : ConfigResourceDescriptor}
    (h : readDescriptor input = some (value, rest)) (w : BufferWriter) :
    Relays (ShortTexts value.texts) w (writeDescriptor w value) input rest := by
  simp only [readDescriptor, Reader.bind_eq_some, Reader.pure_eq_some] at h
  obtain ⟨_, _, hid, _, _, htitle, _, _, hdescription, _, _, hreadable, _, _, hwritable, _, _,
    happly, _, _, hvariants, rfl, rfl⟩ := h
  have hall := (relays_string hid w).trans (relays_string htitle _)
    |>.trans (relays_string hdescription _)
    |>.trans (relays_bool hreadable _)
    |>.trans (relays_bool hwritable _)
    |>.trans (relays_bool happly _)
    |>.trans (relays_bool hvariants _)
  exact hall.congr (by simp [ConfigResourceDescriptor.texts, and_assoc])

theorem relays_choice {choice : ConfigChoice} (h : readChoice input = some (choice, rest))
    (w : BufferWriter) : Relays (ShortTexts choice.texts) w (writeChoice w choice) input rest := by
  simp only [readChoice, Reader.bind_eq_some, Reader.pure_eq_some] at h
  obtain ⟨_, _, hvalue, _, _, hlabel, rfl, rfl⟩ := h
  have hall := (relays_value hvalue w).trans (relays_string hlabel _)
  exact hall.congr (by simp [ConfigChoice.texts])

theorem relays_schema {schema : ConfigFieldSchema} (h : readSchema input = some (schema, rest))
    (w : BufferWriter) : Relays (ShortTexts schema.texts) w (writeSchema w schema) input rest := by
  simp only [readSchema, Reader.bind_eq_some, Reader.pure_eq_some, Reader.guard_eq_some] at h
  obtain ⟨_, _, hpath, _, _, htitle, _, _, hdescription, _, _, htype, _, _, hrequired, _, _,
    hreadOnly, _, _, hsensitive, _, _, hhasMinimum, _, _, hminimum, _, _, hhasMaximum, _, _,
    hmaximum, _, _, hpattern, _, _, hchoices, _, _, hgroup, _, _, hpolicy, _, _, hunit, _, _,
    ⟨hchecks, rfl⟩, _, _, hhasDefault, _, _, hdefault, _, _, hadvanced, rfl, rfl⟩ := h
  rw [Bool.and_eq_true, Bool.and_eq_true] at hchecks
  have hpolicy' := relays_enumerator ConfigFieldUpdatePolicy.toUInt8_ofUInt8
    (checked_eq_some.mpr ⟨hpolicy, hchecks.2⟩)
  have hall := (relays_string hpath w).trans (relays_string htitle _)
    |>.trans (relays_string hdescription _)
    |>.trans (relays_enumerator ConfigValueType.toUInt8_ofUInt8_of_schema htype _)
    |>.trans (relays_bool hrequired _)
    |>.trans (relays_bool hreadOnly _)
    |>.trans (relays_bool hsensitive _)
    |>.trans (relays_bool hhasMinimum _)
    |>.trans (relays_u64 hminimum _)
    |>.trans (relays_bool hhasMaximum _)
    |>.trans (relays_u64 hmaximum _)
    |>.trans (relays_string hpattern _)
    |>.trans (relays_vector relays_choice hchoices _)
    |>.trans (relays_string hgroup _)
    |>.trans (hpolicy' _)
    |>.trans (relays_string hunit _)
    |>.trans (relays_bool hhasDefault _)
    |>.trans (relays_readIf relays_value hdefault _)
    |>.trans (relays_bool hadvanced _)
  exact hall.congr (by simp [ConfigFieldSchema.texts, and_assoc])

theorem relays_fieldValue {field : ConfigFieldValue}
    (h : readFieldValue input = some (field, rest)) (w : BufferWriter) :
    Relays (ShortTexts field.texts) w (writeFieldValue w field) input rest := by
  simp only [readFieldValue, Reader.bind_eq_some, Reader.pure_eq_some] at h
  obtain ⟨_, _, hpath, _, _, hvalue, rfl, rfl⟩ := h
  have hall := (relays_string hpath w).trans (relays_value hvalue _)
  exact hall.congr (by simp [ConfigFieldValue.texts])

theorem relays_snapshot {snapshot : ConfigSnapshot}
    (h : readSnapshot input = some (snapshot, rest)) (w : BufferWriter) :
    Relays (ShortTexts snapshot.texts) w (writeSnapshot w snapshot) input rest := by
  simp only [readSnapshot, Reader.bind_eq_some, Reader.pure_eq_some] at h
  obtain ⟨_, _, hresource, _, _, hrevision, _, _, happlied, _, _, hvariant, _, _, hactive, _, _,
    hvalues, _, _, hpaths, rfl, rfl⟩ := h
  have hall := (relays_string hresource w).trans (relays_string hrevision _)
    |>.trans (relays_string happlied _)
    |>.trans (relays_string hvariant _)
    |>.trans (relays_string hactive _)
    |>.trans (relays_vector relays_fieldValue hvalues _)
    |>.trans (relays_strings hpaths _)
  exact hall.congr (by simp [ConfigSnapshot.texts, and_assoc])

theorem relays_variant {value : ConfigVariantDescriptor}
    (h : readVariant input = some (value, rest)) (w : BufferWriter) :
    Relays (ShortTexts value.texts) w (writeVariant w value) input rest := by
  simp only [readVariant, Reader.bind_eq_some, Reader.pure_eq_some] at h
  obtain ⟨_, _, hid, _, _, htitle, _, _, hrevision, _, _, hmodified, _, _, hactive, _, _, hmutable,
    rfl, rfl⟩ := h
  have hall := (relays_string hid w).trans (relays_string htitle _)
    |>.trans (relays_string hrevision _)
    |>.trans (relays_u64 hmodified _)
    |>.trans (relays_bool hactive _)
    |>.trans (relays_bool hmutable _)
  exact hall.congr (by simp [ConfigVariantDescriptor.texts, and_assoc])

theorem relays_fieldError {value : ConfigFieldError}
    (h : readFieldError input = some (value, rest)) (w : BufferWriter) :
    Relays (ShortTexts value.texts) w (writeFieldError w value) input rest := by
  simp only [readFieldError, Reader.bind_eq_some, Reader.pure_eq_some] at h
  obtain ⟨_, _, hpath, _, _, hcode, _, _, hmessage, rfl, rfl⟩ := h
  have hall := (relays_string hpath w).trans (relays_string hcode _)
    |>.trans (relays_string hmessage _)
  exact hall.congr (by simp [ConfigFieldError.texts, and_assoc])

theorem relays_effects {value : ConfigEffects} (h : readEffects input = some (value, rest))
    (w : BufferWriter) : Relays (ShortTexts value.texts) w (writeEffects w value) input rest := by
  simp only [readEffects, Reader.bind_eq_some, Reader.pure_eq_some] at h
  obtain ⟨_, _, hrequirement, _, _, hcomponents, _, _, hreconnect, rfl, rfl⟩ := h
  have hall := (relays_enumerator ConfigApplyRequirement.toUInt8_ofUInt8 hrequirement w)
    |>.trans (relays_strings hcomponents _)
    |>.trans (relays_bool hreconnect _)
  exact hall.congr (by simp [ConfigEffects.texts])

theorem relays_status {status : ConfigServiceStatus} {message : Text}
    (h : readStatus input = some ((status, message), rest)) (w : BufferWriter) :
    Relays (message.length ≤ kMaxCoreStringBytes) w (writeStatus w status message) input rest := by
  simp only [readStatus, Reader.bind_eq_some, Reader.pure_eq_some] at h
  obtain ⟨_, _, hstatus, _, _, hmessage, heq, rfl⟩ := h
  obtain ⟨rfl, rfl⟩ := Prod.mk.inj heq
  have hall := (relays_enumerator ConfigServiceStatus.toUInt8_ofUInt8 hstatus w)
    |>.trans (relays_string hmessage _)
  exact hall.congr (by simp)

end parts

/-! ### Messages -/

section messages

variable {input rest : Bytes}

theorem ConfigResourceListRequest.relays {payload : ConfigResourceListRequest}
    (h : read input = some (payload, rest)) (w : BufferWriter) :
    Relays True w (write w payload) input rest := by
  simp only [read, Reader.bind_eq_some, Reader.pure_eq_some] at h
  obtain ⟨_, _, hreserved, rfl, rfl⟩ := h
  exact relays_u8 hreserved w

theorem ConfigResourceListResponse.relays {payload : ConfigResourceListResponse}
    (h : read input = some (payload, rest)) (w : BufferWriter) :
    Relays (ShortTexts (ConfigMessage.texts .listResponse payload)) w (write w payload)
      input rest := by
  simp only [read, Reader.bind_eq_some, Reader.pure_eq_some] at h
  obtain ⟨⟨_, _⟩, _, hstatus, _, _, hresources, rfl, rfl⟩ := h
  have hall := (relays_status hstatus w).trans (relays_vector relays_descriptor hresources _)
  exact hall.congr (by simp [ConfigMessage.texts])

theorem ConfigResourceDescribeResponse.relays {payload : ConfigResourceDescribeResponse}
    (h : read input = some (payload, rest)) (w : BufferWriter) :
    Relays (ShortTexts (ConfigMessage.texts .describeResponse payload)) w (write w payload)
      input rest := by
  simp only [read, Reader.bind_eq_some, Reader.pure_eq_some] at h
  obtain ⟨⟨_, _⟩, _, hstatus, _, _, hresource, _, _, hfields, rfl, rfl⟩ := h
  have hall := (relays_status hstatus w).trans (relays_descriptor hresource _)
    |>.trans (relays_vector relays_schema hfields _)
  exact hall.congr (by simp [ConfigMessage.texts, and_assoc])

theorem ConfigResourceGetRequest.relays {payload : ConfigResourceGetRequest}
    (h : read input = some (payload, rest)) (w : BufferWriter) :
    Relays (ShortTexts (ConfigMessage.texts .getRequest payload)) w (write w payload)
      input rest := by
  simp only [read, Reader.bind_eq_some, Reader.pure_eq_some] at h
  obtain ⟨_, _, hresource, _, _, hvariant, rfl, rfl⟩ := h
  have hall := (relays_string hresource w).trans (relays_string hvariant _)
  exact hall.congr (by simp [ConfigMessage.texts])

theorem ConfigResourceGetResponse.relays {payload : ConfigResourceGetResponse}
    (h : read input = some (payload, rest)) (w : BufferWriter) :
    Relays (ShortTexts (ConfigMessage.texts .getResponse payload)) w (write w payload)
      input rest := by
  simp only [read, Reader.bind_eq_some, Reader.pure_eq_some] at h
  obtain ⟨⟨_, _⟩, _, hstatus, _, _, hsnapshot, rfl, rfl⟩ := h
  have hall := (relays_status hstatus w).trans (relays_snapshot hsnapshot _)
  exact hall.congr (by simp [ConfigMessage.texts])

theorem ConfigResourcePatchRequest.relays {payload : ConfigResourcePatchRequest}
    (h : read input = some (payload, rest)) (w : BufferWriter) :
    Relays (ShortTexts (ConfigMessage.texts .patchRequest payload)) w (write w payload)
      input rest := by
  simp only [read, Reader.bind_eq_some, Reader.pure_eq_some] at h
  obtain ⟨_, _, hresource, _, _, hvariant, _, _, hrevision, _, _, hupdates, _, _, hvalidate, rfl,
    rfl⟩ := h
  have hall := (relays_string hresource w).trans (relays_string hvariant _)
    |>.trans (relays_string hrevision _)
    |>.trans (relays_vector relays_fieldValue hupdates _)
    |>.trans (relays_bool hvalidate _)
  exact hall.congr (by simp [ConfigMessage.texts, and_assoc])

theorem ConfigResourcePatchResponse.relays {payload : ConfigResourcePatchResponse}
    (h : read input = some (payload, rest)) (w : BufferWriter) :
    Relays (ShortTexts (ConfigMessage.texts .patchResponse payload)) w (write w payload)
      input rest := by
  simp only [read, Reader.bind_eq_some, Reader.pure_eq_some] at h
  obtain ⟨⟨_, _⟩, _, hstatus, _, _, hsnapshot, _, _, hflag, _, _, hcandidate, _, _, herrors, _, _,
    heffects, rfl, rfl⟩ := h
  have hall := (relays_status hstatus w).trans (relays_snapshot hsnapshot _)
    |>.trans (relays_bool hflag _)
    |>.trans (relays_readIf relays_snapshot hcandidate _)
    |>.trans (relays_vector relays_fieldError herrors _)
    |>.trans (relays_effects heffects _)
  exact hall.congr (by simp [ConfigMessage.texts, and_assoc])

theorem ConfigResourceApplyRequest.relays {payload : ConfigResourceApplyRequest}
    (h : read input = some (payload, rest)) (w : BufferWriter) :
    Relays (ShortTexts (ConfigMessage.texts .applyRequest payload)) w (write w payload)
      input rest := by
  simp only [read, Reader.bind_eq_some, Reader.pure_eq_some] at h
  obtain ⟨_, _, hresource, _, _, hrevision, rfl, rfl⟩ := h
  have hall := (relays_string hresource w).trans (relays_string hrevision _)
  exact hall.congr (by simp [ConfigMessage.texts])

theorem ConfigResourceApplyResponse.relays {payload : ConfigResourceApplyResponse}
    (h : read input = some (payload, rest)) (w : BufferWriter) :
    Relays (ShortTexts (ConfigMessage.texts .applyResponse payload)) w (write w payload)
      input rest := by
  simp only [read, Reader.bind_eq_some, Reader.pure_eq_some] at h
  obtain ⟨⟨_, _⟩, _, hstatus, _, _, happlied, _, _, houtcome, _, _, heffects, rfl, rfl⟩ := h
  have hall := (relays_status hstatus w).trans (relays_string happlied _)
    |>.trans (relays_enumerator ConfigApplyOutcome.toUInt8_ofUInt8 houtcome _)
    |>.trans (relays_effects heffects _)
  exact hall.congr (by simp [ConfigMessage.texts, and_assoc])

theorem ConfigResourceVariantListRequest.relays {payload : ConfigResourceVariantListRequest}
    (h : read input = some (payload, rest)) (w : BufferWriter) :
    Relays (ShortTexts (ConfigMessage.texts .variantListRequest payload)) w (write w payload)
      input rest := by
  simp only [read, Reader.bind_eq_some, Reader.pure_eq_some] at h
  obtain ⟨_, _, hresource, rfl, rfl⟩ := h
  exact (relays_string hresource w).congr (by simp [ConfigMessage.texts])

theorem ConfigResourceVariantListResponse.relays {payload : ConfigResourceVariantListResponse}
    (h : read input = some (payload, rest)) (w : BufferWriter) :
    Relays (ShortTexts (ConfigMessage.texts .variantListResponse payload)) w (write w payload)
      input rest := by
  simp only [read, Reader.bind_eq_some, Reader.pure_eq_some] at h
  obtain ⟨⟨_, _⟩, _, hstatus, _, _, hactive, _, _, hvariants, rfl, rfl⟩ := h
  have hall := (relays_status hstatus w).trans (relays_string hactive _)
    |>.trans (relays_vector relays_variant hvariants _)
  exact hall.congr (by simp [ConfigMessage.texts, and_assoc])

theorem ConfigResourceVariantCreateRequest.relays {payload : ConfigResourceVariantCreateRequest}
    (h : read input = some (payload, rest)) (w : BufferWriter) :
    Relays (ShortTexts (ConfigMessage.texts .variantCreateRequest payload)) w (write w payload)
      input rest := by
  simp only [read, Reader.bind_eq_some, Reader.pure_eq_some] at h
  obtain ⟨_, _, hresource, _, _, hvariant, _, _, hsource, _, _, hrevision, rfl, rfl⟩ := h
  have hall := (relays_string hresource w).trans (relays_string hvariant _)
    |>.trans (relays_enumerator ConfigVariantSource.toUInt8_ofUInt8 hsource _)
    |>.trans (relays_string hrevision _)
  exact hall.congr (by simp [ConfigMessage.texts, and_assoc])

theorem ConfigResourceVariantCreateResponse.relays {payload : ConfigResourceVariantCreateResponse}
    (h : read input = some (payload, rest)) (w : BufferWriter) :
    Relays (ShortTexts (ConfigMessage.texts .variantCreateResponse payload)) w (write w payload)
      input rest := by
  simp only [read, Reader.bind_eq_some, Reader.pure_eq_some] at h
  obtain ⟨⟨_, _⟩, _, hstatus, _, _, hvariant, _, _, heffects, rfl, rfl⟩ := h
  have hall := (relays_status hstatus w).trans (relays_variant hvariant _)
    |>.trans (relays_effects heffects _)
  exact hall.congr (by simp [ConfigMessage.texts, and_assoc])

theorem ConfigResourceVariantSaveCurrentRequest.relays
    {payload : ConfigResourceVariantSaveCurrentRequest} (h : read input = some (payload, rest))
    (w : BufferWriter) :
    Relays (ShortTexts (ConfigMessage.texts .variantSaveCurrentRequest payload)) w
      (write w payload) input rest := by
  simp only [read, Reader.bind_eq_some, Reader.pure_eq_some] at h
  obtain ⟨_, _, hresource, _, _, hvariant, _, _, hrevision, _, _, hactive, rfl, rfl⟩ := h
  have hall := (relays_string hresource w).trans (relays_string hvariant _)
    |>.trans (relays_string hrevision _)
    |>.trans (relays_string hactive _)
  exact hall.congr (by simp [ConfigMessage.texts, and_assoc])

theorem ConfigResourceVariantSaveCurrentResponse.relays
    {payload : ConfigResourceVariantSaveCurrentResponse} (h : read input = some (payload, rest))
    (w : BufferWriter) :
    Relays (ShortTexts (ConfigMessage.texts .variantSaveCurrentResponse payload)) w
      (write w payload) input rest := by
  simp only [read, Reader.bind_eq_some, Reader.pure_eq_some] at h
  obtain ⟨⟨_, _⟩, _, hstatus, _, _, hvariant, _, _, heffects, rfl, rfl⟩ := h
  have hall := (relays_status hstatus w).trans (relays_variant hvariant _)
    |>.trans (relays_effects heffects _)
  exact hall.congr (by simp [ConfigMessage.texts, and_assoc])

theorem ConfigResourceVariantActivateRequest.relays
    {payload : ConfigResourceVariantActivateRequest} (h : read input = some (payload, rest))
    (w : BufferWriter) :
    Relays (ShortTexts (ConfigMessage.texts .variantActivateRequest payload)) w (write w payload)
      input rest := by
  simp only [read, Reader.bind_eq_some, Reader.pure_eq_some] at h
  obtain ⟨_, _, hresource, _, _, hvariant, _, _, hrevision, rfl, rfl⟩ := h
  have hall := (relays_string hresource w).trans (relays_string hvariant _)
    |>.trans (relays_string hrevision _)
  exact hall.congr (by simp [ConfigMessage.texts, and_assoc])

theorem ConfigResourceVariantActivateResponse.relays
    {payload : ConfigResourceVariantActivateResponse} (h : read input = some (payload, rest))
    (w : BufferWriter) :
    Relays (ShortTexts (ConfigMessage.texts .variantActivateResponse payload)) w (write w payload)
      input rest := by
  simp only [read, Reader.bind_eq_some, Reader.pure_eq_some] at h
  obtain ⟨⟨_, _⟩, _, hstatus, _, _, happlied, _, _, houtcome, _, _, heffects, rfl, rfl⟩ := h
  have hall := (relays_status hstatus w).trans (relays_string happlied _)
    |>.trans (relays_enumerator ConfigApplyOutcome.toUInt8_ofUInt8 houtcome _)
    |>.trans (relays_effects heffects _)
  exact hall.congr (by simp [ConfigMessage.texts, and_assoc])

theorem ConfigResourceVariantDeleteRequest.relays {payload : ConfigResourceVariantDeleteRequest}
    (h : read input = some (payload, rest)) (w : BufferWriter) :
    Relays (ShortTexts (ConfigMessage.texts .variantDeleteRequest payload)) w (write w payload)
      input rest := by
  simp only [read, Reader.bind_eq_some, Reader.pure_eq_some] at h
  obtain ⟨_, _, hresource, _, _, hvariant, _, _, hrevision, rfl, rfl⟩ := h
  have hall := (relays_string hresource w).trans (relays_string hvariant _)
    |>.trans (relays_string hrevision _)
  exact hall.congr (by simp [ConfigMessage.texts, and_assoc])

theorem ConfigResourceVariantDeleteResponse.relays {payload : ConfigResourceVariantDeleteResponse}
    (h : read input = some (payload, rest)) (w : BufferWriter) :
    Relays (ShortTexts (ConfigMessage.texts .variantDeleteResponse payload)) w (write w payload)
      input rest := by
  simp only [read, Reader.bind_eq_some, Reader.pure_eq_some] at h
  obtain ⟨⟨_, _⟩, _, hstatus, rfl, rfl⟩ := h
  exact (relays_status hstatus w).congr (by simp [ConfigMessage.texts])

theorem valid_writeString {value : Text} {w : BufferWriter} :
    (w.writeString value).valid = true ↔
      w.valid = true ∧ value.length ≤ kMaxCoreStringBytes := by
  unfold BufferWriter.writeString
  split
  · next hlong => simp [Buffer.invalidate, Nat.not_le.mpr hlong]
  · next hshort => simp [BufferWriter.writeU16, Buffer.put, Nat.le_of_not_lt hshort]

/-- A describe request is written if its strings are short; an empty locale is left out. -/
theorem ConfigResourceDescribeRequest.valid_write {payload : ConfigResourceDescribeRequest} :
    (write {} payload).valid = true ↔
      ShortTexts (ConfigMessage.texts .describeRequest payload) := by
  obtain ⟨resourceId, locale⟩ := payload
  cases locale <;> simp [write, ConfigMessage.texts, valid_writeString]

end messages

/-! ### The overloads -/

namespace ConfigMessage

variable {kind : ConfigMessage}

theorem relays (hkind : kind ≠ describeRequest) {input rest : Bytes} {payload : kind.Value}
    (h : kind.read input = some (payload, rest)) (w : BufferWriter) :
    Relays (ShortTexts (kind.texts payload)) w (kind.write w payload) input rest := by
  cases kind with
  | describeRequest => exact absurd rfl hkind
  | listRequest => exact (ConfigResourceListRequest.relays h w).congr (by simp [texts])
  | listResponse => exact ConfigResourceListResponse.relays h w
  | describeResponse => exact ConfigResourceDescribeResponse.relays h w
  | getRequest => exact ConfigResourceGetRequest.relays h w
  | getResponse => exact ConfigResourceGetResponse.relays h w
  | patchRequest => exact ConfigResourcePatchRequest.relays h w
  | patchResponse => exact ConfigResourcePatchResponse.relays h w
  | applyRequest => exact ConfigResourceApplyRequest.relays h w
  | applyResponse => exact ConfigResourceApplyResponse.relays h w
  | variantListRequest => exact ConfigResourceVariantListRequest.relays h w
  | variantListResponse => exact ConfigResourceVariantListResponse.relays h w
  | variantCreateRequest => exact ConfigResourceVariantCreateRequest.relays h w
  | variantCreateResponse => exact ConfigResourceVariantCreateResponse.relays h w
  | variantSaveCurrentRequest => exact ConfigResourceVariantSaveCurrentRequest.relays h w
  | variantSaveCurrentResponse => exact ConfigResourceVariantSaveCurrentResponse.relays h w
  | variantActivateRequest => exact ConfigResourceVariantActivateRequest.relays h w
  | variantActivateResponse => exact ConfigResourceVariantActivateResponse.relays h w
  | variantDeleteRequest => exact ConfigResourceVariantDeleteRequest.relays h w
  | variantDeleteResponse => exact ConfigResourceVariantDeleteResponse.relays h w

/-- No message is empty. -/
theorem decodePayload_nil (kind : ConfigMessage) : kind.decodePayload [] = none := by
  cases kind <;> rfl

/-- An accepted payload whose strings are short is encoded, and decoded again. -/
theorem decodePayload_encodePayload_of_short {bytes : Bytes} {payload : kind.Value}
    (h : kind.decodePayload bytes = some payload) (hshort : ShortTexts (kind.texts payload)) :
    kind.decodePayload (kind.encodePayload payload) = some payload := by
  by_cases hkind : kind = describeRequest
  · subst hkind
    exact ConfigResourceDescribeRequest.decodeAll_read payload
      (ConfigResourceDescribeRequest.valid_write.mpr hshort)
  · obtain ⟨read, hread, hput, -⟩ := relays hkind (eq_some_of_decodeAll h) {}
    have hbytes : kind.encodePayload payload = bytes := by
      rw [encodePayload, hput hshort, hread, List.append_nil]
      rfl
    rw [hbytes, h]

/-- A payload with a string that is not short is not encoded. -/
theorem encodePayload_of_not_short {bytes : Bytes} {payload : kind.Value}
    (h : kind.decodePayload bytes = some payload) (hshort : ¬ShortTexts (kind.texts payload)) :
    kind.encodePayload payload = [] := by
  refine if_neg fun hvalid => hshort ?_
  by_cases hkind : kind = describeRequest
  · subst hkind
    exact ConfigResourceDescribeRequest.valid_write.mp hvalid
  · obtain ⟨read, -, -, hfits⟩ := relays hkind (eq_some_of_decodeAll h) {}
    exact (hfits hvalid).2

end ConfigMessage

/-- **An accepted payload can be sent again exactly when its strings are short.** -/
theorem configMessage_resendable_iff (kind : ConfigMessage) (bytes : Bytes) (value : kind.Value)
    (h : kind.decodePayload bytes = some value) :
    (kind.encodePayload value ≠ [] ∧
        kind.decodePayload (kind.encodePayload value) = some value) ↔
      ShortTexts (kind.texts value) := by
  constructor
  · intro hresent
    by_contra hshort
    exact hresent.1 (ConfigMessage.encodePayload_of_not_short h hshort)
  · intro hshort
    have hdecoded := ConfigMessage.decodePayload_encodePayload_of_short h hshort
    refine ⟨fun hempty => ?_, hdecoded⟩
    rw [hempty, kind.decodePayload_nil] at hdecoded
    exact absurd hdecoded (by simp)

/-- A request for the variants of the resource `cam`. -/
def shortVariantListRequest : Bytes := [3, 0, 99, 97, 109]

theorem configMessage_resendable_iff_shortVariantListRequest :
    ConfigMessage.decodePayload .variantListRequest shortVariantListRequest =
        some ⟨ascii "cam"⟩ ∧
      ConfigMessage.encodePayload .variantListRequest ⟨ascii "cam"⟩ ≠ [] := by
  have hdecode : ConfigMessage.decodePayload .variantListRequest shortVariantListRequest =
      some ⟨ascii "cam"⟩ := by rfl
  have hshort : ShortTexts (ConfigMessage.texts .variantListRequest ⟨ascii "cam"⟩) := by
    decide
  exact ⟨hdecode, ((configMessage_resendable_iff _ _ _ hdecode).mpr hshort).1⟩

/-- A request for the variants of a resource whose name has 1025 bytes. -/
def longVariantListRequest : Bytes := [1, 4] ++ List.replicate 1025 97

/-- What the decoder accepts, the encoder does not write. -/
theorem decodePayload_not_resendable :
    ¬∀ (kind : ConfigMessage) (bytes : Bytes) (value : kind.Value),
      kind.decodePayload bytes = some value →
      kind.encodePayload value ≠ [] ∧
        kind.decodePayload (kind.encodePayload value) = some value := by
  intro hall
  have hdecode : ConfigMessage.decodePayload .variantListRequest longVariantListRequest =
      some ⟨List.replicate 1025 97⟩ := by
    show decodeAll ConfigResourceVariantListRequest.read longVariantListRequest = some _
    decide +kernel
  refine (hall .variantListRequest _ _ hdecode).1 ?_
  decide +kernel

end YunLink
