import YunLink.Messages.Configuration

/-!
# Configuration messages survive the wire

What is written of a configuration message is read back in normal form: the members of a
value that its type does not name and the optional parts that a flag leaves out are at
their defaults.  The reader of a schema checks more than its writer does.  It refuses the
type `kUnset` and bounds that are not finite, so a describe response with such a schema
is encoded and cannot be decoded; nothing else the encoder lets out is refused.

## Main definitions

* `ConfigValue.normal`, `ConfigMessage.normal` — normal forms.
* `ConfigFieldSchema.Sound`, `ConfigMessage.SchemasSound` — what the reader of a schema
  asks for and its writer does not.

## Main results

* `yields_value`, `yields_schema` — what is read of a value and of a schema.
* `configMessage_roundTrip` — **a message with sound schemas that can be encoded is
  decoded in normal form.**
* `configMessage_accepted_iff` — **an encoded message is accepted exactly when its schemas
  are sound.**
-/

namespace YunLink

open Codec PayloadReader BufferWriter

/-! ### Normal forms -/

/-- Only the member that the type names is kept. -/
def ConfigValue.normal (value : ConfigValue) : ConfigValue where
  type := value.type
  boolValue := if value.type = .bool then value.boolValue else false
  int64Value := if value.type = .int64 then value.int64Value else 0
  doubleValue := if value.type = .double then value.doubleValue else 0
  stringValue := if value.type = .string then value.stringValue else []
  stringListValue := if value.type = .stringList then value.stringListValue else []
  doubleListValue := if value.type = .doubleList then value.doubleListValue else []

/-- A choice with its values in normal form. -/
def ConfigChoice.normal (choice : ConfigChoice) : ConfigChoice :=
  { choice with value := choice.value.normal }

/-- A schema with its values in normal form. -/
def ConfigFieldSchema.normal (schema : ConfigFieldSchema) : ConfigFieldSchema :=
  { schema with
    choices := schema.choices.map ConfigChoice.normal
    defaultValue := if schema.hasDefaultValue then schema.defaultValue.normal else {} }

/-- A field with its values in normal form. -/
def ConfigFieldValue.normal (field : ConfigFieldValue) : ConfigFieldValue :=
  { field with value := field.value.normal }

/-- A snapshot with its values in normal form. -/
def ConfigSnapshot.normal (snapshot : ConfigSnapshot) : ConfigSnapshot :=
  { snapshot with values := snapshot.values.map ConfigFieldValue.normal }

namespace ConfigMessage

/-- The value with every inactive part at its default. -/
def normal : (kind : ConfigMessage) → kind.Value → kind.Value
  | describeResponse => fun payload : ConfigResourceDescribeResponse =>
      { payload with fields := payload.fields.map ConfigFieldSchema.normal }
  | getResponse => fun payload : ConfigResourceGetResponse =>
      { payload with snapshot := payload.snapshot.normal }
  | patchRequest => fun payload : ConfigResourcePatchRequest =>
      { payload with updates := payload.updates.map ConfigFieldValue.normal }
  | patchResponse => fun payload : ConfigResourcePatchResponse =>
      { payload with
        snapshot := payload.snapshot.normal
        candidateSnapshot :=
          if payload.hasCandidateSnapshot then payload.candidateSnapshot.normal else {} }
  | listRequest | listResponse | describeRequest | getRequest | applyRequest | applyResponse
  | variantListRequest | variantListResponse | variantCreateRequest | variantCreateResponse
  | variantSaveCurrentRequest | variantSaveCurrentResponse | variantActivateRequest
  | variantActivateResponse | variantDeleteRequest | variantDeleteResponse => id

end ConfigMessage

/-- What the reader of a schema asks for and its writer does not. -/
def ConfigFieldSchema.Sound (schema : ConfigFieldSchema) : Prop :=
  schema.type ≠ .unset ∧ isFinite schema.minimum = true ∧ isFinite schema.maximum = true

instance (schema : ConfigFieldSchema) : Decidable schema.Sound :=
  inferInstanceAs (Decidable (_ ∧ _ ∧ _))

/-- Every schema in the message is sound; only a describe response has any. -/
def ConfigMessage.SchemasSound : (kind : ConfigMessage) → kind.Value → Prop
  | .describeResponse => fun payload : ConfigResourceDescribeResponse =>
      ∀ schema ∈ payload.fields, schema.Sound
  | .listRequest | .listResponse | .describeRequest | .getRequest | .getResponse | .patchRequest
  | .patchResponse | .applyRequest | .applyResponse | .variantListRequest | .variantListResponse
  | .variantCreateRequest | .variantCreateResponse | .variantSaveCurrentRequest
  | .variantSaveCurrentResponse | .variantActivateRequest | .variantActivateResponse
  | .variantDeleteRequest | .variantDeleteResponse => fun _ => True

/-! ### Strings, numbers and vectors -/

section fields

variable {α β : Type}

theorem yields_string (value : Text) (w : BufferWriter) :
    Yields readString w (w.writeString value) (some value) := by
  unfold BufferWriter.writeString
  split
  · exact .invalidate w _
  next h =>
  have hle : value.length ≤ uint16Max :=
    (Nat.le_of_not_lt h).trans (by decide)
  have htext := yields_text value w
  rwa [Writer.text, if_neg (Nat.not_lt.mpr hle)] at htext

theorem yields_finite (bits : UInt64) (w : BufferWriter) :
    Yields readFinite w (w.writeFinite bits) (some bits) := by
  unfold BufferWriter.writeFinite
  split
  · exact .invalidate w _
  next h =>
  refine yields_checked (yields_u64 bits w) ?_
  simpa using h

/-- What is read of a vector is what is read of its items, up to the first refused. -/
theorem yields_vector {read : PayloadReader β} {write : BufferWriter → α → BufferWriter}
    {out : α → Option β} {values : List α}
    (h : ∀ a ∈ values, ∀ w, Yields read w (write w a) (out a)) (w : BufferWriter) :
    Yields (readVector read) w (w.writeVector values write) (values.mapM out) := by
  unfold BufferWriter.writeVector
  split
  · exact .invalidate w _
  next hlength =>
  have hle : values.length ≤ 256 := Nat.le_of_not_lt hlength
  have hcount : (UInt16.ofNat values.length).toNat = values.length :=
    toNat_ofNat_of_le (hle.trans (by decide))
  have hcheck : decide (UInt16.ofNat values.length ≤ kMaxConfigItems) = true := by
    rw [decide_eq_true_iff, UInt16.le_iff_toNat_le, hcount]
    exact hle
  refine (yields_checked (yields_u16 (UInt16.ofNat values.length) w) hcheck).bind ?_
  rw [hcount, list_eq_times]
  exact Yields.times values _ h

/-- Items that are all read are read as a list. -/
theorem yields_vector_map {read : PayloadReader β} {write : BufferWriter → α → BufferWriter}
    {normal : α → β} (h : ∀ a w, Yields read w (write w a) (some (normal a))) (values : List α)
    (w : BufferWriter) :
    Yields (readVector read) w (w.writeVector values write) (some (values.map normal)) := by
  have hvector : Yields (readVector read) w (w.writeVector values write)
      (values.mapM fun a => some (normal a)) := yields_vector (fun a _ w => h a w) w
  have hsame : (values.mapM fun a => some (normal a)) = some (values.map normal) :=
    List.mapM_pure (m := Option) (l := values) (f := normal)
  rwa [hsame] at hvector

/-- Items that are read as they are make a list that is. -/
theorem yields_vector_id {read : PayloadReader α} {write : BufferWriter → α → BufferWriter}
    (h : ∀ a w, Yields read w (write w a) (some a)) (values : List α) (w : BufferWriter) :
    Yields (readVector read) w (w.writeVector values write) (some values) := by
  have hmap := yields_vector_map h values w
  rwa [List.map_id'] at hmap

theorem yields_strings (values : List Text) (w : BufferWriter) :
    Yields readStrings w (w.writeStrings values) (some values) :=
  yields_vector_id yields_string values w

end fields

/-! ### Parts of messages -/

section parts

theorem ConfigValueType.ofUInt8_toUInt8 (type : ConfigValueType) : ofUInt8 type.toUInt8 = type := by
  cases type <;> rfl

theorem ConfigServiceStatus.ofUInt8_toUInt8 (status : ConfigServiceStatus) :
    ofUInt8 status.toUInt8 = status := by
  cases status <;> rfl

theorem ConfigApplyRequirement.ofUInt8_toUInt8 (requirement : ConfigApplyRequirement) :
    ofUInt8 requirement.toUInt8 = requirement := by
  cases requirement <;> rfl

theorem ConfigApplyOutcome.ofUInt8_toUInt8 (outcome : ConfigApplyOutcome) :
    ofUInt8 outcome.toUInt8 = outcome := by
  cases outcome <;> rfl

theorem ConfigFieldUpdatePolicy.ofUInt8_toUInt8 (policy : ConfigFieldUpdatePolicy) :
    ofUInt8 policy.toUInt8 = policy := by
  cases policy <;> rfl

theorem ConfigVariantSource.ofUInt8_toUInt8 (source : ConfigVariantSource) :
    ofUInt8 source.toUInt8 = source := by
  cases source <;> rfl

/-- **A value is read back in normal form.** -/
theorem yields_value (value : ConfigValue) (w : BufferWriter) :
    Yields readValue w (writeValue w value) (some value.normal) := by
  obtain ⟨type, boolValue, int64Value, doubleValue, stringValue, strings, doubles⟩ := value
  refine (yields_checked (yields_u8 type.toUInt8 w) (by cases type <;> rfl)).bind ?_
  rw [ConfigValueType.ofUInt8_toUInt8]
  cases type with
  | bool => exact (yields_flag boolValue _).bind (.pure _ _)
  | int64 => exact (yields_u64 int64Value.toUInt64 _).bind (.pure _ _)
  | double => exact (yields_finite doubleValue _).bind (.pure _ _)
  | string => exact (yields_string stringValue _).bind (.pure _ _)
  | stringList => exact (yields_strings strings _).bind (.pure _ _)
  | doubleList => exact (yields_vector_id yields_finite doubles _).bind (.pure _ _)
  | unset => exact .pure _ _

theorem yields_descriptor (value : ConfigResourceDescriptor) (w : BufferWriter) :
    Yields readDescriptor w (writeDescriptor w value) (some value) := by
  refine (yields_string value.id w).bind ?_
  refine (yields_string value.title _).bind ?_
  refine (yields_string value.description _).bind ?_
  refine (yields_flag value.readable _).bind ?_
  refine (yields_flag value.writable _).bind ?_
  refine (yields_flag value.applySupported _).bind ?_
  refine (yields_flag value.variantsSupported _).bind ?_
  exact .pure value _

theorem yields_choice (choice : ConfigChoice) (w : BufferWriter) :
    Yields readChoice w (writeChoice w choice) (some choice.normal) := by
  refine (yields_value choice.value w).bind ?_
  refine (yields_string choice.label _).bind ?_
  exact .pure choice.normal _

theorem yields_fieldValue (field : ConfigFieldValue) (w : BufferWriter) :
    Yields readFieldValue w (writeFieldValue w field) (some field.normal) := by
  refine (yields_string field.path w).bind ?_
  refine (yields_value field.value _).bind ?_
  exact .pure field.normal _

theorem yields_snapshot (snapshot : ConfigSnapshot) (w : BufferWriter) :
    Yields readSnapshot w (writeSnapshot w snapshot) (some snapshot.normal) := by
  refine (yields_string snapshot.resourceId w).bind ?_
  refine (yields_string snapshot.revision _).bind ?_
  refine (yields_string snapshot.appliedRevision _).bind ?_
  refine (yields_string snapshot.variantId _).bind ?_
  refine (yields_string snapshot.activeVariantId _).bind ?_
  refine (yields_vector_map yields_fieldValue snapshot.values _).bind ?_
  refine (yields_strings snapshot.userOverriddenPaths _).bind ?_
  exact .pure snapshot.normal _

theorem yields_variant (value : ConfigVariantDescriptor) (w : BufferWriter) :
    Yields readVariant w (writeVariant w value) (some value) := by
  refine (yields_string value.id w).bind ?_
  refine (yields_string value.title _).bind ?_
  refine (yields_string value.revision _).bind ?_
  refine (yields_u64 value.modifiedAtNs _).bind ?_
  refine (yields_flag value.active _).bind ?_
  refine (yields_flag value.mutableVariant _).bind ?_
  exact .pure value _

theorem yields_fieldError (value : ConfigFieldError) (w : BufferWriter) :
    Yields readFieldError w (writeFieldError w value) (some value) := by
  refine (yields_string value.path w).bind ?_
  refine (yields_string value.code _).bind ?_
  refine (yields_string value.message _).bind ?_
  exact .pure value _

theorem yields_effects (value : ConfigEffects) (w : BufferWriter) :
    Yields readEffects w (writeEffects w value) (some value) := by
  refine (yields_checked (yields_u8 value.requirement.toUInt8 w) ?_).bind ?_
  · cases value.requirement <;> rfl
  refine (yields_strings value.affectedComponents _).bind ?_
  refine (yields_flag value.reconnectExpected _).bind ?_
  rw [ConfigApplyRequirement.ofUInt8_toUInt8]
  exact .pure value _

theorem yields_status (status : ConfigServiceStatus) (message : Text) (w : BufferWriter) :
    Yields readStatus w (writeStatus w status message) (some (status, message)) := by
  refine (yields_checked (yields_u8 status.toUInt8 w) ?_).bind ?_
  · cases status <;> rfl
  refine (yields_string message _).bind ?_
  rw [ConfigServiceStatus.ofUInt8_toUInt8]
  exact .pure (status, message) _

/-- A part that is written on the same condition it is read on. -/
theorem yields_readIf {α : Type} {read : PayloadReader α} {write : BufferWriter → BufferWriter}
    {value absent : α} (h : ∀ w, Yields read w (write w) (some value)) (present : Bool)
    (w : BufferWriter) :
    Yields (readIf present read absent) w (if present then write w else w)
      (some (if present then value else absent)) := by
  cases present
  · exact .pure absent w
  · exact h w

/-- A byte of a type that no field can have. -/
theorem yields_schemaType (type : ConfigValueType) (w : BufferWriter) :
    Yields (checked u8 validSchemaValueType) w (w.writeU8 type.toUInt8)
      (if type = .unset then none else some type.toUInt8) := by
  cases type with
  | unset => exact (yields_u8 _ w).bind (.fail (by decide) (.refl _))
  | _ => exact yields_checked (yields_u8 _ w) rfl

/-- What is written of a schema between its type and its default. -/
theorem extends_schemaBody (schema : ConfigFieldSchema) (w : BufferWriter) :
    w.Extends (w.writeBool schema.required
      |>.writeBool schema.readOnly
      |>.writeBool schema.sensitive
      |>.writeBool schema.hasMinimum
      |>.writeDouble schema.minimum
      |>.writeBool schema.hasMaximum
      |>.writeDouble schema.maximum
      |>.writeString schema.validationPattern
      |>.writeVector schema.choices writeChoice
      |>.writeString schema.groupPath
      |>.writeU8 schema.updatePolicy.toUInt8
      |>.writeString schema.unit) := by
  refine (yields_flag schema.required w).toExtends.trans ?_
  refine (yields_flag schema.readOnly _).toExtends.trans ?_
  refine (yields_flag schema.sensitive _).toExtends.trans ?_
  refine (yields_flag schema.hasMinimum _).toExtends.trans ?_
  refine (yields_u64 schema.minimum _).toExtends.trans ?_
  refine (yields_flag schema.hasMaximum _).toExtends.trans ?_
  refine (yields_u64 schema.maximum _).toExtends.trans ?_
  refine (yields_string schema.validationPattern _).toExtends.trans ?_
  refine (yields_vector_map yields_choice schema.choices _).toExtends.trans ?_
  refine (yields_string schema.groupPath _).toExtends.trans ?_
  refine (yields_u8 schema.updatePolicy.toUInt8 _).toExtends.trans ?_
  exact (yields_string schema.unit _).toExtends

/-- What is written of a schema from its default on. -/
theorem extends_schemaTail (schema : ConfigFieldSchema) (w : BufferWriter) :
    w.Extends (BufferWriter.writeBool (if schema.hasDefaultValue then
      writeValue (w.writeBool schema.hasDefaultValue) schema.defaultValue
      else w.writeBool schema.hasDefaultValue) schema.advanced) := by
  refine (yields_flag schema.hasDefaultValue w).toExtends.trans ?_
  have hdefault : ∀ w, Yields (readIf schema.hasDefaultValue readValue {}) w
      (if schema.hasDefaultValue then writeValue w schema.defaultValue else w) _ :=
    yields_readIf (yields_value schema.defaultValue) schema.hasDefaultValue
  refine (hdefault _).toExtends.trans ?_
  exact (yields_flag schema.advanced _).toExtends

/-- **A schema is read back in normal form if it is sound, and refused if not.** -/
theorem yields_schema (schema : ConfigFieldSchema) (w : BufferWriter) :
    Yields readSchema w (writeSchema w schema)
      (if schema.Sound then some schema.normal else none) := by
  refine (yields_string schema.path w).bind ?_
  refine (yields_string schema.title _).bind ?_
  refine (yields_string schema.description _).bind ?_
  by_cases htype : schema.type = .unset
  · -- the type is refused, whatever is written behind it
    have hrefused := fun w => yields_schemaType schema.type w
    rw [if_pos htype] at hrefused
    rw [if_neg fun hsound => hsound.1 htype]
    refine (hrefused _).refuse ?_
    exact (extends_schemaBody schema _).trans (extends_schemaTail schema _)
  have haccepted := fun w => yields_schemaType schema.type w
  rw [if_neg htype] at haccepted
  refine (haccepted _).bind ?_
  refine (yields_flag schema.required _).bind ?_
  refine (yields_flag schema.readOnly _).bind ?_
  refine (yields_flag schema.sensitive _).bind ?_
  refine (yields_flag schema.hasMinimum _).bind ?_
  refine (yields_u64 schema.minimum _).bind ?_
  refine (yields_flag schema.hasMaximum _).bind ?_
  refine (yields_u64 schema.maximum _).bind ?_
  refine (yields_string schema.validationPattern _).bind ?_
  refine (yields_vector_map yields_choice schema.choices _).bind ?_
  refine (yields_string schema.groupPath _).bind ?_
  refine (yields_u8 schema.updatePolicy.toUInt8 _).bind ?_
  refine (yields_string schema.unit _).bind ?_
  have hpolicy : validUpdatePolicy schema.updatePolicy.toUInt8 = true := by
    cases schema.updatePolicy <;> rfl
  by_cases hfinite : isFinite schema.minimum = true ∧ isFinite schema.maximum = true
  · rw [if_pos ⟨htype, hfinite⟩]
    refine .check (by simp [hfinite, hpolicy]) ?_
    refine (yields_flag schema.hasDefaultValue _).bind ?_
    refine (yields_readIf (yields_value schema.defaultValue) schema.hasDefaultValue _).bind ?_
    refine (yields_flag schema.advanced _).bind ?_
    rw [ConfigValueType.ofUInt8_toUInt8, ConfigFieldUpdatePolicy.ofUInt8_toUInt8]
    exact .pure schema.normal _
  · -- the bounds are refused before the default is read
    rw [if_neg fun hsound => hfinite hsound.2]
    refine .fail ?_ (extends_schemaTail schema _)
    simpa [hpolicy] using hfinite

end parts

/-! ### Messages -/

section messages

theorem ConfigResourceListRequest.yields (payload : ConfigResourceListRequest) (w : BufferWriter) :
    Yields read w (write w payload) (some payload) :=
  (yields_u8 payload.reserved w).bind (.pure payload _)

theorem ConfigResourceListResponse.yields (payload : ConfigResourceListResponse)
    (w : BufferWriter) : Yields read w (write w payload) (some payload) := by
  refine (yields_status payload.status payload.message w).bind ?_
  refine (yields_vector_id yields_descriptor payload.resources _).bind ?_
  exact .pure payload _

theorem ConfigResourceDescribeResponse.yields (payload : ConfigResourceDescribeResponse)
    (w : BufferWriter) :
    Yields read w (write w payload) (if ∀ schema ∈ payload.fields, schema.Sound then
      some { payload with fields := payload.fields.map ConfigFieldSchema.normal } else none) := by
  refine (yields_status payload.status payload.message w).bind ?_
  refine (yields_descriptor payload.resource _).bind ?_
  have hfields := fun w => yields_vector (fun schema (_ : schema ∈ payload.fields) =>
    yields_schema schema) w
  simp only [mapM_ite] at hfields
  by_cases hsound : ∀ schema ∈ payload.fields, schema.Sound
  · rw [if_pos hsound]
    simp only [if_pos hsound] at hfields
    exact (hfields _).bind (.pure _ _)
  · rw [if_neg hsound]
    simp only [if_neg hsound] at hfields
    exact (hfields _).refuse (.refl _)

theorem ConfigResourceGetRequest.yields (payload : ConfigResourceGetRequest) (w : BufferWriter) :
    Yields read w (write w payload) (some payload) := by
  refine (yields_string payload.resourceId w).bind ?_
  refine (yields_string payload.variantId _).bind ?_
  exact .pure payload _

theorem ConfigResourceGetResponse.yields (payload : ConfigResourceGetResponse)
    (w : BufferWriter) :
    Yields read w (write w payload)
      (some { payload with snapshot := payload.snapshot.normal }) := by
  refine (yields_status payload.status payload.message w).bind ?_
  refine (yields_snapshot payload.snapshot _).bind ?_
  exact .pure _ _

theorem ConfigResourcePatchRequest.yields (payload : ConfigResourcePatchRequest)
    (w : BufferWriter) :
    Yields read w (write w payload)
      (some { payload with updates := payload.updates.map ConfigFieldValue.normal }) := by
  refine (yields_string payload.resourceId w).bind ?_
  refine (yields_string payload.variantId _).bind ?_
  refine (yields_string payload.expectedRevision _).bind ?_
  refine (yields_vector_map yields_fieldValue payload.updates _).bind ?_
  refine (yields_flag payload.validateOnly _).bind ?_
  exact .pure _ _

theorem ConfigResourcePatchResponse.yields (payload : ConfigResourcePatchResponse)
    (w : BufferWriter) :
    Yields read w (write w payload)
      (some { payload with
        snapshot := payload.snapshot.normal
        candidateSnapshot :=
          if payload.hasCandidateSnapshot then payload.candidateSnapshot.normal else {} }) := by
  refine (yields_status payload.status payload.message w).bind ?_
  refine (yields_snapshot payload.snapshot _).bind ?_
  refine (yields_flag payload.hasCandidateSnapshot _).bind ?_
  refine (yields_readIf (yields_snapshot payload.candidateSnapshot)
    payload.hasCandidateSnapshot _).bind ?_
  refine (yields_vector_id yields_fieldError payload.errors _).bind ?_
  refine (yields_effects payload.effects _).bind ?_
  exact .pure _ _

theorem ConfigResourceApplyRequest.yields (payload : ConfigResourceApplyRequest)
    (w : BufferWriter) : Yields read w (write w payload) (some payload) := by
  refine (yields_string payload.resourceId w).bind ?_
  refine (yields_string payload.expectedRevision _).bind ?_
  exact .pure payload _

theorem yields_outcome (outcome : ConfigApplyOutcome) (w : BufferWriter) :
    Yields (checked u8 validOutcome) w (w.writeU8 outcome.toUInt8) (some outcome.toUInt8) := by
  refine yields_checked (yields_u8 outcome.toUInt8 w) ?_
  cases outcome <;> rfl

theorem ConfigResourceApplyResponse.yields (payload : ConfigResourceApplyResponse)
    (w : BufferWriter) : Yields read w (write w payload) (some payload) := by
  refine (yields_status payload.status payload.message w).bind ?_
  refine (yields_string payload.appliedRevision _).bind ?_
  refine (yields_outcome payload.outcome _).bind ?_
  refine (yields_effects payload.effects _).bind ?_
  rw [ConfigApplyOutcome.ofUInt8_toUInt8]
  exact .pure payload _

theorem ConfigResourceVariantListRequest.yields (payload : ConfigResourceVariantListRequest)
    (w : BufferWriter) : Yields read w (write w payload) (some payload) :=
  (yields_string payload.resourceId w).bind (.pure payload _)

theorem ConfigResourceVariantListResponse.yields (payload : ConfigResourceVariantListResponse)
    (w : BufferWriter) : Yields read w (write w payload) (some payload) := by
  refine (yields_status payload.status payload.message w).bind ?_
  refine (yields_string payload.activeVariantId _).bind ?_
  refine (yields_vector_id yields_variant payload.variants _).bind ?_
  exact .pure payload _

theorem ConfigResourceVariantCreateRequest.yields (payload : ConfigResourceVariantCreateRequest)
    (w : BufferWriter) : Yields read w (write w payload) (some payload) := by
  refine (yields_string payload.resourceId w).bind ?_
  refine (yields_string payload.variantId _).bind ?_
  refine (yields_checked (yields_u8 payload.source.toUInt8 _) ?_).bind ?_
  · cases payload.source <;> rfl
  refine (yields_string payload.expectedActiveRevision _).bind ?_
  rw [ConfigVariantSource.ofUInt8_toUInt8]
  exact .pure payload _

theorem ConfigResourceVariantCreateResponse.yields (payload : ConfigResourceVariantCreateResponse)
    (w : BufferWriter) : Yields read w (write w payload) (some payload) := by
  refine (yields_status payload.status payload.message w).bind ?_
  refine (yields_variant payload.variant _).bind ?_
  refine (yields_effects payload.effects _).bind ?_
  exact .pure payload _

theorem ConfigResourceVariantSaveCurrentRequest.yields
    (payload : ConfigResourceVariantSaveCurrentRequest) (w : BufferWriter) :
    Yields read w (write w payload) (some payload) := by
  refine (yields_string payload.resourceId w).bind ?_
  refine (yields_string payload.variantId _).bind ?_
  refine (yields_string payload.expectedVariantRevision _).bind ?_
  refine (yields_string payload.expectedActiveRevision _).bind ?_
  exact .pure payload _

theorem ConfigResourceVariantSaveCurrentResponse.yields
    (payload : ConfigResourceVariantSaveCurrentResponse) (w : BufferWriter) :
    Yields read w (write w payload) (some payload) := by
  refine (yields_status payload.status payload.message w).bind ?_
  refine (yields_variant payload.variant _).bind ?_
  refine (yields_effects payload.effects _).bind ?_
  exact .pure payload _

theorem ConfigResourceVariantActivateRequest.yields
    (payload : ConfigResourceVariantActivateRequest) (w : BufferWriter) :
    Yields read w (write w payload) (some payload) := by
  refine (yields_string payload.resourceId w).bind ?_
  refine (yields_string payload.variantId _).bind ?_
  refine (yields_string payload.expectedActiveRevision _).bind ?_
  exact .pure payload _

theorem ConfigResourceVariantActivateResponse.yields
    (payload : ConfigResourceVariantActivateResponse) (w : BufferWriter) :
    Yields read w (write w payload) (some payload) := by
  refine (yields_status payload.status payload.message w).bind ?_
  refine (yields_string payload.appliedRevision _).bind ?_
  refine (yields_outcome payload.outcome _).bind ?_
  refine (yields_effects payload.effects _).bind ?_
  rw [ConfigApplyOutcome.ofUInt8_toUInt8]
  exact .pure payload _

theorem ConfigResourceVariantDeleteRequest.yields (payload : ConfigResourceVariantDeleteRequest)
    (w : BufferWriter) : Yields read w (write w payload) (some payload) := by
  refine (yields_string payload.resourceId w).bind ?_
  refine (yields_string payload.variantId _).bind ?_
  refine (yields_string payload.expectedRevision _).bind ?_
  exact .pure payload _

theorem ConfigResourceVariantDeleteResponse.yields (payload : ConfigResourceVariantDeleteResponse)
    (w : BufferWriter) : Yields read w (write w payload) (some payload) :=
  (yields_status payload.status payload.message w).bind (.pure payload _)

/-- A locale is read exactly when one was written: the payload goes on behind the
resource. -/
theorem ConfigResourceDescribeRequest.decodeAll_read (payload : ConfigResourceDescribeRequest)
    (h : (write {} payload).valid = true) :
    decodeAll read (write {} payload).take = some payload := by
  obtain ⟨resourceId, locale⟩ := payload
  have hfirst := yields_string resourceId ({} : BufferWriter)
  rw [Buffer.take_of_valid h]
  cases locale with
  | nil =>
    obtain ⟨-, written, hdata, hread⟩ := hfirst h
    have hwhole : read written = some (⟨resourceId, []⟩, []) := by
      refine Reader.bind_eq_some.mpr ⟨resourceId, [], ?_, rfl⟩
      rw [← List.append_nil written, hread]
      rfl
    have hdata' : (write {} ⟨resourceId, []⟩).data = written := hdata
    rw [hdata', decodeAll, hwhole]
  | cons byte rest =>
    obtain ⟨hmiddle, tail, htail, hlocale⟩ :=
      yields_string (byte :: rest) (BufferWriter.writeString {} resourceId) h
    obtain ⟨-, head, hhead, hread⟩ := hfirst hmiddle
    have hlast : readString tail = some (byte :: rest, []) := by
      rw [← List.append_nil tail, hlocale]
      rfl
    -- Behind the resource something is left, so the reader goes on with the locale.
    have hwhole : read (head ++ tail) = some (⟨resourceId, byte :: rest⟩, []) := by
      refine Reader.bind_eq_some.mpr ⟨resourceId, tail, hread tail, ?_⟩
      cases tail with
      | nil =>
        have hnone : readString [] = none := rfl
        exact absurd (hnone.symm.trans hlast) (by simp)
      | cons first others =>
        refine Reader.bind_eq_some.mpr ⟨false, first :: others, rfl, ?_⟩
        exact Reader.bind_eq_some.mpr ⟨byte :: rest, [], hlast, rfl⟩
    have hdata : (write {} ⟨resourceId, byte :: rest⟩).data = head ++ tail := by
      refine htail.trans ?_
      rw [hhead]
      rfl
    rw [hdata, decodeAll, hwhole]

end messages

/-! ### The overloads -/

namespace ConfigMessage

/-- **A message with sound schemas is read back in normal form**, whatever follows it.  A
describe request without a locale is the exception: what follows it is read as one. -/
theorem yields (kind : ConfigMessage) (hkind : kind ≠ describeRequest) (payload : kind.Value)
    (hsound : kind.SchemasSound payload) (w : BufferWriter) :
    Yields kind.read w (kind.write w payload) (some (kind.normal payload)) := by
  cases kind with
  | describeRequest => exact absurd rfl hkind
  | describeResponse =>
    have hread := ConfigResourceDescribeResponse.yields payload w
    have hfields : ∀ schema ∈ ConfigResourceDescribeResponse.fields payload, schema.Sound := hsound
    rwa [if_pos hfields] at hread
  | listRequest => exact ConfigResourceListRequest.yields payload w
  | listResponse => exact ConfigResourceListResponse.yields payload w
  | getRequest => exact ConfigResourceGetRequest.yields payload w
  | getResponse => exact ConfigResourceGetResponse.yields payload w
  | patchRequest => exact ConfigResourcePatchRequest.yields payload w
  | patchResponse => exact ConfigResourcePatchResponse.yields payload w
  | applyRequest => exact ConfigResourceApplyRequest.yields payload w
  | applyResponse => exact ConfigResourceApplyResponse.yields payload w
  | variantListRequest => exact ConfigResourceVariantListRequest.yields payload w
  | variantListResponse => exact ConfigResourceVariantListResponse.yields payload w
  | variantCreateRequest => exact ConfigResourceVariantCreateRequest.yields payload w
  | variantCreateResponse => exact ConfigResourceVariantCreateResponse.yields payload w
  | variantSaveCurrentRequest => exact ConfigResourceVariantSaveCurrentRequest.yields payload w
  | variantSaveCurrentResponse => exact ConfigResourceVariantSaveCurrentResponse.yields payload w
  | variantActivateRequest => exact ConfigResourceVariantActivateRequest.yields payload w
  | variantActivateResponse => exact ConfigResourceVariantActivateResponse.yields payload w
  | variantDeleteRequest => exact ConfigResourceVariantDeleteRequest.yields payload w
  | variantDeleteResponse => exact ConfigResourceVariantDeleteResponse.yields payload w

/-- What the decoder makes of an encoded message with sound schemas. -/
theorem decodePayload_of_sound {kind : ConfigMessage} {payload : kind.Value}
    (h : (kind.write {} payload).valid = true) (hsound : kind.SchemasSound payload) :
    kind.decodePayload (kind.encodePayload payload) = some (kind.normal payload) := by
  by_cases hkind : kind = describeRequest
  · subst hkind
    exact ConfigResourceDescribeRequest.decodeAll_read payload h
  · exact decodeAll_take (kind.yields hkind payload hsound {}) h

/-- What it makes of one whose schemas are not sound. -/
theorem decodePayload_of_not_sound {kind : ConfigMessage} {payload : kind.Value}
    (h : (kind.write {} payload).valid = true) (hsound : ¬kind.SchemasSound payload) :
    kind.decodePayload (kind.encodePayload payload) = none := by
  cases kind with
  | describeResponse =>
    have hread := ConfigResourceDescribeResponse.yields payload {}
    have hfields : ¬∀ schema ∈ ConfigResourceDescribeResponse.fields payload, schema.Sound :=
      hsound
    rw [if_neg hfields] at hread
    exact decodeAll_take hread h
  | _ => exact absurd trivial hsound

end ConfigMessage

/-- **A configuration message with sound schemas that can be encoded is decoded in normal
form.** -/
theorem configMessage_roundTrip (kind : ConfigMessage) (payload : kind.Value)
    (hsound : kind.SchemasSound payload) (h : kind.encodePayload payload ≠ []) :
    kind.decodePayload (kind.encodePayload payload) = some (kind.normal payload) :=
  ConfigMessage.decodePayload_of_sound (Buffer.valid_of_take_ne_nil h) hsound

/-- A describe response with a choice that has a member left over from another type, and a
default that its flag leaves out. -/
def sampleDescription : ConfigResourceDescribeResponse where
  status := .ok
  resource := { id := ascii "camera", title := ascii "Camera" }
  fields := [{
    path := ascii "rate"
    type := .double
    hasMaximum := true
    maximum := 0x404E000000000000
    choices := [{
      value := { type := .double, doubleValue := 0x403E000000000000, stringValue := ascii "30" }
      label := ascii "slow" }]
    defaultValue := { type := .int64, int64Value := -5 } }]

theorem configMessage_roundTrip_sampleDescription :
    ConfigMessage.SchemasSound .describeResponse sampleDescription ∧
      ConfigMessage.encodePayload .describeResponse sampleDescription ≠ [] ∧
      ConfigMessage.decodePayload .describeResponse
          (ConfigMessage.encodePayload .describeResponse sampleDescription) =
        some (ConfigMessage.normal .describeResponse sampleDescription) ∧
      ConfigMessage.normal .describeResponse sampleDescription ≠ sampleDescription := by
  have hsound : ConfigMessage.SchemasSound .describeResponse sampleDescription := by
    intro schema hmem
    rw [List.mem_singleton.mp hmem]
    decide
  have hencode : ConfigMessage.encodePayload .describeResponse sampleDescription ≠ [] := by
    decide
  refine ⟨hsound, hencode, configMessage_roundTrip _ _ hsound hencode, fun heq => ?_⟩
  have hfields := congrArg (fun payload : ConfigResourceDescribeResponse => payload.fields) heq
  exact absurd hfields (by decide)

/-- **An encoded message is accepted exactly when its schemas are sound.** -/
theorem configMessage_accepted_iff (kind : ConfigMessage) (payload : kind.Value)
    (h : kind.encodePayload payload ≠ []) :
    (kind.decodePayload (kind.encodePayload payload)).isSome = true ↔
      kind.SchemasSound payload := by
  have hwritten := Buffer.valid_of_take_ne_nil h
  constructor
  · intro hsome
    by_contra hsound
    rw [ConfigMessage.decodePayload_of_not_sound hwritten hsound] at hsome
    exact absurd hsome (by simp)
  · intro hsound
    rw [ConfigMessage.decodePayload_of_sound hwritten hsound]
    rfl

/-- A describe response with one field, whose type is the instruction `kUnset`. -/
def unsetField : ConfigResourceDescribeResponse where
  status := .ok
  fields := [{ path := ascii "rate", type := .unset }]

theorem configMessage_accepted_iff_unsetField :
    ConfigMessage.encodePayload .describeResponse unsetField ≠ [] ∧
      ConfigMessage.decodePayload .describeResponse
        (ConfigMessage.encodePayload .describeResponse unsetField) = none := by
  have hencode : ConfigMessage.encodePayload .describeResponse unsetField ≠ [] := by decide
  refine ⟨hencode, Option.not_isSome_iff_eq_none.mp fun hsome => ?_⟩
  have hsound := (configMessage_accepted_iff .describeResponse unsetField hencode).mp hsome
  exact (hsound _ List.mem_cons_self).1 rfl

/-- The encoder lets out what its own decoder refuses. -/
theorem encodePayload_refused :
    ¬∀ (kind : ConfigMessage) (payload : kind.Value), kind.encodePayload payload ≠ [] →
      (kind.decodePayload (kind.encodePayload payload)).isSome = true := by
  intro hall
  have hsome := hall .describeResponse unsetField (by decide)
  have hnone : (ConfigMessage.decodePayload .describeResponse
      (ConfigMessage.encodePayload .describeResponse unsetField)).isSome = false := by
    decide
  exact absurd hsome (by rw [hnone]; decide)

end YunLink
