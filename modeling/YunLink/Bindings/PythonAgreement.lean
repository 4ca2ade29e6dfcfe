import YunLink.Bindings.PythonConfiguration
import YunLink.Messages.ConfigurationRelay

/-!
# What Python makes of the configuration messages of C++

The Python codec is a copy of an older format.  It reads and writes what C++ writes where
the format has stayed as it was.  A message that holds a snapshot or a schema it cannot
read in full, and would write without the parts it does not know; it knows no unset value,
and refuses a list request whose reserved byte is set.

## Main definitions

* `Python.ofCpp` — the Python value with the fields of a C++ one, if there is one.
* `Python.Reads` — C++ encodes a value, Python decodes it with all its fields and encodes it
  to the same bytes.
* `Python.Covers` — the messages whose format has stayed as it was.

## Main results

* `Python.yields` — Python reads what C++ writes of a covered message.
* `Python.lags_schema`, `Python.lags_snapshot` — Python writes less of a schema and of a
  snapshot than C++ does.
* `python_reads_iff` — **Python reads what C++ writes exactly when the message is covered.**
-/

namespace YunLink.Python

open Codec Reader

/-! ### The values that correspond -/

/-- Python has no type for no value. -/
def ConfigValueType.ofCpp : YunLink.ConfigValueType → Option ConfigValueType
  | .bool => some .bool
  | .int64 => some .int64
  | .double => some .double
  | .string => some .string
  | .stringList => some .stringList
  | .doubleList => some .doubleList
  | .unset => none

/-- Python has no policy for a rebuild. -/
def ConfigFieldUpdatePolicy.ofCpp :
    YunLink.ConfigFieldUpdatePolicy → Option ConfigFieldUpdatePolicy
  | .hotReload => some .hotReload
  | .componentRestart => some .componentRestart
  | .endpointRestart => some .endpointRestart
  | .deviceReboot => some .deviceReboot
  | .manual => some .manual
  | .rebuildRequired => none

/-- A value with the member that its type names. -/
def ConfigValue.ofCpp (value : YunLink.ConfigValue) : Option ConfigValue :=
  match value.type with
  | .bool => some ⟨.bool, .bool value.boolValue⟩
  | .int64 => some ⟨.int64, .int value.int64Value.toInt⟩
  | .double => some ⟨.double, .float value.doubleValue⟩
  | .string => some ⟨.string, .str value.stringValue⟩
  | .stringList => some ⟨.stringList, .strTuple value.stringListValue⟩
  | .doubleList => some ⟨.doubleList, .floatTuple value.doubleListValue⟩
  | .unset => none

/-- A choice. -/
def ConfigChoice.ofCpp (choice : YunLink.ConfigChoice) : Option ConfigChoice := do
  let value ← ConfigValue.ofCpp choice.value
  some { value, label := choice.label }

/-- A schema, without its default and its flag for advanced fields. -/
def ConfigFieldSchema.ofCpp (schema : YunLink.ConfigFieldSchema) : Option ConfigFieldSchema := do
  let valueType ← ConfigValueType.ofCpp schema.type
  let choices ← schema.choices.mapM ConfigChoice.ofCpp
  let updatePolicy ← ConfigFieldUpdatePolicy.ofCpp schema.updatePolicy
  some {
    path := schema.path
    title := schema.title
    description := schema.description
    valueType
    required := schema.required
    readOnly := schema.readOnly
    sensitive := schema.sensitive
    minimum := if schema.hasMinimum then some schema.minimum else none
    maximum := if schema.hasMaximum then some schema.maximum else none
    validationPattern := schema.validationPattern
    choices
    groupPath := schema.groupPath
    updatePolicy
    unit := schema.unit }

/-- A field. -/
def ConfigFieldValue.ofCpp (field : YunLink.ConfigFieldValue) : Option ConfigFieldValue := do
  let value ← ConfigValue.ofCpp field.value
  some { path := field.path, value }

/-- A snapshot, without the paths the user has overridden. -/
def ConfigSnapshot.ofCpp (snapshot : YunLink.ConfigSnapshot) : Option ConfigSnapshot := do
  let values ← snapshot.values.mapM ConfigFieldValue.ofCpp
  some {
    resourceId := snapshot.resourceId
    revision := snapshot.revision
    appliedRevision := snapshot.appliedRevision
    variantId := snapshot.variantId
    activeVariantId := snapshot.activeVariantId
    values }

/-- An optional snapshot. -/
def candidateOfCpp (present : Bool) (candidate : YunLink.ConfigSnapshot) :
    Option (Option ConfigSnapshot) :=
  if present then (ConfigSnapshot.ofCpp candidate).map some else some none

/-- The Python value with the fields of a C++ one, as far as Python has them. -/
def ofCpp : (kind : ConfigMessage) → kind.Value → Option (Value kind)
  | .listRequest => fun _ => some ({} : ConfigResourceListRequest)
  | .describeResponse => fun payload : YunLink.ConfigResourceDescribeResponse => do
      let fields ← payload.fields.mapM ConfigFieldSchema.ofCpp
      some ({
        status := payload.status
        message := payload.message
        resource := payload.resource
        fields } : ConfigResourceDescribeResponse)
  | .getResponse => fun payload : YunLink.ConfigResourceGetResponse => do
      let snapshot ← ConfigSnapshot.ofCpp payload.snapshot
      some ({
        status := payload.status
        message := payload.message
        snapshot } : ConfigResourceGetResponse)
  | .patchRequest => fun payload : YunLink.ConfigResourcePatchRequest => do
      let updates ← payload.updates.mapM ConfigFieldValue.ofCpp
      some ({
        resourceId := payload.resourceId
        expectedRevision := payload.expectedRevision
        updates
        variantId := payload.variantId
        validateOnly := payload.validateOnly } : ConfigResourcePatchRequest)
  | .patchResponse => fun payload : YunLink.ConfigResourcePatchResponse => do
      let snapshot ← ConfigSnapshot.ofCpp payload.snapshot
      let candidateSnapshot ←
        candidateOfCpp payload.hasCandidateSnapshot payload.candidateSnapshot
      some ({
        status := payload.status
        message := payload.message
        snapshot
        errors := payload.errors
        effects := payload.effects
        candidateSnapshot } : ConfigResourcePatchResponse)
  | .listResponse | .describeRequest | .getRequest | .applyRequest | .applyResponse
  | .variantListRequest | .variantListResponse | .variantCreateRequest | .variantCreateResponse
  | .variantSaveCurrentRequest | .variantSaveCurrentResponse | .variantActivateRequest
  | .variantActivateResponse | .variantDeleteRequest | .variantDeleteResponse => some

/-- Python decodes what C++ encodes of the value, with the fields of the value, and encodes
it to the same bytes. -/
def Reads (kind : ConfigMessage) (value : kind.Value) : Prop :=
  ∃ payload, decode kind (kind.encodePayload value) = some payload ∧
    ofCpp kind value = some payload ∧ encode kind payload = some (kind.encodePayload value)

/-- The messages whose format has stayed as Python knows it. -/
def Covers : (kind : ConfigMessage) → kind.Value → Prop
  | .listRequest => fun payload : YunLink.ConfigResourceListRequest => payload.reserved = 0
  | .describeResponse => fun payload : YunLink.ConfigResourceDescribeResponse =>
      payload.fields = []
  | .patchRequest => fun payload : YunLink.ConfigResourcePatchRequest =>
      ∀ field ∈ payload.updates, field.value.type ≠ .unset
  | .getResponse | .patchResponse => fun _ => False
  | .listResponse | .describeRequest | .getRequest | .applyRequest | .applyResponse
  | .variantListRequest | .variantListResponse | .variantCreateRequest | .variantCreateResponse
  | .variantSaveCurrentRequest | .variantSaveCurrentResponse | .variantActivateRequest
  | .variantActivateResponse | .variantDeleteRequest | .variantDeleteResponse => fun _ => True

/-! ### What Python reads -/

section yields

variable {α β : Type}

theorem yields_text {value : Text} (h : Utf8.valid value = true) (w : BufferWriter) :
    Yields text w (w.writeString value) (some value) := by
  unfold BufferWriter.writeString
  split
  · exact .invalidate w _
  next hlong =>
  have hle : value.length ≤ maxStringBytes := Nat.le_of_not_lt hlong
  have hlength : (UInt16.ofNat value.length).toNat = value.length :=
    toNat_ofNat_of_le (hle.trans (by decide))
  refine (yields_checked (yields_u16 (UInt16.ofNat value.length) w) ?_).bind ?_
  · rw [decide_eq_true_iff, hlength]
    exact hle
  · refine yields_checked (.put (fun rest => ?_) _) h
    simp [take, hlength]

theorem yields_boolean (value : Bool) (w : BufferWriter) :
    Yields boolean w (w.writeBool value) (some value) := by
  refine (yields_checked (yields_u8 (if value then 1 else 0) w) ?_).bind ?_
  · cases value <;> rfl
  · cases value
    · exact .pure false _
    · exact .pure true _

/-- A byte that some member of an enumeration has. -/
theorem yields_enum {members : List α} {code : α → UInt8} {byte : UInt8} {member : α}
    (h : members.find? (fun member => code member == byte) = some member) (w : BufferWriter) :
    Yields (enum members code) w (w.writeU8 byte) (some member) := by
  refine (yields_u8 byte w).bind ?_
  rw [h]
  exact .pure member _

theorem yields_items {read : Reader β} {write : BufferWriter → α → BufferWriter}
    {out : α → Option β} {values : List α}
    (h : ∀ a ∈ values, ∀ w, Yields read w (write w a) (out a)) (w : BufferWriter) :
    Yields (items read) w (w.writeVector values write) (values.mapM out) :=
  yields_vector h w

theorem yields_items_id {read : Reader α} {write : BufferWriter → α → BufferWriter}
    {values : List α} (h : ∀ a ∈ values, ∀ w, Yields read w (write w a) (some a))
    (w : BufferWriter) : Yields (items read) w (w.writeVector values write) (some values) := by
  have hitems := yields_items h w
  have hsame : values.mapM some = some values := by
    simpa using List.mapM_pure (m := Option) (l := values) (f := id)
  rwa [hsame] at hitems

theorem yields_texts {values : List Text} (h : Utf8.AllValid values) (w : BufferWriter) :
    Yields (items text) w (w.writeStrings values) (some values) :=
  yields_items_id (fun value hvalue w => yields_text (h value hvalue) w) w

/-- The word of a signed integer is read as the integer. -/
theorem signed_toUInt64 (value : Int64) : signed value.toUInt64 = value.toInt := by
  have hword : value.toInt = value.toBitVec.toInt := rfl
  have hnat : value.toUInt64.toNat = value.toBitVec.toNat := rfl
  rw [signed, hword, hnat, BitVec.toInt_eq_toNat_cond]
  split <;> split <;> omega

theorem yields_valueType (type : YunLink.ConfigValueType) {member : ConfigValueType}
    (h : ConfigValueType.ofCpp type = some member) (w : BufferWriter) :
    Yields readValueType w (w.writeU8 type.toUInt8) (some member) := by
  refine yields_enum ?_ w
  cases type with
  | unset => exact absurd h (by simp [ConfigValueType.ofCpp])
  | _ => exact h

theorem yields_value {value : YunLink.ConfigValue} (htype : value.type ≠ .unset)
    (h : Utf8.AllValid value.texts) (w : BufferWriter) :
    Yields readValue w (YunLink.writeValue w value) (ConfigValue.ofCpp value) := by
  obtain ⟨type, boolValue, int64Value, doubleValue, stringValue, strings, doubles⟩ := value
  cases type with
  | bool =>
    refine (yields_valueType .bool rfl w).bind ?_
    exact (yields_boolean boolValue _).bind (.pure _ _)
  | int64 =>
    refine (yields_valueType .int64 rfl w).bind ?_
    refine (yields_u64 int64Value.toUInt64 _).bind ?_
    rw [signed_toUInt64]
    exact .pure _ _
  | double =>
    refine (yields_valueType .double rfl w).bind ?_
    exact (yields_finite doubleValue _).bind (.pure _ _)
  | string =>
    refine (yields_valueType .string rfl w).bind ?_
    exact (yields_text (h _ List.mem_cons_self) _).bind (.pure _ _)
  | stringList =>
    refine (yields_valueType .stringList rfl w).bind ?_
    exact (yields_texts h _).bind (.pure _ _)
  | doubleList =>
    refine (yields_valueType .doubleList rfl w).bind ?_
    exact (yields_vector_id yields_finite doubles _).bind (.pure _ _)
  | unset => exact absurd rfl htype

theorem yields_fieldValue {field : YunLink.ConfigFieldValue} (htype : field.value.type ≠ .unset)
    (h : Utf8.AllValid field.texts) (w : BufferWriter) :
    Yields readFieldValue w (YunLink.writeFieldValue w field) (ConfigFieldValue.ofCpp field) := by
  obtain ⟨hpath, hvalue⟩ := Utf8.allValid_cons.mp h
  refine (yields_text hpath w).bind ?_
  have hread := yields_value htype hvalue (w.writeString field.path)
  unfold ConfigFieldValue.ofCpp
  cases hsome : ConfigValue.ofCpp field.value with
  | none =>
    rw [hsome] at hread
    exact hread.refuse (.refl _)
  | some value =>
    rw [hsome] at hread
    exact hread.bind (.pure _ _)

theorem yields_status (status : ConfigServiceStatus) {message : Text}
    (h : Utf8.valid message = true) (w : BufferWriter) :
    Yields readStatus w (YunLink.writeStatus w status message) (some (status, message)) := by
  refine (yields_enum ?_ w).bind ((yields_text h _).bind (.pure _ _))
  cases status <;> rfl

theorem yields_descriptor {value : ConfigResourceDescriptor} (h : Utf8.AllValid value.texts)
    (w : BufferWriter) :
    Yields readDescriptor w (YunLink.writeDescriptor w value) (some value) := by
  simp only [ConfigResourceDescriptor.texts, Utf8.allValid_cons] at h
  obtain ⟨hid, htitle, hdescription, -⟩ := h
  refine (yields_text hid w).bind ?_
  refine (yields_text htitle _).bind ?_
  refine (yields_text hdescription _).bind ?_
  refine (yields_boolean value.readable _).bind ?_
  refine (yields_boolean value.writable _).bind ?_
  refine (yields_boolean value.applySupported _).bind ?_
  refine (yields_boolean value.variantsSupported _).bind ?_
  exact .pure value _

theorem yields_requirement (requirement : ConfigApplyRequirement) (w : BufferWriter) :
    Yields readRequirement w (w.writeU8 requirement.toUInt8) (some requirement) := by
  refine yields_enum ?_ w
  cases requirement <;> rfl

theorem yields_effects {value : ConfigEffects} (h : Utf8.AllValid value.texts)
    (w : BufferWriter) : Yields readEffects w (YunLink.writeEffects w value) (some value) := by
  refine (yields_requirement value.requirement w).bind ?_
  refine (yields_texts h _).bind ?_
  refine (yields_boolean value.reconnectExpected _).bind ?_
  exact .pure value _

theorem yields_variant {value : ConfigVariantDescriptor} (h : Utf8.AllValid value.texts)
    (w : BufferWriter) : Yields readVariant w (YunLink.writeVariant w value) (some value) := by
  simp only [ConfigVariantDescriptor.texts, Utf8.allValid_cons] at h
  obtain ⟨hid, htitle, hrevision, -⟩ := h
  refine (yields_text hid w).bind ?_
  refine (yields_text htitle _).bind ?_
  refine (yields_text hrevision _).bind ?_
  refine (yields_u64 value.modifiedAtNs _).bind ?_
  refine (yields_boolean value.active _).bind ?_
  refine (yields_boolean value.mutableVariant _).bind ?_
  exact .pure value _

theorem yields_outcome (outcome : ConfigApplyOutcome) (w : BufferWriter) :
    Yields readOutcome w (w.writeU8 outcome.toUInt8) (some outcome) := by
  refine yields_enum ?_ w
  cases outcome <;> rfl

theorem yields_variantSource (source : ConfigVariantSource) (w : BufferWriter) :
    Yields readVariantSource w (w.writeU8 source.toUInt8) (some source) := by
  refine yields_enum ?_ w
  cases source <;> rfl

/-- Python takes the strings that are UTF-8 and not too long. -/
theorem mirrors_text :
    Mirrors True text readString
      (fun value => Utf8.valid value = true ∧ value.length ≤ kMaxCoreStringBytes) id := by
  intro input value rest
  simp only [text, readString, PayloadReader.text, Codec.Reader.bind_eq_some, checked_eq_some,
    true_and, decide_eq_true_iff, id]
  constructor
  · rintro ⟨size, middle, ⟨hsize, hle⟩, htake, hvalid⟩
    obtain ⟨-, hlength⟩ := eq_append_of_sized htake
    exact ⟨value, ⟨size, middle, hsize, htake⟩, ⟨hvalid, hlength.trans_le hle⟩, rfl⟩
  · rintro ⟨_, ⟨size, middle, hsize, htake⟩, ⟨hvalid, hle⟩, rfl⟩
    obtain ⟨-, hlength⟩ := eq_append_of_sized htake
    exact ⟨size, middle, ⟨hsize, hlength.symm.trans_le hle⟩, htake, hvalid⟩

theorem mirrors_remaining : Mirrors True remaining done (fun _ => True) not := by
  intro input more rest
  simp [remaining, done]

theorem mirrors_locale (more : Bool) :
    Mirrors True (readIf more text []) (readIf more readString [])
      (fun value => Utf8.valid value = true ∧ value.length ≤ kMaxCoreStringBytes) id := by
  cases more
  · exact .pure (by simp [Utf8.valid_nil]) rfl
  · exact mirrors_text

theorem mirrors_describeRequest :
    Mirrors True readDescribeRequest ConfigResourceDescribeRequest.read
      (fun payload => Utf8.AllValid (ConfigMessage.texts .describeRequest payload) ∧
        ShortTexts (ConfigMessage.texts .describeRequest payload)) id := by
  refine mirrors_text.bind fun resourceId => ?_
  refine mirrors_remaining.bind fun finished => ?_
  refine (mirrors_locale (!finished)).bind fun locale => ?_
  exact .pure (by simp [ConfigMessage.texts]; tauto) rfl

/-- A locale is read exactly when one was written, as in C++. -/
theorem decode_describeRequest {payload : ConfigResourceDescribeRequest}
    (hutf8 : Utf8.AllValid (ConfigMessage.texts .describeRequest payload))
    (hvalid : (ConfigResourceDescribeRequest.write {} payload).valid = true) :
    decodeAll readDescribeRequest (ConfigResourceDescribeRequest.write {} payload).take =
      some payload := by
  have hcpp := eq_some_of_decodeAll (ConfigResourceDescribeRequest.decodeAll_read payload hvalid)
  have hshort := ConfigResourceDescribeRequest.valid_write.mp hvalid
  have hread := ((mirrors_describeRequest _ payload []).mpr
    ⟨payload, hcpp, ⟨hutf8, hshort⟩, rfl⟩).2
  rw [decodeAll, hread]

end yields

/-- **Python reads what C++ writes of a message it covers**, whatever follows it; a describe
request without a locale is the exception. -/
theorem yields {kind : ConfigMessage} (hkind : kind ≠ .describeRequest) {value : kind.Value}
    (hcovers : Covers kind value) (hutf8 : Utf8.AllValid (kind.texts value)) (w : BufferWriter) :
    Yields (read kind) w (kind.write w value) (ofCpp kind value) := by
  cases kind with
  | describeRequest => exact absurd rfl hkind
  | listRequest =>
    obtain ⟨reserved⟩ := value
    obtain rfl : reserved = 0 := hcovers
    exact (yields_checked (yields_u8 0 w) rfl).bind (.pure _ _)
  | listResponse =>
    obtain ⟨status, message, resources⟩ := value
    simp only [ConfigMessage.texts, Utf8.allValid_cons, Utf8.allValid_flatMap] at hutf8
    obtain ⟨hmessage, hresources⟩ := hutf8
    refine (yields_status status hmessage w).bind ?_
    refine (yields_items_id (fun a ha w => yields_descriptor (hresources a ha) w) _).bind ?_
    exact .pure _ _
  | describeResponse =>
    obtain ⟨status, message, resource, fields⟩ := value
    obtain rfl : fields = [] := hcovers
    simp only [ConfigMessage.texts, List.cons_append, Utf8.allValid_cons,
      Utf8.allValid_append] at hutf8
    obtain ⟨hmessage, hresource, -⟩ := hutf8
    refine (yields_status status hmessage w).bind ?_
    refine (yields_descriptor hresource _).bind ?_
    have hfields : ∀ w, Yields (items readSchema) w
        (BufferWriter.writeVector w [] YunLink.writeSchema)
        ([].mapM ConfigFieldSchema.ofCpp) := yields_items (by simp)
    exact (hfields _).bind (.pure _ _)
  | getRequest =>
    obtain ⟨resourceId, variantId⟩ := value
    simp only [ConfigMessage.texts, Utf8.allValid_cons] at hutf8
    obtain ⟨hresource, hvariant, -⟩ := hutf8
    refine (yields_text hresource w).bind ?_
    exact (yields_text hvariant _).bind (.pure _ _)
  | getResponse => exact hcovers.elim
  | patchRequest =>
    obtain ⟨resourceId, variantId, expectedRevision, updates, validateOnly⟩ := value
    simp only [ConfigMessage.texts, List.cons_append, List.nil_append, Utf8.allValid_cons,
      Utf8.allValid_flatMap] at hutf8
    obtain ⟨hresource, hvariant, hrevision, hupdates⟩ := hutf8
    refine (yields_text hresource w).bind ?_
    refine (yields_text hvariant _).bind ?_
    refine (yields_text hrevision _).bind ?_
    have hread := yields_items
      (fun field hfield w => yields_fieldValue (hcovers field hfield) (hupdates field hfield) w)
      (((w.writeString resourceId).writeString variantId).writeString expectedRevision)
    show Yields _ _ _ ((updates.mapM ConfigFieldValue.ofCpp).bind fun updates => some _)
    cases hsome : updates.mapM ConfigFieldValue.ofCpp with
    | none =>
      rw [hsome] at hread
      exact hread.refuse (yields_boolean validateOnly _).toExtends
    | some fields =>
      rw [hsome] at hread
      refine hread.bind ?_
      exact (yields_boolean validateOnly _).bind (.pure _ _)
  | patchResponse => exact hcovers.elim
  | applyRequest =>
    obtain ⟨resourceId, expectedRevision⟩ := value
    simp only [ConfigMessage.texts, Utf8.allValid_cons] at hutf8
    obtain ⟨hresource, hrevision, -⟩ := hutf8
    refine (yields_text hresource w).bind ?_
    exact (yields_text hrevision _).bind (.pure _ _)
  | applyResponse =>
    obtain ⟨status, message, appliedRevision, outcome, effects⟩ := value
    simp only [ConfigMessage.texts, List.cons_append, List.nil_append, Utf8.allValid_cons] at hutf8
    obtain ⟨hmessage, happlied, heffects⟩ := hutf8
    refine (yields_status status hmessage w).bind ?_
    refine (yields_text happlied _).bind ?_
    refine (yields_outcome outcome _).bind ?_
    exact (yields_effects heffects _).bind (.pure _ _)
  | variantListRequest =>
    obtain ⟨resourceId⟩ := value
    simp only [ConfigMessage.texts, Utf8.allValid_cons] at hutf8
    exact (yields_text hutf8.1 w).bind (.pure _ _)
  | variantListResponse =>
    obtain ⟨status, message, activeVariantId, variants⟩ := value
    simp only [ConfigMessage.texts, List.cons_append, List.nil_append, Utf8.allValid_cons,
      Utf8.allValid_flatMap] at hutf8
    obtain ⟨hmessage, hactive, hvariants⟩ := hutf8
    refine (yields_status status hmessage w).bind ?_
    refine (yields_text hactive _).bind ?_
    refine (yields_items_id (fun a ha w => yields_variant (hvariants a ha) w) _).bind ?_
    exact .pure _ _
  | variantCreateRequest =>
    obtain ⟨resourceId, variantId, source, expectedActiveRevision⟩ := value
    simp only [ConfigMessage.texts, Utf8.allValid_cons] at hutf8
    obtain ⟨hresource, hvariant, hrevision, -⟩ := hutf8
    refine (yields_text hresource w).bind ?_
    refine (yields_text hvariant _).bind ?_
    refine (yields_variantSource source _).bind ?_
    exact (yields_text hrevision _).bind (.pure _ _)
  | variantCreateResponse =>
    obtain ⟨status, message, variant, effects⟩ := value
    simp only [ConfigMessage.texts, List.cons_append, Utf8.allValid_cons,
      Utf8.allValid_append] at hutf8
    obtain ⟨hmessage, hvariant, heffects⟩ := hutf8
    refine (yields_status status hmessage w).bind ?_
    refine (yields_variant hvariant _).bind ?_
    exact (yields_effects heffects _).bind (.pure _ _)
  | variantSaveCurrentRequest =>
    obtain ⟨resourceId, variantId, expectedVariantRevision, expectedActiveRevision⟩ := value
    simp only [ConfigMessage.texts, Utf8.allValid_cons] at hutf8
    obtain ⟨hresource, hvariant, hrevision, hactive, -⟩ := hutf8
    refine (yields_text hresource w).bind ?_
    refine (yields_text hvariant _).bind ?_
    refine (yields_text hrevision _).bind ?_
    exact (yields_text hactive _).bind (.pure _ _)
  | variantSaveCurrentResponse =>
    obtain ⟨status, message, variant, effects⟩ := value
    simp only [ConfigMessage.texts, List.cons_append, Utf8.allValid_cons,
      Utf8.allValid_append] at hutf8
    obtain ⟨hmessage, hvariant, heffects⟩ := hutf8
    refine (yields_status status hmessage w).bind ?_
    refine (yields_variant hvariant _).bind ?_
    exact (yields_effects heffects _).bind (.pure _ _)
  | variantActivateRequest =>
    obtain ⟨resourceId, variantId, expectedActiveRevision⟩ := value
    simp only [ConfigMessage.texts, Utf8.allValid_cons] at hutf8
    obtain ⟨hresource, hvariant, hrevision, -⟩ := hutf8
    refine (yields_text hresource w).bind ?_
    refine (yields_text hvariant _).bind ?_
    exact (yields_text hrevision _).bind (.pure _ _)
  | variantActivateResponse =>
    obtain ⟨status, message, appliedRevision, outcome, effects⟩ := value
    simp only [ConfigMessage.texts, List.cons_append, List.nil_append, Utf8.allValid_cons] at hutf8
    obtain ⟨hmessage, happlied, heffects⟩ := hutf8
    refine (yields_status status hmessage w).bind ?_
    refine (yields_text happlied _).bind ?_
    refine (yields_outcome outcome _).bind ?_
    exact (yields_effects heffects _).bind (.pure _ _)
  | variantDeleteRequest =>
    obtain ⟨resourceId, variantId, expectedRevision⟩ := value
    simp only [ConfigMessage.texts, Utf8.allValid_cons] at hutf8
    obtain ⟨hresource, hvariant, hrevision, -⟩ := hutf8
    refine (yields_text hresource w).bind ?_
    refine (yields_text hvariant _).bind ?_
    exact (yields_text hrevision _).bind (.pure _ _)
  | variantDeleteResponse =>
    obtain ⟨status, message⟩ := value
    simp only [ConfigMessage.texts, Utf8.allValid_cons] at hutf8
    exact (yields_status status hutf8.1 w).bind (.pure _ _)

/-! ### What Python writes -/

section lags

variable {exact : Prop} {gap : ℕ} {α β : Type}

theorem lags_u8 (value : UInt8) :
    Lags exact 0 (fun d => Writer.u8 d value) fun w => BufferWriter.writeU8 w value :=
  .put [value]

theorem lags_boolean (value : Bool) :
    Lags exact 0 (fun d => Writer.boolean d value) fun w => BufferWriter.writeBool w value :=
  .put [if value then 1 else 0]

theorem lags_u64 (value : UInt64) :
    Lags exact 0 (fun d => Writer.u64 d value) fun w => BufferWriter.writeU64 w value :=
  .put (appendU64 value)

theorem lags_f64 (bits : UInt64) :
    Lags exact 0 (fun d => Writer.f64 d bits) fun w => BufferWriter.writeFinite w bits := by
  unfold Writer.f64 BufferWriter.writeFinite
  split
  · exact .of_invalid fun w => rfl
  · exact lags_u64 bits

theorem lags_text (value : Text) :
    Lags exact 0 (fun d => Writer.text d value) fun w => BufferWriter.writeString w value := by
  unfold Writer.text BufferWriter.writeString
  by_cases hlong : kMaxCoreStringBytes < value.length
  · simp only [if_pos hlong]
    exact .of_invalid fun w => rfl
  · have hlong' : ¬maxStringBytes < value.length := hlong
    simp only [if_neg hlong, if_neg hlong']
    exact (Lags.put (appendU16 (UInt16.ofNat value.length))).bind (.put value)

/-- **A list lags behind by what its items lag behind.** -/
theorem lags_items {item : Writer → α → Option Writer} {item' : BufferWriter → β → BufferWriter}
    {values : List α} {values' : List β}
    (h : List.Forall₂ (fun a b => Lags exact gap (fun d => item d a) fun w => item' w b)
      values values') :
    Lags exact (gap * values'.length) (fun d => Writer.items d values item)
      fun w => BufferWriter.writeVector w values' item' := by
  unfold Writer.items BufferWriter.writeVector
  rw [h.length_eq]
  by_cases hlong : kMaxConfigItems.toNat < values'.length
  · simp only [if_pos hlong]
    exact .of_invalid fun w => rfl
  · have hlong' : ¬maxConfigItems < values'.length := hlong
    simp only [if_neg hlong, if_neg hlong']
    have hall := (Lags.put (appendU16 (UInt16.ofNat values'.length))).bind (Lags.foldl h)
    rwa [Nat.zero_add] at hall

/-- A list of items that Python writes as C++ does. -/
theorem lags_items_same {item : Writer → α → Option Writer}
    {item' : BufferWriter → α → BufferWriter}
    (h : ∀ a, Lags exact 0 (fun d => item d a) fun w => item' w a) (values : List α) :
    Lags exact 0 (fun d => Writer.items d values item)
      fun w => BufferWriter.writeVector w values item' := by
  have hall := lags_items (List.forall₂_same.mpr fun a _ => h a : List.Forall₂ _ values values)
  rwa [Nat.zero_mul] at hall

theorem lags_texts (values : List Text) :
    Lags exact 0 (fun d => Writer.items d values Writer.text)
      fun w => BufferWriter.writeStrings w values :=
  lags_items_same lags_text values

theorem lags_status (status : ConfigServiceStatus) (message : Text) :
    Lags exact 0 (fun d => writeStatus d status message)
      fun w => YunLink.writeStatus w status message :=
  (lags_u8 status.toUInt8).bind (lags_text message)

theorem lags_descriptor (value : ConfigResourceDescriptor) :
    Lags exact 0 (fun d => writeDescriptor d value) fun w => YunLink.writeDescriptor w value :=
  (lags_text value.id).bind <|
    (lags_text value.title).bind <|
    (lags_text value.description).bind <|
    (lags_boolean value.readable).bind <|
    (lags_boolean value.writable).bind <|
    (lags_boolean value.applySupported).bind <|
    lags_boolean value.variantsSupported

theorem lags_effects (value : ConfigEffects) :
    Lags exact 0 (fun d => writeEffects d value) fun w => YunLink.writeEffects w value :=
  (lags_u8 value.requirement.toUInt8).bind <|
    (lags_texts value.affectedComponents).bind <|
    lags_boolean value.reconnectExpected

theorem lags_variant (value : ConfigVariantDescriptor) :
    Lags exact 0 (fun d => writeVariant d value) fun w => YunLink.writeVariant w value :=
  (lags_text value.id).bind <|
    (lags_text value.title).bind <|
    (lags_text value.revision).bind <|
    (lags_u64 value.modifiedAtNs).bind <|
    (lags_boolean value.active).bind <|
    lags_boolean value.mutableVariant

theorem lags_error (value : ConfigFieldError) :
    Lags exact 0 (fun d => writeError d value) fun w => writeFieldError w value :=
  (lags_text value.path).bind <|
    (lags_text value.code).bind <|
    lags_text value.message

/-- The word that an integer is masked to is the one it was read from. -/
theorem ofInt_signed (word : UInt64) : UInt64.ofInt (signed word) = word := by
  have hword : word.toNat < 2 ^ 64 := word.toNat_lt
  rw [← UInt64.toNat_inj, UInt64.ofInt, UInt64.toNat_ofNat', signed]
  split <;> omega

theorem lags_value {value : YunLink.ConfigValue} {out : ConfigValue}
    (h : ConfigValue.ofCpp value = some out) :
    Lags exact 0 (fun d => writeValue d out) fun w => YunLink.writeValue w value := by
  obtain ⟨type, boolValue, int64Value, doubleValue, stringValue, strings, doubles⟩ := value
  cases type with
  | unset => exact absurd h (by simp [ConfigValue.ofCpp])
  | bool =>
    obtain rfl := Option.some.inj h
    exact (lags_u8 1).bind (lags_boolean boolValue)
  | int64 =>
    obtain rfl := Option.some.inj h
    have hword : UInt64.ofInt int64Value.toInt = int64Value.toUInt64 := by
      rw [← signed_toUInt64, ofInt_signed]
    have hnumber : Lags exact 0 (fun d => Writer.u64 d (UInt64.ofInt int64Value.toInt))
        fun w => BufferWriter.writeU64 w int64Value.toUInt64 := by
      rw [hword]
      exact lags_u64 int64Value.toUInt64
    exact (lags_u8 2).bind hnumber
  | double =>
    obtain rfl := Option.some.inj h
    exact (lags_u8 3).bind (lags_f64 doubleValue)
  | string =>
    obtain rfl := Option.some.inj h
    exact (lags_u8 4).bind (lags_text stringValue)
  | stringList =>
    obtain rfl := Option.some.inj h
    exact (lags_u8 5).bind (lags_texts strings)
  | doubleList =>
    obtain rfl := Option.some.inj h
    exact (lags_u8 6).bind (lags_items_same lags_f64 doubles)

theorem lags_choice {choice : YunLink.ConfigChoice} {out : ConfigChoice}
    (h : ConfigChoice.ofCpp choice = some out) :
    Lags exact 0 (fun d => writeChoice d out) fun w => YunLink.writeChoice w choice := by
  obtain ⟨value, hvalue, hout⟩ := Option.bind_eq_some_iff.mp h
  obtain rfl := Option.some.inj hout
  exact (lags_value hvalue).bind (lags_text choice.label)

theorem lags_fieldValue {field : YunLink.ConfigFieldValue} {out : ConfigFieldValue}
    (h : ConfigFieldValue.ofCpp field = some out) :
    Lags exact 0 (fun d => writeFieldValue d out) fun w => YunLink.writeFieldValue w field := by
  obtain ⟨value, hvalue, hout⟩ := Option.bind_eq_some_iff.mp h
  obtain rfl := Option.some.inj hout
  exact (lags_text field.path).bind (lags_value hvalue)

/-- A field value that has a counterpart is not unset. -/
theorem type_ne_unset {field : YunLink.ConfigFieldValue} {out : ConfigFieldValue}
    (h : ConfigFieldValue.ofCpp field = some out) : field.value.type ≠ .unset := by
  intro hunset
  have hnone : ConfigValue.ofCpp field.value = none := by
    rw [ConfigValue.ofCpp, hunset]
  rw [ConfigFieldValue.ofCpp, hnone] at h
  exact absurd h (by simp)

theorem lags_fieldValues {fields : List YunLink.ConfigFieldValue} {outs : List ConfigFieldValue}
    (h : fields.mapM ConfigFieldValue.ofCpp = some outs) :
    Lags exact 0 (fun d => Writer.items d outs writeFieldValue)
      fun w => BufferWriter.writeVector w fields YunLink.writeFieldValue := by
  have hall : Lags exact _ _ _ :=
    lags_items ((forall₂_of_mapM h).imp fun a b hb => lags_fieldValue hb)
  rwa [Nat.zero_mul] at hall

theorem lags_choices {choices : List YunLink.ConfigChoice} {outs : List ConfigChoice}
    (h : choices.mapM ConfigChoice.ofCpp = some outs) :
    Lags exact 0 (fun d => Writer.items d outs writeChoice)
      fun w => BufferWriter.writeVector w choices YunLink.writeChoice := by
  have hall : Lags exact _ _ _ := lags_items ((forall₂_of_mapM h).imp fun a b hb => lags_choice hb)
  rwa [Nat.zero_mul] at hall

theorem lags_present (present : Bool) (bits : UInt64) :
    Lags exact 0 (fun d => Writer.boolean d (if present then some bits else none).isSome)
      fun w => BufferWriter.writeBool w present := by
  cases present
  · exact lags_boolean false
  · exact lags_boolean true

/-- Eight bytes of a number, which C++ writes unchecked. -/
theorem lags_number (bits bits' : UInt64) :
    Lags False 0 (fun d => Writer.f64 d bits) fun w => BufferWriter.writeDouble w bits' := by
  intro d w hvalid
  refine ⟨hvalid, appendU64 bits, appendU64 bits', rfl, ?_, fun d' hd' => ?_, False.elim⟩
  · rw [length_appendU64, length_appendU64]
  · unfold Writer.f64 at hd'
    split at hd'
    · exact absurd hd' (by simp)
    · exact (Option.some.inj hd').symm

theorem ConfigValueType.toUInt8_ofCpp {type : YunLink.ConfigValueType} {out : ConfigValueType}
    (h : ofCpp type = some out) : type.toUInt8 = out.toUInt8 := by
  cases type with
  | unset => exact absurd h (by simp [ofCpp])
  | _ =>
    obtain rfl := Option.some.inj h
    rfl

theorem ConfigFieldUpdatePolicy.toUInt8_ofCpp {policy : YunLink.ConfigFieldUpdatePolicy}
    {out : ConfigFieldUpdatePolicy} (h : ofCpp policy = some out) :
    policy.toUInt8 = out.toUInt8 := by
  cases policy with
  | rebuildRequired => exact absurd h (by simp [ofCpp])
  | _ =>
    obtain rfl := Option.some.inj h
    rfl

/-- The end of a schema, which Python does not know. -/
theorem lags_schemaTail (schema : YunLink.ConfigFieldSchema) :
    Lags False 1 some fun w => BufferWriter.writeBool (if schema.hasDefaultValue then
      YunLink.writeValue (BufferWriter.writeBool w schema.hasDefaultValue) schema.defaultValue
      else BufferWriter.writeBool w schema.hasDefaultValue) schema.advanced := by
  have hflag : Lags False 1 some fun w => BufferWriter.writeBool w schema.hasDefaultValue :=
    .skip fun w hvalid => ⟨hvalid, _, rfl, Nat.le_refl _⟩
  have hdefault : Lags False 0 some fun w => BufferWriter.writeBool (if schema.hasDefaultValue then
      YunLink.writeValue w schema.defaultValue else w) schema.advanced := by
    refine .of_extends fun w => ?_
    have hvalue : ∀ w, Yields (readIf schema.hasDefaultValue YunLink.readValue {}) w
        (if schema.hasDefaultValue then YunLink.writeValue w schema.defaultValue else w) _ :=
      yields_readIf (YunLink.yields_value schema.defaultValue) schema.hasDefaultValue
    exact (hvalue w).toExtends.trans (yields_flag schema.advanced _).toExtends
  exact hflag.bind hdefault

/-- **Python writes less of a schema than C++ does**: the default and the flag for advanced
fields are missing. -/
theorem lags_schema {schema : YunLink.ConfigFieldSchema} {out : ConfigFieldSchema}
    (h : ConfigFieldSchema.ofCpp schema = some out) :
    Lags False 1 (fun d => writeSchema d out) fun w => YunLink.writeSchema w schema := by
  obtain ⟨valueType, htype, hmore⟩ := Option.bind_eq_some_iff.mp h
  obtain ⟨choices, hchoices, hmore⟩ := Option.bind_eq_some_iff.mp hmore
  obtain ⟨updatePolicy, hpolicy, hout⟩ := Option.bind_eq_some_iff.mp hmore
  obtain rfl := Option.some.inj hout
  have htypeByte : Lags False 0 (fun d => Writer.u8 d valueType.toUInt8)
      fun w => BufferWriter.writeU8 w schema.type.toUInt8 := by
    rw [ConfigValueType.toUInt8_ofCpp htype]
    exact lags_u8 _
  have hpolicyByte : Lags False 0 (fun d => Writer.u8 d updatePolicy.toUInt8)
      fun w => BufferWriter.writeU8 w schema.updatePolicy.toUInt8 := by
    rw [ConfigFieldUpdatePolicy.toUInt8_ofCpp hpolicy]
    exact lags_u8 _
  exact (lags_text schema.path).bind <|
    (lags_text schema.title).bind <|
    (lags_text schema.description).bind <|
    htypeByte.bind <|
    (lags_boolean schema.required).bind <|
    (lags_boolean schema.readOnly).bind <|
    (lags_boolean schema.sensitive).bind <|
    (lags_present schema.hasMinimum schema.minimum).bind <|
    (lags_number _ schema.minimum).bind <|
    (lags_present schema.hasMaximum schema.maximum).bind <|
    (lags_number _ schema.maximum).bind <|
    (lags_text schema.validationPattern).bind <|
    (lags_choices hchoices).bind <|
    (lags_text schema.groupPath).bind <|
    hpolicyByte.bind <|
    (lags_text schema.unit).behind (lags_schemaTail schema)

/-- **Python writes less of a snapshot than C++ does**: the paths that the user has overridden
are missing. -/
theorem lags_snapshot {snapshot : YunLink.ConfigSnapshot} {out : ConfigSnapshot}
    (h : ConfigSnapshot.ofCpp snapshot = some out) :
    Lags False 1 (fun d => writeSnapshot d out) fun w => YunLink.writeSnapshot w snapshot := by
  obtain ⟨values, hvalues, hout⟩ := Option.bind_eq_some_iff.mp h
  obtain rfl := Option.some.inj hout
  have hpaths : Lags False 1 some
      fun w => BufferWriter.writeStrings w snapshot.userOverriddenPaths := by
    refine .skip fun w hvalid => ?_
    obtain ⟨hstart, written, hdata, hread⟩ := yields_strings snapshot.userOverriddenPaths w hvalid
    refine ⟨hstart, written, hdata, Nat.one_le_iff_ne_zero.mpr fun hempty => ?_⟩
    have hnone : readStrings [] = none := rfl
    rw [List.length_eq_zero_iff.mp hempty] at hread
    exact absurd (hnone.symm.trans (hread [])) (by simp)
  exact (lags_text snapshot.resourceId).bind <|
    (lags_text snapshot.revision).bind <|
    (lags_text snapshot.appliedRevision).bind <|
    (lags_text snapshot.variantId).bind <|
    (lags_text snapshot.activeVariantId).bind <|
    (lags_fieldValues hvalues).behind hpaths

theorem lags_nothing : Lags exact 0 some fun w : BufferWriter => w := by
  have hput : Lags exact 0 (fun d : Bytes => some (d ++ [])) fun w => w.put [] := .put []
  simpa [Buffer.put_nil] using hput

theorem lags_describeRequest (resourceId locale : Text) :
    Lags exact 0 (fun d => write .describeRequest d ⟨resourceId, locale⟩)
      fun w => ConfigMessage.write .describeRequest w ⟨resourceId, locale⟩ := by
  cases locale with
  | nil => exact (lags_text resourceId).bind lags_nothing
  | cons byte rest => exact (lags_text resourceId).bind (lags_text (byte :: rest))

theorem lags_candidate {present : Bool} {candidate : YunLink.ConfigSnapshot}
    {out : Option ConfigSnapshot} (h : candidateOfCpp present candidate = some out) :
    out.isSome = present ∧ Lags False 0 (fun d => writeCandidate d out)
      fun w => if present then YunLink.writeSnapshot w candidate else w := by
  cases present with
  | false =>
    obtain rfl := Option.some.inj h
    exact ⟨rfl, lags_nothing⟩
  | true =>
    obtain ⟨snapshot, hsnapshot, rfl⟩ := Option.map_eq_some_iff.mp h
    exact ⟨rfl, (lags_snapshot hsnapshot).mono (Nat.zero_le _)⟩

end lags

/-- **Python writes what C++ writes of a message it covers.** -/
theorem lags_of_covers {kind : ConfigMessage} {value : kind.Value} {out : Value kind}
    (hcovers : Covers kind value) (hout : ofCpp kind value = some out) :
    Lags True 0 (fun d => write kind d out) fun w => kind.write w value := by
  cases kind with
  | listRequest =>
    obtain ⟨reserved⟩ := value
    obtain rfl : reserved = 0 := hcovers
    exact lags_u8 0
  | listResponse =>
    obtain rfl := Option.some.inj hout
    obtain ⟨status, message, resources⟩ := value
    exact (lags_status status message).bind (lags_items_same lags_descriptor resources)
  | describeRequest =>
    obtain rfl := Option.some.inj hout
    obtain ⟨resourceId, locale⟩ := value
    exact lags_describeRequest resourceId locale
  | describeResponse =>
    obtain ⟨status, message, resource, fields⟩ := value
    obtain rfl : fields = [] := hcovers
    obtain rfl := Option.some.inj hout
    have hfields : Lags True 0 (fun d => Writer.items d [] writeSchema)
        fun w => BufferWriter.writeVector w [] YunLink.writeSchema :=
      @lags_items True 0 _ _ _ _ _ _ .nil
    exact (lags_status status message).bind <| (lags_descriptor resource).bind hfields
  | getRequest =>
    obtain rfl := Option.some.inj hout
    obtain ⟨resourceId, variantId⟩ := value
    exact (lags_text resourceId).bind (lags_text variantId)
  | getResponse => exact hcovers.elim
  | patchRequest =>
    obtain ⟨resourceId, variantId, expectedRevision, updates, validateOnly⟩ := value
    obtain ⟨fields, hfields, hsome⟩ := Option.bind_eq_some_iff.mp hout
    obtain rfl := Option.some.inj hsome
    exact (lags_text resourceId).bind <|
      (lags_text variantId).bind <|
      (lags_text expectedRevision).bind <|
      (lags_fieldValues hfields).bind (lags_boolean validateOnly)
  | patchResponse => exact hcovers.elim
  | applyRequest =>
    obtain rfl := Option.some.inj hout
    obtain ⟨resourceId, expectedRevision⟩ := value
    exact (lags_text resourceId).bind (lags_text expectedRevision)
  | applyResponse =>
    obtain rfl := Option.some.inj hout
    obtain ⟨status, message, appliedRevision, outcome, effects⟩ := value
    exact (lags_status status message).bind <|
      (lags_text appliedRevision).bind <|
      (lags_u8 outcome.toUInt8).bind (lags_effects effects)
  | variantListRequest =>
    obtain rfl := Option.some.inj hout
    obtain ⟨resourceId⟩ := value
    exact lags_text resourceId
  | variantListResponse =>
    obtain rfl := Option.some.inj hout
    obtain ⟨status, message, activeVariantId, variants⟩ := value
    exact (lags_status status message).bind <|
      (lags_text activeVariantId).bind (lags_items_same lags_variant variants)
  | variantCreateRequest =>
    obtain rfl := Option.some.inj hout
    obtain ⟨resourceId, variantId, source, expectedActiveRevision⟩ := value
    exact (lags_text resourceId).bind <|
      (lags_text variantId).bind <|
      (lags_u8 source.toUInt8).bind (lags_text expectedActiveRevision)
  | variantCreateResponse =>
    obtain rfl := Option.some.inj hout
    obtain ⟨status, message, variant, effects⟩ := value
    exact (lags_status status message).bind <|
      (lags_variant variant).bind (lags_effects effects)
  | variantSaveCurrentRequest =>
    obtain rfl := Option.some.inj hout
    obtain ⟨resourceId, variantId, expectedVariantRevision, expectedActiveRevision⟩ := value
    exact (lags_text resourceId).bind <|
      (lags_text variantId).bind <|
      (lags_text expectedVariantRevision).bind (lags_text expectedActiveRevision)
  | variantSaveCurrentResponse =>
    obtain rfl := Option.some.inj hout
    obtain ⟨status, message, variant, effects⟩ := value
    exact (lags_status status message).bind <|
      (lags_variant variant).bind (lags_effects effects)
  | variantActivateRequest =>
    obtain rfl := Option.some.inj hout
    obtain ⟨resourceId, variantId, expectedActiveRevision⟩ := value
    exact (lags_text resourceId).bind <|
      (lags_text variantId).bind (lags_text expectedActiveRevision)
  | variantActivateResponse =>
    obtain rfl := Option.some.inj hout
    obtain ⟨status, message, appliedRevision, outcome, effects⟩ := value
    exact (lags_status status message).bind <|
      (lags_text appliedRevision).bind <|
      (lags_u8 outcome.toUInt8).bind (lags_effects effects)
  | variantDeleteRequest =>
    obtain rfl := Option.some.inj hout
    obtain ⟨resourceId, variantId, expectedRevision⟩ := value
    exact (lags_text resourceId).bind <|
      (lags_text variantId).bind (lags_text expectedRevision)
  | variantDeleteResponse =>
    obtain rfl := Option.some.inj hout
    obtain ⟨status, message⟩ := value
    exact lags_status status message

/-- **Python writes less than C++ does of a message with a schema or a snapshot.** -/
theorem lags_of_not_covers {kind : ConfigMessage} {value : kind.Value} {out : Value kind}
    (hcovers : ¬Covers kind value) (hout : ofCpp kind value = some out)
    (hkind : kind ≠ .listRequest) :
    Lags False 1 (fun d => write kind d out) fun w => kind.write w value := by
  cases kind with
  | listRequest => exact absurd rfl hkind
  | describeResponse =>
    obtain ⟨status, message, resource, fields⟩ := value
    obtain ⟨outs, houts, hsome⟩ := Option.bind_eq_some_iff.mp hout
    obtain rfl := Option.some.inj hsome
    have hfields := lags_items ((forall₂_of_mapM houts).imp fun a b hb => lags_schema hb)
    have hsome : 1 ≤ 1 * fields.length := by
      rw [Nat.one_mul]
      exact List.length_pos_iff.mpr hcovers
    exact (lags_status status message).bind <|
      (lags_descriptor resource).bind (hfields.mono hsome)
  | getResponse =>
    obtain ⟨status, message, snapshot⟩ := value
    obtain ⟨out, hsnapshot, hsome⟩ := Option.bind_eq_some_iff.mp hout
    obtain rfl := Option.some.inj hsome
    exact (lags_status status message).bind (lags_snapshot hsnapshot)
  | patchRequest =>
    -- an unset value has no counterpart
    obtain ⟨fields, hfields, -⟩ := Option.bind_eq_some_iff.mp hout
    refine absurd (fun field hfield => ?_) hcovers
    obtain ⟨out, hvalue⟩ := exists_of_mapM hfields field hfield
    exact type_ne_unset hvalue
  | patchResponse =>
    obtain ⟨status, message, snapshot, errors, effects, hasCandidate, candidate⟩ := value
    obtain ⟨out, hsnapshot, hmore⟩ := Option.bind_eq_some_iff.mp hout
    obtain ⟨outCandidate, hcandidate, hsome⟩ := Option.bind_eq_some_iff.mp hmore
    obtain rfl := Option.some.inj hsome
    obtain ⟨hpresent, hwritten⟩ := lags_candidate hcandidate
    have hflag : Lags False 0 (fun d => Writer.boolean d outCandidate.isSome)
        fun w => BufferWriter.writeBool w hasCandidate := by
      rw [hpresent]
      exact lags_boolean hasCandidate
    exact (lags_status status message).bind <|
      (lags_snapshot hsnapshot).bind <|
      hflag.bind <|
      hwritten.bind <|
      (lags_items_same lags_error errors).bind (lags_effects effects)
  | _ => exact absurd trivial hcovers

/-! ### The messages that Python reads -/

theorem exists_ofCpp_fieldValue {field : YunLink.ConfigFieldValue}
    (h : field.value.type ≠ .unset) : ∃ out, ConfigFieldValue.ofCpp field = some out := by
  obtain ⟨path, ⟨type, boolValue, int64Value, doubleValue, stringValue, strings, doubles⟩⟩ := field
  cases type with
  | unset => exact absurd rfl h
  | _ => exact ⟨_, rfl⟩

/-- A covered message has a counterpart. -/
theorem exists_ofCpp {kind : ConfigMessage} {value : kind.Value} (h : Covers kind value) :
    ∃ out, ofCpp kind value = some out := by
  cases kind with
  | describeResponse =>
    obtain ⟨status, message, resource, fields⟩ := value
    obtain rfl : fields = [] := h
    exact ⟨_, rfl⟩
  | patchRequest =>
    obtain ⟨resourceId, variantId, expectedRevision, updates, validateOnly⟩ := value
    obtain ⟨outs, houts⟩ := exists_mapM fun field hfield => exists_ofCpp_fieldValue (h field hfield)
    refine ⟨_, Option.bind_eq_some_iff.mpr ⟨outs, houts, rfl⟩⟩
  | getResponse => exact h.elim
  | patchResponse => exact h.elim
  | _ => exact ⟨_, rfl⟩

theorem decode_of_covers {kind : ConfigMessage} {value : kind.Value} {out : Value kind}
    (hcovers : Covers kind value) (hutf8 : Utf8.AllValid (kind.texts value))
    (hvalid : (kind.write {} value).valid = true) (hout : ofCpp kind value = some out) :
    decode kind (kind.encodePayload value) = some out := by
  by_cases hkind : kind = .describeRequest
  · subst hkind
    obtain rfl := Option.some.inj hout
    exact decode_describeRequest hutf8 hvalid
  · have hread := yields hkind hcovers hutf8 {}
    rw [hout] at hread
    exact decodeAll_take hread hvalid

theorem encode_of_covers {kind : ConfigMessage} {value : kind.Value} {out : Value kind}
    (hcovers : Covers kind value) (hvalid : (kind.write {} value).valid = true)
    (hout : ofCpp kind value = some out) :
    encode kind out = some (kind.encodePayload value) := by
  obtain ⟨-, written, written', hdata, -, -, hsame⟩ := lags_of_covers hcovers hout [] {} hvalid
  obtain ⟨rfl, hwrite⟩ := hsame trivial
  rw [ConfigMessage.encodePayload, Buffer.take_of_valid hvalid, hdata]
  exact hwrite

theorem encode_of_not_covers {kind : ConfigMessage} {value : kind.Value} {out : Value kind}
    (hcovers : ¬Covers kind value) (hvalid : (kind.write {} value).valid = true)
    (hout : ofCpp kind value = some out) :
    encode kind out ≠ some (kind.encodePayload value) := by
  intro hencode
  rw [ConfigMessage.encodePayload, Buffer.take_of_valid hvalid] at hencode
  by_cases hkind : kind = .listRequest
  · subst hkind
    obtain ⟨reserved⟩ := value
    have hbyte : ([0] : Bytes) = [reserved] := Option.some.inj hencode
    exact hcovers (List.cons.inj hbyte).1.symm
  · obtain ⟨-, written, written', hdata, hgap, hwritten, -⟩ :=
      lags_of_not_covers hcovers hout hkind [] {} hvalid
    have hsame : written' = written := by
      have hbytes := hwritten _ hencode
      rw [hdata] at hbytes
      exact hbytes
    rw [hsame] at hgap
    omega

end YunLink.Python

namespace YunLink

/-- **Python reads what C++ writes exactly when the message is covered.** -/
theorem python_reads_iff (kind : ConfigMessage) (value : kind.Value)
    (hutf8 : Utf8.AllValid (kind.texts value)) (hencode : kind.encodePayload value ≠ []) :
    Python.Reads kind value ↔ Python.Covers kind value := by
  have hvalid := Codec.Buffer.valid_of_take_ne_nil hencode
  constructor
  · rintro ⟨out, -, hout, hwritten⟩
    by_contra hcovers
    exact Python.encode_of_not_covers hcovers hvalid hout hwritten
  · intro hcovers
    obtain ⟨out, hout⟩ := Python.exists_ofCpp hcovers
    exact ⟨out, Python.decode_of_covers hcovers hutf8 hvalid hout, hout,
      Python.encode_of_covers hcovers hvalid hout⟩

/-- A request to set the rate of a camera. -/
def sampleUpdate : ConfigResourcePatchRequest where
  resourceId := Utf8.encode ['c', 'a', 'm']
  updates := [{
    path := Utf8.encode ['f', 'p', 's']
    value := { type := .int64, int64Value := -30 } }]

theorem python_reads_iff_sampleUpdate :
    ConfigMessage.encodePayload .patchRequest sampleUpdate ≠ [] ∧
      Python.Reads .patchRequest sampleUpdate := by
  have hencode : ConfigMessage.encodePayload .patchRequest sampleUpdate ≠ [] := by decide
  have htexts : ConfigMessage.texts .patchRequest sampleUpdate =
      [Utf8.encode ['c', 'a', 'm'], [], [], Utf8.encode ['f', 'p', 's']] := by rfl
  refine ⟨hencode, (python_reads_iff .patchRequest sampleUpdate ?_ hencode).mpr ?_⟩
  · rw [htexts]
    simp [Utf8.valid_encode, Utf8.valid_nil]
  · intro field hfield
    rw [List.mem_singleton.mp hfield]
    decide

/-- A get response with an empty snapshot. -/
def emptySnapshot : ConfigResourceGetResponse where
  status := .ok

/-- Python does not read a snapshot that C++ writes. -/
theorem python_reads_not_all :
    ¬∀ (kind : ConfigMessage) (value : kind.Value), Utf8.AllValid (kind.texts value) →
      kind.encodePayload value ≠ [] →
      (kind.decodePayload (kind.encodePayload value)).isSome = true →
      Python.Reads kind value := by
  intro hall
  have hutf8 : Utf8.AllValid (ConfigMessage.texts .getResponse emptySnapshot) := by
    have htexts : ConfigMessage.texts .getResponse emptySnapshot = List.replicate 6 [] := by rfl
    rw [htexts]
    simp [List.replicate, Utf8.valid_nil]
  have hencode : ConfigMessage.encodePayload .getResponse emptySnapshot ≠ [] := by decide
  have haccepted : (ConfigMessage.decodePayload .getResponse
      (ConfigMessage.encodePayload .getResponse emptySnapshot)).isSome = true := by decide
  obtain ⟨out, -, hout, hwritten⟩ := hall .getResponse emptySnapshot hutf8 hencode haccepted
  have hcovers : ¬Python.Covers .getResponse emptySnapshot := fun hfalse => hfalse
  have hvalid := Codec.Buffer.valid_of_take_ne_nil hencode
  exact Python.encode_of_not_covers hcovers hvalid hout hwritten

end YunLink
