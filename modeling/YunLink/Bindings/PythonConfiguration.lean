import YunLink.Lib.Utf8
import YunLink.Messages.Configuration

/-!
# The configuration codec of the Python binding

The payloads of `configuration.py` with the codec of `configuration_codec.py`.  An
exception is `none`.  A `str` is the text of its UTF-8 bytes, which `bytes.decode` checks
and `str.encode` gives back.

The dataclasses that have the fields of their C++ counterparts are not declared again.  The
others are older than those of C++: a value cannot be unset, a schema has no default and no
flag for advanced fields, and a snapshot does not list the paths the user has overridden.

## Main definitions

* `Python.Writer`, `Python.Reader` — the fields of the payloads.
* `Python.ConfigValue`, `Python.ConfigFieldSchema`, `Python.ConfigSnapshot` — the
  dataclasses that differ.
* `Python.encode`, `Python.decode` — the codec.
-/

namespace YunLink.Python

/-! ### Dataclasses -/

/-- `ConfigValueType`, which has no member for no value. -/
inductive ConfigValueType
  | bool
  | int64
  | double
  | string
  | stringList
  | doubleList
  deriving DecidableEq, Repr

/-- The value of a member. -/
def ConfigValueType.toUInt8 : ConfigValueType → UInt8
  | bool => 1
  | int64 => 2
  | double => 3
  | string => 4
  | stringList => 5
  | doubleList => 6

/-- `ConfigFieldUpdatePolicy`, which has no member for a rebuild. -/
inductive ConfigFieldUpdatePolicy
  | hotReload
  | componentRestart
  | endpointRestart
  | deviceReboot
  | manual
  deriving DecidableEq, Repr

/-- The value of a member. -/
def ConfigFieldUpdatePolicy.toUInt8 : ConfigFieldUpdatePolicy → UInt8
  | hotReload => 0
  | componentRestart => 1
  | endpointRestart => 2
  | deviceReboot => 3
  | manual => 4

/-- What a `ConfigValue` may hold, whatever its type says. -/
inductive ConfigValueMember
  | bool (value : Bool)
  | int (value : ℤ)
  /-- The bits of a `float`. -/
  | float (bits : UInt64)
  | str (value : Text)
  | strTuple (values : List Text)
  | floatTuple (values : List UInt64)
  deriving DecidableEq, Repr

/-- A type, and what is held, which need not go together. -/
structure ConfigValue where
  valueType : ConfigValueType
  value : ConfigValueMember
  deriving DecidableEq, Repr

/-- A value to choose, with its label. -/
structure ConfigChoice where
  value : ConfigValue
  label : Text
  deriving DecidableEq, Repr

/-- What a field may hold, and how it is shown. -/
structure ConfigFieldSchema where
  path : Text
  title : Text
  description : Text
  valueType : ConfigValueType
  required : Bool := false
  readOnly : Bool := false
  sensitive : Bool := false
  minimum : Option UInt64 := none
  maximum : Option UInt64 := none
  validationPattern : Text := []
  choices : List ConfigChoice := []
  groupPath : Text := []
  updatePolicy : ConfigFieldUpdatePolicy := .manual
  unit : Text := []
  deriving DecidableEq, Repr

/-- A field and its value. -/
structure ConfigFieldValue where
  path : Text
  value : ConfigValue
  deriving DecidableEq, Repr

/-- The values of a resource at a revision. -/
structure ConfigSnapshot where
  resourceId : Text
  revision : Text
  appliedRevision : Text
  variantId : Text := []
  activeVariantId : Text := []
  values : List ConfigFieldValue := []
  deriving DecidableEq, Repr

/-- Asks for the resources; it has no field. -/
structure ConfigResourceListRequest where
  deriving DecidableEq, Repr

/-- A resource with the schema of its fields. -/
structure ConfigResourceDescribeResponse where
  status : ConfigServiceStatus
  message : Text
  resource : ConfigResourceDescriptor
  fields : List ConfigFieldSchema := []
  deriving DecidableEq, Repr

/-- The values that were asked for. -/
structure ConfigResourceGetResponse where
  status : ConfigServiceStatus
  message : Text
  snapshot : ConfigSnapshot
  deriving DecidableEq, Repr

/-- Changes values, if the resource is still at a revision. -/
structure ConfigResourcePatchRequest where
  resourceId : Text
  expectedRevision : Text
  updates : List ConfigFieldValue
  variantId : Text := []
  validateOnly : Bool := false
  deriving DecidableEq, Repr

/-- What a change did, or what is wrong with it. -/
structure ConfigResourcePatchResponse where
  status : ConfigServiceStatus
  message : Text
  snapshot : ConfigSnapshot
  errors : List ConfigFieldError := []
  effects : ConfigEffects := {}
  candidateSnapshot : Option ConfigSnapshot := none
  deriving DecidableEq, Repr

/-! ### Writer and reader -/

/-- The longest list. -/
def maxConfigItems : ℕ := 256

/-- The longest string. -/
def maxStringBytes : ℕ := 1024

/-- The data of a `_Writer`. -/
abbrev Writer := Bytes

namespace Writer

/-- `u8`. -/
def u8 (writer : Writer) (value : UInt8) : Option Writer := some (writer ++ [value])

/-- `boolean`. -/
def boolean (writer : Writer) (value : Bool) : Option Writer := writer.u8 (if value then 1 else 0)

/-- `u16`. -/
def u16 (writer : Writer) (value : UInt16) : Option Writer := some (writer ++ appendU16 value)

/-- `u64`. -/
def u64 (writer : Writer) (value : UInt64) : Option Writer := some (writer ++ appendU64 value)

/-- `f64`. -/
def f64 (writer : Writer) (bits : UInt64) : Option Writer :=
  if !isFinite bits then none else writer.u64 bits

/-- `text`. -/
def text (writer : Writer) (value : Text) : Option Writer :=
  if maxStringBytes < value.length then none
  else do
    let writer ← writer.u16 (UInt16.ofNat value.length)
    some (writer ++ value)

/-- `items`. -/
def items {α : Type} (writer : Writer) (values : List α) (write : Writer → α → Option Writer) :
    Option Writer :=
  if maxConfigItems < values.length then none
  else do
    let writer ← writer.u16 (UInt16.ofNat values.length)
    values.foldlM write writer

end Writer

/-- A `_Reader`; words are read as they are in C++. -/
abbrev Reader := PayloadReader

namespace Reader

/-- `_take`. -/
def take (size : ℕ) : Reader Bytes := fun input =>
  if input.length < size then none else some (input.take size, input.drop size)

/-- `u8`. -/
def u8 : Reader UInt8 := PayloadReader.u8

/-- `u16`. -/
def u16 : Reader UInt16 := PayloadReader.u16

/-- `u64`. -/
def u64 : Reader UInt64 := PayloadReader.u64

/-- `boolean`. -/
def boolean : Reader Bool := do
  let value ← PayloadReader.checked u8 fun value => value == 0 || value == 1
  pure (value != 0)

/-- `f64`; it has to be finite. -/
def f64 : Reader UInt64 := PayloadReader.checked u64 isFinite

/-- `text`. -/
def text : Reader Text := do
  let length ← PayloadReader.checked u16 fun length => length.toNat ≤ maxStringBytes
  PayloadReader.checked (take length.toNat) Utf8.valid

/-- `items`. -/
def items {α : Type} (read : Reader α) : Reader (List α) := do
  let count ← PayloadReader.checked u16 fun count => count.toNat ≤ maxConfigItems
  PayloadReader.list read count.toNat

/-- `remaining`: whether there is something left. -/
def remaining : Reader Bool := fun input => some (!input.isEmpty, input)

/-- `_enum` of the byte that is read: the member that has this value. -/
def enum {α : Type} (members : List α) (code : α → UInt8) : Reader α := do
  let value ← u8
  StateT.lift (members.find? fun member => code member == value)

end Reader

open Reader

/-! ### Enumerations -/

/-- `ConfigValueType` of the byte that is read. -/
def readValueType : Reader ConfigValueType :=
  enum [.bool, .int64, .double, .string, .stringList, .doubleList] ConfigValueType.toUInt8

/-- `ConfigFieldUpdatePolicy` of the byte that is read. -/
def readUpdatePolicy : Reader ConfigFieldUpdatePolicy :=
  enum [.hotReload, .componentRestart, .endpointRestart, .deviceReboot, .manual]
    ConfigFieldUpdatePolicy.toUInt8

/-- `ConfigServiceStatus` of the byte. -/
def readServiceStatus : Reader ConfigServiceStatus :=
  enum [.ok, .notFound, .unsupported, .unauthenticated, .unauthorized, .conflict, .invalid,
    .unsafeState, .internalError] ConfigServiceStatus.toUInt8

/-- `ConfigApplyRequirement` of the byte. -/
def readRequirement : Reader ConfigApplyRequirement :=
  enum [.none, .componentRestart, .endpointRestart, .deviceReboot, .manual]
    ConfigApplyRequirement.toUInt8

/-- `ConfigApplyOutcome` of the byte. -/
def readOutcome : Reader ConfigApplyOutcome :=
  enum [.applied, .restartScheduled, .manualActionRequired, .failed] ConfigApplyOutcome.toUInt8

/-- `ConfigVariantSource` of the byte. -/
def readVariantSource : Reader ConfigVariantSource :=
  enum [.default, .active] ConfigVariantSource.toUInt8

/-! ### Parts of payloads -/

/-- The tuple of strings; an empty tuple is one of any kind. -/
def ConfigValueMember.strings : ConfigValueMember → Option (List Text)
  | strTuple values => some values
  | floatTuple [] => some []
  | _ => none

/-- The tuple of floats; an empty tuple is one of any kind. -/
def ConfigValueMember.floats : ConfigValueMember → Option (List UInt64)
  | floatTuple values => some values
  | strTuple [] => some []
  | _ => none

/-- `_write_value`: what the value holds has to be of its type. -/
def writeValue (writer : Writer) (value : ConfigValue) : Option Writer := do
  let writer ← writer.u8 value.valueType.toUInt8
  match value.valueType with
  | .bool =>
      match value.value with
      | .bool flag => writer.boolean flag
      | _ => none
  | .int64 =>
      match value.value with
      | .int number => writer.u64 (UInt64.ofInt number)
      | _ => none
  | .double =>
      match value.value with
      | .float bits => writer.f64 bits
      | _ => none
  | .string =>
      match value.value with
      | .str string => writer.text string
      | _ => none
  | .stringList => do
      let values ← value.value.strings
      writer.items values Writer.text
  | .doubleList => do
      let values ← value.value.floats
      writer.items values Writer.f64

/-- The integer that has this word. -/
def signed (value : UInt64) : ℤ :=
  if 2 ^ 63 ≤ value.toNat then (value.toNat : ℤ) - 2 ^ 64 else value.toNat

/-- `_read_value`; the word of an integer is taken as signed. -/
def readValue : Reader ConfigValue := do
  match ← readValueType with
  | .bool => do
      let value ← boolean
      pure ⟨.bool, .bool value⟩
  | .int64 => do
      let value ← u64
      pure ⟨.int64, .int (signed value)⟩
  | .double => do
      let value ← f64
      pure ⟨.double, .float value⟩
  | .string => do
      let value ← text
      pure ⟨.string, .str value⟩
  | .stringList => do
      let values ← items text
      pure ⟨.stringList, .strTuple values⟩
  | .doubleList => do
      let values ← items f64
      pure ⟨.doubleList, .floatTuple values⟩

/-- `_write_descriptor`. -/
def writeDescriptor (writer : Writer) (value : ConfigResourceDescriptor) : Option Writer := do
  let writer ← writer.text value.id
  let writer ← writer.text value.title
  let writer ← writer.text value.description
  let writer ← writer.boolean value.readable
  let writer ← writer.boolean value.writable
  let writer ← writer.boolean value.applySupported
  writer.boolean value.variantsSupported

/-- `_read_descriptor`. -/
def readDescriptor : Reader ConfigResourceDescriptor := do
  let id ← text
  let title ← text
  let description ← text
  let readable ← boolean
  let writable ← boolean
  let applySupported ← boolean
  let variantsSupported ← boolean
  pure { id, title, description, readable, writable, applySupported, variantsSupported }

/-- Writes a choice of a schema. -/
def writeChoice (writer : Writer) (choice : ConfigChoice) : Option Writer := do
  let writer ← writeValue writer choice.value
  writer.text choice.label

/-- Reads a choice of a schema. -/
def readChoice : Reader ConfigChoice := do
  let value ← readValue
  let label ← text
  pure { value, label }

/-- `_write_schema`; neither a default nor the flag for advanced fields is written. -/
def writeSchema (writer : Writer) (value : ConfigFieldSchema) : Option Writer := do
  let writer ← writer.text value.path
  let writer ← writer.text value.title
  let writer ← writer.text value.description
  let writer ← writer.u8 value.valueType.toUInt8
  let writer ← writer.boolean value.required
  let writer ← writer.boolean value.readOnly
  let writer ← writer.boolean value.sensitive
  let writer ← writer.boolean value.minimum.isSome
  let writer ← writer.f64 (value.minimum.getD 0)
  let writer ← writer.boolean value.maximum.isSome
  let writer ← writer.f64 (value.maximum.getD 0)
  let writer ← writer.text value.validationPattern
  let writer ← writer.items value.choices writeChoice
  let writer ← writer.text value.groupPath
  let writer ← writer.u8 value.updatePolicy.toUInt8
  writer.text value.unit

/-- `_read_schema`. -/
def readSchema : Reader ConfigFieldSchema := do
  let path ← text
  let title ← text
  let description ← text
  let valueType ← readValueType
  let required ← boolean
  let readOnly ← boolean
  let sensitive ← boolean
  let hasMinimum ← boolean
  let minimum ← f64
  let hasMaximum ← boolean
  let maximum ← f64
  let validationPattern ← text
  let choices ← items readChoice
  let groupPath ← text
  let updatePolicy ← readUpdatePolicy
  let unit ← text
  pure { path, title, description, valueType, required, readOnly, sensitive
         minimum := if hasMinimum then some minimum else none
         maximum := if hasMaximum then some maximum else none
         validationPattern, choices, groupPath, updatePolicy, unit }

/-- `_write_field_value`. -/
def writeFieldValue (writer : Writer) (value : ConfigFieldValue) : Option Writer := do
  let writer ← writer.text value.path
  writeValue writer value.value

/-- `_read_field_value`. -/
def readFieldValue : Reader ConfigFieldValue := do
  let path ← text
  let value ← readValue
  pure { path, value }

/-- `_write_snapshot`; the paths the user has overridden are not written. -/
def writeSnapshot (writer : Writer) (value : ConfigSnapshot) : Option Writer := do
  let writer ← writer.text value.resourceId
  let writer ← writer.text value.revision
  let writer ← writer.text value.appliedRevision
  let writer ← writer.text value.variantId
  let writer ← writer.text value.activeVariantId
  writer.items value.values writeFieldValue

/-- `_read_snapshot`. -/
def readSnapshot : Reader ConfigSnapshot := do
  let resourceId ← text
  let revision ← text
  let appliedRevision ← text
  let variantId ← text
  let activeVariantId ← text
  let values ← items readFieldValue
  pure { resourceId, revision, appliedRevision, variantId, activeVariantId, values }

/-- `_write_status`. -/
def writeStatus (writer : Writer) (status : ConfigServiceStatus) (message : Text) :
    Option Writer := do
  let writer ← writer.u8 status.toUInt8
  writer.text message

/-- `_read_status`. -/
def readStatus : Reader (ConfigServiceStatus × Text) := do
  let status ← readServiceStatus
  let message ← text
  pure (status, message)

/-- `_write_effects`. -/
def writeEffects (writer : Writer) (value : ConfigEffects) : Option Writer := do
  let writer ← writer.u8 value.requirement.toUInt8
  let writer ← writer.items value.affectedComponents Writer.text
  writer.boolean value.reconnectExpected

/-- `_read_effects`. -/
def readEffects : Reader ConfigEffects := do
  let requirement ← readRequirement
  let affectedComponents ← items text
  let reconnectExpected ← boolean
  pure { requirement, affectedComponents, reconnectExpected }

/-- `_write_variant`. -/
def writeVariant (writer : Writer) (value : ConfigVariantDescriptor) : Option Writer := do
  let writer ← writer.text value.id
  let writer ← writer.text value.title
  let writer ← writer.text value.revision
  let writer ← writer.u64 value.modifiedAtNs
  let writer ← writer.boolean value.active
  writer.boolean value.mutableVariant

/-- `_read_variant`. -/
def readVariant : Reader ConfigVariantDescriptor := do
  let id ← text
  let title ← text
  let revision ← text
  let modifiedAtNs ← u64
  let active ← boolean
  let mutableVariant ← boolean
  pure { id, title, revision, modifiedAtNs, active, mutableVariant }

/-- `_write_error`. -/
def writeError (writer : Writer) (value : ConfigFieldError) : Option Writer := do
  let writer ← writer.text value.path
  let writer ← writer.text value.code
  writer.text value.message

/-- `_read_error`. -/
def readError : Reader ConfigFieldError := do
  let path ← text
  let code ← text
  let message ← text
  pure { path, code, message }

/-! ### Payloads -/

/-- The dataclasses that `encode` and `decode` know. -/
def Value : ConfigMessage → Type
  | .listRequest => ConfigResourceListRequest
  | .listResponse => ConfigResourceListResponse
  | .describeRequest => ConfigResourceDescribeRequest
  | .describeResponse => ConfigResourceDescribeResponse
  | .getRequest => ConfigResourceGetRequest
  | .getResponse => ConfigResourceGetResponse
  | .patchRequest => ConfigResourcePatchRequest
  | .patchResponse => ConfigResourcePatchResponse
  | .applyRequest => ConfigResourceApplyRequest
  | .applyResponse => ConfigResourceApplyResponse
  | .variantListRequest => ConfigResourceVariantListRequest
  | .variantListResponse => ConfigResourceVariantListResponse
  | .variantCreateRequest => ConfigResourceVariantCreateRequest
  | .variantCreateResponse => ConfigResourceVariantCreateResponse
  | .variantSaveCurrentRequest => ConfigResourceVariantSaveCurrentRequest
  | .variantSaveCurrentResponse => ConfigResourceVariantSaveCurrentResponse
  | .variantActivateRequest => ConfigResourceVariantActivateRequest
  | .variantActivateResponse => ConfigResourceVariantActivateResponse
  | .variantDeleteRequest => ConfigResourceVariantDeleteRequest
  | .variantDeleteResponse => ConfigResourceVariantDeleteResponse

/-- A locale that is empty is left out. -/
def writeLocale (writer : Writer) (locale : Text) : Option Writer :=
  if locale.isEmpty then some writer else writer.text locale

/-- A candidate that is absent is left out. -/
def writeCandidate (writer : Writer) : Option ConfigSnapshot → Option Writer
  | some candidateSnapshot => writeSnapshot writer candidateSnapshot
  | none => some writer

/-- The branch of `encode` that two responses share. -/
def writeVariantMutation (writer : Writer) (status : ConfigServiceStatus) (message : Text)
    (variant : ConfigVariantDescriptor) (effects : ConfigEffects) : Option Writer := do
  let writer ← writeStatus writer status message
  let writer ← writeVariant writer variant
  writeEffects writer effects

/-- The branches of `encode`. -/
def write : (kind : ConfigMessage) → Writer → Value kind → Option Writer
  | .listRequest => fun writer _ => writer.u8 0
  | .listResponse => fun writer (payload : ConfigResourceListResponse) => do
      let writer ← writeStatus writer payload.status payload.message
      writer.items payload.resources writeDescriptor
  | .describeRequest => fun writer (payload : ConfigResourceDescribeRequest) => do
      let writer ← writer.text payload.resourceId
      writeLocale writer payload.locale
  | .describeResponse => fun writer (payload : ConfigResourceDescribeResponse) => do
      let writer ← writeStatus writer payload.status payload.message
      let writer ← writeDescriptor writer payload.resource
      writer.items payload.fields writeSchema
  | .getRequest => fun writer (payload : ConfigResourceGetRequest) => do
      let writer ← writer.text payload.resourceId
      writer.text payload.variantId
  | .getResponse => fun writer (payload : ConfigResourceGetResponse) => do
      let writer ← writeStatus writer payload.status payload.message
      writeSnapshot writer payload.snapshot
  | .patchRequest => fun writer (payload : ConfigResourcePatchRequest) => do
      let writer ← writer.text payload.resourceId
      let writer ← writer.text payload.variantId
      let writer ← writer.text payload.expectedRevision
      let writer ← writer.items payload.updates writeFieldValue
      writer.boolean payload.validateOnly
  | .patchResponse => fun writer (payload : ConfigResourcePatchResponse) => do
      let writer ← writeStatus writer payload.status payload.message
      let writer ← writeSnapshot writer payload.snapshot
      let writer ← writer.boolean payload.candidateSnapshot.isSome
      let writer ← writeCandidate writer payload.candidateSnapshot
      let writer ← writer.items payload.errors writeError
      writeEffects writer payload.effects
  | .applyRequest => fun writer (payload : ConfigResourceApplyRequest) => do
      let writer ← writer.text payload.resourceId
      writer.text payload.expectedRevision
  | .applyResponse => fun writer (payload : ConfigResourceApplyResponse) => do
      let writer ← writeStatus writer payload.status payload.message
      let writer ← writer.text payload.appliedRevision
      let writer ← writer.u8 payload.outcome.toUInt8
      writeEffects writer payload.effects
  | .variantListRequest => fun writer (payload : ConfigResourceVariantListRequest) =>
      writer.text payload.resourceId
  | .variantListResponse => fun writer (payload : ConfigResourceVariantListResponse) => do
      let writer ← writeStatus writer payload.status payload.message
      let writer ← writer.text payload.activeVariantId
      writer.items payload.variants writeVariant
  | .variantCreateRequest => fun writer (payload : ConfigResourceVariantCreateRequest) => do
      let writer ← writer.text payload.resourceId
      let writer ← writer.text payload.variantId
      let writer ← writer.u8 payload.source.toUInt8
      writer.text payload.expectedActiveRevision
  | .variantCreateResponse => fun writer (payload : ConfigResourceVariantCreateResponse) =>
      writeVariantMutation writer payload.status payload.message payload.variant payload.effects
  | .variantSaveCurrentRequest =>
      fun writer (payload : ConfigResourceVariantSaveCurrentRequest) => do
        let writer ← writer.text payload.resourceId
        let writer ← writer.text payload.variantId
        let writer ← writer.text payload.expectedVariantRevision
        writer.text payload.expectedActiveRevision
  | .variantSaveCurrentResponse =>
      fun writer (payload : ConfigResourceVariantSaveCurrentResponse) =>
        writeVariantMutation writer payload.status payload.message payload.variant payload.effects
  | .variantActivateRequest => fun writer (payload : ConfigResourceVariantActivateRequest) => do
      let writer ← writer.text payload.resourceId
      let writer ← writer.text payload.variantId
      writer.text payload.expectedActiveRevision
  | .variantActivateResponse => fun writer (payload : ConfigResourceVariantActivateResponse) => do
      let writer ← writeStatus writer payload.status payload.message
      let writer ← writer.text payload.appliedRevision
      let writer ← writer.u8 payload.outcome.toUInt8
      writeEffects writer payload.effects
  | .variantDeleteRequest => fun writer (payload : ConfigResourceVariantDeleteRequest) => do
      let writer ← writer.text payload.resourceId
      let writer ← writer.text payload.variantId
      writer.text payload.expectedRevision
  | .variantDeleteResponse => fun writer (payload : ConfigResourceVariantDeleteResponse) =>
      writeStatus writer payload.status payload.message

/-! The branches of `decode`, each with the fields in the order they are read. -/

/-- `decode`, for a list request. -/
def readListRequest : Reader ConfigResourceListRequest := do
  let _ ← PayloadReader.checked u8 fun value => value == 0
  pure {}

/-- `decode`, for a list response. -/
def readListResponse : Reader ConfigResourceListResponse := do
  let (status, message) ← readStatus
  let resources ← items readDescriptor
  pure { status, message, resources }

/-- `decode`, for a describe request. -/
def readDescribeRequest : Reader ConfigResourceDescribeRequest := do
  let resourceId ← text
  let more ← remaining
  let locale ← readIf more text []
  pure { resourceId, locale }

/-- `decode`, for a describe response. -/
def readDescribeResponse : Reader ConfigResourceDescribeResponse := do
  let (status, message) ← readStatus
  let resource ← readDescriptor
  let fields ← items readSchema
  pure { status, message, resource, fields }

/-- `decode`, for a get request. -/
def readGetRequest : Reader ConfigResourceGetRequest := do
  let resourceId ← text
  let variantId ← text
  pure { resourceId, variantId }

/-- `decode`, for a get response. -/
def readGetResponse : Reader ConfigResourceGetResponse := do
  let (status, message) ← readStatus
  let snapshot ← readSnapshot
  pure { status, message, snapshot }

/-- `decode`, for a patch request. -/
def readPatchRequest : Reader ConfigResourcePatchRequest := do
  let resourceId ← text
  let variantId ← text
  let expectedRevision ← text
  let updates ← items readFieldValue
  let validateOnly ← boolean
  pure { resourceId, expectedRevision, updates, variantId, validateOnly }

/-- `decode`, for a patch response. -/
def readPatchResponse : Reader ConfigResourcePatchResponse := do
  let (status, message) ← readStatus
  let snapshot ← readSnapshot
  let present ← boolean
  let candidateSnapshot ← readIf present (some <$> readSnapshot) none
  let errors ← items readError
  let effects ← readEffects
  pure { status, message, snapshot, errors, effects, candidateSnapshot }

/-- `decode`, for an apply request. -/
def readApplyRequest : Reader ConfigResourceApplyRequest := do
  let resourceId ← text
  let expectedRevision ← text
  pure { resourceId, expectedRevision }

/-- `decode`, for an apply response. -/
def readApplyResponse : Reader ConfigResourceApplyResponse := do
  let (status, message) ← readStatus
  let appliedRevision ← text
  let outcome ← readOutcome
  let effects ← readEffects
  pure { status, message, appliedRevision, outcome, effects }

/-- `decode`, for a request for the variants. -/
def readVariantListRequest : Reader ConfigResourceVariantListRequest := do
  let resourceId ← text
  pure { resourceId }

/-- `decode`, for the list of variants. -/
def readVariantListResponse : Reader ConfigResourceVariantListResponse := do
  let (status, message) ← readStatus
  let activeVariantId ← text
  let variants ← items readVariant
  pure { status, message, activeVariantId, variants }

/-- `decode`, for a request to create a variant. -/
def readVariantCreateRequest : Reader ConfigResourceVariantCreateRequest := do
  let resourceId ← text
  let variantId ← text
  let source ← readVariantSource
  let expectedActiveRevision ← text
  pure { resourceId, variantId, source, expectedActiveRevision }

/-- The branch of `decode` that two responses share. -/
def readVariantMutation {α : Type}
    (payloadType : ConfigServiceStatus → Text → ConfigVariantDescriptor → ConfigEffects → α) :
    Reader α := do
  let (status, message) ← readStatus
  let variant ← readVariant
  let effects ← readEffects
  pure (payloadType status message variant effects)

/-- `decode`, for a request to save the current values. -/
def readVariantSaveCurrentRequest : Reader ConfigResourceVariantSaveCurrentRequest := do
  let resourceId ← text
  let variantId ← text
  let expectedVariantRevision ← text
  let expectedActiveRevision ← text
  pure { resourceId, variantId, expectedVariantRevision, expectedActiveRevision }

/-- `decode`, for a request to activate a variant. -/
def readVariantActivateRequest : Reader ConfigResourceVariantActivateRequest := do
  let resourceId ← text
  let variantId ← text
  let expectedActiveRevision ← text
  pure { resourceId, variantId, expectedActiveRevision }

/-- `decode`, for the answer to a request to activate. -/
def readVariantActivateResponse : Reader ConfigResourceVariantActivateResponse := do
  let (status, message) ← readStatus
  let appliedRevision ← text
  let outcome ← readOutcome
  let effects ← readEffects
  pure { status, message, appliedRevision, outcome, effects }

/-- `decode`, for a request to delete a variant. -/
def readVariantDeleteRequest : Reader ConfigResourceVariantDeleteRequest := do
  let resourceId ← text
  let variantId ← text
  let expectedRevision ← text
  pure { resourceId, variantId, expectedRevision }

/-- `decode`, for the answer to a request to delete. -/
def readVariantDeleteResponse : Reader ConfigResourceVariantDeleteResponse := do
  let (status, message) ← readStatus
  pure { status, message }

/-- The branches of `decode`. -/
def read : (kind : ConfigMessage) → Reader (Value kind)
  | .listRequest => readListRequest
  | .listResponse => readListResponse
  | .describeRequest => readDescribeRequest
  | .describeResponse => readDescribeResponse
  | .getRequest => readGetRequest
  | .getResponse => readGetResponse
  | .patchRequest => readPatchRequest
  | .patchResponse => readPatchResponse
  | .applyRequest => readApplyRequest
  | .applyResponse => readApplyResponse
  | .variantListRequest => readVariantListRequest
  | .variantListResponse => readVariantListResponse
  | .variantCreateRequest => readVariantCreateRequest
  | .variantCreateResponse => readVariantMutation ConfigResourceVariantCreateResponse.mk
  | .variantSaveCurrentRequest => readVariantSaveCurrentRequest
  | .variantSaveCurrentResponse => readVariantMutation ConfigResourceVariantSaveCurrentResponse.mk
  | .variantActivateRequest => readVariantActivateRequest
  | .variantActivateResponse => readVariantActivateResponse
  | .variantDeleteRequest => readVariantDeleteRequest
  | .variantDeleteResponse => readVariantDeleteResponse

/-- `encode`. -/
def encode (kind : ConfigMessage) (payload : Value kind) : Option Bytes := write kind [] payload

/-- Nothing may be left of the payload. -/
def decode (kind : ConfigMessage) (bytes : Bytes) : Option (Value kind) :=
  decodeAll (read kind) bytes

end YunLink.Python
