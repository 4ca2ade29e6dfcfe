import YunLink.Lib.Utf8
import YunLink.Messages.ConfigurationRelay

/-!
# The configuration codec of the Rust binding

The payloads of `configuration.rs` and `configuration_variants.rs` with the codec of
`configuration_codec.rs` and `configuration_codec_io.rs`.  A string that is too long and a
list with too many items end the encoder with an error at once, while a number that is not
finite marks the writer and is reported by `finish`.  The one error that the codec has is
`none` here.

A `String` is the text of its bytes, and the reader checks that they are UTF-8.  The models
that have the fields of their C++ counterparts are not declared again: those that differ
are a value, which is an enumeration, and what holds one, and the list request, which has
no field.

## Main definitions

* `Rust.Writer`, `Rust.Reader` — the fields of the payloads.
* `Rust.ConfigValue`, `Rust.ConfigFieldSchema`, `Rust.ConfigSnapshot` — the models that
  differ.
* `Rust.encode`, `Rust.decode` — the implementations of `ConfigurationPayload`.
-/

namespace YunLink.Rust

/-! ### Models -/

/-- `ConfigValue`; its case is its type. -/
inductive ConfigValue
  | bool (value : Bool)
  | int64 (value : Int64)
  /-- The bits of an `f64`. -/
  | double (value : UInt64)
  | string (value : Text)
  | stringList (values : List Text)
  | doubleList (values : List UInt64)
  | unset
  deriving DecidableEq, Repr

/-- `ConfigValue::value_type`. -/
def ConfigValue.valueType : ConfigValue → ConfigValueType
  | bool _ => .bool
  | int64 _ => .int64
  | double _ => .double
  | string _ => .string
  | stringList _ => .stringList
  | doubleList _ => .doubleList
  | unset => .unset

/-- A value to choose, with its label. -/
structure ConfigChoice where
  value : ConfigValue
  label : Text
  deriving DecidableEq, Repr

/-- What a field may hold, and how it is shown. -/
structure ConfigFieldSchema where
  path : Text
  groupPath : Text
  title : Text
  description : Text
  valueType : ConfigValueType
  required : Bool
  readOnly : Bool
  sensitive : Bool
  minimum : Option UInt64
  maximum : Option UInt64
  validationPattern : Text
  choices : List ConfigChoice
  updatePolicy : ConfigFieldUpdatePolicy
  unit : Text
  defaultValue : ConfigValue
  hasDefaultValue : Bool
  advanced : Bool
  deriving DecidableEq, Repr

/-- A field and its value. -/
structure ConfigFieldValue where
  path : Text
  value : ConfigValue
  deriving DecidableEq, Repr

/-- The values of a resource at a revision. -/
structure ConfigSnapshot where
  resourceId : Text
  revision : Text
  appliedRevision : Text
  variantId : Text
  activeVariantId : Text
  values : List ConfigFieldValue
  userOverriddenPaths : List Text
  deriving DecidableEq, Repr

/-- Asks for the resources; it has no field. -/
structure ConfigResourceListRequest where
  deriving DecidableEq, Repr

/-- A resource with the schema of its fields. -/
structure ConfigResourceDescribeResponse where
  status : ConfigServiceStatus
  message : Text
  resource : ConfigResourceDescriptor
  fields : List ConfigFieldSchema
  deriving DecidableEq, Repr

/-- The values that were asked for. -/
structure ConfigResourceGetResponse where
  status : ConfigServiceStatus
  message : Text
  snapshot : ConfigSnapshot
  deriving DecidableEq, Repr

/-- Changes values, if the resource is still at a revision. -/
structure ConfigResourcePatchRequest where
  resourceId : Text
  variantId : Text
  expectedRevision : Text
  updates : List ConfigFieldValue
  validateOnly : Bool
  deriving DecidableEq, Repr

/-- What a change did, or what is wrong with it. -/
structure ConfigResourcePatchResponse where
  status : ConfigServiceStatus
  message : Text
  snapshot : ConfigSnapshot
  candidateSnapshot : Option ConfigSnapshot
  errors : List ConfigFieldError
  effects : ConfigEffects
  deriving DecidableEq, Repr

/-! ### Writer and reader -/

/-- The longest list. -/
def maxConfigItems : ℕ := 256

/-- The longest string. -/
def maxStringBytes : ℕ := 1024

/-- The writer; a function that may fail returns `none` in place of the next state. -/
abbrev Writer := Codec.Buffer UInt8

namespace Writer

/-- `finish`. -/
def finish (writer : Writer) : Option Bytes := if writer.valid then some writer.data else none

/-- `Writer::u8`. -/
def u8 (writer : Writer) (value : UInt8) : Writer := writer.put [value]

/-- `Writer::boolean`. -/
def boolean (writer : Writer) (value : Bool) : Writer := writer.u8 (if value then 1 else 0)

/-- `Writer::u16`. -/
def u16 (writer : Writer) (value : UInt16) : Writer := writer.put (appendU16 value)

/-- `Writer::u64`. -/
def u64 (writer : Writer) (value : UInt64) : Writer := writer.put (appendU64 value)

/-- A number that is not finite is not written and marks the writer. -/
def f64 (writer : Writer) (bits : UInt64) : Writer :=
  if !isFinite bits then writer.invalidate else writer.u64 bits

/-- `Writer::text`. -/
def text (writer : Writer) (value : Text) : Option Writer :=
  if maxStringBytes < value.length then none
  else some ((writer.u16 (UInt16.ofNat value.length)).put value)

/-- `Writer::list`. -/
def list {α : Type} (writer : Writer) (values : List α) (write : Writer → α → Option Writer) :
    Option Writer :=
  if maxConfigItems < values.length then none
  else values.foldlM write (writer.u16 (UInt16.ofNat values.length))

end Writer

/-- The reader; words are read as they are in C++. -/
abbrev Reader := PayloadReader

namespace Reader

/-- `Reader::u8`. -/
def u8 : Reader UInt8 := PayloadReader.u8

/-- `Reader::u16`. -/
def u16 : Reader UInt16 := PayloadReader.u16

/-- `Reader::u64`. -/
def u64 : Reader UInt64 := PayloadReader.u64

/-- `Reader::remaining`: whether there is something left. -/
def remaining : Reader Bool := fun input => some (!input.isEmpty, input)

/-- A byte that stands for something. -/
def coded {α : Type} (table : UInt8 → Option α) : Reader α := do
  let value ← u8
  StateT.lift (table value)

/-- `Reader::boolean`. -/
def boolean : Reader Bool :=
  coded fun value =>
    match value with
    | 0 => some false
    | 1 => some true
    | _ => none

/-- `Reader::f64`; it has to be finite. -/
def f64 : Reader UInt64 := PayloadReader.checked u64 isFinite

/-- The bytes behind a length, which have to be those of a `String`. -/
def text : Reader Text := PayloadReader.checked PayloadReader.text Utf8.valid

/-- `Reader::list`. -/
def list {α : Type} (read : Reader α) : Reader (List α) := do
  let count ← PayloadReader.checked u16 fun count => count.toNat ≤ maxConfigItems
  PayloadReader.list read count.toNat

end Reader

open Reader

/-! ### Enumerations -/

/-- `status`. -/
def status (value : UInt8) : Option ConfigServiceStatus :=
  match value with
  | 0 => some .ok
  | 1 => some .notFound
  | 2 => some .unsupported
  | 3 => some .unauthenticated
  | 4 => some .unauthorized
  | 5 => some .conflict
  | 6 => some .invalid
  | 7 => some .unsafeState
  | 8 => some .internalError
  | _ => none

/-- `requirement`. -/
def requirement (value : UInt8) : Option ConfigApplyRequirement :=
  match value with
  | 0 => some .none
  | 1 => some .componentRestart
  | 2 => some .endpointRestart
  | 3 => some .deviceReboot
  | 4 => some .manual
  | _ => none

/-- `outcome`. -/
def outcome (value : UInt8) : Option ConfigApplyOutcome :=
  match value with
  | 1 => some .applied
  | 2 => some .restartScheduled
  | 3 => some .manualActionRequired
  | 4 => some .failed
  | _ => none

/-- `value_type`. -/
def valueType (value : UInt8) : Option ConfigValueType :=
  match value with
  | 1 => some .bool
  | 2 => some .int64
  | 3 => some .double
  | 4 => some .string
  | 5 => some .stringList
  | 6 => some .doubleList
  | 7 => some .unset
  | _ => none

/-- A field cannot have the type `Unset`, which is an instruction. -/
def schemaValueType (value : UInt8) : Option ConfigValueType := do
  match ← valueType value with
  | .unset => none
  | other => some other

/-- `update_policy`. -/
def updatePolicy (value : UInt8) : Option ConfigFieldUpdatePolicy :=
  match value with
  | 0 => some .hotReload
  | 1 => some .componentRestart
  | 2 => some .endpointRestart
  | 3 => some .deviceReboot
  | 4 => some .manual
  | 5 => some .rebuildRequired
  | _ => none

/-- `variant_source`. -/
def variantSource (value : UInt8) : Option ConfigVariantSource :=
  match value with
  | 1 => some .default
  | 2 => some .active
  | _ => none

/-! ### Parts of payloads -/

/-- `write_status`. -/
def writeStatus (writer : Writer) (status : ConfigServiceStatus) (message : Text) :
    Option Writer :=
  (writer.u8 status.toUInt8).text message

/-- `read_status`. -/
def readStatus : Reader (ConfigServiceStatus × Text) := do
  let status ← coded status
  let message ← text
  pure (status, message)

/-- `write_value`. -/
def writeValue (writer : Writer) (value : ConfigValue) : Option Writer :=
  let writer := writer.u8 value.valueType.toUInt8
  match value with
  | .bool value => some (writer.boolean value)
  | .int64 value => some (writer.u64 value.toUInt64)
  | .double value => some (writer.f64 value)
  | .string value => writer.text value
  | .stringList values => writer.list values fun writer value => writer.text value
  | .doubleList values => writer.list values fun writer value => some (writer.f64 value)
  | .unset => some writer

/-- `read_value`. -/
def readValue : Reader ConfigValue := do
  match ← u8 with
  | 1 => do
      let value ← boolean
      pure (.bool value)
  | 2 => do
      let value ← u64
      pure (.int64 value.toInt64)
  | 3 => do
      let value ← f64
      pure (.double value)
  | 4 => do
      let value ← text
      pure (.string value)
  | 5 => do
      let values ← list text
      pure (.stringList values)
  | 6 => do
      let values ← list f64
      pure (.doubleList values)
  | 7 => pure .unset
  | _ => failure

/-- `write_descriptor`. -/
def writeDescriptor (writer : Writer) (value : ConfigResourceDescriptor) : Option Writer := do
  let writer ← writer.text value.id
  let writer ← writer.text value.title
  let writer ← writer.text value.description
  let writer := writer.boolean value.readable
  let writer := writer.boolean value.writable
  let writer := writer.boolean value.applySupported
  some (writer.boolean value.variantsSupported)

/-- `read_descriptor`. -/
def readDescriptor : Reader ConfigResourceDescriptor := do
  let id ← text
  let title ← text
  let description ← text
  let readable ← boolean
  let writable ← boolean
  let applySupported ← boolean
  let variantsSupported ← boolean
  pure { id, title, description, readable, writable, applySupported, variantsSupported }

/-- Writes a choice of a schema. -/
def writeChoice (writer : Writer) (choice : ConfigChoice) : Option Writer := do
  let writer ← writeValue writer choice.value
  writer.text choice.label

/-- Reads a choice of a schema. -/
def readChoice : Reader ConfigChoice := do
  let value ← readValue
  let label ← text
  pure { value, label }

/-- A bound: whether there is one, and a number in any case. -/
def writeBound (writer : Writer) (bound : Option UInt64) : Writer :=
  (writer.boolean bound.isSome).f64 (bound.getD 0)

/-- The number of a bound is read and checked even if it is not used. -/
def readBound : Reader (Option UInt64) := do
  let present ← boolean
  let bits ← f64
  pure (if present then some bits else none)

/-- A default value, which is written only if there is one. -/
def writeDefault (writer : Writer) (hasDefaultValue : Bool) (value : ConfigValue) :
    Option Writer :=
  if hasDefaultValue then writeValue writer value else some writer

/-- `write_schema`. -/
def writeSchema (writer : Writer) (value : ConfigFieldSchema) : Option Writer := do
  let writer ← writer.text value.path
  let writer ← writer.text value.title
  let writer ← writer.text value.description
  let writer := writer.u8 value.valueType.toUInt8
  let writer := writer.boolean value.required
  let writer := writer.boolean value.readOnly
  let writer := writer.boolean value.sensitive
  let writer := writeBound writer value.minimum
  let writer := writeBound writer value.maximum
  let writer ← writer.text value.validationPattern
  let writer ← writer.list value.choices writeChoice
  let writer ← writer.text value.groupPath
  let writer := writer.u8 value.updatePolicy.toUInt8
  let writer ← writer.text value.unit
  let writer := writer.boolean value.hasDefaultValue
  let writer ← writeDefault writer value.hasDefaultValue value.defaultValue
  some (writer.boolean value.advanced)

/-- `read_schema`. -/
def readSchema : Reader ConfigFieldSchema := do
  let path ← text
  let title ← text
  let description ← text
  let valueType ← coded schemaValueType
  let required ← boolean
  let readOnly ← boolean
  let sensitive ← boolean
  let minimum ← readBound
  let maximum ← readBound
  let validationPattern ← text
  let choices ← list readChoice
  let groupPath ← text
  let updatePolicy ← coded updatePolicy
  let unit ← text
  let hasDefaultValue ← boolean
  let defaultValue ← readIf hasDefaultValue readValue (.string [])
  let advanced ← boolean
  pure { path, title, description, valueType, required, readOnly, sensitive, minimum, maximum
         validationPattern, choices, groupPath, updatePolicy, unit, defaultValue
         hasDefaultValue, advanced }

/-- `write_field_value`. -/
def writeFieldValue (writer : Writer) (value : ConfigFieldValue) : Option Writer := do
  let writer ← writer.text value.path
  writeValue writer value.value

/-- `read_field_value`. -/
def readFieldValue : Reader ConfigFieldValue := do
  let path ← text
  let value ← readValue
  pure { path, value }

/-- `write_snapshot`. -/
def writeSnapshot (writer : Writer) (value : ConfigSnapshot) : Option Writer := do
  let writer ← writer.text value.resourceId
  let writer ← writer.text value.revision
  let writer ← writer.text value.appliedRevision
  let writer ← writer.text value.variantId
  let writer ← writer.text value.activeVariantId
  let writer ← writer.list value.values writeFieldValue
  writer.list value.userOverriddenPaths fun writer path => writer.text path

/-- `read_snapshot`. -/
def readSnapshot : Reader ConfigSnapshot := do
  let resourceId ← text
  let revision ← text
  let appliedRevision ← text
  let variantId ← text
  let activeVariantId ← text
  let values ← list readFieldValue
  let userOverriddenPaths ← list text
  pure { resourceId, revision, appliedRevision, variantId, activeVariantId, values
         userOverriddenPaths }

/-- `write_error`. -/
def writeError (writer : Writer) (value : ConfigFieldError) : Option Writer := do
  let writer ← writer.text value.path
  let writer ← writer.text value.code
  writer.text value.message

/-- `read_error`. -/
def readError : Reader ConfigFieldError := do
  let path ← text
  let code ← text
  let message ← text
  pure { path, code, message }

/-- `write_effects`. -/
def writeEffects (writer : Writer) (value : ConfigEffects) : Option Writer := do
  let writer := writer.u8 value.requirement.toUInt8
  let writer ← writer.list value.affectedComponents fun writer value => writer.text value
  some (writer.boolean value.reconnectExpected)

/-- `read_effects`. -/
def readEffects : Reader ConfigEffects := do
  let requirement ← coded requirement
  let affectedComponents ← list text
  let reconnectExpected ← boolean
  pure { requirement, affectedComponents, reconnectExpected }

/-- `write_variant`. -/
def writeVariant (writer : Writer) (value : ConfigVariantDescriptor) : Option Writer := do
  let writer ← writer.text value.id
  let writer ← writer.text value.title
  let writer ← writer.text value.revision
  let writer := writer.u64 value.modifiedAtNs
  let writer := writer.boolean value.active
  some (writer.boolean value.mutableVariant)

/-- `read_variant`. -/
def readVariant : Reader ConfigVariantDescriptor := do
  let id ← text
  let title ← text
  let revision ← text
  let modifiedAtNs ← u64
  let active ← boolean
  let mutableVariant ← boolean
  pure { id, title, revision, modifiedAtNs, active, mutableVariant }

/-! ### Payloads

The closures that the implementations of `ConfigurationPayload` hand to `encode_payload`
and `decode_payload`. -/

/-- Writes a list request. -/
def writeListRequest (writer : Writer) (_ : ConfigResourceListRequest) : Option Writer :=
  some (writer.u8 0)

/-- The reserved byte is not looked at. -/
def readListRequest : Reader ConfigResourceListRequest := do
  let _ ← u8
  pure {}

/-- Writes a list response. -/
def writeListResponse (writer : Writer) (payload : ConfigResourceListResponse) :
    Option Writer := do
  let writer ← writeStatus writer payload.status payload.message
  writer.list payload.resources writeDescriptor

/-- Reads a list response. -/
def readListResponse : Reader ConfigResourceListResponse := do
  let (status, message) ← readStatus
  let resources ← list readDescriptor
  pure { status, message, resources }

/-- Writes a describe request. -/
def writeDescribeRequest (writer : Writer) (payload : ConfigResourceDescribeRequest) :
    Option Writer := do
  let writer ← writer.text payload.resourceId
  if payload.locale.isEmpty then some writer else writer.text payload.locale

/-- Reads a describe request. -/
def readDescribeRequest : Reader ConfigResourceDescribeRequest := do
  let resourceId ← text
  let more ← remaining
  let locale ← readIf more text []
  pure { resourceId, locale }

/-- Writes a describe response. -/
def writeDescribeResponse (writer : Writer) (payload : ConfigResourceDescribeResponse) :
    Option Writer := do
  let writer ← writeStatus writer payload.status payload.message
  let writer ← writeDescriptor writer payload.resource
  writer.list payload.fields writeSchema

/-- Reads a describe response. -/
def readDescribeResponse : Reader ConfigResourceDescribeResponse := do
  let (status, message) ← readStatus
  let resource ← readDescriptor
  let fields ← list readSchema
  pure { status, message, resource, fields }

/-- Writes a get request. -/
def writeGetRequest (writer : Writer) (payload : ConfigResourceGetRequest) : Option Writer := do
  let writer ← writer.text payload.resourceId
  writer.text payload.variantId

/-- Reads a get request. -/
def readGetRequest : Reader ConfigResourceGetRequest := do
  let resourceId ← text
  let variantId ← text
  pure { resourceId, variantId }

/-- Writes a get response. -/
def writeGetResponse (writer : Writer) (payload : ConfigResourceGetResponse) : Option Writer := do
  let writer ← writeStatus writer payload.status payload.message
  writeSnapshot writer payload.snapshot

/-- Reads a get response. -/
def readGetResponse : Reader ConfigResourceGetResponse := do
  let (status, message) ← readStatus
  let snapshot ← readSnapshot
  pure { status, message, snapshot }

/-- Writes a patch request. -/
def writePatchRequest (writer : Writer) (payload : ConfigResourcePatchRequest) :
    Option Writer := do
  let writer ← writer.text payload.resourceId
  let writer ← writer.text payload.variantId
  let writer ← writer.text payload.expectedRevision
  let writer ← writer.list payload.updates writeFieldValue
  some (writer.boolean payload.validateOnly)

/-- Reads a patch request. -/
def readPatchRequest : Reader ConfigResourcePatchRequest := do
  let resourceId ← text
  let variantId ← text
  let expectedRevision ← text
  let updates ← list readFieldValue
  let validateOnly ← boolean
  pure { resourceId, variantId, expectedRevision, updates, validateOnly }

/-- A part that is there or not. -/
def writeCandidate (writer : Writer) : Option ConfigSnapshot → Option Writer
  | some candidateSnapshot => writeSnapshot writer candidateSnapshot
  | none => some writer

/-- The snapshot behind its flag. -/
def readCandidate : Reader (Option ConfigSnapshot) := do
  let present ← boolean
  readIf present (some <$> readSnapshot) none

/-- Writes a patch response. -/
def writePatchResponse (writer : Writer) (payload : ConfigResourcePatchResponse) :
    Option Writer := do
  let writer ← writeStatus writer payload.status payload.message
  let writer ← writeSnapshot writer payload.snapshot
  let writer := writer.boolean payload.candidateSnapshot.isSome
  let writer ← writeCandidate writer payload.candidateSnapshot
  let writer ← writer.list payload.errors writeError
  writeEffects writer payload.effects

/-- Reads a patch response. -/
def readPatchResponse : Reader ConfigResourcePatchResponse := do
  let (status, message) ← readStatus
  let snapshot ← readSnapshot
  let candidateSnapshot ← readCandidate
  let errors ← list readError
  let effects ← readEffects
  pure { status, message, snapshot, candidateSnapshot, errors, effects }

/-- Writes an apply request. -/
def writeApplyRequest (writer : Writer) (payload : ConfigResourceApplyRequest) :
    Option Writer := do
  let writer ← writer.text payload.resourceId
  writer.text payload.expectedRevision

/-- Reads an apply request. -/
def readApplyRequest : Reader ConfigResourceApplyRequest := do
  let resourceId ← text
  let expectedRevision ← text
  pure { resourceId, expectedRevision }

/-- Writes an apply response. -/
def writeApplyResponse (writer : Writer) (payload : ConfigResourceApplyResponse) :
    Option Writer := do
  let writer ← writeStatus writer payload.status payload.message
  let writer ← writer.text payload.appliedRevision
  let writer := writer.u8 payload.outcome.toUInt8
  writeEffects writer payload.effects

/-- Reads an apply response. -/
def readApplyResponse : Reader ConfigResourceApplyResponse := do
  let (status, message) ← readStatus
  let appliedRevision ← text
  let outcome ← coded outcome
  let effects ← readEffects
  pure { status, message, appliedRevision, outcome, effects }

/-- Writes a request for the variants. -/
def writeVariantListRequest (writer : Writer) (payload : ConfigResourceVariantListRequest) :
    Option Writer :=
  writer.text payload.resourceId

/-- Reads a request for the variants. -/
def readVariantListRequest : Reader ConfigResourceVariantListRequest := do
  let resourceId ← text
  pure { resourceId }

/-- Writes the list of variants. -/
def writeVariantListResponse (writer : Writer) (payload : ConfigResourceVariantListResponse) :
    Option Writer := do
  let writer ← writeStatus writer payload.status payload.message
  let writer ← writer.text payload.activeVariantId
  writer.list payload.variants writeVariant

/-- Reads the list of variants. -/
def readVariantListResponse : Reader ConfigResourceVariantListResponse := do
  let (status, message) ← readStatus
  let activeVariantId ← text
  let variants ← list readVariant
  pure { status, message, activeVariantId, variants }

/-- Writes a request to create a variant. -/
def writeVariantCreate (writer : Writer) (payload : ConfigResourceVariantCreateRequest) :
    Option Writer := do
  let writer ← writer.text payload.resourceId
  let writer ← writer.text payload.variantId
  let writer := writer.u8 payload.source.toUInt8
  writer.text payload.expectedActiveRevision

/-- Reads a request to create a variant. -/
def readVariantCreate : Reader ConfigResourceVariantCreateRequest := do
  let resourceId ← text
  let variantId ← text
  let source ← coded variantSource
  let expectedActiveRevision ← text
  pure { resourceId, variantId, source, expectedActiveRevision }

/-- The body of `impl_variant_mutation_response`, which implements two payloads. -/
def writeVariantMutation (writer : Writer) (status : ConfigServiceStatus) (message : Text)
    (variant : ConfigVariantDescriptor) (effects : ConfigEffects) : Option Writer := do
  let writer ← writeStatus writer status message
  let writer ← writeVariant writer variant
  writeEffects writer effects

/-- What the macro reads. -/
def readVariantMutation {α : Type}
    (make : ConfigServiceStatus → Text → ConfigVariantDescriptor → ConfigEffects → α) :
    Reader α := do
  let (status, message) ← readStatus
  let variant ← readVariant
  let effects ← readEffects
  pure (make status message variant effects)

/-- Writes the answer to a request to create. -/
def writeVariantCreateResponse (writer : Writer) (payload : ConfigResourceVariantCreateResponse) :
    Option Writer :=
  writeVariantMutation writer payload.status payload.message payload.variant payload.effects

/-- Reads the answer to a request to create. -/
def readVariantCreateResponse : Reader ConfigResourceVariantCreateResponse :=
  readVariantMutation fun status message variant effects => { status, message, variant, effects }

/-- Writes a request to save the current values. -/
def writeVariantSaveCurrentRequest (writer : Writer)
    (payload : ConfigResourceVariantSaveCurrentRequest) : Option Writer := do
  let writer ← writer.text payload.resourceId
  let writer ← writer.text payload.variantId
  let writer ← writer.text payload.expectedVariantRevision
  writer.text payload.expectedActiveRevision

/-- Reads a request to save the current values. -/
def readVariantSaveCurrentRequest : Reader ConfigResourceVariantSaveCurrentRequest := do
  let resourceId ← text
  let variantId ← text
  let expectedVariantRevision ← text
  let expectedActiveRevision ← text
  pure { resourceId, variantId, expectedVariantRevision, expectedActiveRevision }

/-- Writes the answer to a request to save. -/
def writeVariantSaveCurrentResponse (writer : Writer)
    (payload : ConfigResourceVariantSaveCurrentResponse) : Option Writer :=
  writeVariantMutation writer payload.status payload.message payload.variant payload.effects

/-- Reads the answer to a request to save. -/
def readVariantSaveCurrentResponse : Reader ConfigResourceVariantSaveCurrentResponse :=
  readVariantMutation fun status message variant effects => { status, message, variant, effects }

/-- Writes a request to activate a variant. -/
def writeVariantActivateRequest (writer : Writer) (payload : ConfigResourceVariantActivateRequest) :
    Option Writer := do
  let writer ← writer.text payload.resourceId
  let writer ← writer.text payload.variantId
  writer.text payload.expectedActiveRevision

/-- Reads a request to activate a variant. -/
def readVariantActivateRequest : Reader ConfigResourceVariantActivateRequest := do
  let resourceId ← text
  let variantId ← text
  let expectedActiveRevision ← text
  pure { resourceId, variantId, expectedActiveRevision }

/-- Writes the answer to a request to activate. -/
def writeVariantActivateResponse (writer : Writer)
    (payload : ConfigResourceVariantActivateResponse) : Option Writer := do
  let writer ← writeStatus writer payload.status payload.message
  let writer ← writer.text payload.appliedRevision
  let writer := writer.u8 payload.outcome.toUInt8
  writeEffects writer payload.effects

/-- Reads the answer to a request to activate. -/
def readVariantActivateResponse : Reader ConfigResourceVariantActivateResponse := do
  let (status, message) ← readStatus
  let appliedRevision ← text
  let outcome ← coded outcome
  let effects ← readEffects
  pure { status, message, appliedRevision, outcome, effects }

/-- Writes a request to delete a variant. -/
def writeVariantDeleteRequest (writer : Writer) (payload : ConfigResourceVariantDeleteRequest) :
    Option Writer := do
  let writer ← writer.text payload.resourceId
  let writer ← writer.text payload.variantId
  writer.text payload.expectedRevision

/-- Reads a request to delete a variant. -/
def readVariantDeleteRequest : Reader ConfigResourceVariantDeleteRequest := do
  let resourceId ← text
  let variantId ← text
  let expectedRevision ← text
  pure { resourceId, variantId, expectedRevision }

/-- Writes the answer to a request to delete. -/
def writeVariantDeleteResponse (writer : Writer) (payload : ConfigResourceVariantDeleteResponse) :
    Option Writer :=
  writeStatus writer payload.status payload.message

/-- Reads the answer to a request to delete. -/
def readVariantDeleteResponse : Reader ConfigResourceVariantDeleteResponse := do
  let (status, message) ← readStatus
  pure { status, message }

/-! ### The trait -/

/-- The types that implement `ConfigurationPayload`. -/
def Value : ConfigMessage → Type
  | .listRequest => ConfigResourceListRequest
  | .listResponse => ConfigResourceListResponse
  | .describeRequest => ConfigResourceDescribeRequest
  | .describeResponse => ConfigResourceDescribeResponse
  | .getRequest => ConfigResourceGetRequest
  | .getResponse => ConfigResourceGetResponse
  | .patchRequest => ConfigResourcePatchRequest
  | .patchResponse => ConfigResourcePatchResponse
  | .applyRequest => ConfigResourceApplyRequest
  | .applyResponse => ConfigResourceApplyResponse
  | .variantListRequest => ConfigResourceVariantListRequest
  | .variantListResponse => ConfigResourceVariantListResponse
  | .variantCreateRequest => ConfigResourceVariantCreateRequest
  | .variantCreateResponse => ConfigResourceVariantCreateResponse
  | .variantSaveCurrentRequest => ConfigResourceVariantSaveCurrentRequest
  | .variantSaveCurrentResponse => ConfigResourceVariantSaveCurrentResponse
  | .variantActivateRequest => ConfigResourceVariantActivateRequest
  | .variantActivateResponse => ConfigResourceVariantActivateResponse
  | .variantDeleteRequest => ConfigResourceVariantDeleteRequest
  | .variantDeleteResponse => ConfigResourceVariantDeleteResponse

/-- What the implementation for the kind writes. -/
def write : (kind : ConfigMessage) → Writer → Value kind → Option Writer
  | .listRequest => writeListRequest
  | .listResponse => writeListResponse
  | .describeRequest => writeDescribeRequest
  | .describeResponse => writeDescribeResponse
  | .getRequest => writeGetRequest
  | .getResponse => writeGetResponse
  | .patchRequest => writePatchRequest
  | .patchResponse => writePatchResponse
  | .applyRequest => writeApplyRequest
  | .applyResponse => writeApplyResponse
  | .variantListRequest => writeVariantListRequest
  | .variantListResponse => writeVariantListResponse
  | .variantCreateRequest => writeVariantCreate
  | .variantCreateResponse => writeVariantCreateResponse
  | .variantSaveCurrentRequest => writeVariantSaveCurrentRequest
  | .variantSaveCurrentResponse => writeVariantSaveCurrentResponse
  | .variantActivateRequest => writeVariantActivateRequest
  | .variantActivateResponse => writeVariantActivateResponse
  | .variantDeleteRequest => writeVariantDeleteRequest
  | .variantDeleteResponse => writeVariantDeleteResponse

/-- What the implementation for the kind reads. -/
def read : (kind : ConfigMessage) → Reader (Value kind)
  | .listRequest => readListRequest
  | .listResponse => readListResponse
  | .describeRequest => readDescribeRequest
  | .describeResponse => readDescribeResponse
  | .getRequest => readGetRequest
  | .getResponse => readGetResponse
  | .patchRequest => readPatchRequest
  | .patchResponse => readPatchResponse
  | .applyRequest => readApplyRequest
  | .applyResponse => readApplyResponse
  | .variantListRequest => readVariantListRequest
  | .variantListResponse => readVariantListResponse
  | .variantCreateRequest => readVariantCreate
  | .variantCreateResponse => readVariantCreateResponse
  | .variantSaveCurrentRequest => readVariantSaveCurrentRequest
  | .variantSaveCurrentResponse => readVariantSaveCurrentResponse
  | .variantActivateRequest => readVariantActivateRequest
  | .variantActivateResponse => readVariantActivateResponse
  | .variantDeleteRequest => readVariantDeleteRequest
  | .variantDeleteResponse => readVariantDeleteResponse

/-- `ConfigurationPayload::encode`. -/
def encode (kind : ConfigMessage) (payload : Value kind) : Option Bytes := do
  let writer ← write kind {} payload
  writer.finish

/-- `ConfigurationPayload::decode`: nothing may be left of the payload. -/
def decode (kind : ConfigMessage) (bytes : Bytes) : Option (Value kind) :=
  match read kind bytes with
  | some (value, rest) => if rest.isEmpty then some value else none
  | none => none

end YunLink.Rust
