import YunLink.Messages.Fields

/-!
# Configuration resources

The resource models of `service_types.hpp` with the writers and readers of `codec_io.hpp`
and `binary_codec_io.hpp`.  A `double` is the word of its bits.

A `ConfigValue` has a member for every type it may have, and only the one its type names
is written.  Whether a number is finite is checked on both sides for a value, and by the
reader alone for the bounds of a schema.

## Main definitions

* `BufferWriter` — the buffer of the encoders; a string over `kMaxCoreStringBytes`, a
  vector over `kMaxConfigItems` and a value that is not finite invalidate it.
* `writeValue`, `readValue` — tagged values.
* `writeSchema`, `readSchema` — field schemas, with an optional default.
* `writeSnapshot`, `readSnapshot` — the values of a resource.
-/

namespace YunLink

open PayloadReader

/-! ### Enumerations -/

/-- The types of a value. -/
inductive ConfigValueType
  | bool
  | int64
  | double
  | string
  | stringList
  | doubleList
  | unset
  deriving DecidableEq, Repr, Inhabited

/-- The value of the enumerator. -/
def ConfigValueType.toUInt8 : ConfigValueType → UInt8
  | .bool => 1
  | .int64 => 2
  | .double => 3
  | .string => 4
  | .stringList => 5
  | .doubleList => 6
  | .unset => 7

/-- The enumerator of a value that the reader has checked. -/
def ConfigValueType.ofUInt8 (value : UInt8) : ConfigValueType :=
  if value = 1 then .bool
  else if value = 2 then .int64
  else if value = 3 then .double
  else if value = 4 then .string
  else if value = 5 then .stringList
  else if value = 6 then .doubleList
  else .unset

/-- How a request to the service has ended. -/
inductive ConfigServiceStatus
  | ok
  | notFound
  | unsupported
  | unauthenticated
  | unauthorized
  | conflict
  | invalid
  | unsafeState
  | internalError
  deriving DecidableEq, Repr, Inhabited

/-- The value of the enumerator. -/
def ConfigServiceStatus.toUInt8 : ConfigServiceStatus → UInt8
  | .ok => 0
  | .notFound => 1
  | .unsupported => 2
  | .unauthenticated => 3
  | .unauthorized => 4
  | .conflict => 5
  | .invalid => 6
  | .unsafeState => 7
  | .internalError => 8

/-- The enumerator of a value that the reader has checked. -/
def ConfigServiceStatus.ofUInt8 (value : UInt8) : ConfigServiceStatus :=
  if value = 0 then .ok
  else if value = 1 then .notFound
  else if value = 2 then .unsupported
  else if value = 3 then .unauthenticated
  else if value = 4 then .unauthorized
  else if value = 5 then .conflict
  else if value = 6 then .invalid
  else if value = 7 then .unsafeState
  else .internalError

/-- What it takes to apply a change. -/
inductive ConfigApplyRequirement
  | none
  | componentRestart
  | endpointRestart
  | deviceReboot
  | manual
  deriving DecidableEq, Repr, Inhabited

/-- The value of the enumerator. -/
def ConfigApplyRequirement.toUInt8 : ConfigApplyRequirement → UInt8
  | .none => 0
  | .componentRestart => 1
  | .endpointRestart => 2
  | .deviceReboot => 3
  | .manual => 4

/-- The enumerator of a value that the reader has checked. -/
def ConfigApplyRequirement.ofUInt8 (value : UInt8) : ConfigApplyRequirement :=
  if value = 0 then .none
  else if value = 1 then .componentRestart
  else if value = 2 then .endpointRestart
  else if value = 3 then .deviceReboot
  else .manual

/-- What has become of a change. -/
inductive ConfigApplyOutcome
  | applied
  | restartScheduled
  | manualActionRequired
  | failed
  deriving DecidableEq, Repr, Inhabited

/-- The value of the enumerator. -/
def ConfigApplyOutcome.toUInt8 : ConfigApplyOutcome → UInt8
  | .applied => 1
  | .restartScheduled => 2
  | .manualActionRequired => 3
  | .failed => 4

/-- The enumerator of a value that the reader has checked. -/
def ConfigApplyOutcome.ofUInt8 (value : UInt8) : ConfigApplyOutcome :=
  if value = 1 then .applied
  else if value = 2 then .restartScheduled
  else if value = 3 then .manualActionRequired
  else .failed

/-- What it takes to update a field. -/
inductive ConfigFieldUpdatePolicy
  | hotReload
  | componentRestart
  | endpointRestart
  | deviceReboot
  | manual
  | rebuildRequired
  deriving DecidableEq, Repr, Inhabited

/-- The value of the enumerator. -/
def ConfigFieldUpdatePolicy.toUInt8 : ConfigFieldUpdatePolicy → UInt8
  | .hotReload => 0
  | .componentRestart => 1
  | .endpointRestart => 2
  | .deviceReboot => 3
  | .manual => 4
  | .rebuildRequired => 5

/-- The enumerator of a value that the reader has checked. -/
def ConfigFieldUpdatePolicy.ofUInt8 (value : UInt8) : ConfigFieldUpdatePolicy :=
  if value = 0 then .hotReload
  else if value = 1 then .componentRestart
  else if value = 2 then .endpointRestart
  else if value = 3 then .deviceReboot
  else if value = 4 then .manual
  else .rebuildRequired

/-- What a variant is made from. -/
inductive ConfigVariantSource
  | default
  | active
  deriving DecidableEq, Repr, Inhabited

/-- The value of the enumerator. -/
def ConfigVariantSource.toUInt8 : ConfigVariantSource → UInt8
  | .default => 1
  | .active => 2

/-- The enumerator of a value that the reader has checked. -/
def ConfigVariantSource.ofUInt8 (value : UInt8) : ConfigVariantSource :=
  if value = 1 then .default else .active

/-- The type of a field of a schema: `kUnset` is an instruction, not a type. -/
def validSchemaValueType (value : UInt8) : Bool :=
  ConfigValueType.bool.toUInt8 ≤ value && value ≤ ConfigValueType.doubleList.toUInt8

/-- The type of a value: `kUnset` is one, without a payload. -/
def validValueType (value : UInt8) : Bool :=
  ConfigValueType.bool.toUInt8 ≤ value && value ≤ ConfigValueType.unset.toUInt8

/-- A status is declared. -/
def validStatus (value : UInt8) : Bool := value ≤ ConfigServiceStatus.internalError.toUInt8

/-- A requirement is declared. -/
def validRequirement (value : UInt8) : Bool := value ≤ ConfigApplyRequirement.manual.toUInt8

/-- An outcome is declared. -/
def validOutcome (value : UInt8) : Bool :=
  ConfigApplyOutcome.applied.toUInt8 ≤ value && value ≤ ConfigApplyOutcome.failed.toUInt8

/-- An update policy is declared. -/
def validUpdatePolicy (value : UInt8) : Bool :=
  value ≤ ConfigFieldUpdatePolicy.rebuildRequired.toUInt8

/-- The source of a variant is declared. -/
def validVariantSource (value : UInt8) : Bool :=
  ConfigVariantSource.default.toUInt8 ≤ value && value ≤ ConfigVariantSource.active.toUInt8

/-! ### Resource models -/

/-- A value; its type says which member counts. -/
structure ConfigValue where
  type : ConfigValueType := .string
  boolValue : Bool := false
  int64Value : Int64 := 0
  /-- The bits of a `double`. -/
  doubleValue : UInt64 := 0
  stringValue : Text := []
  stringListValue : List Text := []
  doubleListValue : List UInt64 := []
  deriving DecidableEq, Repr, Inhabited

/-- A resource, and what can be done with it. -/
structure ConfigResourceDescriptor where
  id : Text := []
  title : Text := []
  description : Text := []
  readable : Bool := true
  writable : Bool := false
  applySupported : Bool := false
  variantsSupported : Bool := false
  deriving DecidableEq, Repr, Inhabited

/-- A value that a field may have, with its label. -/
structure ConfigChoice where
  value : ConfigValue := {}
  label : Text := []
  deriving DecidableEq, Repr, Inhabited

/-- What a field of a resource may hold, and how it is shown. -/
structure ConfigFieldSchema where
  path : Text := []
  title : Text := []
  description : Text := []
  type : ConfigValueType := .string
  required : Bool := false
  readOnly : Bool := false
  sensitive : Bool := false
  hasMinimum : Bool := false
  minimum : UInt64 := 0
  hasMaximum : Bool := false
  maximum : UInt64 := 0
  validationPattern : Text := []
  choices : List ConfigChoice := []
  groupPath : Text := []
  updatePolicy : ConfigFieldUpdatePolicy := .manual
  unit : Text := []
  defaultValue : ConfigValue := {}
  hasDefaultValue : Bool := false
  advanced : Bool := false
  deriving DecidableEq, Repr, Inhabited

/-- The value of the field at a path. -/
structure ConfigFieldValue where
  path : Text := []
  value : ConfigValue := {}
  deriving DecidableEq, Repr, Inhabited

/-- The values of a resource at one revision. -/
structure ConfigSnapshot where
  resourceId : Text := []
  revision : Text := []
  appliedRevision : Text := []
  variantId : Text := []
  activeVariantId : Text := []
  values : List ConfigFieldValue := []
  userOverriddenPaths : List Text := []
  deriving DecidableEq, Repr, Inhabited

/-- A variant of a resource. -/
structure ConfigVariantDescriptor where
  id : Text := []
  title : Text := []
  revision : Text := []
  modifiedAtNs : UInt64 := 0
  active : Bool := false
  mutableVariant : Bool := true
  deriving DecidableEq, Repr, Inhabited

/-- What is wrong with a field. -/
structure ConfigFieldError where
  path : Text := []
  code : Text := []
  message : Text := []
  deriving DecidableEq, Repr, Inhabited

/-- What applying a change does to the endpoint. -/
structure ConfigEffects where
  requirement : ConfigApplyRequirement := .none
  affectedComponents : List Text := []
  reconnectExpected : Bool := false
  deriving DecidableEq, Repr, Inhabited

/-! ### Writer and reader -/

/-- No string is longer. -/
def kMaxCoreStringBytes : ℕ := 1024

/-- No list has more items. -/
def kMaxConfigItems : UInt16 := 256

/-- `std::isfinite` of the bits of a `double`: the exponent is not all ones. -/
def isFinite (bits : UInt64) : Bool := (bits >>> 52) &&& 2047 != 2047

/-- The buffer the encoders of the configuration messages write to. -/
abbrev BufferWriter := Codec.Buffer UInt8

namespace BufferWriter

/-- `write_u8`. -/
def writeU8 (writer : BufferWriter) (value : UInt8) : BufferWriter := writer.put [value]

/-- `write_bool`: a byte, 1 or 0. -/
def writeBool (writer : BufferWriter) (value : Bool) : BufferWriter :=
  writer.writeU8 (if value then 1 else 0)

/-- `write_u16`, little-endian. -/
def writeU16 (writer : BufferWriter) (value : UInt16) : BufferWriter :=
  writer.put (appendU16 value)

/-- `write_u64`, little-endian. -/
def writeU64 (writer : BufferWriter) (value : UInt64) : BufferWriter :=
  writer.put (appendU64 value)

/-- `write_double`: the word of its bits. -/
def writeDouble (writer : BufferWriter) (bits : UInt64) : BufferWriter := writer.writeU64 bits

/-- `write_string`: a length in front of the bytes; a string that is too long spoils the buffer. -/
def writeString (writer : BufferWriter) (value : Text) : BufferWriter :=
  if kMaxCoreStringBytes < value.length then writer.invalidate
  else (writer.writeU16 (UInt16.ofNat value.length)).put value

/-- `write_vector`: a count in front of the items; too many of them spoil the buffer. -/
def writeVector {α : Type} (writer : BufferWriter) (values : List α)
    (write : BufferWriter → α → BufferWriter) : BufferWriter :=
  if kMaxConfigItems.toNat < values.length then writer.invalidate
  else values.foldl write (writer.writeU16 (UInt16.ofNat values.length))

/-- `write_strings`. -/
def writeStrings (writer : BufferWriter) (values : List Text) : BufferWriter :=
  writer.writeVector values writeString

/-- A `double` of a value, which has to be finite. -/
def writeFinite (writer : BufferWriter) (bits : UInt64) : BufferWriter :=
  if !isFinite bits then writer.invalidate else writer.writeDouble bits

end BufferWriter

/-! `BufferReader` reads words, flags and texts as the reader of the core messages does. -/

/-- `read_bool`: a byte, 1 or 0. -/
def readBool : PayloadReader Bool := flag

/-- `read_double`: the word of its bits. -/
def readDouble : PayloadReader UInt64 := u64

/-- `read_string`. -/
def readString : PayloadReader Text := text

/-- `read_vector`. -/
def readVector {α : Type} (read : PayloadReader α) : PayloadReader (List α) := do
  let count ← checked u16 fun count => count ≤ kMaxConfigItems
  list read count.toNat

/-- `read_strings`. -/
def readStrings : PayloadReader (List Text) := readVector readString

/-- A `double` that is finite. -/
def readFinite : PayloadReader UInt64 := checked readDouble isFinite

/-- A part that is there when the condition holds, and has its default otherwise. -/
def readIf {α : Type} (present : Bool) (read : PayloadReader α) (absent : α) : PayloadReader α :=
  if present then read else pure absent

/-- `BufferReader::done`. -/
def done : PayloadReader Bool := fun input => some (input.isEmpty, input)

/-! ### Parts of messages -/

open BufferWriter

/-- `write_value`. -/
def writeValue (writer : BufferWriter) (value : ConfigValue) : BufferWriter :=
  let writer := writer.writeU8 value.type.toUInt8
  match value.type with
  | .bool => writer.writeBool value.boolValue
  | .int64 => writer.writeU64 value.int64Value.toUInt64
  | .double => writer.writeFinite value.doubleValue
  | .string => writer.writeString value.stringValue
  | .stringList => writer.writeStrings value.stringListValue
  | .doubleList => writer.writeVector value.doubleListValue writeFinite
  | .unset => writer

/-- `read_value`. -/
def readValue : PayloadReader ConfigValue := do
  let type ← checked u8 validValueType
  match ConfigValueType.ofUInt8 type with
  | .bool => do
      let boolValue ← readBool
      pure { type := .bool, boolValue }
  | .int64 => do
      let raw ← u64
      pure { type := .int64, int64Value := raw.toInt64 }
  | .double => do
      let doubleValue ← readFinite
      pure { type := .double, doubleValue }
  | .string => do
      let stringValue ← readString
      pure { type := .string, stringValue }
  | .stringList => do
      let stringListValue ← readStrings
      pure { type := .stringList, stringListValue }
  | .doubleList => do
      let doubleListValue ← readVector readFinite
      pure { type := .doubleList, doubleListValue }
  | .unset => pure { type := .unset }

/-- `write_descriptor`. -/
def writeDescriptor (writer : BufferWriter) (value : ConfigResourceDescriptor) : BufferWriter :=
  writer.writeString value.id
    |>.writeString value.title
    |>.writeString value.description
    |>.writeBool value.readable
    |>.writeBool value.writable
    |>.writeBool value.applySupported
    |>.writeBool value.variantsSupported

/-- `read_descriptor`. -/
def readDescriptor : PayloadReader ConfigResourceDescriptor := do
  let id ← readString
  let title ← readString
  let description ← readString
  let readable ← readBool
  let writable ← readBool
  let applySupported ← readBool
  let variantsSupported ← readBool
  pure { id, title, description, readable, writable, applySupported, variantsSupported }

/-- `write_choice`. -/
def writeChoice (writer : BufferWriter) (value : ConfigChoice) : BufferWriter :=
  (writeValue writer value.value).writeString value.label

/-- `read_choice`. -/
def readChoice : PayloadReader ConfigChoice := do
  let value ← readValue
  let label ← readString
  pure { value, label }

/-- `write_schema`. -/
def writeSchema (writer : BufferWriter) (value : ConfigFieldSchema) : BufferWriter :=
  let writer := writer.writeString value.path
    |>.writeString value.title
    |>.writeString value.description
    |>.writeU8 value.type.toUInt8
    |>.writeBool value.required
    |>.writeBool value.readOnly
    |>.writeBool value.sensitive
    |>.writeBool value.hasMinimum
    |>.writeDouble value.minimum
    |>.writeBool value.hasMaximum
    |>.writeDouble value.maximum
    |>.writeString value.validationPattern
    |>.writeVector value.choices writeChoice
    |>.writeString value.groupPath
    |>.writeU8 value.updatePolicy.toUInt8
    |>.writeString value.unit
    |>.writeBool value.hasDefaultValue
  let writer := if value.hasDefaultValue then writeValue writer value.defaultValue else writer
  writer.writeBool value.advanced

/-- `read_schema`. -/
def readSchema : PayloadReader ConfigFieldSchema := do
  let path ← readString
  let title ← readString
  let description ← readString
  let type ← checked u8 validSchemaValueType
  let required ← readBool
  let readOnly ← readBool
  let sensitive ← readBool
  let hasMinimum ← readBool
  let minimum ← readDouble
  let hasMaximum ← readBool
  let maximum ← readDouble
  let validationPattern ← readString
  let choices ← readVector readChoice
  let groupPath ← readString
  let updatePolicy ← u8
  let unit ← readString
  guard (isFinite minimum && isFinite maximum && validUpdatePolicy updatePolicy)
  let hasDefaultValue ← readBool
  let defaultValue ← readIf hasDefaultValue readValue {}
  let advanced ← readBool
  pure { path, title, description, type := .ofUInt8 type, required, readOnly, sensitive, hasMinimum
         minimum, hasMaximum, maximum, validationPattern, choices, groupPath
         updatePolicy := .ofUInt8 updatePolicy, unit, defaultValue, hasDefaultValue, advanced }

/-- `write_field_value`. -/
def writeFieldValue (writer : BufferWriter) (value : ConfigFieldValue) : BufferWriter :=
  writeValue (writer.writeString value.path) value.value

/-- `read_field_value`. -/
def readFieldValue : PayloadReader ConfigFieldValue := do
  let path ← readString
  let value ← readValue
  pure { path, value }

/-- `write_snapshot`. -/
def writeSnapshot (writer : BufferWriter) (value : ConfigSnapshot) : BufferWriter :=
  writer.writeString value.resourceId
    |>.writeString value.revision
    |>.writeString value.appliedRevision
    |>.writeString value.variantId
    |>.writeString value.activeVariantId
    |>.writeVector value.values writeFieldValue
    |>.writeStrings value.userOverriddenPaths

/-- `read_snapshot`. -/
def readSnapshot : PayloadReader ConfigSnapshot := do
  let resourceId ← readString
  let revision ← readString
  let appliedRevision ← readString
  let variantId ← readString
  let activeVariantId ← readString
  let values ← readVector readFieldValue
  let userOverriddenPaths ← readStrings
  pure { resourceId, revision, appliedRevision, variantId, activeVariantId, values
         userOverriddenPaths }

/-- `write_variant`. -/
def writeVariant (writer : BufferWriter) (value : ConfigVariantDescriptor) : BufferWriter :=
  writer.writeString value.id
    |>.writeString value.title
    |>.writeString value.revision
    |>.writeU64 value.modifiedAtNs
    |>.writeBool value.active
    |>.writeBool value.mutableVariant

/-- `read_variant`. -/
def readVariant : PayloadReader ConfigVariantDescriptor := do
  let id ← readString
  let title ← readString
  let revision ← readString
  let modifiedAtNs ← u64
  let active ← readBool
  let mutableVariant ← readBool
  pure { id, title, revision, modifiedAtNs, active, mutableVariant }

/-- `write_field_error`. -/
def writeFieldError (writer : BufferWriter) (value : ConfigFieldError) : BufferWriter :=
  writer.writeString value.path
    |>.writeString value.code
    |>.writeString value.message

/-- `read_field_error`. -/
def readFieldError : PayloadReader ConfigFieldError := do
  let path ← readString
  let code ← readString
  let message ← readString
  pure { path, code, message }

/-- `write_effects`. -/
def writeEffects (writer : BufferWriter) (value : ConfigEffects) : BufferWriter :=
  writer.writeU8 value.requirement.toUInt8
    |>.writeStrings value.affectedComponents
    |>.writeBool value.reconnectExpected

/-- `read_effects`. -/
def readEffects : PayloadReader ConfigEffects := do
  let requirement ← checked u8 validRequirement
  let affectedComponents ← readStrings
  let reconnectExpected ← readBool
  pure { requirement := .ofUInt8 requirement, affectedComponents, reconnectExpected }

/-- The status and the message that every answer begins with. -/
def writeStatus (writer : BufferWriter) (status : ConfigServiceStatus) (message : Text) :
    BufferWriter :=
  (writer.writeU8 status.toUInt8).writeString message

/-- `read_status`. -/
def readStatus : PayloadReader (ConfigServiceStatus × Text) := do
  let raw ← checked u8 validStatus
  let message ← readString
  pure (.ofUInt8 raw, message)

end YunLink
