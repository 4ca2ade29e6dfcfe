import YunLink.Messages.Resources

/-!
# Configuration messages

The twenty payloads of the configuration service (`service_types.hpp`) with their
writers and readers (`configuration_service/codec.cpp`).  Two of them have an optional
part: the locale of a describe request, which is there if the payload goes on, and the
candidate of a patch response, which a flag announces.

## Main definitions

* `ConfigMessage` — the kinds of message, each with its `Value`, `write` and `read`.
* `ConfigMessage.encodePayload`, `ConfigMessage.decodePayload` — the overloads.
-/

namespace YunLink

open PayloadReader BufferWriter

/-! ### Messages

Each message is followed by the body of its `encode_payload` (`write`) and the body of its
`decode_payload` (`read`). -/

/-- Asks for the resources of an endpoint. -/
structure ConfigResourceListRequest where
  reserved : UInt8 := 0
  deriving DecidableEq, Repr, Inhabited

namespace ConfigResourceListRequest

/-- `encode_payload`, for a request for the resources. -/
def write (writer : BufferWriter) (payload : ConfigResourceListRequest) : BufferWriter :=
  writer.writeU8 payload.reserved

/-- `decode_payload`, for a request for the resources. -/
def read : PayloadReader ConfigResourceListRequest := do
  let reserved ← u8
  pure { reserved }

end ConfigResourceListRequest

/-- The resources of an endpoint. -/
structure ConfigResourceListResponse where
  status : ConfigServiceStatus := .internalError
  message : Text := []
  resources : List ConfigResourceDescriptor := []
  deriving DecidableEq, Repr, Inhabited

namespace ConfigResourceListResponse

/-- `encode_payload`, for a list of resources. -/
def write (writer : BufferWriter) (payload : ConfigResourceListResponse) : BufferWriter :=
  (writeStatus writer payload.status payload.message)
    |>.writeVector payload.resources writeDescriptor

/-- `decode_payload`, for a list of resources. -/
def read : PayloadReader ConfigResourceListResponse := do
  let (status, message) ← readStatus
  let resources ← readVector readDescriptor
  pure { status, message, resources }

end ConfigResourceListResponse

/-- Asks for the schema of a resource, in a language. -/
structure ConfigResourceDescribeRequest where
  resourceId : Text := []
  locale : Text := []
  deriving DecidableEq, Repr, Inhabited

namespace ConfigResourceDescribeRequest

/-- The default locale is left out, as in the shape older peers know. -/
def write (writer : BufferWriter) (payload : ConfigResourceDescribeRequest) : BufferWriter :=
  let writer := writer.writeString payload.resourceId
  if !payload.locale.isEmpty then writer.writeString payload.locale else writer

/-- `decode_payload`, for a request for a schema. -/
def read : PayloadReader ConfigResourceDescribeRequest := do
  let resourceId ← readString
  let finished ← done
  let locale ← readIf (!finished) readString []
  pure { resourceId, locale }

end ConfigResourceDescribeRequest

/-- A resource with the schema of its fields. -/
structure ConfigResourceDescribeResponse where
  status : ConfigServiceStatus := .internalError
  message : Text := []
  resource : ConfigResourceDescriptor := {}
  fields : List ConfigFieldSchema := []
  deriving DecidableEq, Repr, Inhabited

namespace ConfigResourceDescribeResponse

/-- `encode_payload`, for a schema. -/
def write (writer : BufferWriter) (payload : ConfigResourceDescribeResponse) : BufferWriter :=
  (writeDescriptor (writeStatus writer payload.status payload.message) payload.resource)
    |>.writeVector payload.fields writeSchema

/-- `decode_payload`, for a schema. -/
def read : PayloadReader ConfigResourceDescribeResponse := do
  let (status, message) ← readStatus
  let resource ← readDescriptor
  let fields ← readVector readSchema
  pure { status, message, resource, fields }

end ConfigResourceDescribeResponse

/-- Asks for the values of a resource, or of a variant of it. -/
structure ConfigResourceGetRequest where
  resourceId : Text := []
  variantId : Text := []
  deriving DecidableEq, Repr, Inhabited

namespace ConfigResourceGetRequest

/-- `encode_payload`, for a request for values. -/
def write (writer : BufferWriter) (payload : ConfigResourceGetRequest) : BufferWriter :=
  writer.writeString payload.resourceId
    |>.writeString payload.variantId

/-- `decode_payload`, for a request for values. -/
def read : PayloadReader ConfigResourceGetRequest := do
  let resourceId ← readString
  let variantId ← readString
  pure { resourceId, variantId }

end ConfigResourceGetRequest

/-- The values that were asked for. -/
structure ConfigResourceGetResponse where
  status : ConfigServiceStatus := .internalError
  message : Text := []
  snapshot : ConfigSnapshot := {}
  deriving DecidableEq, Repr, Inhabited

namespace ConfigResourceGetResponse

/-- `encode_payload`, for the values of a resource. -/
def write (writer : BufferWriter) (payload : ConfigResourceGetResponse) : BufferWriter :=
  writeSnapshot (writeStatus writer payload.status payload.message) payload.snapshot

/-- `decode_payload`, for the values of a resource. -/
def read : PayloadReader ConfigResourceGetResponse := do
  let (status, message) ← readStatus
  let snapshot ← readSnapshot
  pure { status, message, snapshot }

end ConfigResourceGetResponse

/-- Changes values, if the resource is still at a revision. -/
structure ConfigResourcePatchRequest where
  resourceId : Text := []
  variantId : Text := []
  expectedRevision : Text := []
  updates : List ConfigFieldValue := []
  validateOnly : Bool := false
  deriving DecidableEq, Repr, Inhabited

namespace ConfigResourcePatchRequest

/-- `encode_payload`, for a request for a change. -/
def write (writer : BufferWriter) (payload : ConfigResourcePatchRequest) : BufferWriter :=
  writer.writeString payload.resourceId
    |>.writeString payload.variantId
    |>.writeString payload.expectedRevision
    |>.writeVector payload.updates writeFieldValue
    |>.writeBool payload.validateOnly

/-- `decode_payload`, for a request for a change. -/
def read : PayloadReader ConfigResourcePatchRequest := do
  let resourceId ← readString
  let variantId ← readString
  let expectedRevision ← readString
  let updates ← readVector readFieldValue
  let validateOnly ← readBool
  pure { resourceId, variantId, expectedRevision, updates, validateOnly }

end ConfigResourcePatchRequest

/-- What a change did, or what is wrong with it. -/
structure ConfigResourcePatchResponse where
  status : ConfigServiceStatus := .internalError
  message : Text := []
  snapshot : ConfigSnapshot := {}
  errors : List ConfigFieldError := []
  effects : ConfigEffects := {}
  hasCandidateSnapshot : Bool := false
  candidateSnapshot : ConfigSnapshot := {}
  deriving DecidableEq, Repr, Inhabited

namespace ConfigResourcePatchResponse

/-- `encode_payload`, for the answer to a change. -/
def write (writer : BufferWriter) (payload : ConfigResourcePatchResponse) : BufferWriter :=
  let writer := writeSnapshot (writeStatus writer payload.status payload.message) payload.snapshot
    |>.writeBool payload.hasCandidateSnapshot
  let writer :=
    if payload.hasCandidateSnapshot then writeSnapshot writer payload.candidateSnapshot else writer
  writeEffects (writer.writeVector payload.errors writeFieldError) payload.effects

/-- `decode_payload`, for the answer to a change. -/
def read : PayloadReader ConfigResourcePatchResponse := do
  let (status, message) ← readStatus
  let snapshot ← readSnapshot
  let hasCandidateSnapshot ← readBool
  let candidateSnapshot ← readIf hasCandidateSnapshot readSnapshot {}
  let errors ← readVector readFieldError
  let effects ← readEffects
  pure { status, message, snapshot, errors, effects, hasCandidateSnapshot, candidateSnapshot }

end ConfigResourcePatchResponse

/-- Asks for a revision to be applied. -/
structure ConfigResourceApplyRequest where
  resourceId : Text := []
  expectedRevision : Text := []
  deriving DecidableEq, Repr, Inhabited

namespace ConfigResourceApplyRequest

/-- `encode_payload`, for a request to apply a revision. -/
def write (writer : BufferWriter) (payload : ConfigResourceApplyRequest) : BufferWriter :=
  writer.writeString payload.resourceId
    |>.writeString payload.expectedRevision

/-- `decode_payload`, for a request to apply a revision. -/
def read : PayloadReader ConfigResourceApplyRequest := do
  let resourceId ← readString
  let expectedRevision ← readString
  pure { resourceId, expectedRevision }

end ConfigResourceApplyRequest

/-- How applying a revision went. -/
structure ConfigResourceApplyResponse where
  status : ConfigServiceStatus := .internalError
  message : Text := []
  appliedRevision : Text := []
  outcome : ConfigApplyOutcome := .failed
  effects : ConfigEffects := {}
  deriving DecidableEq, Repr, Inhabited

namespace ConfigResourceApplyResponse

/-- `encode_payload`, for the answer to an apply. -/
def write (writer : BufferWriter) (payload : ConfigResourceApplyResponse) : BufferWriter :=
  let writer := (writeStatus writer payload.status payload.message)
    |>.writeString payload.appliedRevision
    |>.writeU8 payload.outcome.toUInt8
  writeEffects writer payload.effects

/-- `decode_payload`, for the answer to an apply. -/
def read : PayloadReader ConfigResourceApplyResponse := do
  let (status, message) ← readStatus
  let appliedRevision ← readString
  let outcome ← checked u8 validOutcome
  let effects ← readEffects
  pure { status, message, appliedRevision, outcome := .ofUInt8 outcome, effects }

end ConfigResourceApplyResponse

/-- Asks for the variants of a resource. -/
structure ConfigResourceVariantListRequest where
  resourceId : Text := []
  deriving DecidableEq, Repr, Inhabited

namespace ConfigResourceVariantListRequest

/-- `encode_payload`, for a request for the variants. -/
def write (writer : BufferWriter) (payload : ConfigResourceVariantListRequest) : BufferWriter :=
  writer.writeString payload.resourceId

/-- `decode_payload`, for a request for the variants. -/
def read : PayloadReader ConfigResourceVariantListRequest := do
  let resourceId ← readString
  pure { resourceId }

end ConfigResourceVariantListRequest

/-- The variants of a resource, and which one is active. -/
structure ConfigResourceVariantListResponse where
  status : ConfigServiceStatus := .internalError
  message : Text := []
  activeVariantId : Text := []
  variants : List ConfigVariantDescriptor := []
  deriving DecidableEq, Repr, Inhabited

namespace ConfigResourceVariantListResponse

/-- `encode_payload`, for a list of variants. -/
def write (writer : BufferWriter) (payload : ConfigResourceVariantListResponse) : BufferWriter :=
  (writeStatus writer payload.status payload.message)
    |>.writeString payload.activeVariantId
    |>.writeVector payload.variants writeVariant

/-- `decode_payload`, for a list of variants. -/
def read : PayloadReader ConfigResourceVariantListResponse := do
  let (status, message) ← readStatus
  let activeVariantId ← readString
  let variants ← readVector readVariant
  pure { status, message, activeVariantId, variants }

end ConfigResourceVariantListResponse

/-- Makes a variant from the default or the active values. -/
structure ConfigResourceVariantCreateRequest where
  resourceId : Text := []
  variantId : Text := []
  source : ConfigVariantSource := .active
  expectedActiveRevision : Text := []
  deriving DecidableEq, Repr, Inhabited

namespace ConfigResourceVariantCreateRequest

/-- `encode_payload`, for a request for a variant. -/
def write (writer : BufferWriter) (payload : ConfigResourceVariantCreateRequest) : BufferWriter :=
  writer.writeString payload.resourceId
    |>.writeString payload.variantId
    |>.writeU8 payload.source.toUInt8
    |>.writeString payload.expectedActiveRevision

/-- `decode_payload`, for a request for a variant. -/
def read : PayloadReader ConfigResourceVariantCreateRequest := do
  let resourceId ← readString
  let variantId ← readString
  let source ← checked u8 validVariantSource
  let expectedActiveRevision ← readString
  pure { resourceId, variantId, source := .ofUInt8 source, expectedActiveRevision }

end ConfigResourceVariantCreateRequest

/-- The variant that was made. -/
structure ConfigResourceVariantCreateResponse where
  status : ConfigServiceStatus := .internalError
  message : Text := []
  variant : ConfigVariantDescriptor := {}
  effects : ConfigEffects := {}
  deriving DecidableEq, Repr, Inhabited

namespace ConfigResourceVariantCreateResponse

/-- `encode_payload`, for the answer to a creation. -/
def write (writer : BufferWriter) (payload : ConfigResourceVariantCreateResponse) :
    BufferWriter :=
  let writer := writeStatus writer payload.status payload.message
  writeEffects (writeVariant writer payload.variant) payload.effects

/-- `decode_payload`, for the answer to a creation. -/
def read : PayloadReader ConfigResourceVariantCreateResponse := do
  let (status, message) ← readStatus
  let variant ← readVariant
  let effects ← readEffects
  pure { status, message, variant, effects }

end ConfigResourceVariantCreateResponse

/-- Saves the active values in a variant, if both are still at their revisions. -/
structure ConfigResourceVariantSaveCurrentRequest where
  resourceId : Text := []
  variantId : Text := []
  expectedVariantRevision : Text := []
  expectedActiveRevision : Text := []
  deriving DecidableEq, Repr, Inhabited

namespace ConfigResourceVariantSaveCurrentRequest

/-- `encode_payload`, for a request to save. -/
def write (writer : BufferWriter) (payload : ConfigResourceVariantSaveCurrentRequest) :
    BufferWriter :=
  writer.writeString payload.resourceId
    |>.writeString payload.variantId
    |>.writeString payload.expectedVariantRevision
    |>.writeString payload.expectedActiveRevision

/-- `decode_payload`, for a request to save. -/
def read : PayloadReader ConfigResourceVariantSaveCurrentRequest := do
  let resourceId ← readString
  let variantId ← readString
  let expectedVariantRevision ← readString
  let expectedActiveRevision ← readString
  pure { resourceId, variantId, expectedVariantRevision, expectedActiveRevision }

end ConfigResourceVariantSaveCurrentRequest

/-- The variant that was saved. -/
structure ConfigResourceVariantSaveCurrentResponse where
  status : ConfigServiceStatus := .internalError
  message : Text := []
  variant : ConfigVariantDescriptor := {}
  effects : ConfigEffects := {}
  deriving DecidableEq, Repr, Inhabited

namespace ConfigResourceVariantSaveCurrentResponse

/-- `encode_payload`, for the answer to a save. -/
def write (writer : BufferWriter) (payload : ConfigResourceVariantSaveCurrentResponse) :
    BufferWriter :=
  let writer := writeStatus writer payload.status payload.message
  writeEffects (writeVariant writer payload.variant) payload.effects

/-- `decode_payload`, for the answer to a save. -/
def read : PayloadReader ConfigResourceVariantSaveCurrentResponse := do
  let (status, message) ← readStatus
  let variant ← readVariant
  let effects ← readEffects
  pure { status, message, variant, effects }

end ConfigResourceVariantSaveCurrentResponse

/-- Makes a variant the active one. -/
structure ConfigResourceVariantActivateRequest where
  resourceId : Text := []
  variantId : Text := []
  expectedActiveRevision : Text := []
  deriving DecidableEq, Repr, Inhabited

namespace ConfigResourceVariantActivateRequest

/-- `encode_payload`, for a request to activate. -/
def write (writer : BufferWriter) (payload : ConfigResourceVariantActivateRequest) :
    BufferWriter :=
  writer.writeString payload.resourceId
    |>.writeString payload.variantId
    |>.writeString payload.expectedActiveRevision

/-- `decode_payload`, for a request to activate. -/
def read : PayloadReader ConfigResourceVariantActivateRequest := do
  let resourceId ← readString
  let variantId ← readString
  let expectedActiveRevision ← readString
  pure { resourceId, variantId, expectedActiveRevision }

end ConfigResourceVariantActivateRequest

/-- How activating a variant went. -/
structure ConfigResourceVariantActivateResponse where
  status : ConfigServiceStatus := .internalError
  message : Text := []
  appliedRevision : Text := []
  outcome : ConfigApplyOutcome := .failed
  effects : ConfigEffects := {}
  deriving DecidableEq, Repr, Inhabited

namespace ConfigResourceVariantActivateResponse

/-- `encode_payload`, for the answer to an activation. -/
def write (writer : BufferWriter) (payload : ConfigResourceVariantActivateResponse) :
    BufferWriter :=
  let writer := (writeStatus writer payload.status payload.message)
    |>.writeString payload.appliedRevision
    |>.writeU8 payload.outcome.toUInt8
  writeEffects writer payload.effects

/-- `decode_payload`, for the answer to an activation. -/
def read : PayloadReader ConfigResourceVariantActivateResponse := do
  let (status, message) ← readStatus
  let appliedRevision ← readString
  let outcome ← checked u8 validOutcome
  let effects ← readEffects
  pure { status, message, appliedRevision, outcome := .ofUInt8 outcome, effects }

end ConfigResourceVariantActivateResponse

/-- Deletes a variant that is still at a revision. -/
structure ConfigResourceVariantDeleteRequest where
  resourceId : Text := []
  variantId : Text := []
  expectedRevision : Text := []
  deriving DecidableEq, Repr, Inhabited

namespace ConfigResourceVariantDeleteRequest

/-- `encode_payload`, for a request to delete. -/
def write (writer : BufferWriter) (payload : ConfigResourceVariantDeleteRequest) : BufferWriter :=
  writer.writeString payload.resourceId
    |>.writeString payload.variantId
    |>.writeString payload.expectedRevision

/-- `decode_payload`, for a request to delete. -/
def read : PayloadReader ConfigResourceVariantDeleteRequest := do
  let resourceId ← readString
  let variantId ← readString
  let expectedRevision ← readString
  pure { resourceId, variantId, expectedRevision }

end ConfigResourceVariantDeleteRequest

/-- How deleting a variant went. -/
structure ConfigResourceVariantDeleteResponse where
  status : ConfigServiceStatus := .internalError
  message : Text := []
  deriving DecidableEq, Repr, Inhabited

namespace ConfigResourceVariantDeleteResponse

/-- `encode_payload`, for the answer to a deletion. -/
def write (writer : BufferWriter) (payload : ConfigResourceVariantDeleteResponse) :
    BufferWriter :=
  writeStatus writer payload.status payload.message

/-- `decode_payload`, for the answer to a deletion. -/
def read : PayloadReader ConfigResourceVariantDeleteResponse := do
  let (status, message) ← readStatus
  pure { status, message }

end ConfigResourceVariantDeleteResponse

/-! ### The overloads -/

/-- The kinds of configuration message. -/
inductive ConfigMessage
  | listRequest
  | listResponse
  | describeRequest
  | describeResponse
  | getRequest
  | getResponse
  | patchRequest
  | patchResponse
  | applyRequest
  | applyResponse
  | variantListRequest
  | variantListResponse
  | variantCreateRequest
  | variantCreateResponse
  | variantSaveCurrentRequest
  | variantSaveCurrentResponse
  | variantActivateRequest
  | variantActivateResponse
  | variantDeleteRequest
  | variantDeleteResponse
  deriving DecidableEq, Repr, Inhabited

namespace ConfigMessage

/-- The payloads of a kind. -/
def Value : ConfigMessage → Type
  | listRequest => ConfigResourceListRequest
  | listResponse => ConfigResourceListResponse
  | describeRequest => ConfigResourceDescribeRequest
  | describeResponse => ConfigResourceDescribeResponse
  | getRequest => ConfigResourceGetRequest
  | getResponse => ConfigResourceGetResponse
  | patchRequest => ConfigResourcePatchRequest
  | patchResponse => ConfigResourcePatchResponse
  | applyRequest => ConfigResourceApplyRequest
  | applyResponse => ConfigResourceApplyResponse
  | variantListRequest => ConfigResourceVariantListRequest
  | variantListResponse => ConfigResourceVariantListResponse
  | variantCreateRequest => ConfigResourceVariantCreateRequest
  | variantCreateResponse => ConfigResourceVariantCreateResponse
  | variantSaveCurrentRequest => ConfigResourceVariantSaveCurrentRequest
  | variantSaveCurrentResponse => ConfigResourceVariantSaveCurrentResponse
  | variantActivateRequest => ConfigResourceVariantActivateRequest
  | variantActivateResponse => ConfigResourceVariantActivateResponse
  | variantDeleteRequest => ConfigResourceVariantDeleteRequest
  | variantDeleteResponse => ConfigResourceVariantDeleteResponse

/-- What the overload of `encode_payload` for the kind writes. -/
def write : (kind : ConfigMessage) → BufferWriter → kind.Value → BufferWriter
  | listRequest => ConfigResourceListRequest.write
  | listResponse => ConfigResourceListResponse.write
  | describeRequest => ConfigResourceDescribeRequest.write
  | describeResponse => ConfigResourceDescribeResponse.write
  | getRequest => ConfigResourceGetRequest.write
  | getResponse => ConfigResourceGetResponse.write
  | patchRequest => ConfigResourcePatchRequest.write
  | patchResponse => ConfigResourcePatchResponse.write
  | applyRequest => ConfigResourceApplyRequest.write
  | applyResponse => ConfigResourceApplyResponse.write
  | variantListRequest => ConfigResourceVariantListRequest.write
  | variantListResponse => ConfigResourceVariantListResponse.write
  | variantCreateRequest => ConfigResourceVariantCreateRequest.write
  | variantCreateResponse => ConfigResourceVariantCreateResponse.write
  | variantSaveCurrentRequest => ConfigResourceVariantSaveCurrentRequest.write
  | variantSaveCurrentResponse => ConfigResourceVariantSaveCurrentResponse.write
  | variantActivateRequest => ConfigResourceVariantActivateRequest.write
  | variantActivateResponse => ConfigResourceVariantActivateResponse.write
  | variantDeleteRequest => ConfigResourceVariantDeleteRequest.write
  | variantDeleteResponse => ConfigResourceVariantDeleteResponse.write

/-- What the overload of `decode_payload` for the kind reads. -/
def read : (kind : ConfigMessage) → PayloadReader kind.Value
  | listRequest => ConfigResourceListRequest.read
  | listResponse => ConfigResourceListResponse.read
  | describeRequest => ConfigResourceDescribeRequest.read
  | describeResponse => ConfigResourceDescribeResponse.read
  | getRequest => ConfigResourceGetRequest.read
  | getResponse => ConfigResourceGetResponse.read
  | patchRequest => ConfigResourcePatchRequest.read
  | patchResponse => ConfigResourcePatchResponse.read
  | applyRequest => ConfigResourceApplyRequest.read
  | applyResponse => ConfigResourceApplyResponse.read
  | variantListRequest => ConfigResourceVariantListRequest.read
  | variantListResponse => ConfigResourceVariantListResponse.read
  | variantCreateRequest => ConfigResourceVariantCreateRequest.read
  | variantCreateResponse => ConfigResourceVariantCreateResponse.read
  | variantSaveCurrentRequest => ConfigResourceVariantSaveCurrentRequest.read
  | variantSaveCurrentResponse => ConfigResourceVariantSaveCurrentResponse.read
  | variantActivateRequest => ConfigResourceVariantActivateRequest.read
  | variantActivateResponse => ConfigResourceVariantActivateResponse.read
  | variantDeleteRequest => ConfigResourceVariantDeleteRequest.read
  | variantDeleteResponse => ConfigResourceVariantDeleteResponse.read

/-- `encode_payload`; the empty byte string reports a value that cannot be written. -/
def encodePayload (kind : ConfigMessage) (payload : kind.Value) : Bytes :=
  (kind.write {} payload).take

/-- `decode_payload`; what is read must be the whole payload. -/
def decodePayload (kind : ConfigMessage) (bytes : Bytes) : Option kind.Value :=
  decodeAll kind.read bytes

end ConfigMessage

end YunLink
