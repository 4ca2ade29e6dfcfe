import YunLink.Messages.Fields

/-!
# Core messages

The fourteen payloads of `core_messages_v2.hpp` with the writers and readers of
`core_messages_v2.cpp`.  A `float` is the word of its bits.

The readers take the reader of a string map as a parameter.  The source has one,
`PayloadReader.stringMap`; with `PayloadReader.ascendingMap` in its place a reader goes
through on those payloads that list every one of their maps in ascending order.

## Main definitions

* `CoreMessage` — the kinds of message, each with its `Value`, `write`, `read` and what
  its decoder asks of a value, `Valid`.
* `CoreMessage.encode`, `CoreMessage.decode` — the overloads of the source.
* `CoreMessage.MapsAscending` — every string map in a payload is in ascending order.
-/

namespace YunLink

open PayloadReader

/-! ### Enumerations -/

/-- Whether an entity can be reached. -/
inductive Availability
  | unknown
  | online
  | degraded
  | offline
  deriving DecidableEq, Repr, Inhabited

namespace Availability

/-- The value of the enumerator. -/
def toUInt8 : Availability → UInt8
  | unknown => 0
  | online => 1
  | degraded => 2
  | offline => 3

/-- The enumerator of a value that the decoder has checked. -/
def ofUInt8 (value : UInt8) : Availability :=
  if value = 0 then unknown
  else if value = 1 then online
  else if value = 2 then degraded
  else offline

end Availability

/-- How far an action has come. -/
inductive ActionPhase
  | received
  | accepted
  | running
  | succeeded
  | failed
  | cancelled
  | expired
  deriving DecidableEq, Repr, Inhabited

namespace ActionPhase

/-- The value of the enumerator. -/
def toUInt8 : ActionPhase → UInt8
  | received => 1
  | accepted => 2
  | running => 3
  | succeeded => 4
  | failed => 5
  | cancelled => 6
  | expired => 7

/-- The enumerator of a value that the decoder has checked. -/
def ofUInt8 (value : UInt8) : ActionPhase :=
  if value = 1 then received
  else if value = 2 then accepted
  else if value = 3 then running
  else if value = 4 then succeeded
  else if value = 5 then failed
  else if value = 6 then cancelled
  else expired

end ActionPhase

/-! ### Messages

Each message is followed by the body of its `encode` (`write`), the body of its `decode`
(`read`) and the conditions the latter checks (`Valid`). -/

section messages

variable (stringMap : PayloadReader (SortedMap Text Text))

/-- `write_type`. -/
def TypeRef.write (writer : Writer) (type : TypeRef) : Writer :=
  (((writer.text type.profileId).u16 type.major).u16 type.minor).text type.typeName

/-- `read_type`. -/
def TypeRef.read : PayloadReader TypeRef :=
  checked (do
    let profileId ← text
    let major ← u16
    let minor ← u16
    let typeName ← text
    pure { profileId, major, minor, typeName }) validTypeRef

/-- An entity, as an endpoint presents it. -/
structure EntityDescriptor where
  entityUid : Text := []
  kind : Text := []
  displayName : Text := []
  hardwareId : Text := []
  attributes : SortedMap Text Text := .empty
  capabilities : List Text := []
  availability : Availability := .unknown
  deriving DecidableEq, Inhabited

namespace EntityDescriptor

/-- `write_entity`. -/
def write (writer : Writer) (entity : EntityDescriptor) : Writer :=
  writer.text entity.entityUid
    |>.text entity.kind
    |>.text entity.displayName
    |>.text entity.hardwareId
    |>.map entity.attributes
    |>.list entity.capabilities Writer.text
    |>.u8 entity.availability.toUInt8

/-- `read_entity`. -/
def read : PayloadReader EntityDescriptor := do
  let entityUid ← uid
  let kind ← text
  let displayName ← text
  let hardwareId ← text
  let attributes ← stringMap
  let capabilities ← listOf text
  let availability ← checked u8 fun value => value ≤ Availability.offline.toUInt8
  pure { entityUid, kind, displayName, hardwareId, attributes, capabilities
         availability := .ofUInt8 availability }

/-- An entity is named by a UID. -/
def Valid (entity : EntityDescriptor) : Prop := validUid entity.entityUid = true

end EntityDescriptor

/-- The entities of an endpoint at one revision. -/
structure EntityDirectory where
  endpointUid : Text := []
  revision : Text := []
  entities : List EntityDescriptor := []
  deriving DecidableEq, Inhabited

namespace EntityDirectory

/-- `encode`, for a directory. -/
def write (writer : Writer) (value : EntityDirectory) : Writer :=
  writer.text value.endpointUid
    |>.text value.revision
    |>.list value.entities EntityDescriptor.write

/-- `decode`, for a directory. -/
def read : PayloadReader EntityDirectory := do
  let endpointUid ← uid
  let revision ← text
  let entities ← listOf (EntityDescriptor.read stringMap)
  pure { endpointUid, revision, entities }

/-- Its endpoint and its entities are named by UIDs. -/
def Valid (value : EntityDirectory) : Prop :=
  validUid value.endpointUid = true ∧ ∀ entity ∈ value.entities, entity.Valid

end EntityDirectory

/-- A request to attach to entities of a directory that is still at a revision. -/
structure AttachmentRequest where
  expectedRevision : Text := []
  entityUids : List Text := []
  deriving DecidableEq, Repr, Inhabited

namespace AttachmentRequest

/-- `encode`, for a request to attach. -/
def write (writer : Writer) (value : AttachmentRequest) : Writer :=
  writer.text value.expectedRevision
    |>.list value.entityUids Writer.text

/-- `decode`, for a request to attach. -/
def read : PayloadReader AttachmentRequest := do
  let expectedRevision ← text
  let entityUids ← listOf uid
  pure { expectedRevision, entityUids }

/-- The entities are named by UIDs. -/
def Valid (value : AttachmentRequest) : Prop := ∀ uid ∈ value.entityUids, validUid uid = true

end AttachmentRequest

/-- Which entities were attached, or why none were. -/
structure AttachmentResponse where
  success : Bool := false
  revision : Text := []
  attachedEntityUids : List Text := []
  message : Text := []
  deriving DecidableEq, Repr, Inhabited

namespace AttachmentResponse

/-- `encode`, for the answer to it. -/
def write (writer : Writer) (value : AttachmentResponse) : Writer :=
  writer.flag value.success
    |>.text value.revision
    |>.list value.attachedEntityUids Writer.text
    |>.text value.message

/-- `decode`, for the answer to it. -/
def read : PayloadReader AttachmentResponse := do
  let success ← flag
  let revision ← text
  let attachedEntityUids ← listOf uid
  let message ← text
  pure { success, revision, attachedEntityUids, message }

/-- The attached entities are named by UIDs. -/
def Valid (value : AttachmentResponse) : Prop :=
  ∀ uid ∈ value.attachedEntityUids, validUid uid = true

end AttachmentResponse

namespace AuthorityRequest

/-- `encode`, for a request for a lease. -/
def write (writer : Writer) (value : AuthorityRequest) : Writer :=
  writer.text value.authorityScope
    |>.u32 value.leaseTtlMs
    |>.flag value.allowPreempt

/-- `decode`, for a request for a lease. -/
def read : PayloadReader AuthorityRequest := do
  let authorityScope ← text
  let leaseTtlMs ← u32
  let allowPreempt ← flag
  pure { authorityScope, leaseTtlMs, allowPreempt }

end AuthorityRequest

namespace AuthorityStatus

/-- `encode`, for the state of a lease. -/
def write (writer : Writer) (value : AuthorityStatus) : Writer :=
  writer.text value.authorityScope
    |>.text value.state
    |>.u32 value.leaseTtlMs
    |>.u16 value.reasonCode
    |>.text value.detail

/-- `decode`, for the state of a lease. -/
def read : PayloadReader AuthorityStatus := do
  let authorityScope ← text
  let state ← text
  let leaseTtlMs ← u32
  let reasonCode ← u16
  let detail ← text
  pure { authorityScope, state, leaseTtlMs, reasonCode, detail }

end AuthorityStatus

/-- A stream of a catalog. -/
structure StreamDescriptor where
  streamUid : Text := []
  type : TypeRef := {}
  encoding : Text := []
  metadata : SortedMap Text Text := .empty
  deriving DecidableEq, Inhabited

namespace StreamDescriptor

/-- One pass of the loop of `encode` over a catalog. -/
def write (writer : Writer) (stream : StreamDescriptor) : Writer :=
  (TypeRef.write (writer.text stream.streamUid) stream.type)
    |>.text stream.encoding
    |>.map stream.metadata

/-- One pass of the loop of `decode` over a catalog. -/
def read : PayloadReader StreamDescriptor := do
  let streamUid ← uid
  let type ← TypeRef.read
  let encoding ← text
  let metadata ← stringMap
  pure { streamUid, type, encoding, metadata }

/-- The stream is named by a UID, and its type is complete. -/
def Valid (stream : StreamDescriptor) : Prop :=
  validUid stream.streamUid = true ∧ validTypeRef stream.type = true

end StreamDescriptor

/-- The streams on offer at one revision. -/
structure StreamCatalog where
  revision : Text := []
  streams : List StreamDescriptor := []
  deriving DecidableEq, Inhabited

namespace StreamCatalog

/-- `encode`, for a catalog. -/
def write (writer : Writer) (value : StreamCatalog) : Writer :=
  writer.text value.revision
    |>.list value.streams StreamDescriptor.write

/-- `decode`, for a catalog. -/
def read : PayloadReader StreamCatalog := do
  let revision ← text
  let streams ← listOf (StreamDescriptor.read stringMap)
  pure { revision, streams }

/-- Its streams are valid. -/
def Valid (value : StreamCatalog) : Prop := ∀ stream ∈ value.streams, stream.Valid

end StreamCatalog

/-- A request for a stream, with the rate and the size that are wanted. -/
structure StreamSubscription where
  streamUid : Text := []
  /-- The bits of a `float`. -/
  maxRateHz : UInt32 := 0
  maxPayloadBytes : UInt32 := 0
  deriving DecidableEq, Repr, Inhabited

namespace StreamSubscription

/-- `encode`, for a subscription. -/
def write (writer : Writer) (value : StreamSubscription) : Writer :=
  writer.text value.streamUid
    |>.f32 value.maxRateHz
    |>.u32 value.maxPayloadBytes

/-- `decode`, for a subscription. -/
def read : PayloadReader StreamSubscription := do
  let streamUid ← uid
  let maxRateHz ← f32
  let maxPayloadBytes ← u32
  pure { streamUid, maxRateHz, maxPayloadBytes }

/-- The stream is named by a UID. -/
def Valid (value : StreamSubscription) : Prop := validUid value.streamUid = true

end StreamSubscription

/-- What became of a subscription, with the rate and the size that are granted. -/
structure StreamSubscriptionStatus where
  success : Bool := false
  subscribed : Bool := false
  streamUid : Text := []
  /-- The bits of a `float`. -/
  maxRateHz : UInt32 := 0
  maxPayloadBytes : UInt32 := 0
  message : Text := []
  deriving DecidableEq, Repr, Inhabited

namespace StreamSubscriptionStatus

/-- `encode`, for the state of a subscription. -/
def write (writer : Writer) (value : StreamSubscriptionStatus) : Writer :=
  writer.flag value.success
    |>.flag value.subscribed
    |>.text value.streamUid
    |>.f32 value.maxRateHz
    |>.u32 value.maxPayloadBytes
    |>.text value.message

/-- `decode`, for the state of a subscription. -/
def read : PayloadReader StreamSubscriptionStatus := do
  let success ← flag
  let subscribed ← flag
  let streamUid ← uid
  let maxRateHz ← f32
  let maxPayloadBytes ← u32
  let message ← text
  pure { success, subscribed, streamUid, maxRateHz, maxPayloadBytes, message }

/-- The stream is named by a UID. -/
def Valid (value : StreamSubscriptionStatus) : Prop := validUid value.streamUid = true

end StreamSubscriptionStatus

/-- A sample of a stream. -/
structure StreamSample where
  streamUid : Text := []
  encoding : Text := []
  metadata : SortedMap Text Text := .empty
  sourceTimestampNs : UInt64 := 0
  sequence : UInt64 := 0
  data : Bytes := []
  deriving DecidableEq, Inhabited

namespace StreamSample

/-- `encode`, for a sample. -/
def write (writer : Writer) (value : StreamSample) : Writer :=
  writer.text value.streamUid
    |>.text value.encoding
    |>.map value.metadata
    |>.u64 value.sourceTimestampNs
    |>.u64 value.sequence
    |>.bytes value.data

/-- `decode`, for a sample. -/
def read : PayloadReader StreamSample := do
  let streamUid ← uid
  let encoding ← text
  let metadata ← stringMap
  let sourceTimestampNs ← u64
  let sequence ← u64
  let data ← bytes
  pure { streamUid, encoding, metadata, sourceTimestampNs, sequence, data }

/-- The stream is named by a UID. -/
def Valid (value : StreamSample) : Prop := validUid value.streamUid = true

end StreamSample

/-- The progress of an action. -/
structure ActionUpdate where
  phase : ActionPhase := .received
  resultCode : UInt16 := 0
  progressPercent : UInt8 := 0
  detail : Text := []
  deriving DecidableEq, Repr, Inhabited

namespace ActionUpdate

/-- `encode`, for the progress of an action. -/
def write (writer : Writer) (value : ActionUpdate) : Writer :=
  writer.u8 value.phase.toUInt8
    |>.u16 value.resultCode
    |>.u8 value.progressPercent
    |>.text value.detail

/-- `decode`, for the progress of an action. -/
def read : PayloadReader ActionUpdate := do
  let phase ← checked u8 fun value =>
    ActionPhase.received.toUInt8 ≤ value && value ≤ ActionPhase.expired.toUInt8
  let resultCode ← u16
  let progressPercent ← checked u8 fun value => value ≤ 100
  let detail ← text
  pure { phase := .ofUInt8 phase, resultCode, progressPercent, detail }

/-- No more than all of the action is done. -/
def Valid (value : ActionUpdate) : Prop := value.progressPercent ≤ 100

end ActionUpdate

/-- What a bulk transfer is going to carry. -/
structure BulkDescriptor where
  mediaType : Text := []
  encoding : Text := []
  metadata : SortedMap Text Text := .empty
  totalBytes : UInt64 := 0
  deriving DecidableEq, Inhabited

namespace BulkDescriptor

/-- `encode`, for a bulk transfer. -/
def write (writer : Writer) (value : BulkDescriptor) : Writer :=
  writer.text value.mediaType
    |>.text value.encoding
    |>.map value.metadata
    |>.u64 value.totalBytes

/-- `decode`, for a bulk transfer. -/
def read : PayloadReader BulkDescriptor := do
  let mediaType ← text
  let encoding ← text
  let metadata ← stringMap
  let totalBytes ← u64
  pure { mediaType, encoding, metadata, totalBytes }

end BulkDescriptor

/-- What a list says of a log. -/
structure LogSummary where
  logUid : Text := []
  ownerUid : Text := []
  title : Text := []
  state : Text := []
  startedAtNs : UInt64 := 0
  finishedAtNs : UInt64 := 0
  hasExitCode : Bool := false
  exitCode : Int32 := 0
  labels : SortedMap Text Text := .empty
  message : Text := []
  deriving DecidableEq, Inhabited

namespace LogSummary

/-- `write_log_summary`. -/
def write (writer : Writer) (value : LogSummary) : Writer :=
  writer.text value.logUid
    |>.text value.ownerUid
    |>.text value.title
    |>.text value.state
    |>.u64 value.startedAtNs
    |>.u64 value.finishedAtNs
    |>.flag value.hasExitCode
    |>.u32 value.exitCode.toUInt32
    |>.map value.labels
    |>.text value.message

/-- `read_log_summary`. -/
def read : PayloadReader LogSummary := do
  let logUid ← uid
  let ownerUid ← uid
  let title ← text
  let state ← text
  let startedAtNs ← u64
  let finishedAtNs ← u64
  let hasExitCode ← flag
  let exitCode ← u32
  let labels ← stringMap
  let message ← text
  pure { logUid, ownerUid, title, state, startedAtNs, finishedAtNs, hasExitCode
         exitCode := exitCode.toInt32, labels, message }

/-- The log and its owner are named by UIDs. -/
def Valid (value : LogSummary) : Prop :=
  validUid value.logUid = true ∧ validUid value.ownerUid = true

end LogSummary

/-- The logs there are. -/
structure LogListResponse where
  success : Bool := false
  message : Text := []
  logs : List LogSummary := []
  deriving DecidableEq, Inhabited

namespace LogListResponse

/-- `encode`, for a list of logs. -/
def write (writer : Writer) (value : LogListResponse) : Writer :=
  writer.flag value.success
    |>.text value.message
    |>.list value.logs LogSummary.write

/-- `decode`, for a list of logs. -/
def read : PayloadReader LogListResponse := do
  let success ← flag
  let message ← text
  let logs ← listOf (LogSummary.read stringMap)
  pure { success, message, logs }

/-- Its logs are valid. -/
def Valid (value : LogListResponse) : Prop := ∀ log ∈ value.logs, log.Valid

end LogListResponse

/-- A request for a piece of a log from a cursor on. -/
structure LogReadRequest where
  logUid : Text := []
  cursor : UInt64 := 0
  maxBytes : UInt32 := 0
  deriving DecidableEq, Repr, Inhabited

namespace LogReadRequest

/-- `encode`, for a request for a piece of a log. -/
def write (writer : Writer) (value : LogReadRequest) : Writer :=
  writer.text value.logUid
    |>.u64 value.cursor
    |>.u32 value.maxBytes

/-- `decode`, for a request for a piece of a log. -/
def read : PayloadReader LogReadRequest := do
  let logUid ← uid
  let cursor ← u64
  let maxBytes ← checked u32 fun value => 0 < value
  pure { logUid, cursor, maxBytes }

/-- The log is named by a UID, and some bytes are asked for. -/
def Valid (value : LogReadRequest) : Prop := validUid value.logUid = true ∧ 0 < value.maxBytes

end LogReadRequest

/-- A piece of a log, and the cursor behind it. -/
structure LogReadResponse where
  success : Bool := false
  message : Text := []
  logUid : Text := []
  chunk : Text := []
  nextCursor : UInt64 := 0
  truncated : Bool := false
  eof : Bool := false
  deriving DecidableEq, Repr, Inhabited

namespace LogReadResponse

/-- `encode`, for a piece of a log. -/
def write (writer : Writer) (value : LogReadResponse) : Writer :=
  writer.flag value.success
    |>.text value.message
    |>.text value.logUid
    |>.text value.chunk
    |>.u64 value.nextCursor
    |>.flag value.truncated
    |>.flag value.eof

/-- `decode`, for a piece of a log. -/
def read : PayloadReader LogReadResponse := do
  let success ← flag
  let message ← text
  let logUid ← uid
  let chunk ← text
  let nextCursor ← u64
  let truncated ← flag
  let eof ← flag
  pure { success, message, logUid, chunk, nextCursor, truncated, eof }

/-- The log is named by a UID. -/
def Valid (value : LogReadResponse) : Prop := validUid value.logUid = true

end LogReadResponse

end messages

/-! ### The overloads -/

/-- The kinds of core message. -/
inductive CoreMessage
  | entityDirectory
  | attachmentRequest
  | attachmentResponse
  | authorityRequest
  | authorityStatus
  | streamCatalog
  | streamSubscription
  | streamSubscriptionStatus
  | streamSample
  | actionUpdate
  | bulkDescriptor
  | logListResponse
  | logReadRequest
  | logReadResponse
  deriving DecidableEq, Repr, Inhabited

namespace CoreMessage

/-- The messages of a kind. -/
def Value : CoreMessage → Type
  | entityDirectory => EntityDirectory
  | attachmentRequest => AttachmentRequest
  | attachmentResponse => AttachmentResponse
  | authorityRequest => AuthorityRequest
  | authorityStatus => AuthorityStatus
  | streamCatalog => StreamCatalog
  | streamSubscription => StreamSubscription
  | streamSubscriptionStatus => StreamSubscriptionStatus
  | streamSample => StreamSample
  | actionUpdate => ActionUpdate
  | bulkDescriptor => BulkDescriptor
  | logListResponse => LogListResponse
  | logReadRequest => LogReadRequest
  | logReadResponse => LogReadResponse

/-- What the overload of `encode` for the kind writes. -/
def write : (kind : CoreMessage) → Writer → kind.Value → Writer
  | entityDirectory => EntityDirectory.write
  | attachmentRequest => AttachmentRequest.write
  | attachmentResponse => AttachmentResponse.write
  | authorityRequest => AuthorityRequest.write
  | authorityStatus => AuthorityStatus.write
  | streamCatalog => StreamCatalog.write
  | streamSubscription => StreamSubscription.write
  | streamSubscriptionStatus => StreamSubscriptionStatus.write
  | streamSample => StreamSample.write
  | actionUpdate => ActionUpdate.write
  | bulkDescriptor => BulkDescriptor.write
  | logListResponse => LogListResponse.write
  | logReadRequest => LogReadRequest.write
  | logReadResponse => LogReadResponse.write

/-- What the overload of `decode` for the kind reads. -/
def read (stringMap : PayloadReader (SortedMap Text Text)) :
    (kind : CoreMessage) → PayloadReader kind.Value
  | entityDirectory => EntityDirectory.read stringMap
  | attachmentRequest => AttachmentRequest.read
  | attachmentResponse => AttachmentResponse.read
  | authorityRequest => AuthorityRequest.read
  | authorityStatus => AuthorityStatus.read
  | streamCatalog => StreamCatalog.read stringMap
  | streamSubscription => StreamSubscription.read
  | streamSubscriptionStatus => StreamSubscriptionStatus.read
  | streamSample => StreamSample.read stringMap
  | actionUpdate => ActionUpdate.read
  | bulkDescriptor => BulkDescriptor.read stringMap
  | logListResponse => LogListResponse.read stringMap
  | logReadRequest => LogReadRequest.read
  | logReadResponse => LogReadResponse.read

/-- What the decoder of the kind asks of a value.  An enumerator that is not declared
cannot be built. -/
def Valid : (kind : CoreMessage) → kind.Value → Prop
  | entityDirectory => EntityDirectory.Valid
  | attachmentRequest => AttachmentRequest.Valid
  | attachmentResponse => AttachmentResponse.Valid
  | authorityRequest => fun _ => True
  | authorityStatus => fun _ => True
  | streamCatalog => StreamCatalog.Valid
  | streamSubscription => StreamSubscription.Valid
  | streamSubscriptionStatus => StreamSubscriptionStatus.Valid
  | streamSample => StreamSample.Valid
  | actionUpdate => ActionUpdate.Valid
  | bulkDescriptor => fun _ => True
  | logListResponse => LogListResponse.Valid
  | logReadRequest => LogReadRequest.Valid
  | logReadResponse => LogReadResponse.Valid

/-- `encode`; the empty byte string reports a value that cannot be written. -/
def encode (kind : CoreMessage) (value : kind.Value) : Bytes := (kind.write {} value).take

/-- `decode`; what is read must be the whole payload. -/
def decode (kind : CoreMessage) (payload : Bytes) : Option kind.Value :=
  decodeAll (kind.read PayloadReader.stringMap) payload

/-- Every string map in the payload lists its keys in ascending order. -/
def MapsAscending (kind : CoreMessage) (payload : Bytes) : Prop :=
  (decodeAll (kind.read PayloadReader.ascendingMap) payload).isSome = true

end CoreMessage

end YunLink
