import Mathlib.Data.List.Sort
import YunLink.Lib.Utf8
import YunLink.Messages.Core

/-!
# The core codec of the Python binding

The payloads of `core.py` with the codec of `core_codec.py`.  An exception is `none`.

A `str` is a list of code points, surrogates included, which `str.encode` refuses.  An `int`
is an integer, which `struct.pack` refuses when its word cannot hold it.  A `float` is one
that a `binary32` holds; Python does not tell one NaN from another.  A `dict` keeps its
entries in the order in which their keys were set.

## Main definitions

* `Python.Str`, `Python.Dict`, `Python.Rate` — the values of the fields.
* `Python.Core.Writer`, `Python.Core.Reader` — the fields of the payloads.
* `Python.Core.encode`, `Python.Core.decode` — the codec.
-/

namespace YunLink.Python

/-! ### Strings -/

/-- A code point, surrogates included. -/
abbrev CodePoint := Fin 0x110000

/-- A `str`. -/
abbrev Str := List CodePoint

namespace CodePoint

/-- The character, unless the code point is a surrogate. -/
def toChar (point : CodePoint) : Option Char :=
  if h : point.val.isValidChar then some (Char.ofNatAux point.val h) else none

/-- The code point of a character. -/
def ofChar (char : Char) : CodePoint := ⟨char.val.toNat, Utf8.toNat_val_lt char⟩

end CodePoint

namespace Str

/-- `str.encode("utf-8")`. -/
def encode (string : Str) : Option Text := (string.mapM CodePoint.toChar).map Utf8.encode

/-- `bytes.decode("utf-8")`. -/
def decode (bytes : Bytes) : Option Str := (Utf8.decode bytes).map fun chars =>
  chars.map CodePoint.ofChar

end Str

/-! ### Dictionaries -/

/-- A `dict[str, str]`. -/
structure Dict where
  entries : List (Str × Str)
  nodup : (entries.map Prod.fst).Nodup
  deriving DecidableEq

namespace Dict

/-- `{}`. -/
def empty : Dict := ⟨[], List.nodup_nil⟩

/-- The value of a key is set in place; a new key goes to the end. -/
def setEntry (key value : Str) : List (Str × Str) → List (Str × Str)
  | [] => [(key, value)]
  | entry :: rest =>
      if entry.1 = key then (key, value) :: rest else entry :: setEntry key value rest

theorem fst_mem_setEntry {key value : Str} {entries : List (Str × Str)} {entry : Str × Str}
    (h : entry ∈ setEntry key value entries) : entry.1 = key ∨ entry ∈ entries := by
  induction entries with
  | nil =>
    rw [List.mem_singleton.mp h]
    exact Or.inl rfl
  | cons first rest ih =>
    unfold setEntry at h
    split at h
    · rcases List.mem_cons.mp h with rfl | h
      · exact Or.inl rfl
      · exact Or.inr (List.mem_cons_of_mem _ h)
    · rcases List.mem_cons.mp h with rfl | h
      · exact Or.inr List.mem_cons_self
      · exact (ih h).imp id (List.mem_cons_of_mem _)

theorem nodup_setEntry (key value : Str) {entries : List (Str × Str)}
    (h : (entries.map Prod.fst).Nodup) : ((setEntry key value entries).map Prod.fst).Nodup := by
  induction entries with
  | nil => exact List.nodup_singleton _
  | cons first rest ih =>
    obtain ⟨hfirst, hrest⟩ := List.nodup_cons.mp h
    unfold setEntry
    split
    · next heq =>
      rw [heq] at hfirst
      exact List.nodup_cons.mpr ⟨hfirst, hrest⟩
    · next hne =>
      refine List.nodup_cons.mpr ⟨fun hmem => ?_, ih hrest⟩
      obtain ⟨entry, hentry, hkey⟩ := List.mem_map.mp hmem
      rcases fst_mem_setEntry hentry with hsame | hold
      · exact hne (hkey.symm.trans hsame)
      · exact hfirst (List.mem_map.mpr ⟨entry, hold, hkey⟩)

/-- `dict[key] = value`. -/
def set (dict : Dict) (key value : Str) : Dict :=
  ⟨setEntry key value dict.entries, nodup_setEntry key value dict.nodup⟩

/-- `dict` of pairs. -/
def ofPairs (pairs : List (Str × Str)) : Dict :=
  pairs.foldl (fun dict pair => dict.set pair.1 pair.2) empty

/-- The order of two tuples of strings. -/
def pairLt (a b : Str × Str) : Bool := decide (a.1 < b.1 ∨ a.1 = b.1 ∧ a.2 < b.2)

/-- `sorted(value.items())`; items stay in their order unless the later one is smaller. -/
def sortedItems (dict : Dict) : List (Str × Str) :=
  dict.entries.insertionSort fun a b => pairLt b a = false

end Dict

/-! ### Floats -/

/-- A word that is the bits of a NaN. -/
def isNan (bits : UInt32) : Bool := decide (0x7F800000 < bits &&& 0x7FFFFFFF)

/-- A `float` that a `binary32` holds. -/
inductive Rate
  | number (bits : UInt32) (h : isNan bits = false)
  | nan
  deriving DecidableEq

namespace Rate

/-- `struct.unpack("<f", …)`. -/
def ofBits (bits : UInt32) : Rate := if h : isNan bits = false then number bits h else nan

/-- `struct.pack("<f", …)`; a NaN becomes the quiet one. -/
def toBits : Rate → UInt32
  | number bits _ => bits
  | nan => 0x7FC00000

end Rate

namespace Core

/-! ### Dataclasses

The enumerations have the members of their C++ counterparts. -/

/-- The type of a stream. -/
structure TypeRef where
  profileId : Str
  major : ℤ
  typeName : Str
  minor : ℤ := 0
  deriving DecidableEq

/-- An entity. -/
structure EntityDescriptor where
  entityUid : Str
  kind : Str
  displayName : Str := []
  hardwareId : Str := []
  attributes : Dict := .empty
  capabilities : List Str := []
  availability : Availability := .unknown
  deriving DecidableEq

/-- The entities of an endpoint. -/
structure EntityDirectory where
  endpointUid : Str
  revision : Str
  entities : List EntityDescriptor
  deriving DecidableEq

/-- Asks to attach to entities. -/
structure AttachmentRequest where
  expectedRevision : Str
  entityUids : List Str
  deriving DecidableEq

/-- The entities attached to, or why not. -/
structure AttachmentResponse where
  success : Bool
  revision : Str
  attachedEntityUids : List Str
  message : Str := []
  deriving DecidableEq

/-- Asks for a lease. -/
structure AuthorityRequest where
  authorityScope : Str
  leaseTtlMs : ℤ := 5000
  allowPreempt : Bool := false
  deriving DecidableEq

/-- The state of a lease. -/
structure AuthorityStatus where
  authorityScope : Str
  state : Str
  leaseTtlMs : ℤ
  reasonCode : ℤ
  detail : Str := []
  deriving DecidableEq

/-- A stream on offer. -/
structure StreamDescriptor where
  streamUid : Str
  typeRef : TypeRef
  encoding : Str
  metadata : Dict := .empty
  deriving DecidableEq

/-- The streams on offer. -/
structure StreamCatalog where
  revision : Str
  streams : List StreamDescriptor
  deriving DecidableEq

/-- Asks for a stream at a rate. -/
structure StreamSubscription where
  streamUid : Str
  maxRateHz : Rate := .number 0x41200000 (by decide)
  maxPayloadBytes : ℤ := 65536
  deriving DecidableEq

/-- Whether and at what rate a stream comes. -/
structure StreamSubscriptionStatus where
  success : Bool
  subscribed : Bool
  streamUid : Str
  maxRateHz : Rate
  maxPayloadBytes : ℤ
  message : Str := []
  deriving DecidableEq

/-- A sample of a stream. -/
structure StreamSample where
  streamUid : Str
  encoding : Str
  metadata : Dict
  sourceTimestampNs : ℤ
  sequence : ℤ
  data : Bytes
  deriving DecidableEq

/-- How far an action has got. -/
structure ActionUpdate where
  phase : ActionPhase
  resultCode : ℤ := 0
  progressPercent : ℤ := 0
  detail : Str := []
  deriving DecidableEq

/-! ### Writer and reader -/

/-- The data of a `_Writer`. -/
abbrev Writer := Bytes

namespace Writer

/-- `struct.pack` of an integer, which has to be below the bound. -/
def packed (bound : ℕ) (word : ℕ → Bytes) (writer : Writer) (value : ℤ) : Option Writer :=
  if 0 ≤ value ∧ value < bound then some (writer ++ word value.toNat) else none

/-- `u8`. -/
def u8 : Writer → ℤ → Option Writer := packed 0x100 fun n => [UInt8.ofNat n]

/-- `u16`. -/
def u16 : Writer → ℤ → Option Writer := packed 0x10000 fun n => appendU16 (UInt16.ofNat n)

/-- `u32`. -/
def u32 : Writer → ℤ → Option Writer := packed 0x100000000 fun n => appendU32 (UInt32.ofNat n)

/-- `u64`. -/
def u64 : Writer → ℤ → Option Writer :=
  packed 0x10000000000000000 fun n => appendU64 (UInt64.ofNat n)

/-- `f32`. -/
def f32 (writer : Writer) (value : Rate) : Option Writer := some (writer ++ appendU32 value.toBits)

/-- A `bool` in the place of an integer. -/
def flag (writer : Writer) (value : Bool) : Option Writer := writer.u8 (if value then 1 else 0)

/-- `text`. -/
def text (writer : Writer) (value : Str) : Option Writer := do
  let encoded ← value.encode
  if 65535 < encoded.length then none
  else do
    let writer ← writer.u16 encoded.length
    some (writer ++ encoded)

/-- `blob`. -/
def blob (writer : Writer) (value : Bytes) : Option Writer :=
  if 0xFFFFFFFF < value.length then none
  else do
    let writer ← writer.u32 value.length
    some (writer ++ value)

/-- `items`. -/
def items {α : Type} (writer : Writer) (values : List α) (write : Writer → α → Option Writer) :
    Option Writer :=
  if 65535 < values.length then none
  else do
    let writer ← writer.u16 values.length
    values.foldlM write writer

/-- Both texts of an item. -/
def pair (writer : Writer) (item : Str × Str) : Option Writer := do
  let writer ← writer.text item.1
  writer.text item.2

/-- `mapping`: the items in order. -/
def mapping (writer : Writer) (value : Dict) : Option Writer := writer.items value.sortedItems pair

end Writer

/-- A `_Reader`; words are read as they are in C++. -/
abbrev Reader := PayloadReader

namespace Reader

/-- `take`. -/
def take (size : ℕ) : Reader Bytes := fun input =>
  if input.length < size then none else some (input.take size, input.drop size)

/-- `u8`. -/
def u8 : Reader ℤ := do
  let value ← PayloadReader.u8
  pure value.toNat

/-- `u16`. -/
def u16 : Reader ℤ := do
  let value ← PayloadReader.u16
  pure value.toNat

/-- `u32`. -/
def u32 : Reader ℤ := do
  let value ← PayloadReader.u32
  pure value.toNat

/-- `u64`. -/
def u64 : Reader ℤ := do
  let value ← PayloadReader.u64
  pure value.toNat

/-- `f32`. -/
def f32 : Reader Rate := do
  let bits ← PayloadReader.u32
  pure (Rate.ofBits bits)

/-- `text`. -/
def text : Reader Str := do
  let size ← u16
  let bytes ← take size.toNat
  StateT.lift (Str.decode bytes)

/-- `blob`. -/
def blob : Reader Bytes := do
  let size ← u32
  take size.toNat

/-- `items`. -/
def items {α : Type} (read : Reader α) : Reader (List α) := do
  let count ← u16
  PayloadReader.list read count.toNat

/-- Both texts of an item. -/
def pair : Reader (Str × Str) := do
  let key ← text
  let value ← text
  pure (key, value)

/-- `mapping`: of two items with one key the later one stays. -/
def mapping : Reader Dict := do
  let entries ← items pair
  pure (Dict.ofPairs entries)

/-- An `IntEnum` of the byte that is read: the member that has this value. -/
def enum {α : Type} (members : List α) (code : α → UInt8) : Reader α := do
  let value ← u8
  StateT.lift (members.find? fun member => (code member).toNat = value)

end Reader

open Reader

/-! ### Payloads -/

/-- `_type_write`. -/
def writeType (writer : Writer) (value : TypeRef) : Option Writer := do
  let writer ← writer.text value.profileId
  let writer ← writer.u16 value.major
  let writer ← writer.u16 value.minor
  writer.text value.typeName

/-- `_type_read`. -/
def readType : Reader TypeRef := do
  let profileId ← text
  let major ← u16
  let minor ← u16
  let typeName ← text
  pure { profileId, major, typeName, minor }

/-- `_entity_write`. -/
def writeEntity (writer : Writer) (value : EntityDescriptor) : Option Writer := do
  let writer ← writer.text value.entityUid
  let writer ← writer.text value.kind
  let writer ← writer.text value.displayName
  let writer ← writer.text value.hardwareId
  let writer ← writer.mapping value.attributes
  let writer ← writer.items value.capabilities Writer.text
  writer.u8 value.availability.toUInt8.toNat

/-- `Availability` of the byte that is read. -/
def readAvailability : Reader Availability :=
  enum [.unknown, .online, .degraded, .offline] Availability.toUInt8

/-- `ActionPhase` of the byte that is read. -/
def readPhase : Reader ActionPhase :=
  enum [.received, .accepted, .running, .succeeded, .failed, .cancelled, .expired]
    ActionPhase.toUInt8

/-- `_entity_read`. -/
def readEntity : Reader EntityDescriptor := do
  let entityUid ← text
  let kind ← text
  let displayName ← text
  let hardwareId ← text
  let attributes ← mapping
  let capabilities ← items text
  let availability ← readAvailability
  pure { entityUid, kind, displayName, hardwareId, attributes, capabilities, availability }

namespace EntityDirectory

/-- `encode`, for a directory. -/
def write (writer : Writer) (value : EntityDirectory) : Option Writer := do
  let writer ← writer.text value.endpointUid
  let writer ← writer.text value.revision
  writer.items value.entities writeEntity

/-- `decode_Entity_directory`, up to the end check. -/
def read : Reader EntityDirectory := do
  let endpointUid ← text
  let revision ← text
  let entities ← items readEntity
  pure { endpointUid, revision, entities }

end EntityDirectory

namespace AttachmentRequest

/-- `encode`, for a request to attach. -/
def write (writer : Writer) (value : AttachmentRequest) : Option Writer := do
  let writer ← writer.text value.expectedRevision
  writer.items value.entityUids Writer.text

/-- `decode_Attachment_request`, up to the end check. -/
def read : Reader AttachmentRequest := do
  let expectedRevision ← text
  let entityUids ← items text
  pure { expectedRevision, entityUids }

end AttachmentRequest

namespace AttachmentResponse

/-- `encode`, for the answer to a request to attach. -/
def write (writer : Writer) (value : AttachmentResponse) : Option Writer := do
  let writer ← writer.flag value.success
  let writer ← writer.text value.revision
  let writer ← writer.items value.attachedEntityUids Writer.text
  writer.text value.message

/-- The flag is checked behind all that is read. -/
def read : Reader AttachmentResponse := do
  let success ← u8
  let revision ← text
  let attachedEntityUids ← items text
  let message ← text
  guard (¬ 1 < success)
  pure { success := success != 0, revision, attachedEntityUids, message }

end AttachmentResponse

namespace AuthorityRequest

/-- `encode`, for a request for a lease. -/
def write (writer : Writer) (value : AuthorityRequest) : Option Writer := do
  let writer ← writer.text value.authorityScope
  let writer ← writer.u32 value.leaseTtlMs
  writer.flag value.allowPreempt

/-- `decode_Authority_request`, up to the end check. -/
def read : Reader AuthorityRequest := do
  let authorityScope ← text
  let leaseTtlMs ← u32
  let allowPreempt ← u8
  guard (¬ 1 < allowPreempt)
  pure { authorityScope, leaseTtlMs, allowPreempt := allowPreempt != 0 }

end AuthorityRequest

namespace AuthorityStatus

/-- `encode`, for a status. -/
def write (writer : Writer) (value : AuthorityStatus) : Option Writer := do
  let writer ← writer.text value.authorityScope
  let writer ← writer.text value.state
  let writer ← writer.u32 value.leaseTtlMs
  let writer ← writer.u16 value.reasonCode
  writer.text value.detail

/-- `decode_Authority_status`, up to the end check. -/
def read : Reader AuthorityStatus := do
  let authorityScope ← text
  let state ← text
  let leaseTtlMs ← u32
  let reasonCode ← u16
  let detail ← text
  pure { authorityScope, state, leaseTtlMs, reasonCode, detail }

end AuthorityStatus

namespace StreamDescriptor

/-- The local `stream` of `encode`. -/
def write (writer : Writer) (item : StreamDescriptor) : Option Writer := do
  let writer ← writer.text item.streamUid
  let writer ← writeType writer item.typeRef
  let writer ← writer.text item.encoding
  writer.mapping item.metadata

/-- The local `stream` of `decode_stream_catalog`. -/
def read : Reader StreamDescriptor := do
  let streamUid ← text
  let typeRef ← readType
  let encoding ← text
  let metadata ← mapping
  pure { streamUid, typeRef, encoding, metadata }

end StreamDescriptor

namespace StreamCatalog

/-- `encode`, for a catalog. -/
def write (writer : Writer) (value : StreamCatalog) : Option Writer := do
  let writer ← writer.text value.revision
  writer.items value.streams StreamDescriptor.write

/-- `decode_Stream_catalog`, up to the end check. -/
def read : Reader StreamCatalog := do
  let revision ← text
  let streams ← items StreamDescriptor.read
  pure { revision, streams }

end StreamCatalog

namespace StreamSubscription

/-- `encode`, for a subscription. -/
def write (writer : Writer) (value : StreamSubscription) : Option Writer := do
  let writer ← writer.text value.streamUid
  let writer ← writer.f32 value.maxRateHz
  writer.u32 value.maxPayloadBytes

/-- `decode_Stream_subscription`, up to the end check. -/
def read : Reader StreamSubscription := do
  let streamUid ← text
  let maxRateHz ← f32
  let maxPayloadBytes ← u32
  pure { streamUid, maxRateHz, maxPayloadBytes }

end StreamSubscription

namespace StreamSubscriptionStatus

/-- `encode`, for the status of a subscription. -/
def write (writer : Writer) (value : StreamSubscriptionStatus) : Option Writer := do
  let writer ← writer.flag value.success
  let writer ← writer.flag value.subscribed
  let writer ← writer.text value.streamUid
  let writer ← writer.f32 value.maxRateHz
  let writer ← writer.u32 value.maxPayloadBytes
  writer.text value.message

/-- The flags are checked behind all that is read. -/
def read : Reader StreamSubscriptionStatus := do
  let success ← u8
  let subscribed ← u8
  let streamUid ← text
  let maxRateHz ← f32
  let maxPayloadBytes ← u32
  let message ← text
  guard (¬ (1 < success ∨ 1 < subscribed))
  pure { success := success != 0, subscribed := subscribed != 0, streamUid, maxRateHz
         maxPayloadBytes, message }

end StreamSubscriptionStatus

namespace StreamSample

/-- `encode`, for a sample. -/
def write (writer : Writer) (value : StreamSample) : Option Writer := do
  let writer ← writer.text value.streamUid
  let writer ← writer.text value.encoding
  let writer ← writer.mapping value.metadata
  let writer ← writer.u64 value.sourceTimestampNs
  let writer ← writer.u64 value.sequence
  writer.blob value.data

/-- `decode_Stream_sample`, up to the end check. -/
def read : Reader StreamSample := do
  let streamUid ← text
  let encoding ← text
  let metadata ← mapping
  let sourceTimestampNs ← u64
  let sequence ← u64
  let data ← blob
  pure { streamUid, encoding, metadata, sourceTimestampNs, sequence, data }

end StreamSample

namespace ActionUpdate

/-- `encode`, for an update. -/
def write (writer : Writer) (value : ActionUpdate) : Option Writer := do
  let writer ← writer.u8 value.phase.toUInt8.toNat
  let writer ← writer.u16 value.resultCode
  let writer ← writer.u8 value.progressPercent
  writer.text value.detail

/-- `decode_Action_update`, up to the end check. -/
def read : Reader ActionUpdate := do
  let phase ← readPhase
  let resultCode ← u16
  let progressPercent ← u8
  let detail ← text
  guard (¬ 100 < progressPercent)
  pure { phase, resultCode, progressPercent, detail }

end ActionUpdate

/-! ### The codec -/

/-- The kinds of core message that Python has. -/
inductive Message
  | entityDirectory
  | attachmentRequest
  | attachmentResponse
  | authorityRequest
  | authorityStatus
  | streamCatalog
  | streamSubscription
  | streamSubscriptionStatus
  | streamSample
  | actionUpdate
  deriving DecidableEq, Repr, Inhabited

namespace Message

/-- The dataclass of a kind. -/
def Value : Message → Type
  | entityDirectory => EntityDirectory
  | attachmentRequest => AttachmentRequest
  | attachmentResponse => AttachmentResponse
  | authorityRequest => AuthorityRequest
  | authorityStatus => AuthorityStatus
  | streamCatalog => StreamCatalog
  | streamSubscription => StreamSubscription
  | streamSubscriptionStatus => StreamSubscriptionStatus
  | streamSample => StreamSample
  | actionUpdate => ActionUpdate

/-- The branch of `encode` for the kind. -/
def write : (kind : Message) → Writer → kind.Value → Option Writer
  | entityDirectory => EntityDirectory.write
  | attachmentRequest => AttachmentRequest.write
  | attachmentResponse => AttachmentResponse.write
  | authorityRequest => AuthorityRequest.write
  | authorityStatus => AuthorityStatus.write
  | streamCatalog => StreamCatalog.write
  | streamSubscription => StreamSubscription.write
  | streamSubscriptionStatus => StreamSubscriptionStatus.write
  | streamSample => StreamSample.write
  | actionUpdate => ActionUpdate.write

/-- The decoder of the kind, up to the end check. -/
def read : (kind : Message) → Reader kind.Value
  | entityDirectory => EntityDirectory.read
  | attachmentRequest => AttachmentRequest.read
  | attachmentResponse => AttachmentResponse.read
  | authorityRequest => AuthorityRequest.read
  | authorityStatus => AuthorityStatus.read
  | streamCatalog => StreamCatalog.read
  | streamSubscription => StreamSubscription.read
  | streamSubscriptionStatus => StreamSubscriptionStatus.read
  | streamSample => StreamSample.read
  | actionUpdate => ActionUpdate.read

/-- The kind of the C++ message. -/
def cpp : Message → CoreMessage
  | entityDirectory => .entityDirectory
  | attachmentRequest => .attachmentRequest
  | attachmentResponse => .attachmentResponse
  | authorityRequest => .authorityRequest
  | authorityStatus => .authorityStatus
  | streamCatalog => .streamCatalog
  | streamSubscription => .streamSubscription
  | streamSubscriptionStatus => .streamSubscriptionStatus
  | streamSample => .streamSample
  | actionUpdate => .actionUpdate

end Message

/-- `encode`. -/
def encode (kind : Message) (value : kind.Value) : Option Bytes := kind.write [] value

/-- `decode_entity_directory` and its siblings; `finish` refuses trailing bytes. -/
def decode (kind : Message) (data : Bytes) : Option kind.Value := decodeAll kind.read data

end Core

end YunLink.Python
