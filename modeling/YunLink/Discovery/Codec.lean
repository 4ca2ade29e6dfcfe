import YunLink.Messages.Core

/-!
# Discovery datagrams

The datagrams of `discovery_v2.cpp`: a query, and the reply of an endpoint that advertises
itself.  Words are in big-endian order.  The last eight bytes are a tag of the shared secret
and of all the bytes before it.

A reply has one of three formats.  Format 3 adds the agent id of an entity to format 2, and
format 4 adds the attributes of the endpoint and of its entities.

## Main definitions

* `Discovery.authTag`, `Discovery.authenticated` — the tag, and the check of it.
* `Discovery.Writer`, `Discovery.readU16` and their like — the fields of datagrams.
* `Discovery.encodeDiscoveryQuery`, `Discovery.decodeDiscoveryQuery`,
  `Discovery.encodeDiscoveryReply`, `Discovery.decodeDiscoveryReply` — the codec.
-/

namespace YunLink.Discovery

/-! ### Datagrams -/

/-- The format a query has by default. -/
def kDiscoveryFormatV2 : UInt8 := 2

/-- With the agent ids of entities. -/
def kDiscoveryFormatV3 : UInt8 := 3

/-- With attributes, too. -/
def kDiscoveryFormatV4 : UInt8 := 4

/-- A query of format 2. -/
def kQueryMagicV2 : Bytes := ascii "YLQ2"

/-- A query of format 3. -/
def kQueryMagicV3 : Bytes := ascii "YLQ3"

/-- A query of format 4. -/
def kQueryMagicV4 : Bytes := ascii "YLQ4"

/-- A reply of format 2. -/
def kReplyMagicV2 : Bytes := ascii "YLR2"

/-- A reply of format 3. -/
def kReplyMagicV3 : Bytes := ascii "YLR3"

/-- A reply of format 4. -/
def kReplyMagicV4 : Bytes := ascii "YLR4"

/-- The longest datagram. -/
def kMaxDiscoveryBytes : ℕ := 8192

/-- The most attributes. -/
def kMaxAttributeCount : ℕ := 32

/-- The longest key. -/
def kMaxAttributeKeyBytes : ℕ := 64

/-- The longest value. -/
def kMaxAttributeValueBytes : ℕ := 512

/-- `UINT8_MAX`. -/
def uint8Max : ℕ := 255

/-- A query, in one of the formats. -/
structure DiscoveryQuery where
  nonce : UInt64 := 0
  responseWindowMs : UInt16 := 250
  formatVersion : UInt8 := kDiscoveryFormatV2
  deriving DecidableEq, Repr, Inhabited

/-- An entity of the endpoint. -/
structure DiscoveryEntitySummary where
  entityUid : Text := []
  kind : Text := []
  displayName : Text := []
  availability : Availability := .unknown
  agentId : UInt32 := 0
  attributes : SortedMap Text Text := .empty
  deriving DecidableEq, Inhabited

/-- What an endpoint says of itself. -/
structure DiscoveryAdvertisement where
  endpointUid : Text := []
  displayName : Text := ascii "yunlink-endpoint"
  tcpListenPort : UInt16 := 9696
  capabilities : List Text := []
  profiles : List ProfileDescriptor := []
  attributes : SortedMap Text Text := .empty
  entities : List DiscoveryEntitySummary := []
  startedAtMs : UInt64 := 0
  sequence : UInt64 := 0
  deriving DecidableEq, Inhabited

/-! ### The tag -/

/-- Where the hash starts. -/
def kFnvOffset : UInt64 := 14695981039346656037

/-- What the hash is multiplied by. -/
def kFnvPrime : UInt64 := 1099511628211

/-- One pass of either loop of `auth_tag`. -/
def fnvStep (value : UInt64) (byte : UInt8) : UInt64 := (value ^^^ byte.toUInt64) * kFnvPrime

/-- `auth_tag`: the secret first, and then the data. -/
def authTag (secret : Text) (data : Bytes) : UInt64 :=
  data.foldl fnvStep (secret.foldl fnvStep kFnvOffset)

/-! ### Words -/

/-- Two bytes, the highest one first. -/
def bigEndian16 (value : UInt16) : Bytes := [(value >>> 8).toUInt8, value.toUInt8]

/-- Four bytes. -/
def bigEndian32 (value : UInt32) : Bytes :=
  ([24, 16, 8, 0] : List UInt32).map fun shift => (value >>> shift).toUInt8

/-- Eight bytes. -/
def bigEndian64 (value : UInt64) : Bytes :=
  ([56, 48, 40, 32, 24, 16, 8, 0] : List UInt64).map fun shift => (value >>> shift).toUInt8

/-- The word of two bytes. -/
def ofBigEndian16 (data : Bytes) : UInt16 :=
  (data.getD 0 0).toUInt16 <<< 8 ||| (data.getD 1 0).toUInt16

/-- The word that the loop over the shifts assembles; byte `i` goes to shift `24 - 8 * i`. -/
def ofBigEndian32 (data : Bytes) : UInt32 :=
  ([24, 16, 8, 0] : List UInt32).foldl
    (fun value shift => value ||| (data.getD (3 - shift.toNat / 8) 0).toUInt32 <<< shift) 0

/-- The word of eight bytes. -/
def ofBigEndian64 (data : Bytes) : UInt64 :=
  ([56, 48, 40, 32, 24, 16, 8, 0] : List UInt64).foldl
    (fun value shift => value ||| (data.getD (7 - shift.toNat / 8) 0).toUInt64 <<< shift) 0

/-- One pass of the loop of `authenticated`. -/
def shiftIn (supplied : UInt64) (byte : UInt8) : UInt64 := supplied <<< 8 ||| byte.toUInt64

/-- The tag at the end of a datagram, as `authenticated` reads it. -/
def suppliedTag (bytes : Bytes) : UInt64 := (bytes.drop (bytes.length - 8)).foldl shiftIn 0

/-- `authenticated`. -/
def authenticated (bytes : Bytes) (secret : Text) : Bool :=
  if bytes.length < 8 then false
  else suppliedTag bytes == authTag secret (bytes.take (bytes.length - 8))

/-! ### The writer -/

/-- The buffer the encoders of datagrams write to. -/
abbrev Writer := Codec.Buffer UInt8

namespace Writer

/-- `Writer::bytes`. -/
def bytes (writer : Writer) (data : Bytes) : Writer := writer.put data

/-- `Writer::u8`. -/
def u8 (writer : Writer) (value : UInt8) : Writer := writer.put [value]

/-- `Writer::u16`. -/
def u16 (writer : Writer) (value : UInt16) : Writer := writer.put (bigEndian16 value)

/-- `Writer::u32`. -/
def u32 (writer : Writer) (value : UInt32) : Writer := writer.put (bigEndian32 value)

/-- `Writer::u64`. -/
def u64 (writer : Writer) (value : UInt64) : Writer := writer.put (bigEndian64 value)

/-- `Writer::text`. -/
def text (writer : Writer) (value : Text) : Writer :=
  if uint16Max < value.length then writer.invalidate
  else (writer.u16 (UInt16.ofNat value.length)).put value

/-- An attribute that `attributes` writes, and reads. -/
def fits (entry : Text × Text) : Bool :=
  !(entry.1.isEmpty || kMaxAttributeKeyBytes < entry.1.length ||
    kMaxAttributeValueBytes < entry.2.length)

/-- The loop of `attributes`, which returns at the first attribute that does not fit. -/
def attributesLoop (writer : Writer) : List (Text × Text) → Writer
  | [] => writer
  | entry :: rest =>
      if fits entry then attributesLoop ((writer.text entry.1).text entry.2) rest
      else writer.invalidate

/-- `Writer::attributes`. -/
def attributes (writer : Writer) (values : SortedMap Text Text) : Writer :=
  if kMaxAttributeCount < values.entries.length then writer.invalidate
  else attributesLoop (writer.u8 (UInt8.ofNat values.entries.length)) values.entries

/-- The count of values, in one byte, and the loop over them. -/
def counted {α : Type} (writer : Writer) (values : List α) (write : Writer → α → Writer) :
    Writer :=
  values.foldl write (writer.u8 (UInt8.ofNat values.length))

/-- `Writer::finish`: the tag, unless that makes the datagram too long. -/
def finish (writer : Writer) (secret : Text) : Bytes :=
  if !writer.valid || kMaxDiscoveryBytes < writer.data.length + 8 then []
  else writer.data ++ bigEndian64 (authTag secret writer.data)

end Writer

/-! ### The reader -/

open PayloadReader (checked)

/-- `Reader::magic`, which stays where it is when it fails. -/
def magic (expected : Bytes) : PayloadReader Unit := fun input =>
  if input.length < expected.length || input.take expected.length != expected then none
  else some ((), input.drop expected.length)

/-- `Reader::u8`. -/
def readU8 : PayloadReader UInt8 := PayloadReader.u8

/-- `Reader::u16`. -/
def readU16 : PayloadReader UInt16 := fun input =>
  if input.length < 2 then none else some (ofBigEndian16 input, input.drop 2)

/-- `Reader::u32`. -/
def readU32 : PayloadReader UInt32 := fun input =>
  if input.length < 4 then none else some (ofBigEndian32 input, input.drop 4)

/-- `Reader::u64`. -/
def readU64 : PayloadReader UInt64 := fun input =>
  if input.length < 8 then none else some (ofBigEndian64 input, input.drop 8)

/-- `Reader::text`. -/
def readText : PayloadReader Text := do
  let size ← readU16
  fun input =>
    if input.length < size.toNat then none
    else some (input.take size.toNat, input.drop size.toNat)

/-- The loop of `Reader::attributes`, which refuses a key it has met. -/
def readAttributesLoop : ℕ → SortedMap Text Text → PayloadReader (SortedMap Text Text)
  | 0, values => pure values
  | count + 1, values => do
      let key ← checked readText fun key => !(key.isEmpty || kMaxAttributeKeyBytes < key.length)
      let value ← checked readText fun value => value.length ≤ kMaxAttributeValueBytes
      guard ((values.find? key).isNone)
      readAttributesLoop count (values.insert key value)

/-- `Reader::attributes`. -/
def readAttributes : PayloadReader (SortedMap Text Text) := do
  let count ← checked readU8 fun count => count.toNat ≤ kMaxAttributeCount
  readAttributesLoop count.toNat .empty

/-- The loops of `decode_discovery_reply`: a count and as many values. -/
def readCounted {α : Type} (item : PayloadReader α) : PayloadReader (List α) := do
  let count ← readU8
  PayloadReader.list item count.toNat

/-- A field that not every format has; it keeps its default where it is left out. -/
def readIf {α : Type} (present : Bool) (reader : PayloadReader α) (default : α) :
    PayloadReader α :=
  if present then reader else pure default

/-- The format that a magic announces. -/
def readFormat (magicV4 magicV3 magicV2 : Bytes) : PayloadReader UInt8 :=
  (do magic magicV4; pure kDiscoveryFormatV4) <|>
  (do magic magicV3; pure kDiscoveryFormatV3) <|>
  (do magic magicV2; pure kDiscoveryFormatV2)

/-! ### Advertisements -/

/-- `valid_attributes`. -/
def validAttributes (attributes : SortedMap Text Text) : Bool :=
  decide (attributes.entries.length ≤ kMaxAttributeCount) && attributes.entries.all fun entry =>
    !entry.1.isEmpty && entry.1.length ≤ kMaxAttributeKeyBytes &&
      entry.2.length ≤ kMaxAttributeValueBytes

/-- `valid_advertisement`. -/
def validAdvertisement (value : DiscoveryAdvertisement) : Bool :=
  if !validUid value.endpointUid || value.tcpListenPort == 0 ||
      uint8Max < value.capabilities.length || uint8Max < value.profiles.length ||
      uint8Max < value.entities.length then false
  else
    validAttributes value.attributes &&
      (value.profiles.all fun profile => validProfileId profile.profileId && 0 < profile.major) &&
      value.entities.all fun entity =>
        validUid entity.entityUid && validAttributes entity.attributes

/-! ### Queries -/

/-- `encode_discovery_query`. -/
def encodeDiscoveryQuery (query : DiscoveryQuery) (sharedSecret : Text) : Bytes :=
  if query.nonce == 0 || query.responseWindowMs == 0 ||
      (query.formatVersion != kDiscoveryFormatV2 && query.formatVersion != kDiscoveryFormatV3 &&
        query.formatVersion != kDiscoveryFormatV4) then []
  else
    let magic :=
      if query.formatVersion == kDiscoveryFormatV4 then kQueryMagicV4
      else if query.formatVersion == kDiscoveryFormatV3 then kQueryMagicV3
      else kQueryMagicV2
    (((Writer.bytes {} magic).u64 query.nonce).u16 query.responseWindowMs).finish sharedSecret

/-- What `decode_discovery_query` reads behind its checks of the whole datagram. -/
def readQuery : PayloadReader DiscoveryQuery := do
  let formatVersion ← readFormat kQueryMagicV4 kQueryMagicV3 kQueryMagicV2
  let nonce ← readU64
  let responseWindowMs ← readU16
  pure { nonce, responseWindowMs, formatVersion }

/-- `decode_discovery_query`. -/
def decodeDiscoveryQuery (bytes : Bytes) (sharedSecret : Text) : Option DiscoveryQuery :=
  if bytes.length != 22 || !authenticated bytes sharedSecret then none
  else do
    let parsed ← decodeAll readQuery (bytes.take (bytes.length - 8))
    if parsed.nonce == 0 || parsed.responseWindowMs == 0 then none else some parsed

/-! ### Replies -/

/-- One pass of the loop over the profiles. -/
def writeProfile (writer : Writer) (profile : ProfileDescriptor) : Writer :=
  writer.text profile.profileId
    |>.u16 profile.major
    |>.u16 profile.minor
    |>.text profile.schemaDigest

/-- A field that not every format has. -/
def writeIf {α : Type} (present : Bool) (write : Writer → α → Writer) (writer : Writer)
    (value : α) : Writer :=
  if present then write writer value else writer

/-- One pass of the loop over the entities. -/
def writeEntity (supportsEntityAgentId supportsAttributes : Bool) (writer : Writer)
    (entity : DiscoveryEntitySummary) : Writer :=
  let writer := writer.text entity.entityUid
    |>.text entity.kind
    |>.text entity.displayName
    |>.u8 entity.availability.toUInt8
  let writer := writeIf supportsEntityAgentId Writer.u32 writer entity.agentId
  writeIf supportsAttributes Writer.attributes writer entity.attributes

/-- What `encode_discovery_reply` writes in front of the tag. -/
def writeReply (query : DiscoveryQuery) (advertisement : DiscoveryAdvertisement) : Writer :=
  let supportsEntityAgentId := decide (kDiscoveryFormatV3 ≤ query.formatVersion)
  let supportsAttributes := decide (kDiscoveryFormatV4 ≤ query.formatVersion)
  let magic :=
    if supportsAttributes then kReplyMagicV4
    else if supportsEntityAgentId then kReplyMagicV3
    else kReplyMagicV2
  let writer := Writer.bytes {} magic
    |>.u64 query.nonce
    |>.u8 kProtocolMajor
    |>.u8 kHeaderVersion
    |>.u16 query.formatVersion.toUInt16
    |>.text advertisement.endpointUid
    |>.text advertisement.displayName
    |>.u16 advertisement.tcpListenPort
    |>.counted advertisement.capabilities Writer.text
    |>.counted advertisement.profiles writeProfile
  let writer := writeIf supportsAttributes Writer.attributes writer advertisement.attributes
  let writer := writer.counted advertisement.entities
    (writeEntity supportsEntityAgentId supportsAttributes)
  writer.u64 advertisement.startedAtMs
    |>.u64 advertisement.sequence

/-- `encode_discovery_reply`; an empty reply is not sent. -/
def encodeDiscoveryReply (query : DiscoveryQuery) (advertisement : DiscoveryAdvertisement)
    (sharedSecret : Text) : Bytes :=
  if query.nonce == 0 || !validAdvertisement advertisement then []
  else (writeReply query advertisement).finish sharedSecret

/-- One pass of the loop over the profiles. -/
def readProfile : PayloadReader ProfileDescriptor := do
  let profileId ← readText
  let major ← readU16
  let minor ← readU16
  let schemaDigest ← readText
  pure { profileId, major, minor, schemaDigest }

/-- One pass of the loop over the entities. -/
def readEntity (includesEntityAgentId includesAttributes : Bool) :
    PayloadReader DiscoveryEntitySummary := do
  let entityUid ← readText
  let kind ← readText
  let displayName ← readText
  let availability ← checked readU8 fun value => value ≤ Availability.offline.toUInt8
  let agentId ← readIf includesEntityAgentId readU32 0
  let attributes ← readIf includesAttributes readAttributes .empty
  pure { entityUid, kind, displayName, availability := .ofUInt8 availability, agentId, attributes }

/-- What `decode_discovery_reply` reads behind its checks of the whole datagram. -/
def readReply (expectedNonce : UInt64) : PayloadReader DiscoveryAdvertisement := do
  let formatVersion ← readFormat kReplyMagicV4 kReplyMagicV3 kReplyMagicV2
  let _nonce ← checked readU64 fun nonce => nonce == expectedNonce
  let _protocol ← checked readU8 fun protocol => protocol == kProtocolMajor
  let _header ← checked readU8 fun header => header == kHeaderVersion
  let _schema ← checked readU16 fun schema => schema == formatVersion.toUInt16
  let endpointUid ← readText
  let displayName ← readText
  let tcpListenPort ← readU16
  let capabilities ← readCounted readText
  let profiles ← readCounted readProfile
  let attributes ← readIf (decide (kDiscoveryFormatV4 ≤ formatVersion)) readAttributes .empty
  let entities ← readCounted (readEntity (decide (kDiscoveryFormatV3 ≤ formatVersion))
    (decide (kDiscoveryFormatV4 ≤ formatVersion)))
  let startedAtMs ← readU64
  let sequence ← readU64
  pure { endpointUid, displayName, tcpListenPort, capabilities, profiles, attributes, entities
         startedAtMs, sequence }

/-- `decode_discovery_reply`. -/
def decodeDiscoveryReply (bytes : Bytes) (sharedSecret : Text) (expectedNonce : UInt64) :
    Option DiscoveryAdvertisement :=
  if kMaxDiscoveryBytes < bytes.length || !authenticated bytes sharedSecret then none
  else do
    let parsed ← decodeAll (readReply expectedNonce) (bytes.take (bytes.length - 8))
    if !validAdvertisement parsed then none else some parsed

end YunLink.Discovery
