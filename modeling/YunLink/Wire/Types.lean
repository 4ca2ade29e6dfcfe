import YunLink.Lib.SortedMap
import YunLink.Lib.Words

/-!
# The Wire v2 protocol contract

The data model of `wire_v2.hpp` and the validity predicates of `wire_v2.cpp`.
A `std::string` is a byte string here (`Text`): the wire puts arbitrary bytes
into it, and the code only ever compares, measures and copies it.

An enumeration is an inductive type with its wire value (`toUInt8`); `ofUInt8`
is the `static_cast` back, applied by the code to checked values only.

## Main definitions

* `Envelope` — the message every family travels in.
* `validUid`, `validProfileId`, `validTypeRef` — what an envelope may carry.
* `TargetSelector.matches` — whether an endpoint is addressed.
-/

namespace YunLink

open Words

/-- `std::vector<uint8_t>`. -/
abbrev Bytes := List UInt8

/-- `std::string`, as the bytes it holds. -/
abbrev Text := List UInt8

/-- The bytes of a string literal of the source; all of them are ASCII. -/
def ascii (s : String) : Text := s.toList.map fun c => UInt8.ofNat c.toNat

/-- The major version an envelope carries. -/
def kProtocolMajor : UInt8 := 2

/-- The layout of the fixed header. -/
def kHeaderVersion : UInt8 := 2

/-- The schema an envelope carries by default. -/
def kSchemaVersion : UInt16 := 2

/-- The longest UID. -/
def kMaxUidBytes : ℕ := 128

/-- The longest name of a type. -/
def kMaxTypeNameBytes : ℕ := 256

/-- The longest id of a profile. -/
def kMaxProfileIdBytes : ℕ := 128

/-- 16 MiB. -/
def kMaxPayloadBytes : ℕ := 16 * 1024 * 1024

/-- `std::numeric_limits<uint16_t>::max()`. -/
def uint16Max : ℕ := 65535

/-- A length that fits its word is read off it. -/
theorem toNat_ofNat_of_le {n : ℕ} (h : n ≤ uint16Max) : (UInt16.ofNat n).toNat = n :=
  UInt16.toNat_ofNat_of_lt' (Nat.lt_succ_of_le h)

/-! ### Enumerations -/

/-- `ErrorCode`, the result of most calls. -/
inductive ErrorCode
  | ok
  | invalidArgument
  | encodeError
  | decodeError
  | checksumMismatch
  | invalidHeader
  | protocolMismatch
  | timeout
  | unauthorized
  | rejected
  | notFound
  | conflict
  | unsupported
  | internal
  deriving DecidableEq, Repr, Inhabited

/-- The value a status message carries for the code. -/
def ErrorCode.toUInt16 : ErrorCode → UInt16
  | .ok => 0
  | .invalidArgument => 1
  | .encodeError => 2
  | .decodeError => 3
  | .checksumMismatch => 4
  | .invalidHeader => 5
  | .protocolMismatch => 6
  | .timeout => 7
  | .unauthorized => 8
  | .rejected => 9
  | .notFound => 10
  | .conflict => 11
  | .unsupported => 12
  | .internal => 13

/-- `MessageFamily`: what a message is about. -/
inductive MessageFamily
  | session
  | authority
  | entityDirectory
  | stream
  | action
  | rpc
  | configuration
  | log
  | bulk
  deriving DecidableEq, Repr, Inhabited

namespace MessageFamily

/-- The byte of a family. -/
def toUInt8 : MessageFamily → UInt8
  | session => 1
  | authority => 2
  | entityDirectory => 3
  | stream => 4
  | action => 5
  | rpc => 6
  | configuration => 7
  | log => 8
  | bulk => 9

/-- The cast of a byte that `valid_family` has let through. -/
def ofUInt8 (value : UInt8) : MessageFamily :=
  if value = 1 then session
  else if value = 2 then authority
  else if value = 3 then entityDirectory
  else if value = 4 then stream
  else if value = 5 then action
  else if value = 6 then rpc
  else if value = 7 then configuration
  else if value = 8 then log
  else bulk

@[simp] theorem ofUInt8_toUInt8 (f : MessageFamily) : ofUInt8 f.toUInt8 = f := by
  cases f <;> rfl

end MessageFamily

/-- `QosClass`: how a message is queued and what may drop it. -/
inductive QosClass
  | reliableOrdered
  | reliableLatest
  | bestEffort
  | bulk
  deriving DecidableEq, Repr, Inhabited

namespace QosClass

/-- The byte of a class. -/
def toUInt8 : QosClass → UInt8
  | reliableOrdered => 1
  | reliableLatest => 2
  | bestEffort => 3
  | bulk => 4

/-- The cast of a byte that `valid_qos` has let through. -/
def ofUInt8 (value : UInt8) : QosClass :=
  if value = 1 then reliableOrdered
  else if value = 2 then reliableLatest
  else if value = 3 then bestEffort
  else bulk

@[simp] theorem ofUInt8_toUInt8 (q : QosClass) : ofUInt8 q.toUInt8 = q := by
  cases q <;> rfl

end QosClass

/-- `TargetScope`: what the UIDs of a target name. -/
inductive TargetScope
  | endpoint
  | entity
  | group
  | broadcast
  deriving DecidableEq, Repr, Inhabited

namespace TargetScope

/-- The byte of a scope. -/
def toUInt8 : TargetScope → UInt8
  | endpoint => 1
  | entity => 2
  | group => 3
  | broadcast => 4

/-- The cast of a byte that `valid_scope` has let through. -/
def ofUInt8 (value : UInt8) : TargetScope :=
  if value = 1 then endpoint
  else if value = 2 then entity
  else if value = 3 then group
  else broadcast

@[simp] theorem ofUInt8_toUInt8 (s : TargetScope) : ofUInt8 s.toUInt8 = s := by
  cases s <;> rfl

end TargetScope

/-! ### Messages -/

/-- The type of a payload, in a version of its profile. -/
structure TypeRef where
  profileId : Text := []
  major : UInt16 := 0
  minor : UInt16 := 0
  typeName : Text := []
  deriving DecidableEq, Repr, Inhabited

/-- `TypeRef::is_core`. -/
def TypeRef.isCore (t : TypeRef) : Bool := t.profileId == ascii "yunlink.core"

/-- A profile on offer, as it stands in a profile list. -/
structure ProfileDescriptor where
  profileId : Text := []
  major : UInt16 := 0
  minor : UInt16 := 0
  schemaDigest : Text := []
  deriving DecidableEq, Repr, Inhabited

/-- The endpoint that sends, and the entity it speaks for. -/
structure SourceIdentity where
  endpointUid : Text := []
  entityUid : Text := []
  deriving DecidableEq, Repr, Inhabited

/-- Whom a message is for. -/
structure TargetSelector where
  scope : TargetScope := .broadcast
  uids : List Text := []
  deriving DecidableEq, Repr, Inhabited

/-- The key epoch and the tag; the runtime checks neither. -/
structure SecurityContext where
  keyEpoch : UInt32 := 0
  authTag : Bytes := []
  deriving DecidableEq, Repr, Inhabited

/-- `Envelope`, with the defaults of its declaration. -/
structure Envelope where
  protocolMajor : UInt8 := kProtocolMajor
  headerVersion : UInt8 := kHeaderVersion
  flags : UInt16 := 0
  headerLen : UInt16 := 0
  payloadLen : UInt32 := 0
  qosClass : QosClass := .reliableOrdered
  family : MessageFamily := .session
  operation : UInt8 := 0
  schemaVersion : UInt16 := kSchemaVersion
  sessionId : UInt64 := 0
  messageId : UInt64 := 0
  correlationId : UInt64 := 0
  source : SourceIdentity := {}
  target : TargetSelector := {}
  type : TypeRef := {}
  createdAtMs : UInt64 := 0
  ttlMs : UInt32 := 0
  payload : Bytes := []
  security : SecurityContext := {}
  checksum : UInt32 := 0
  deriving DecidableEq, Repr, Inhabited

/-- What `decode` returns. -/
structure DecodeResult where
  code : ErrorCode := .ok
  consumed : ℕ := 0
  envelope : Envelope := {}
  deriving DecidableEq, Repr, Inhabited

namespace TargetSelector

/-- `TargetSelector::endpoint`. -/
def ofEndpoint (uid : Text) : TargetSelector := ⟨.endpoint, [uid]⟩

/-- `TargetSelector::entity`. -/
def ofEntity (uid : Text) : TargetSelector := ⟨.entity, [uid]⟩

/-- `TargetSelector::broadcast`. -/
def broadcast : TargetSelector := {}

/-- Whether the endpoint, one of its entities or one of its groups is addressed. -/
def «matches» (t : TargetSelector) (endpointUid : Text) (entityUids groupUids : List Text) : Bool :=
  if t.scope = .broadcast then t.uids.isEmpty
  else if t.uids.isEmpty then false
  else if t.scope = .endpoint then t.uids.contains endpointUid
  else if t.scope = .entity then t.uids.any fun uid => entityUids.contains uid
  else t.uids.any fun uid => groupUids.contains uid

end TargetSelector

/-! ### Validity -/

/-- `std::isalnum` in the "C" locale. -/
def isAlnum (ch : UInt8) : Bool :=
  (48 ≤ ch && ch ≤ 57) || (65 ≤ ch && ch ≤ 90) || (97 ≤ ch && ch ≤ 122)

/-- Letters, digits, `.`, `_`, `:` and `-`. -/
def isUidChar (ch : UInt8) : Bool :=
  isAlnum ch || ch == 46 || ch == 95 || ch == 58 || ch == 45

/-- `valid_uid`. -/
def validUid (value : Text) : Bool :=
  if value.isEmpty || kMaxUidBytes < value.length then false
  else value.all isUidChar

/-- `valid_profile_id`. -/
def validProfileId (value : Text) : Bool :=
  validUid value && value.length ≤ kMaxProfileIdBytes

/-- `valid_type_ref`. -/
def validTypeRef (value : TypeRef) : Bool :=
  validProfileId value.profileId && !value.typeName.isEmpty &&
    value.typeName.length ≤ kMaxTypeNameBytes && 0 < value.major

theorem length_le_of_validUid {value : Text} (h : validUid value = true) :
    value.length ≤ kMaxUidBytes := by
  unfold validUid at h
  split at h
  · simp at h
  · next hc =>
    simp only [Bool.or_eq_true, decide_eq_true_eq, not_or] at hc
    exact Nat.le_of_not_lt hc.2

end YunLink
