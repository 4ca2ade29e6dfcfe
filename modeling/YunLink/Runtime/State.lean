import Mathlib.Data.List.Lex
import Mathlib.Data.Prod.Lex
import YunLink.Net.SendQueue
import YunLink.Wire.Payload

/-!
# The state of a runtime

`Runtime::Impl` (`runtime_internal.hpp`) with the types of `runtime_v2.hpp`, and
the small operations every part of the runtime uses.  The four maps the runtime
guards with one mutex are fields here, and an operation is a function of the whole
state.  Two of them are hash maps in the source; nothing walks these in an order
that matters, so all four are `SortedMap`s.

The handlers a caller subscribed are outside the model; what they are called with
is the list `events`.  Clock readings come in as a `Clock`.

## Main definitions

* `SessionKey`, `LeaseKey` — the keys of the ordered maps, in the source's order.
* `SessionInfo`, `AuthorityLease`, `RuntimeConfig`, `Impl` — the state.
* `Impl.emit`, `Impl.write` — an event, and a frame handed to a connection.
-/

namespace YunLink

open Words

/-! ### Keys -/

/-- `std::pair<std::string, uint64_t>`: a peer and a session id. -/
structure SessionKey where
  peerId : Text
  sessionId : UInt64
  deriving Repr, Inhabited

/-- Pairs are ordered by their first component, then by their second. -/
instance : LinearOrder SessionKey :=
  LinearOrder.lift' (fun k => toLex (k.peerId, k.sessionId)) fun a b h => by
    cases a
    cases b
    simpa using h

/-- `std::pair<std::string, std::string>`: an entity and an authority scope. -/
structure LeaseKey where
  entityUid : Text
  authorityScope : Text
  deriving Repr, Inhabited

instance : LinearOrder LeaseKey :=
  LinearOrder.lift' (fun k => toLex (k.entityUid, k.authorityScope)) fun a b h => by
    cases a
    cases b
    simpa using h

/-! ### Sessions, leases and the configuration -/

/-- `SessionState`. -/
inductive SessionState
  | handshaking
  | authenticated
  | negotiated
  | active
  | invalid
  | lost
  deriving DecidableEq, Repr, Inhabited

/-- What a runtime keeps of a session. -/
structure SessionInfo where
  sessionId : UInt64 := 0
  peerId : Text := []
  remoteEndpointUid : Text := []
  state : SessionState := .handshaking
  authenticated : Bool := false
  negotiatedProfiles : SortedMap Text ProfileDescriptor := .empty
  rejectedProfiles : List Text := []
  lossyPeerId : Text := []
  deriving DecidableEq, Inhabited

/-- `SessionInfo::supports_profile`. -/
def SessionInfo.supportsProfile (info : SessionInfo) (profileId : Text)
    (major minimumMinor : UInt16) : Bool :=
  match info.negotiatedProfiles.find? profileId with
  | none => false
  | some profile => profile.major = major && minimumMinor ≤ profile.minor

/-- A lease; `expiresAt` is a reading of the steady clock. -/
structure AuthorityLease where
  peerId : Text
  sessionId : UInt64 := 0
  expiresAt : ℕ
  deriving DecidableEq, Repr, Inhabited

/-- The holder of a lease, under the name of the session it belongs to. -/
def AuthorityLease.holder (lease : AuthorityLease) : SessionKey := ⟨lease.peerId, lease.sessionId⟩

/-- The configuration, as far as the runtime reads it. -/
structure RuntimeConfig where
  endpointUid : Text := ascii "yunlink-endpoint"
  /-- The uids of `entities`. -/
  entities : List Text := []
  profiles : List ProfileDescriptor := []
  /-- Stored, and read by nothing. -/
  requiredProfiles : List ProfileDescriptor := []
  groupUids : List Text := []
  actionAuthorityScopeResolver : Option (TypeRef → Text) := none
  sharedSecret : Text := ascii "yunlink-default-secret"
  maxBufferBytesPerPeer : ℕ := 16 * 1024 * 1024 + 65536

/-- `RuntimeEventKind`. -/
inductive RuntimeEventKind
  | envelope
  | link
  | session
  | error
  deriving DecidableEq, Repr, Inhabited

/-- What a handler is called with. -/
structure RuntimeEvent where
  kind : RuntimeEventKind := .envelope
  peer : Peer := {}
  envelope : Envelope := {}
  session : SessionInfo := {}
  error : ErrorCode := .ok
  message : Text := []
  linkUp : Bool := false
  deriving DecidableEq, Inhabited

/-- The readings of the two clocks in one step: milliseconds of the wall clock,
nanoseconds of the steady clock. -/
structure Clock where
  nowMs : UInt64 := 0
  steady : ℕ := 0
  deriving DecidableEq, Repr, Inhabited

/-- `std::chrono::milliseconds`, in ticks of the steady clock. -/
def milliseconds (n : UInt32) : ℕ := n.toNat * 1000000

/-- `Runtime::Impl`: the tables behind the mutex, and the ids to come. -/
structure Impl where
  config : RuntimeConfig := {}
  running : Bool := false
  nextMessageId : UInt64 := 1
  nextSessionId : UInt64 := 1
  connections : SortedMap Text RuntimeConnection := .empty
  sessions : SortedMap SessionKey SessionInfo := .empty
  laneOwner : SortedMap Text SessionKey := .empty
  authorityLeases : SortedMap LeaseKey AuthorityLease := .empty
  /-- Ghost: the events handed to the subscribed handlers. -/
  events : List RuntimeEvent := []

namespace Impl

/-- `runtime_emit`. -/
def emit (impl : Impl) (event : RuntimeEvent) : Impl :=
  { impl with events := impl.events ++ [event] }

/-- `runtime_write` on the connection of a peer, if there is one. -/
def write (impl : Impl) (peerId : Text) (bytes : Bytes) : Impl :=
  -- Queued as ReliableOrdered; a refusal goes unnoticed.
  { impl with
    connections := impl.connections.adjust peerId fun connection =>
      (runtimeEnqueue connection bytes .reliableOrdered [] 0).1 }

/-- `next_message_id.fetch_add(1)`, with the id it returns. -/
def takeMessageId (impl : Impl) : Impl × UInt64 :=
  ({ impl with nextMessageId := impl.nextMessageId + 1 }, impl.nextMessageId)

end Impl

end YunLink
