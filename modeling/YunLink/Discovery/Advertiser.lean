import Mathlib.Data.List.Destutter
import Mathlib.Data.List.Sort
import YunLink.Discovery.RoundTrip
import YunLink.Lib.Reactive

/-!
# The discovery advertiser

`DiscoveryAdvertiser` (`discovery_v2_advertiser.cpp`): a thread that answers discovery
queries, and joins the multicast group on the interfaces of the host.  Its owner may
call `start`, `stop` and `set_advertisement` meanwhile.

An action is what happens between two points at which the thread or a caller can be held
up, so a run is any interleaving of them.  The section that the mutex guards is one
action, and `stop` is two: it closes the socket, and it comes back when the thread is
through.  What sockets and clocks answer is part of the action.

## Main definitions

* `Address`, `Remote` — addresses, and their texts.
* `Network`, `multicastInterfaces` — the interfaces of the host, and joining them.
* `Advertiser` — `DiscoveryAdvertiser::Impl`, with the place its thread is at.
* `Advertiser.refreshMulticast` — the pass over the interfaces.
* `Advertiser.step` — one action.
-/

namespace YunLink.Discovery

/-! ### Addresses -/

/-- `asio::ip::address_v4`. -/
structure Address where
  value : UInt32
  deriving DecidableEq, Repr, Inhabited

namespace Address

instance : LinearOrder Address :=
  LinearOrder.lift' (fun a => a.value.toNat) fun a b h => by
    cases a
    cases b
    exact congrArg mk (UInt32.toNat_inj.mp h)

/-- `0.0.0.0`. -/
def any : Address := ⟨0⟩

/-- The octet that the shift brings to the end. -/
def octet (shift : UInt32) (address : Address) : UInt8 := (address.value >>> shift).toUInt8

/-- The decimal digits of an octet. -/
def octetText (octet : UInt8) : Text :=
  (Nat.toDigits 10 octet.toNat).map fun digit => UInt8.ofNat digit.toNat

/-- `address_v4::to_string`. -/
def toText (address : Address) : Text :=
  octetText (address.octet 24) ++ '.'.toUInt8 :: octetText (address.octet 16) ++
    '.'.toUInt8 :: octetText (address.octet 8) ++ '.'.toUInt8 :: octetText (address.octet 0)

end Address

/-- `asio::ip::udp::endpoint`. -/
structure Remote where
  address : Address
  port : UInt16
  deriving DecidableEq, Repr, Inhabited

/-! ### Interfaces -/

/-- An entry of the list that `getifaddrs` makes. -/
structure InterfaceEntry where
  /-- The address of the entry, where it has one of the family `AF_INET`. -/
  ifaAddr : Option Address
  up : Bool
  multicast : Bool
  deriving Repr, Inhabited

/-- What `set_option` answers to `join_group`. -/
inductive JoinResult
  | joined
  | addressInUse (message : Text)
  | failed (message : Text)
  deriving DecidableEq, Repr, Inhabited

/-- What the host answers during a pass over its interfaces. -/
structure Network where
  /-- The list of `getifaddrs`, unless that fails. -/
  interfaces : Option (List InterfaceEntry)
  joinGroup : Address → JoinResult

/-- The address of an entry that the loop of `multicast_interfaces` keeps. -/
def InterfaceEntry.keep (entry : InterfaceEntry) : Option Address :=
  if entry.up && entry.multicast then entry.ifaAddr else none

/-- `multicast_interfaces`: in order, each address once. -/
def multicastInterfaces (network : Network) : List Address :=
  match network.interfaces with
  | none => []
  | some entries =>
      ((entries.filterMap InterfaceEntry.keep).insertionSort (· ≤ ·)).destutter (· ≠ ·)

/-! ### Events -/

/-- `DiscoveryAdvertiserEventKind`. -/
inductive DiscoveryAdvertiserEventKind
  | queryReceived
  | replySent
  | rejected
  | receiveError
  | sendError
  | multicastJoinFailed
  | multicastJoined
  | multicastLeft
  deriving DecidableEq, Repr, Inhabited

/-- What the handler is called with. -/
structure DiscoveryAdvertiserEvent where
  kind : DiscoveryAdvertiserEventKind := .queryReceived
  remoteIp : Text := []
  remotePort : UInt16 := 0
  error : ErrorCode := .ok
  detail : Text := []
  deriving DecidableEq, Repr, Inhabited

/-- The event `emit` builds. -/
def eventOf (kind : DiscoveryAdvertiserEventKind) (remote : Remote) (error : ErrorCode)
    (detail : Text := []) : DiscoveryAdvertiserEvent where
  kind
  remoteIp := remote.address.toText
  remotePort := remote.port
  error
  detail

/-! ### The state -/

/-- Where the thread is. -/
inductive Thread
  /-- There is no thread to join. -/
  | absent
  /-- In front of the first pass over the interfaces. -/
  | starting
  /-- At the head of the loop. -/
  | looping
  /-- At `receive_from`. -/
  | receiving
  /-- In front of the section that the mutex guards. -/
  | received (remote : Remote) (request : Bytes) (query : DiscoveryQuery)
  /-- Behind it, with the copy of the advertisement to send. -/
  | replying (remote : Remote) (query : DiscoveryQuery) (advertisement : DiscoveryAdvertisement)
  /-- Through with the loop. -/
  | finished
  deriving Inhabited

/-- `DiscoveryAdvertiser::Impl`. -/
structure Advertiser where
  running : Bool := false
  thread : Thread := .absent
  advertisement : DiscoveryAdvertisement := {}
  sharedSecret : Text := []
  /-- Whether there is an event handler. -/
  eventHandler : Bool := false
  multicastMemberships : SortedMap Address Bool := .empty
  reportedMissingMulticastInterface : Bool := false
  deriving Inhabited

/-- What comes out of the advertiser. -/
inductive Output
  /-- The event handler is called. -/
  | event (event : DiscoveryAdvertiserEvent)
  /-- A datagram goes out. -/
  | sent (remote : Remote) (bytes : Bytes)
  /-- `start` returns. -/
  | started (result : ErrorCode)
  deriving DecidableEq

/-- What happens next. -/
inductive Action
  /-- A call of `start`.  The clock reads `now`, and the socket may fail to open. -/
  | start (bindPort : UInt16) (advertisement : DiscoveryAdvertisement) (sharedSecret : Text)
      (eventHandler : Bool) (now : UInt64) (socketError : Bool)
  | setAdvertisement (advertisement : DiscoveryAdvertisement)
  /-- A call of `stop` sets `running`, closes the socket and waits for the thread. -/
  | stop
  /-- `stop` has joined the thread. -/
  | stopped
  /-- The thread makes its first pass over the interfaces. -/
  | firstRefresh (network : Network)
  /-- The thread is at the head of its loop; when five seconds are over, it makes a pass. -/
  | turn (refresh : Option Network)
  | wouldBlock
  | receiveError (remote : Remote)
  | datagram (remote : Remote) (bytes : Bytes)
  /-- The section that the mutex guards. -/
  | count
  | send (error : Bool)

namespace Advertiser

/-- `emit`. -/
def emit (impl : Advertiser) (events : List DiscoveryAdvertiserEvent) : List Output :=
  if impl.eventHandler then events.map Output.event else []

/-! ### Multicast memberships -/

/-- The text of the report that there is no interface. -/
def noInterface : Text := ascii "no multicast-capable IPv4 interface"

/-- The report of `refresh_multicast` that there is no interface, and its flag. -/
def reportMissing (interfaces : List Address) (reported : Bool) :
    Bool × List DiscoveryAdvertiserEvent :=
  if interfaces.isEmpty && !reported then
    (true, [eventOf .multicastJoinFailed ⟨.any, 0⟩ .internal noInterface])
  else if !interfaces.isEmpty then (false, [])
  else (reported, [])

/-- The loop of `refresh_multicast` over the memberships: the interfaces that are gone. -/
def leaveGone (interfaces : List Address) (memberships : SortedMap Address Bool) :
    SortedMap Address Bool × List DiscoveryAdvertiserEvent :=
  (memberships.eraseIf fun address _ => !interfaces.contains address,
    (memberships.entries.filter fun entry => !interfaces.contains entry.1 && entry.2).map
      fun entry => eventOf .multicastLeft ⟨entry.1, 0⟩ .ok)

/-- One pass of the loop of `refresh_multicast` over the interfaces. -/
def join (result : JoinResult) (address : Address) (memberships : SortedMap Address Bool) :
    SortedMap Address Bool × List DiscoveryAdvertiserEvent :=
  let known := memberships.find? address
  let wasHealthy := known == some true
  match result with
  | .joined =>
      (memberships.insert address true,
        if !wasHealthy then [eventOf .multicastJoined ⟨address, 0⟩ .ok] else [])
  | .addressInUse message =>
      -- The kernel says so of every group that the socket is in already.
      if wasHealthy then (memberships, [])
      else (memberships.insert address false,
        if known.isNone then [eventOf .multicastJoinFailed ⟨address, 0⟩ .internal message] else [])
  | .failed message =>
      (memberships.insert address false,
        if known.isNone || wasHealthy then
          [eventOf .multicastJoinFailed ⟨address, 0⟩ .internal message]
        else [])

/-- The loop of `refresh_multicast` over the interfaces. -/
def joinAll (joinGroup : Address → JoinResult) :
    List Address → SortedMap Address Bool → SortedMap Address Bool × List DiscoveryAdvertiserEvent
  | [], memberships => (memberships, [])
  | address :: rest, memberships =>
      let (joined, events) := join (joinGroup address) address memberships
      let (memberships, later) := joinAll joinGroup rest joined
      (memberships, events ++ later)

/-- `refresh_multicast`. -/
def refreshMulticast (network : Network) (impl : Advertiser) : Advertiser × List Output :=
  let interfaces := multicastInterfaces network
  let (reported, missing) := reportMissing interfaces impl.reportedMissingMulticastInterface
  let (kept, left) := leaveGone interfaces impl.multicastMemberships
  let (memberships, joined) := joinAll network.joinGroup interfaces kept
  ({ impl with
      multicastMemberships := memberships
      reportedMissingMulticastInterface := reported },
    impl.emit (missing ++ left ++ joined))

/-! ### The owner's calls -/

/-- What `start` takes down before it opens the socket. -/
def accept (advertisement : DiscoveryAdvertisement) (sharedSecret : Text) (eventHandler : Bool)
    (now : UInt64) (impl : Advertiser) : Advertiser :=
  { impl with
    advertisement := { advertisement with
      startedAtMs := if advertisement.startedAtMs == 0 then now else advertisement.startedAtMs }
    sharedSecret, eventHandler }

/-- `start`; `socketError` is whether setting up the socket fails. -/
def start (bindPort : UInt16) (advertisement : DiscoveryAdvertisement) (sharedSecret : Text)
    (eventHandler : Bool) (now : UInt64) (socketError : Bool) (impl : Advertiser) :
    Advertiser × ErrorCode :=
  if impl.running || bindPort == 0 || !validAdvertisement advertisement then
    (impl, .invalidArgument)
  else
    let impl := impl.accept advertisement sharedSecret eventHandler now
    if socketError then (impl, .internal)
    else ({ impl with multicastMemberships := .empty, running := true, thread := .starting }, .ok)

/-- The advertisement that `set_advertisement` puts in the place of another. -/
def replace (held advertisement : DiscoveryAdvertisement) : DiscoveryAdvertisement :=
  if !validAdvertisement advertisement then held
  else { advertisement with
    startedAtMs :=
      if advertisement.startedAtMs == 0 then held.startedAtMs else advertisement.startedAtMs
    sequence := held.sequence }

/-- `set_advertisement`. -/
def setAdvertisement (advertisement : DiscoveryAdvertisement) (impl : Advertiser) : Advertiser :=
  { impl with advertisement := replace impl.advertisement advertisement }

/-- What `stop` does once there is no thread any more. -/
def clear (impl : Advertiser) : Advertiser :=
  { impl with
    thread := .absent
    multicastMemberships := .empty
    reportedMissingMulticastInterface := false }

/-! ### The thread -/

/-- The size of the buffer that `receive_from` fills. -/
def bufferSize : ℕ := 1024

/-- What the thread makes of a datagram it has received. -/
def receive (remote : Remote) (bytes : Bytes) (impl : Advertiser) : Advertiser × List Output :=
  let request := bytes.take bufferSize
  match decodeDiscoveryQuery request impl.sharedSecret with
  | none => ({ impl with thread := .looping }, impl.emit [eventOf .rejected remote .unauthorized])
  | some query =>
      ({ impl with thread := .received remote request query },
        impl.emit [eventOf .queryReceived remote .ok])

/-- An advertisement with the next sequence number. -/
def next (advertisement : DiscoveryAdvertisement) : DiscoveryAdvertisement :=
  { advertisement with sequence := advertisement.sequence + 1 }

/-- The reply, and its way out. -/
def sendReply (remote : Remote) (query : DiscoveryQuery) (advertisement : DiscoveryAdvertisement)
    (error : Bool) (impl : Advertiser) : List Output :=
  let reply := encodeDiscoveryReply query advertisement impl.sharedSecret
  if reply.isEmpty then impl.emit [eventOf .sendError remote .encodeError]
  else if error then impl.emit [eventOf .sendError remote .internal]
  else .sent remote reply :: impl.emit [eventOf .replySent remote .ok]

/-- One action.  One that the thread is not at does nothing. -/
def step (impl : Advertiser) : Action → Advertiser × List Output
  | .start bindPort advertisement sharedSecret eventHandler now socketError =>
      match impl.thread with
      | .absent =>
          let (impl, result) :=
            impl.start bindPort advertisement sharedSecret eventHandler now socketError
          (impl, [.started result])
      | _ => (impl, if impl.running then [.started .invalidArgument] else [])
  | .setAdvertisement advertisement => (impl.setAdvertisement advertisement, [])
  | .stop =>
      match impl.thread with
      | .absent => ({ impl with running := false }.clear, [])
      | _ => ({ impl with running := false }, [])
  | .stopped =>
      match impl.thread with
      | .finished => (impl.clear, [])
      | _ => (impl, [])
  | .firstRefresh network =>
      match impl.thread with
      | .starting => { impl with thread := .looping }.refreshMulticast network
      | _ => (impl, [])
  | .turn refresh =>
      match impl.thread with
      | .looping =>
          if !impl.running then ({ impl with thread := .finished }, [])
          else
            match refresh with
            | none => ({ impl with thread := .receiving }, [])
            | some network => { impl with thread := .receiving }.refreshMulticast network
      | _ => (impl, [])
  | .wouldBlock =>
      match impl.thread with
      | .receiving => ({ impl with thread := .looping }, [])
      | _ => (impl, [])
  | .receiveError remote =>
      match impl.thread with
      | .receiving =>
          ({ impl with thread := .looping },
            if impl.running then impl.emit [eventOf .receiveError remote .internal] else [])
      | _ => (impl, [])
  | .datagram remote bytes =>
      match impl.thread with
      | .receiving => impl.receive remote bytes
      | _ => (impl, [])
  | .count =>
      match impl.thread with
      | .received remote _ query =>
          let advertisement := next impl.advertisement
          ({ impl with advertisement, thread := .replying remote query advertisement }, [])
      | _ => (impl, [])
  | .send error =>
      match impl.thread with
      | .replying remote query advertisement =>
          ({ impl with thread := .looping }, impl.sendReply remote query advertisement error)
      | _ => (impl, [])

end Advertiser

end YunLink.Discovery
