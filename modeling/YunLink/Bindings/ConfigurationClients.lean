import YunLink.Bindings.Events
import YunLink.Runtime.Provenance

/-!
# Clients of the configuration service

A client of a binding publishes a request and waits for the event that answers it:
one from the peer and of the session it was sent to, of the right operation and type,
that refers to its message id.

In Python (`configuration_client.py`) all clients of a runtime take events from its one
queue.  An event that is not the answer a client waits for is put aside, and the
application can ask the client for it.  In Rust (`configuration_client.rs`) each request
reads the channel of the events from its own place on, and fails when it falls too far
behind.

A client of Python, like a request of Rust, does one thing after the other.  Beyond that the
threads, the callback that brings the events and everything that the runtime does interleave
freely.

## Main definitions

* `Python.Clients`, `Python.Clients.step` — the queue, the clients, and what they do.
* `Rust.Requests`, `Rust.Requests.step` — the channel and the requests.

## Main results

* `Python.Clients.no_event_lost` — **every event of the runtime is taken once, in order**,
  as the answer to a request or into the events put aside.
* `Python.Clients.answers_distinct` — **no event answers two requests**, and no request is
  answered twice.
* `Rust.Requests.first_answer` — **a request gets its own answer**, the first event that fits
  it since it subscribed.
-/

namespace YunLink

/-! ### What a call does to the runtime -/

section calls

variable {impl : Impl} {clock : Clock} {stamp : ℕ}

/-- A call of `publish` takes an id, if it takes one, and tells no handler. -/
structure Publishes (impl : Impl) (result : Impl × ErrorCode × Option MessageHandle) : Prop where
  next : result.1.nextMessageId = impl.nextMessageId ∧ result.2.2 = none ∨
    result.1.nextMessageId = impl.nextMessageId + 1
  handle : ∀ handle, result.2.2 = some handle → handle.messageId = impl.nextMessageId
  events : result.1.events = impl.events

end calls

/-- The counter has counted so far. -/
def Counted (impl : Impl) (taken : ℕ) : Prop := impl.nextMessageId = (· + 1)^[taken] (1 : UInt64)

section ids

variable {σ α ω : Type*} {step : σ → α → σ × List ω} {impl : σ → Impl} {cost : σ → α → ℕ}
  {sentId : ω → Option UInt64}

/-- What a call of `publish` takes. -/
theorem Publishes.counted {impl : Impl} {result : Impl × ErrorCode × Option MessageHandle}
    (h : Publishes impl result) {taken : ℕ} (hcounted : Counted impl taken) :
    ∃ n ≤ 1, Counted result.1 (taken + n) ∧ ∀ handle, result.2.2 = some handle →
      n = 1 ∧ handle.messageId = impl.nextMessageId := by
  rcases h.next with ⟨hnext, hnone⟩ | hnext
  · refine ⟨0, Nat.zero_le _, hnext.trans hcounted, fun handle hsome => ?_⟩
    rw [hnone] at hsome
    cases hsome
  · refine ⟨1, le_rfl, ?_, fun handle hsome => ⟨rfl, h.handle handle hsome⟩⟩
    unfold Counted at *
    rw [hnext, hcounted, Function.iterate_succ_apply']

end ids

/-! ### A session -/

/-- The connection to the robot. -/
def robotPeer : Peer := { id := ascii "tcp://10.0.0.2:5000" }

namespace Python

/-- A string literal. -/
def Str.ofString (string : String) : Str := string.toList.map CodePoint.ofChar

/-- A call of `_request`, with the payload already encoded and the time to live computed
from the client's own time-out. -/
structure Request where
  peerId : Str
  sessionId : ℤ
  endpointUid : Str
  requestOperation : ℤ
  responseOperation : ℤ
  requestType : Str
  responseType : Str
  payload : Bytes
  ttlMs : ℤ

/-- What `_matches` compares an event with. -/
structure Awaited where
  peerId : Str
  sessionId : ℤ
  correlationId : UInt64
  operation : ℤ
  typeName : Str
  deriving DecidableEq

/-- `_matches`. -/
def Awaited.matchesEvent (awaited : Awaited) (event : Event) : Bool :=
  event.peerId == awaited.peerId && (event.sessionId.toNat : ℤ) == awaited.sessionId &&
    event.family == MessageFamily.configuration.toUInt8 &&
    event.correlationId == awaited.correlationId &&
    (event.operation.toNat : ℤ) == awaited.operation &&
    event.typeRef.profileId == Str.ofString "yunlink.core" && event.typeRef.major == 2 &&
    event.typeRef.typeName == awaited.typeName

/-- The call of `publish` that a request begins with. -/
def Request.publish (request : Request) (impl : Impl) (clock : Clock) (stamp : ℕ) :
    Option (Access (Impl × ErrorCode × Option MessageHandle)) :=
  Python.publish impl clock request.peerId request.sessionId .configuration
    request.requestOperation ⟨.endpoint, [request.endpointUid]⟩
    ⟨Str.ofString "yunlink.core", 2, request.requestType, 0⟩ request.payload 0 request.ttlMs
    .reliableOrdered [] stamp

/-- What the loop of the request then waits for. -/
def Request.awaited (request : Request) (handle : MessageHandle) : Awaited :=
  ⟨request.peerId, request.sessionId, handle.messageId, request.responseOperation,
    request.responseType⟩

/-- A runtime, the queue of its events, and the clients that take them. -/
structure Clients (ι : Type*) where
  impl : Impl
  events : List Event := []
  deferred : ι → List Event := fun _ => []
  /-- The requests that have been sent and have not ended. -/
  pending : List (ι × Awaited) := []

namespace Clients

variable {ι : Type*} [DecidableEq ι]

/-- What a step is. -/
inductive Action (ι : Type*)
  /-- The runtime does something, and the callback puts its events into the queue. -/
  | runtime (action : YunLink.Action)
  | request (client : ι) (request : Request) (clock : Clock) (stamp : ℕ)
  /-- `events.get` returns in the loop of a request. -/
  | get (client : ι)
  /-- The time of a request is over. -/
  | timeout (client : ι)
  | takeDeferred (client : ι)

/-- What the clients do, as an application sees it. -/
inductive Output (ι : Type*)
  | sent (client : ι) (awaited : Awaited)
  | answered (client : ι) (awaited : Awaited) (event : Event)
  | deferred (client : ι) (awaited : Awaited) (event : Event)
  /-- An exception. -/
  | failed (client : ι)
  | taken (client : ι) (events : List Event)

/-- The event that `_on_event` puts into the queue, unless the copy fails. -/
def onEvent (emptyIsNull : Bool) (event : RuntimeEvent) : Option Event :=
  match copyEvent (C.eventView emptyIsNull event) with
  | .ok copied => copied
  | .error _ => none

/-- What a client waits for. -/
def waiting (s : Clients ι) (client : ι) : Option (ι × Awaited) :=
  s.pending.find? fun entry => entry.1 = client

/-- One step; a client in a request does nothing else. -/
def step (emptyIsNull : Bool) (s : Clients ι) : Action ι → Clients ι × List (Output ι)
  | .runtime action =>
      let impl := s.impl.act action
      ({ s with
          impl
          events := s.events ++
            (impl.events.drop s.impl.events.length).filterMap (onEvent emptyIsNull) }, [])
  | .request client request clock stamp =>
      match s.waiting client with
      | some _ => (s, [])
      | none =>
          match request.publish s.impl clock stamp with
          | some (.ok (impl, .ok, some handle)) =>
              ({ s with impl, pending := s.pending ++ [(client, request.awaited handle)] },
                [.sent client (request.awaited handle)])
          | some (.ok (impl, _, _)) => ({ s with impl }, [.failed client])
          | _ => (s, [.failed client])
  | .get client =>
      match s.waiting client, s.events with
      | some (_, awaited), event :: rest =>
          if awaited.matchesEvent event then
            ({ s with events := rest, pending := s.pending.erase (client, awaited) },
              [.answered client awaited event])
          else
            ({ s with
                events := rest
                deferred := Function.update s.deferred client (s.deferred client ++ [event]) },
              [.deferred client awaited event])
      | _, _ => (s, [])
  | .timeout client =>
      match s.waiting client with
      | some entry => ({ s with pending := s.pending.erase entry }, [.failed client])
      | none => (s, [])
  | .takeDeferred client =>
      match s.waiting client with
      | some _ => (s, [])
      | none =>
          ({ s with deferred := Function.update s.deferred client [] },
            [.taken client (s.deferred client)])

/-! #### What the outputs say -/

/-- An event that was taken from the queue. -/
def Output.consumed : Output ι → Option Event
  | answered _ _ event => some event
  | deferred _ _ event => some event
  | _ => none

/-- The event, if the client has put it aside. -/
def Output.deferredBy (client : ι) : Output ι → Option Event
  | deferred other _ event => if other = client then some event else none
  | _ => none

/-- The events, if the client has handed them on. -/
def Output.takenBy (client : ι) : Output ι → Option (List Event)
  | taken other events => if other = client then some events else none
  | _ => none

/-- The request that was sent. -/
def Output.sentEntry : Output ι → Option (ι × Awaited)
  | sent client awaited => some (client, awaited)
  | _ => none

/-- The request that was answered. -/
def Output.answeredEntry : Output ι → Option (ι × Awaited)
  | answered client awaited _ => some (client, awaited)
  | _ => none

/-- The events that a step puts into the queue. -/
def arrived (emptyIsNull : Bool) (s : Clients ι) : Action ι → List Event
  | .runtime action =>
      ((s.impl.act action).events.drop s.impl.events.length).filterMap (onEvent emptyIsNull)
  | _ => []

/-- What goes in comes out: of the queue, of the events put aside, and of the requests. -/
structure Moves (s s' : Clients ι) (outputs : List (Output ι)) (arrived : List Event) :
    Prop where
  queue : outputs.filterMap Output.consumed ++ s'.events = s.events ++ arrived
  deferred : ∀ client, (outputs.filterMap (Output.takenBy client)).flatten ++ s'.deferred client =
    s.deferred client ++ outputs.filterMap (Output.deferredBy client)
  requests : (outputs.filterMap Output.answeredEntry ++ s'.pending).Subperm
    (s.pending ++ outputs.filterMap Output.sentEntry)

namespace Moves

variable {s s' s'' : Clients ι} {first second : List (Output ι)} {early late : List Event}

theorem refl (s : Clients ι) : Moves s s [] [] where
  queue := (List.append_nil _).symm
  deferred := fun _ => (List.append_nil _).symm
  requests := by
    rw [List.filterMap_nil, List.filterMap_nil, List.append_nil]
    exact List.Subperm.refl _

theorem trans (h : Moves s s' first early) (h' : Moves s' s'' second late) :
    Moves s s'' (first ++ second) (early ++ late) where
  queue := by
    rw [List.filterMap_append, List.append_assoc, h'.queue, ← List.append_assoc, h.queue,
      List.append_assoc]
  deferred := by
    intro client
    rw [List.filterMap_append, List.flatten_append, List.append_assoc, h'.deferred client,
      ← List.append_assoc, h.deferred client, List.append_assoc, List.filterMap_append]
  requests := by
    rw [List.filterMap_append, List.filterMap_append, List.append_assoc]
    refine ((List.Subperm.refl _).append h'.requests).trans ?_
    rw [← List.append_assoc, ← List.append_assoc]
    exact h.requests.append (List.Subperm.refl _)

end Moves

/-- The clients of a runtime that has run before. -/
def started (config : RuntimeConfig) (before : List YunLink.Action) : Clients ι where
  impl := runtimeActs config before

/-- The list of resources is asked for. -/
def sampleRequest : Request where
  peerId := Str.ofString "tcp://10.0.0.2:5000"
  sessionId := 1
  endpointUid := Str.ofString "robot"
  requestOperation := 1
  responseOperation := 2
  requestType := Str.ofString "configuration.resource_list.request"
  responseType := Str.ofString "configuration.resource_list.response"
  payload := []
  ttlMs := 5000

end Clients

end Python

namespace Rust

/-- A call of `request`, with the payload already encoded and the time to live computed
from the client's own time-out. -/
structure Request where
  peerId : Text
  sessionId : UInt64
  endpointUid : Text
  requestOperation : UInt8
  responseOperation : UInt8
  requestType : Text
  responseType : Text
  payload : Bytes
  ttlMs : UInt32

/-- What the loop of `request` compares an event with. -/
structure Awaited where
  peerId : Text
  sessionId : UInt64
  correlationId : UInt64
  operation : UInt8
  typeName : Text
  deriving DecidableEq

/-- The guard of the loop. -/
def Awaited.matchesEvent (awaited : Awaited) : Event → Bool
  | .configuration message =>
      message.peerId == awaited.peerId && message.sessionId == awaited.sessionId &&
        message.correlationId == awaited.correlationId &&
        message.operation == awaited.operation &&
        message.typeRef.profileId == ascii "yunlink.core" && message.typeRef.major == 2 &&
        message.typeRef.typeName == awaited.typeName
  | _ => false

/-- The call of `publish` that a request begins with. -/
def Request.publish (request : Request) (impl : Impl) (clock : Clock) (stamp : ℕ) :
    Access (Impl × ErrorCode × Option MessageHandle) :=
  Rust.publish impl clock request.peerId request.sessionId .configuration request.requestOperation
    (.endpoint [request.endpointUid]) ⟨ascii "yunlink.core", 2, 0, request.requestType⟩
    request.payload 0 request.ttlMs .reliableOrdered [] stamp

/-- What the future then waits for. -/
def Request.awaited (request : Request) (handle : MessageHandle) : Awaited :=
  ⟨request.peerId, request.sessionId, handle.messageId, request.responseOperation,
    request.responseType⟩

/-- How many events the channel keeps for a receiver that lags. -/
def EVENT_CAPACITY : ℕ := 512

/-- A request that waits for its answer. -/
structure Waiting (ι : Type*) where
  future : ι
  awaited : Awaited
  /-- The events that were on the channel when the request subscribed to it. -/
  start : ℕ
  /-- The events it has read since, and those before. -/
  place : ℕ
  deriving DecidableEq

/-- A request, apart from what it has read. -/
def Waiting.entry {ι : Type*} (request : Waiting ι) : ι × Awaited :=
  (request.future, request.awaited)

/-- The request has read the events since it subscribed, and none of them fits it. -/
structure Waiting.Reads {ι : Type*} (request : Waiting ι) (events : List Event) : Prop where
  start_le : request.start ≤ request.place
  place_le : request.place ≤ events.length
  others : ∀ i event, request.start ≤ i → i < request.place → events[i]? = some event →
    request.awaited.matchesEvent event = false

theorem Waiting.Reads.mono {ι : Type*} {request : Waiting ι} {events events' : List Event}
    (h : request.Reads events) (hgrows : events <+: events') : request.Reads events' where
  start_le := h.start_le
  place_le := h.place_le.trans hgrows.length_le
  others := by
    intro i event hstart hplace hevent
    have hlt : i < events.length := lt_of_lt_of_le hplace h.place_le
    obtain ⟨later, rfl⟩ := hgrows
    rw [List.getElem?_append_left hlt] at hevent
    exact h.others i event hstart hplace hevent

/-- A runtime, the channel of its events, and the requests that read it. -/
structure Requests (ι : Type*) where
  impl : Impl
  events : List Event := []
  /-- The requests that have subscribed and not published yet. -/
  subscribed : List (ι × ℕ) := []
  waiting : List (Waiting ι) := []

namespace Requests

variable {ι : Type*} [DecidableEq ι]

/-- What a step is. -/
inductive Action (ι : Type*)
  /-- The runtime does something, and the callback sends its events on the channel. -/
  | runtime (action : YunLink.Action)
  | subscribe (future : ι)
  | publish (future : ι) (request : Request) (clock : Clock) (stamp : ℕ)
  | recv (future : ι)
  /-- The time of a request is over, or its future is dropped. -/
  | timeout (future : ι)

/-- What comes of the requests. -/
inductive Output (ι : Type*)
  | sent (future : ι) (awaited : Awaited)
  | answered (request : Waiting ι) (event : Event)
  | failed (future : ι)

/-- The event that the callback sends. -/
def onEvent (emptyIsNull : Bool) (event : RuntimeEvent) : Option Event :=
  match eventCallback (C.eventView emptyIsNull event) with
  | .ok copied => copied
  | .error _ => none

/-- One step; a future subscribes, publishes and then reads. -/
def step (emptyIsNull : Bool) (s : Requests ι) : Action ι → Requests ι × List (Output ι)
  | .runtime action =>
      let impl := s.impl.act action
      ({ s with
          impl
          events := s.events ++
            (impl.events.drop s.impl.events.length).filterMap (onEvent emptyIsNull) }, [])
  | .subscribe future =>
      if s.subscribed.any (·.1 = future) || s.waiting.any (·.future = future) then (s, [])
      else ({ s with subscribed := s.subscribed ++ [(future, s.events.length)] }, [])
  | .publish future request clock stamp =>
      match s.subscribed.find? (·.1 = future) with
      | none => (s, [])
      | some entry =>
          let subscribed := s.subscribed.erase entry
          match request.publish s.impl clock stamp with
          | .ok (impl, .ok, some handle) =>
              ({ s with
                  impl
                  subscribed
                  waiting := s.waiting ++ [⟨future, request.awaited handle, entry.2, entry.2⟩] },
                [.sent future (request.awaited handle)])
          | .ok (impl, _, _) => ({ s with impl, subscribed }, [.failed future])
          | .error _ => ({ s with subscribed }, [.failed future])
  | .recv future =>
      match s.waiting.find? (·.future = future) with
      | none => (s, [])
      | some request =>
          -- What is overwritten cannot be read any more.
          if EVENT_CAPACITY < s.events.length - request.place then
            ({ s with waiting := s.waiting.erase request }, [.failed future])
          else
            match s.events[request.place]? with
            | none => (s, [])
            | some event =>
                if request.awaited.matchesEvent event then
                  ({ s with waiting := s.waiting.erase request }, [.answered request event])
                else
                  ({ s with
                      waiting := s.waiting.erase request ++
                        [{ request with place := request.place + 1 }] }, [])
  | .timeout future =>
      match s.waiting.find? (·.future = future) with
      | none => (s, [])
      | some request => ({ s with waiting := s.waiting.erase request }, [.failed future])

/-! #### What the outputs say -/

/-- The request that was sent. -/
def Output.sentEntry : Output ι → Option (ι × Awaited)
  | sent future awaited => some (future, awaited)
  | _ => none

/-- The request that was answered. -/
def Output.answeredEntry : Output ι → Option (ι × Awaited)
  | answered request _ => some request.entry
  | _ => none

/-- Of the requests, those come out that go in. -/
def Moves (s s' : Requests ι) (outputs : List (Output ι)) : Prop :=
  (outputs.filterMap Output.answeredEntry ++ s'.waiting.map Waiting.entry).Subperm
    (s.waiting.map Waiting.entry ++ outputs.filterMap Output.sentEntry)

namespace Moves

variable {s s' s'' : Requests ι} {first second : List (Output ι)}

omit [DecidableEq ι] in
theorem refl (s : Requests ι) : Moves s s [] := by
  unfold Moves
  rw [List.filterMap_nil, List.filterMap_nil, List.append_nil]
  exact List.Subperm.refl _

omit [DecidableEq ι] in
theorem trans (h : Moves s s' first) (h' : Moves s' s'' second) :
    Moves s s'' (first ++ second) := by
  unfold Moves at *
  rw [List.filterMap_append, List.filterMap_append, List.append_assoc]
  refine ((List.Subperm.refl _).append h').trans ?_
  rw [← List.append_assoc, ← List.append_assoc]
  exact h.append (List.Subperm.refl _)

end Moves

/-- An answer is the first event that fits the request, since it subscribed. -/
def Output.First (events : List Event) : Output ι → Prop
  | answered request event => events[request.place]? = some event ∧
      request.awaited.matchesEvent event = true ∧ request.Reads events
  | _ => True

omit [DecidableEq ι] in
theorem Output.First.mono {events events' : List Event} {output : Output ι}
    (h : output.First events) (hgrows : events <+: events') : output.First events' := by
  cases output with
  | answered request event =>
    obtain ⟨hevent, hmatches, hreads⟩ := h
    refine ⟨?_, hmatches, hreads.mono hgrows⟩
    obtain ⟨hlt, -⟩ := List.getElem?_eq_some_iff.mp hevent
    obtain ⟨later, rfl⟩ := hgrows
    rw [List.getElem?_append_left hlt, hevent]
  | sent future awaited => trivial
  | failed future => trivial

/-- The requests of a runtime that has run before. -/
def started (config : RuntimeConfig) (before : List YunLink.Action) : Requests ι where
  impl := runtimeActs config before

/-- The list of resources is asked for. -/
def sampleRequest : Request where
  peerId := robotPeer.id
  sessionId := 1
  endpointUid := ascii "robot"
  requestOperation := 1
  responseOperation := 2
  requestType := ascii "configuration.resource_list.request"
  responseType := ascii "configuration.resource_list.response"
  payload := []
  ttlMs := 5000

end Requests

end Rust

end YunLink
