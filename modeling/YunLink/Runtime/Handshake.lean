import YunLink.Runtime.Negotiation

/-!
# The handshake

`open_session` sends four messages in one go, and the other end answers the last two
of them.  A message with correlation id 0 asks for an answer and an answer carries the
id of what it answers, so answers are not answered again.

The two ends are put together here with a link in each direction: what one end writes
arrives at the other in the same order and without loss, and the two directions are
delivered in any interleaving.  Send queues and receive buffers belong to the link.

## Main definitions

* `openMessages`, `sessionReplies` — what the two functions send.
* `Link`, `Link.step`, `Delivery` — two runtimes and the frames under way.
* `Carries` — what a frame brings.
* `Phase` — how far the handshake has come: messages and answers handled so far.

## Main results

* `openSession_eq`, `handleSession_eq` — the messages are what the functions write.
* `phase_step` — one delivery.
* `handshake_outcome` — **with equal secrets both ends become active, with different
  ones neither does.**
-/

namespace YunLink

/-! ### What is sent -/

/-- The messages of `open_session`. -/
def openMessages (config : RuntimeConfig) (clock : Clock) (messageId sessionId : UInt64) :
    List Envelope :=
  [sessionEnvelope config clock messageId sessionId SessionOperation.hello "session.hello"
      (encodeText config.endpointUid) 0,
    sessionEnvelope config clock (messageId + 1) sessionId SessionOperation.authenticate
      "session.authenticate" (encodeText config.sharedSecret) 0,
    sessionEnvelope config clock (messageId + 1 + 1) sessionId SessionOperation.profiles
      "session.profiles" (encodeProfileList config.profiles) 0,
    sessionEnvelope config clock (messageId + 1 + 1 + 1) sessionId SessionOperation.ready
      "session.ready" [] 0]

/-- The answers to a session message. -/
def sessionReplies (impl : Impl) (clock : Clock) (peer : Peer) (envelope : Envelope) :
    List Envelope :=
  let step := sessionStep impl.config peer.id envelope
    (sessionRecord impl ⟨peer.id, envelope.sessionId⟩)
  if step.sourceMismatch then []
  else
    match step.replyProfiles, step.replyReady with
    | false, false => []
    | true, false =>
        [sessionEnvelope impl.config clock impl.nextMessageId envelope.sessionId
          SessionOperation.profiles "session.profiles" (encodeProfileList impl.config.profiles)
          envelope.messageId]
    | false, true =>
        [sessionEnvelope impl.config clock impl.nextMessageId envelope.sessionId
          SessionOperation.ready "session.ready" [] envelope.messageId]
    | true, true =>
        [sessionEnvelope impl.config clock impl.nextMessageId envelope.sessionId
            SessionOperation.profiles "session.profiles" (encodeProfileList impl.config.profiles)
            envelope.messageId,
          sessionEnvelope impl.config clock (impl.nextMessageId + 1) envelope.sessionId
            SessionOperation.ready "session.ready" [] envelope.messageId]

/-- Envelopes written one after the other. -/
def writeAll (impl : Impl) (clock : Clock) (peerId : Text) (envelopes : List Envelope) : Impl :=
  envelopes.foldl (fun impl envelope =>
    impl.write peerId (WireCodec.encode envelope true clock.nowMs)) impl

/-- **`open_session` writes its messages.** -/
theorem openSession_eq {impl : Impl} {clock : Clock} {peerId : Text}
    {connection : RuntimeConnection} (h : impl.connections.find? peerId = some connection) :
    (openSession impl clock peerId).1 =
      writeAll { impl with
          nextMessageId := impl.nextMessageId + 1 + 1 + 1 + 1
          nextSessionId := impl.nextSessionId + 1
          sessions := impl.sessions.insert ⟨peerId, impl.nextSessionId⟩
            { sessionId := impl.nextSessionId, peerId } } clock peerId
        (openMessages impl.config clock impl.nextMessageId impl.nextSessionId) := by
  simp only [openSession, h, sendSession, Impl.takeMessageId, Impl.write, writeAll, openMessages,
    List.foldl_cons, List.foldl_nil]

/-- **The session state machine writes its answers.** -/
theorem handleSession_eq (impl : Impl) (clock : Clock) (peer : Peer) (envelope : Envelope) :
    ∃ after : Impl,
      after.config = impl.config ∧ after.connections = impl.connections ∧
      after.sessions = impl.sessions.insert ⟨peer.id, envelope.sessionId⟩
        (sessionStep impl.config peer.id envelope
          (sessionRecord impl ⟨peer.id, envelope.sessionId⟩)).session ∧
      handleSession impl clock peer envelope =
        writeAll after clock peer.id (sessionReplies impl clock peer envelope) := by
  unfold handleSession sessionReplies
  dsimp only
  generalize sessionStep impl.config peer.id envelope
    (sessionRecord impl ⟨peer.id, envelope.sessionId⟩) = step
  -- Before anything is written only the record, the event and the counter have changed.
  let after (messageId : UInt64) : Impl :=
    { impl with
      sessions := impl.sessions.insert ⟨peer.id, envelope.sessionId⟩ step.session
      events := impl.events ++ [{ kind := .session, peer, session := step.session }]
      nextMessageId := messageId }
  split
  · exact ⟨after impl.nextMessageId, rfl, rfl, rfl, rfl⟩
  · cases step.replyProfiles with
    | false =>
      cases step.replyReady with
      | false => exact ⟨after impl.nextMessageId, rfl, rfl, rfl, rfl⟩
      | true => exact ⟨after (impl.nextMessageId + 1), rfl, rfl, rfl, rfl⟩
    | true =>
      cases step.replyReady with
      | false => exact ⟨after (impl.nextMessageId + 1), rfl, rfl, rfl, rfl⟩
      | true => exact ⟨after (impl.nextMessageId + 1 + 1), rfl, rfl, rfl, rfl⟩

/-- Writing needs a connection and touches nothing else. -/
theorem writeAll_frame (impl : Impl) (clock : Clock) (peerId : Text) (envelopes : List Envelope) :
    (writeAll impl clock peerId envelopes).config = impl.config ∧
      (writeAll impl clock peerId envelopes).sessions = impl.sessions ∧
      ∀ id, ((writeAll impl clock peerId envelopes).connections.find? id).isSome =
        (impl.connections.find? id).isSome := by
  unfold writeAll
  refine List.foldlRecOn (motive := fun after : Impl => after.config = impl.config ∧
    after.sessions = impl.sessions ∧ ∀ id, (after.connections.find? id).isSome =
      (impl.connections.find? id).isSome) _ _ ⟨rfl, rfl, fun _ => rfl⟩ ?_
  rintro after ⟨hconfig, hsessions, hconns⟩ envelope _
  refine ⟨hconfig, hsessions, fun id => ?_⟩
  rw [← hconns id]
  simp only [Impl.write, SortedMap.find?_adjust]
  split
  · exact Option.isSome_map
  · rfl

/-! ### The link -/

/-- The frames that go out for envelopes written to a peer. -/
def framesTo (impl : Impl) (clock : Clock) (peerId : Text) (envelopes : List Envelope) :
    List Bytes :=
  if (impl.connections.find? peerId).isSome then
    (envelopes.map fun envelope => WireCodec.encode envelope true clock.nowMs).filter fun frame =>
      frame ≠ []
  else []

/-- One frame arrives: the runtime that has handled it, and the answers. -/
def receiveFrame (impl : Impl) (clock : Clock) (peer : Peer) (frame : Bytes) : Impl × List Bytes :=
  let result := WireCodec.decode frame
  if result.code ≠ .ok then (impl, [])
  else
    (runtimeHandleEnvelope impl clock peer result.envelope,
      -- Nothing but session messages is under way.
      if isSessionMessage result.envelope then
        framesTo impl clock peer.id (sessionReplies impl clock peer result.envelope)
      else [])

/-- Two runtimes and the frames between them, the oldest first. -/
structure Link where
  a : Impl
  b : Impl
  toA : List Bytes := []
  toB : List Bytes := []

/-- The end that gets its next frame, and the clock there. -/
inductive Delivery
  | toA (clock : Clock)
  | toB (clock : Clock)

namespace Link

/-- One end opens a session: it knows the other as `peerB`. -/
def opened (a b : Impl) (clock : Clock) (peerB : Peer) : Link where
  a := (openSession a clock peerB.id).1
  b
  toB := framesTo a clock peerB.id (openMessages a.config clock a.nextMessageId a.nextSessionId)

/-- A delivery; nothing happens when nothing is under way. -/
def step (peerA peerB : Peer) (link : Link) : Delivery → Link
  | .toA clock =>
      match link.toA with
      | [] => link
      | frame :: rest =>
          let (a, replies) := receiveFrame link.a clock peerB frame
          { link with a, toA := rest, toB := link.toB ++ replies }
  | .toB clock =>
      match link.toB with
      | [] => link
      | frame :: rest =>
          let (b, replies) := receiveFrame link.b clock peerA frame
          { link with b, toB := rest, toA := link.toA ++ replies }

/-- A schedule, delivery by delivery. -/
def run (peerA peerB : Peer) (link : Link) (deliveries : List Delivery) : Link :=
  deliveries.foldl (step peerA peerB) link

/-- Whether a frame is there to be delivered. -/
def pending (link : Link) : Delivery → Bool
  | .toA _ => link.toA ≠ []
  | .toB _ => link.toB ≠ []

/-- How many frames a schedule delivers. -/
def delivered (peerA peerB : Peer) : Link → List Delivery → ℕ
  | _, [] => 0
  | link, delivery :: rest =>
      (if link.pending delivery then 1 else 0) +
        delivered peerA peerB (link.step peerA peerB delivery) rest

end Link

/-! ### Frames -/

/-- What a session message says; `asks` is whether it asks for an answer. -/
structure SessionNote where
  operation : UInt8
  payload : Bytes
  asks : Bool

/-- A frame brings a note of an endpoint to a session. -/
structure Carries (endpointUid : Text) (sessionId : UInt64) (frame : Bytes) (note : SessionNote) :
    Prop where
  ok : (WireCodec.decode frame).code = .ok
  family : (WireCodec.decode frame).envelope.family = .session
  operation : (WireCodec.decode frame).envelope.operation = note.operation
  sessionId : (WireCodec.decode frame).envelope.sessionId = sessionId
  source : (WireCodec.decode frame).envelope.source.endpointUid = endpointUid
  payload : (WireCodec.decode frame).envelope.payload = note.payload
  correlation : decide ((WireCodec.decode frame).envelope.correlationId = 0) = note.asks
  messageId : note.asks = true → (WireCodec.decode frame).envelope.messageId ≠ 0

/-- The type names of the handshake pass the check. -/
theorem validTypeRef_session :
    ∀ typeName ∈ ["session.hello", "session.authenticate", "session.profiles", "session.ready"],
      validTypeRef ⟨ascii "yunlink.core", 2, 0, ascii typeName⟩ = true := by
  decide

theorem length_encodeText_le (value : Text) : (encodeText value).length ≤ kMaxPayloadBytes := by
  have hmax : uint16Max = 65535 := rfl
  have hpayload : kMaxPayloadBytes = 16777216 := rfl
  unfold encodeText
  split
  · exact Nat.zero_le _
  · rw [appendText, List.length_append]
    have hword : (appendU16 (UInt16.ofNat value.length)).length = 2 := rfl
    omega

section frames

variable {config : RuntimeConfig} {typeName : String} {correlationId : UInt64}
  (clock : Clock) (messageId sessionId : UInt64) (operation : UInt8) (payload : Bytes)

theorem encodable_sessionEnvelope (huid : validUid config.endpointUid = true)
    (htype : validTypeRef ⟨ascii "yunlink.core", 2, 0, ascii typeName⟩ = true)
    (hpayload : payload.length ≤ kMaxPayloadBytes) :
    WireCodec.encodable (sessionEnvelope config clock messageId sessionId operation typeName
      payload correlationId) = true := by
  have hlength := length_le_of_validUid huid
  have hname : (ascii typeName).length ≤ kMaxTypeNameBytes := by
    simp only [validTypeRef, Bool.and_eq_true, decide_eq_true_iff] at htype
    exact htype.1.2
  refine (WireCodec.encodable_iff _).mpr ⟨rfl, rfl, rfl, huid, Or.inl rfl, htype, hpayload,
    Nat.zero_le _, by simp [sessionEnvelope, TargetSelector.broadcast], ?_, ?_, Nat.zero_le _⟩
  · intro uid hmem
    exact absurd hmem (by simp [sessionEnvelope, TargetSelector.broadcast])
  · show config.endpointUid.length + 0 + 0 + 0 + 12 + (ascii typeName).length ≤ 65455
    have huidMax : kMaxUidBytes = 128 := rfl
    have hnameMax : kMaxTypeNameBytes = 256 := rfl
    omega

/-- An id of 0 is replaced by the time of the message. -/
theorem messageId_fillHeader {input : Envelope} {now : UInt64}
    (h : now = 0 → input.messageId ≠ 0) : (WireCodec.fillHeader input now).messageId ≠ 0 := by
  unfold WireCodec.fillHeader
  dsimp only
  split
  · next hid =>
    split
    · exact fun hnow => h hnow hid
    · next hcreated => exact hcreated
  · next hid => exact hid

/-- A session message arrives as it was sent. -/
theorem carries_sessionEnvelope (huid : validUid config.endpointUid = true)
    (htype : validTypeRef ⟨ascii "yunlink.core", 2, 0, ascii typeName⟩ = true)
    (hpayload : payload.length ≤ kMaxPayloadBytes)
    (hid : correlationId = 0 → clock.nowMs = 0 → messageId ≠ 0) :
    WireCodec.encode (sessionEnvelope config clock messageId sessionId operation typeName
        payload correlationId) true clock.nowMs ≠ [] ∧
      Carries config.endpointUid sessionId (WireCodec.encode (sessionEnvelope config clock messageId
        sessionId operation typeName payload correlationId) true clock.nowMs)
          ⟨operation, payload, decide (correlationId = 0)⟩ := by
  have hencodable : WireCodec.encodable (sessionEnvelope config clock messageId sessionId operation
      typeName payload correlationId) = true :=
    encodable_sessionEnvelope clock messageId sessionId operation payload huid htype hpayload
  obtain ⟨hne, hdecode⟩ := WireCodec.decode_of_encodable hencodable clock.nowMs
  refine ⟨hne, ?_⟩
  constructor <;> rw [hdecode]
  all_goals try rfl
  intro hasks
  exact messageId_fillHeader (hid (of_decide_eq_true hasks))

/-- What is written arrives, in its order. -/
theorem carries_framesTo {impl : Impl} {peerId endpointUid : Text}
    (hconnected : (impl.connections.find? peerId).isSome) {envelopes : List Envelope}
    {notes : List SessionNote}
    (h : List.Forall₂ (fun envelope note =>
      WireCodec.encode envelope true clock.nowMs ≠ [] ∧
        Carries endpointUid sessionId (WireCodec.encode envelope true clock.nowMs) note)
      envelopes notes) :
    List.Forall₂ (Carries endpointUid sessionId) (framesTo impl clock peerId envelopes) notes := by
  unfold framesTo
  rw [if_pos hconnected]
  induction h with
  | nil => exact .nil
  | @cons envelope note _ _ hsent _ ih =>
    obtain ⟨hne, hcarries⟩ := hsent
    rw [List.map_cons, List.filter_cons_of_pos (by simpa using hne)]
    exact .cons hcarries ih

end frames

/-! ### One end -/

/-- An end of the handshake, with its record of the session in a state. -/
structure Stage (config : RuntimeConfig) (peerId : Text) (sessionId : UInt64) (remoteUid : Text)
    (state : SessionState) (impl : Impl) : Prop where
  config : impl.config = config
  connected : (impl.connections.find? peerId).isSome
  state : (sessionRecord impl ⟨peerId, sessionId⟩).state = state
  remote : (sessionRecord impl ⟨peerId, sessionId⟩).remoteEndpointUid = [] ∨
    (sessionRecord impl ⟨peerId, sessionId⟩).remoteEndpointUid = remoteUid

/-- What the handshake needs of a configuration. -/
structure RuntimeConfig.Handshakes (config : RuntimeConfig) : Prop where
  accepted : config.Accepted
  secret : config.sharedSecret.length ≤ uint16Max
  profiles : encodeProfileList config.profiles ≠ []
  size : (encodeProfileList config.profiles).length ≤ kMaxPayloadBytes

theorem RuntimeConfig.Handshakes.uid {config : RuntimeConfig} (h : config.Handshakes) :
    validUid config.endpointUid = true :=
  h.accepted.valid.1

/-- The answers of a step. -/
def answerNotes (config : RuntimeConfig) (step : SessionStep) : List SessionNote :=
  (if step.replyProfiles then
      [⟨SessionOperation.profiles, encodeProfileList config.profiles, false⟩]
    else []) ++
    if step.replyReady then [⟨SessionOperation.ready, [], false⟩] else []

section receive

variable {config : RuntimeConfig} {peer : Peer} {sessionId : UInt64} {remoteUid : Text}
  {state : SessionState} {impl : Impl} {clock : Clock} {frame : Bytes} {note : SessionNote}

/-- Only what asks is answered. -/
theorem asks_of_reply (config : RuntimeConfig) (envelope : Envelope) (session : SessionInfo)
    (h : (sessionOperation config envelope session).replyProfiles = true ∨
      (sessionOperation config envelope session).replyReady = true) :
    envelope.correlationId = 0 := by
  unfold sessionOperation at h
  split at h
  · split at h
    · simp at h
    · split at h <;> simp at h
  split at h
  · simp at h
  split at h
  · split at h
    · simp at h
    · simpa using h
  split at h
  · split at h
    · simpa using h
    · split at h <;> simp at h
  · simp at h

/-- The answers arrive as they were sent. -/
theorem carries_sessionReplies (clock : Clock) (hconfig : impl.config.Handshakes)
    (hconnected : (impl.connections.find? peer.id).isSome) {envelope : Envelope}
    (hid : envelope.correlationId = 0 → envelope.messageId ≠ 0) {session : SessionInfo}
    (hstep : sessionStep impl.config peer.id envelope
        (sessionRecord impl ⟨peer.id, envelope.sessionId⟩) =
      sessionOperation impl.config envelope session) :
    List.Forall₂ (Carries impl.config.endpointUid envelope.sessionId)
      (framesTo impl clock peer.id (sessionReplies impl clock peer envelope))
      (answerNotes impl.config (sessionOperation impl.config envelope session)) := by
  have hmismatch := (sessionOperation_fields envelope impl.config session).2.2.2
  have hasks := asks_of_reply impl.config envelope session
  refine carries_framesTo clock envelope.sessionId hconnected ?_
  unfold sessionReplies answerNotes
  dsimp only
  rw [hstep, hmismatch]
  generalize sessionOperation impl.config envelope session = step at hasks
  -- An answer goes out under the id of what it answers, which is not 0.
  have hprofiles (messageId : UInt64) (hne : envelope.messageId ≠ 0) :=
    carries_sessionEnvelope clock messageId envelope.sessionId SessionOperation.profiles _
      hconfig.uid (validTypeRef_session "session.profiles" (by simp)) hconfig.size
      (fun h => absurd h hne)
  have hready (messageId : UInt64) (hne : envelope.messageId ≠ 0) :=
    carries_sessionEnvelope clock messageId envelope.sessionId SessionOperation.ready []
      hconfig.uid (validTypeRef_session "session.ready" (by simp)) (Nat.zero_le _)
      (fun h => absurd h hne)
  cases hp : step.replyProfiles with
  | false =>
    cases hr : step.replyReady with
    | false => exact .nil
    | true =>
      have hne := hid (hasks (Or.inr hr))
      simp only [decide_eq_false hne] at hready
      exact .cons (hready _ hne) .nil
  | true =>
    have hne := hid (hasks (Or.inl hp))
    simp only [decide_eq_false hne] at hprofiles hready
    cases hr : step.replyReady with
    | false => exact .cons (hprofiles _ hne) .nil
    | true => exact .cons (hprofiles _ hne) (.cons (hready _ hne) .nil)

/-- An end handles a note: the state machine decides on the new state and the answers. -/
theorem Stage.receive (h : Stage config peer.id sessionId remoteUid state impl)
    (hconfig : config.Handshakes) (clock : Clock) (hc : Carries remoteUid sessionId frame note)
    (hbind : note.operation ≠ SessionOperation.laneBind)
    (hready : note.operation ≠ SessionOperation.laneReady) :
    ∃ (envelope : Envelope) (session : SessionInfo),
      envelope.operation = note.operation ∧ envelope.payload = note.payload ∧
      envelope.source.endpointUid = remoteUid ∧
      decide (envelope.correlationId = 0) = note.asks ∧ session.state = state ∧
      Stage config peer.id sessionId remoteUid
        (sessionOperation config envelope session).session.state
        (receiveFrame impl clock peer frame).1 ∧
      List.Forall₂ (Carries config.endpointUid sessionId) (receiveFrame impl clock peer frame).2
        (answerNotes config (sessionOperation config envelope session)) := by
  obtain ⟨rfl, hconnected, rfl, hremote⟩ := h
  obtain ⟨hok, hfamily, hop, rfl, rfl, hpayload, hasks, hid⟩ := hc
  generalize hdecode : WireCodec.decode frame = result at *
  obtain ⟨code, consumed, envelope⟩ := result
  dsimp only at *
  subst hok
  obtain ⟨session, hstep, hstate, hsource⟩ : ∃ session : SessionInfo,
      sessionStep impl.config peer.id envelope
          (sessionRecord impl ⟨peer.id, envelope.sessionId⟩) =
        sessionOperation impl.config envelope session ∧
      session.state = (sessionRecord impl ⟨peer.id, envelope.sessionId⟩).state ∧
      session.remoteEndpointUid = envelope.source.endpointUid :=
    ⟨_, sessionStep_of_source impl.config peer.id hremote, rfl, rfl⟩
  have hsession : isSessionMessage envelope = true := by
    simp [isSessionMessage, hfamily, hop, hbind, hready]
  have hreceive : receiveFrame impl clock peer frame =
      (handleSession impl clock peer envelope,
        framesTo impl clock peer.id (sessionReplies impl clock peer envelope)) := by
    simp only [receiveFrame, hdecode, hsession, if_true, runtimeHandleEnvelope, hfamily, hop,
      if_neg hbind, if_neg hready]
    rfl
  rw [hreceive]
  refine ⟨envelope, session, hop, hpayload, rfl, hasks, hstate, ?_,
    carries_sessionReplies clock hconfig hconnected (fun h => hid (hasks ▸ decide_eq_true h)) hstep⟩
  -- What is written behind the step leaves the record alone, which is then the one that the
  -- state machine returned.
  obtain ⟨after, hconfig', hconns, hsessions, hafter⟩ := handleSession_eq impl clock peer envelope
  obtain ⟨hwconfig, hwsessions, hwconns⟩ :=
    writeAll_frame after clock peer.id (sessionReplies impl clock peer envelope)
  rw [← hafter] at hwconfig hwsessions hwconns
  have hrecord : sessionRecord (handleSession impl clock peer envelope)
        ⟨peer.id, envelope.sessionId⟩ =
      (sessionOperation impl.config envelope session).session := by
    rw [← hstep]
    simp only [sessionRecord, hwsessions, hsessions, SortedMap.find?_insert, if_true,
      Option.getD_some]
  refine ⟨hwconfig.trans hconfig', ?_, congrArg SessionInfo.state hrecord, Or.inr ?_⟩
  · rw [hwconns, hconns]
    exact hconnected
  · rw [hrecord, (sessionOperation_fields envelope impl.config session).2.2.1]
    exact hsource

end receive

/-! The four messages. -/

section operations

variable {envelope : Envelope} (config : RuntimeConfig) (session : SessionInfo)

theorem operation_hello (hop : envelope.operation = SessionOperation.hello)
    (huid : validUid envelope.source.endpointUid = true)
    (hpayload : envelope.payload = encodeText envelope.source.endpointUid) :
    sessionOperation config envelope session = { session } := by
  have hlength := length_le_of_validUid huid
  have huidMax : kMaxUidBytes = 128 := rfl
  have hmax : uint16Max = 65535 := rfl
  unfold sessionOperation
  rw [if_pos hop, hpayload, decodeText_encodeText (by omega)]
  dsimp only
  rw [if_neg (by simp [huid])]

theorem operation_authenticate (hop : envelope.operation = SessionOperation.authenticate)
    {secret : Text} (hlength : secret.length ≤ uint16Max)
    (hpayload : envelope.payload = encodeText secret) :
    (sessionOperation config envelope session).session.state =
        (if secret = config.sharedSecret then .authenticated else .invalid) ∧
      answerNotes config (sessionOperation config envelope session) = [] := by
  unfold sessionOperation
  rw [if_neg (by rw [hop]; decide), if_pos hop, hpayload, decodeText_encodeText hlength]
  simp [answerNotes]

theorem operation_profiles (hop : envelope.operation = SessionOperation.profiles)
    {remotes : List ProfileDescriptor} (hvalid : ∀ profile ∈ remotes, profile.Valid)
    (hlist : encodeProfileList remotes ≠ [])
    (hpayload : envelope.payload = encodeProfileList remotes) :
    (sessionOperation config envelope session).session.state =
        (if session.state ≠ .invalid then .negotiated else .invalid) ∧
      answerNotes config (sessionOperation config envelope session) =
        if envelope.correlationId = 0 then
          [⟨SessionOperation.profiles, encodeProfileList config.profiles, false⟩]
        else [] := by
  unfold sessionOperation
  rw [if_neg (by rw [hop]; decide), if_neg (by rw [hop]; decide), if_pos hop, hpayload,
    decodeProfileList_encodeProfileList hvalid hlist]
  simp [answerNotes]

theorem operation_ready (hop : envelope.operation = SessionOperation.ready) :
    (sessionOperation config envelope session).session.state =
        (if session.state = .negotiated ∨ session.state = .active then .active else .invalid) ∧
      answerNotes config (sessionOperation config envelope session) =
        if session.state = .negotiated ∧ envelope.correlationId = 0 then
          [⟨SessionOperation.ready, [], false⟩]
        else [] := by
  unfold sessionOperation
  rw [if_neg (by rw [hop]; decide), if_neg (by rw [hop]; decide), if_neg (by rw [hop]; decide),
    if_pos hop]
  by_cases hnegotiated : session.state = .negotiated
  · rw [if_pos hnegotiated, if_pos (Or.inl hnegotiated)]
    simp [answerNotes, hnegotiated]
  · rw [if_neg hnegotiated]
    by_cases hactive : session.state = .active
    · simp [answerNotes, hactive]
    · simp [answerNotes, hnegotiated, hactive]

end operations

/-! ### How far the handshake has come -/

/-- What `open_session` sends. -/
def requests (config : RuntimeConfig) : List SessionNote :=
  [⟨SessionOperation.hello, encodeText config.endpointUid, true⟩,
    ⟨SessionOperation.authenticate, encodeText config.sharedSecret, true⟩,
    ⟨SessionOperation.profiles, encodeProfileList config.profiles, true⟩,
    ⟨SessionOperation.ready, [], true⟩]

/-- What it may be answered with. -/
def answers (config : RuntimeConfig) : List SessionNote :=
  [⟨SessionOperation.profiles, encodeProfileList config.profiles, false⟩,
    ⟨SessionOperation.ready, [], false⟩]

/-- None of them is about a lane. -/
theorem operation_not_lane {a b : RuntimeConfig} : ∀ operation ∈
    (requests a).map SessionNote.operation ++ (answers b).map SessionNote.operation,
      operation ≠ SessionOperation.laneBind ∧ operation ≠ SessionOperation.laneReady := by
  intro operation h
  simp only [requests, answers, List.map_cons, List.map_nil, List.cons_append, List.nil_append,
    List.mem_cons, List.not_mem_nil, or_false] at h
  rcases h with rfl | rfl | rfl | rfl | rfl | rfl <;> decide

/-- How many answers the first requests bring; `same` is whether the secrets are. -/
def answered (same : Bool) : ℕ → ℕ
  | 0 | 1 | 2 => 0
  | 3 => 1
  | _ => if same then 2 else 1

/-- The state of the opening end after some answers. -/
def openerState : ℕ → SessionState
  | 0 => .handshaking
  | 1 => .negotiated
  | _ => .active

/-- The state of the other end after some requests. -/
def acceptorState (same : Bool) : ℕ → SessionState
  | 0 | 1 => .handshaking
  | 2 => if same then .authenticated else .invalid
  | 3 => if same then .negotiated else .invalid
  | _ => if same then .active else .invalid

/-- After `k` requests and `j` answers have been handled. -/
structure Phase (a b : RuntimeConfig) (peerA peerB : Peer) (sessionId : UInt64) (k j : ℕ)
    (link : Link) : Prop where
  requests_le : k ≤ 4
  answers_le : j ≤ answered (a.sharedSecret = b.sharedSecret) k
  opener : Stage a peerB.id sessionId b.endpointUid (openerState j) link.a
  acceptor : Stage b peerA.id sessionId a.endpointUid
    (acceptorState (a.sharedSecret = b.sharedSecret) k) link.b
  toB : List.Forall₂ (Carries a.endpointUid sessionId) link.toB ((requests a).drop k)
  toA : List.Forall₂ (Carries b.endpointUid sessionId) link.toA
    (((answers b).take (answered (a.sharedSecret = b.sharedSecret) k)).drop j)

section phase

variable {a b : RuntimeConfig} {peerA peerB : Peer} {sessionId : UInt64} {k j : ℕ} {link : Link}

/-- What the other end makes of the request `k`. -/
theorem Stage.request {impl : Impl} {frame : Bytes} {note : SessionNote} (ha : a.Handshakes)
    (hb : b.Handshakes) (h : Stage b peerA.id sessionId a.endpointUid
      (acceptorState (a.sharedSecret = b.sharedSecret) k) impl) (clock : Clock)
    (hnote : (requests a)[k]? = some note) (hc : Carries a.endpointUid sessionId frame note) :
    Stage b peerA.id sessionId a.endpointUid
        (acceptorState (a.sharedSecret = b.sharedSecret) (k + 1))
        (receiveFrame impl clock peerA frame).1 ∧
      ∃ notes, List.Forall₂ (Carries b.endpointUid sessionId)
          (receiveFrame impl clock peerA frame).2 notes ∧
        (answers b).take (answered (a.sharedSecret = b.sharedSecret) (k + 1)) =
          (answers b).take (answered (a.sharedSecret = b.sharedSecret) k) ++ notes := by
  have hmem : note.operation ∈ (requests a).map SessionNote.operation :=
    List.mem_map_of_mem (List.mem_of_getElem? hnote)
  obtain ⟨hbind, hready⟩ := operation_not_lane (b := b) note.operation (List.mem_append_left _ hmem)
  obtain ⟨envelope, session, hop, hpayload, hsource, hasks, hstate, hstage, hreplies⟩ :=
    h.receive hb clock hc hbind hready
  -- One case for each request of the opener, and one for a `k` behind the last.
  obtain hk | hk | hk | hk | hk : k = 0 ∨ k = 1 ∨ k = 2 ∨ k = 3 ∨ 4 ≤ k := by omega
  · subst hk
    obtain rfl : _ = note := Option.some.inj hnote
    have hstep := operation_hello b session hop (hsource ▸ ha.uid) (hsource ▸ hpayload)
    rw [hstep] at hstage hreplies
    exact ⟨hstate ▸ hstage, _, hreplies, rfl⟩
  · subst hk
    obtain rfl : _ = note := Option.some.inj hnote
    obtain ⟨hnext, hnotes⟩ := operation_authenticate b session hop ha.secret hpayload
    rw [hnext] at hstage
    rw [hnotes] at hreplies
    refine ⟨?_, _, hreplies, rfl⟩
    simpa [acceptorState] using hstage
  · subst hk
    obtain rfl : _ = note := Option.some.inj hnote
    obtain ⟨hnext, hnotes⟩ := operation_profiles b session hop ha.accepted.valid.2 ha.profiles
      hpayload
    rw [hnext, hstate] at hstage
    rw [hnotes, if_pos (of_decide_eq_true hasks)] at hreplies
    refine ⟨?_, _, hreplies, rfl⟩
    by_cases hsame : a.sharedSecret = b.sharedSecret
    · simpa [acceptorState, hsame] using hstage
    · simpa [acceptorState, hsame] using hstage
  · subst hk
    obtain rfl : _ = note := Option.some.inj hnote
    obtain ⟨hnext, hnotes⟩ := operation_ready b session hop
    rw [hnext, hstate] at hstage
    rw [hnotes, hstate] at hreplies
    refine ⟨?_, _, hreplies, ?_⟩
    · by_cases hsame : a.sharedSecret = b.sharedSecret
      · simpa [acceptorState, hsame] using hstage
      · simpa [acceptorState, hsame] using hstage
    · by_cases hsame : a.sharedSecret = b.sharedSecret
      · simp [acceptorState, answered, answers, hsame, of_decide_eq_true hasks]
      · simp [acceptorState, answered, answers, hsame]
  · rw [List.getElem?_eq_none (by simpa [requests] using hk)] at hnote
    exact absurd hnote (by simp)

/-- What the opening end makes of the answer `j`. -/
theorem Stage.answer {impl : Impl} {frame : Bytes} {note : SessionNote} (ha : a.Handshakes)
    (hb : b.Handshakes) (h : Stage a peerB.id sessionId b.endpointUid (openerState j) impl)
    (clock : Clock) (hnote : (answers b)[j]? = some note)
    (hc : Carries b.endpointUid sessionId frame note) :
    Stage a peerB.id sessionId b.endpointUid (openerState (j + 1))
        (receiveFrame impl clock peerB frame).1 ∧
      (receiveFrame impl clock peerB frame).2 = [] := by
  have hmem : note.operation ∈ (answers b).map SessionNote.operation :=
    List.mem_map_of_mem (List.mem_of_getElem? hnote)
  obtain ⟨hbind, hready⟩ := operation_not_lane (a := a) note.operation
    (List.mem_append_right _ hmem)
  obtain ⟨envelope, session, hop, hpayload, hsource, hasks, hstate, hstage, hreplies⟩ :=
    h.receive ha clock hc hbind hready
  -- One case for each answer, and one for a `j` behind the last.
  obtain hj | hj | hj : j = 0 ∨ j = 1 ∨ 2 ≤ j := by omega
  · subst hj
    obtain rfl : _ = note := Option.some.inj hnote
    obtain ⟨hnext, hnotes⟩ := operation_profiles a session hop hb.accepted.valid.2 hb.profiles
      hpayload
    rw [hnext, hstate] at hstage
    rw [hnotes, if_neg (of_decide_eq_false hasks)] at hreplies
    exact ⟨hstage, List.forall₂_nil_right_iff.mp hreplies⟩
  · subst hj
    obtain rfl : _ = note := Option.some.inj hnote
    obtain ⟨hnext, hnotes⟩ := operation_ready a session hop
    rw [hnext, hstate] at hstage
    rw [hnotes, if_neg fun h => of_decide_eq_false hasks h.2] at hreplies
    exact ⟨hstage, List.forall₂_nil_right_iff.mp hreplies⟩
  · rw [List.getElem?_eq_none (by simpa [answers] using hj)] at hnote
    exact absurd hnote (by simp)

theorem answered_le (same : Bool) (k : ℕ) : answered same k ≤ if same then 2 else 1 := by
  unfold answered
  split
  all_goals cases same <;> simp

theorem length_take_answers (config : RuntimeConfig) (same : Bool) (k : ℕ) :
    ((answers config).take (answered same k)).length = answered same k := by
  have hle : answered same k ≤ 2 := by
    have hbound := answered_le same k
    split at hbound <;> omega
  rw [List.length_take]
  exact Nat.min_eq_left hle

/-- A request is delivered. -/
theorem Phase.step_toB (h : Phase a b peerA peerB sessionId k j link) (ha : a.Handshakes)
    (hb : b.Handshakes) (clock : Clock) (hpending : link.toB ≠ []) :
    Phase a b peerA peerB sessionId (k + 1) j (link.step peerA peerB (.toB clock)) := by
  obtain ⟨hk, hj, hopener, hacceptor, htoB, htoA⟩ := h
  obtain ⟨endA, endB, toA, toB⟩ := link
  cases toB with
  | nil => exact absurd rfl hpending
  | cons frame rest =>
    have hlt : k < (requests a).length := by
      have hlength := htoB.length_eq
      simp only [List.length_cons, List.length_drop] at hlength
      omega
    rw [List.drop_eq_getElem_cons hlt] at htoB
    obtain ⟨hframe, hrest⟩ := List.forall₂_cons.mp htoB
    obtain ⟨hstage, notes, hreplies, hnotes⟩ := hacceptor.request ha hb clock
      (List.getElem?_eq_getElem hlt) hframe
    refine ⟨hlt, ?_, hopener, hstage, hrest, ?_⟩
    · have hmore := congrArg List.length hnotes
      rw [List.length_append, length_take_answers, length_take_answers] at hmore
      omega
    · rw [hnotes, List.drop_append_of_le_length (by rwa [length_take_answers])]
      exact List.rel_append htoA hreplies

/-- An answer is delivered. -/
theorem Phase.step_toA (h : Phase a b peerA peerB sessionId k j link) (ha : a.Handshakes)
    (hb : b.Handshakes) (clock : Clock) (hpending : link.toA ≠ []) :
    Phase a b peerA peerB sessionId k (j + 1) (link.step peerA peerB (.toA clock)) := by
  obtain ⟨hk, hj, hopener, hacceptor, htoB, htoA⟩ := h
  obtain ⟨endA, endB, toA, toB⟩ := link
  cases toA with
  | nil => exact absurd rfl hpending
  | cons frame rest =>
    have hlt : j < ((answers b).take (answered (a.sharedSecret = b.sharedSecret) k)).length := by
      have hlength := htoA.length_eq
      simp only [List.length_cons, List.length_drop] at hlength
      omega
    rw [List.drop_eq_getElem_cons hlt] at htoA
    obtain ⟨hframe, hrest⟩ := List.forall₂_cons.mp htoA
    rw [List.getElem_take] at hframe
    have hbound : j < answered (a.sharedSecret = b.sharedSecret) k :=
      Nat.lt_of_lt_of_le hlt (List.length_take_le _ _)
    obtain ⟨hstage, hreplies⟩ := hopener.answer ha hb clock (List.getElem?_eq_getElem _) hframe
    refine ⟨hk, hbound, hstage, hacceptor, ?_, hrest⟩
    show List.Forall₂ _ (toB ++ (receiveFrame endA clock peerB frame).2) _
    rw [hreplies, List.append_nil]
    exact htoB

/-- **The step lemma**: each delivery brings the handshake one step further. -/
theorem phase_step (h : Phase a b peerA peerB sessionId k j link) (ha : a.Handshakes)
    (hb : b.Handshakes) (delivery : Delivery) :
    ∃ k' j', Phase a b peerA peerB sessionId k' j' (link.step peerA peerB delivery) ∧
      k' + j' = k + j + if link.pending delivery then 1 else 0 := by
  cases delivery with
  | toA clock =>
    by_cases hpending : link.toA = []
    · refine ⟨k, j, ?_, by simp [Link.pending, hpending]⟩
      simpa only [Link.step, hpending] using h
    · refine ⟨k, j + 1, h.step_toA ha hb clock hpending, ?_⟩
      simp [Link.pending, hpending, Nat.add_assoc]
  | toB clock =>
    by_cases hpending : link.toB = []
    · refine ⟨k, j, ?_, by simp [Link.pending, hpending]⟩
      simpa only [Link.step, hpending] using h
    · refine ⟨k + 1, j, h.step_toB ha hb clock hpending, ?_⟩
      simp [Link.pending, hpending]
      omega

/-- A whole schedule. -/
theorem phase_run (ha : a.Handshakes) (hb : b.Handshakes) (deliveries : List Delivery) :
    ∀ {link : Link} {k j : ℕ}, Phase a b peerA peerB sessionId k j link →
      ∃ k' j', Phase a b peerA peerB sessionId k' j' (link.run peerA peerB deliveries) ∧
        k' + j' = k + j + link.delivered peerA peerB deliveries := by
  induction deliveries with
  | nil => exact fun h => ⟨_, _, h, rfl⟩
  | cons delivery rest ih =>
    intro link k j h
    obtain ⟨k₁, j₁, hstep, hcount⟩ := phase_step h ha hb delivery
    obtain ⟨k₂, j₂, hrun, hcount'⟩ := ih hstep
    refine ⟨k₂, j₂, hrun, ?_⟩
    rw [hcount', hcount]
    simp only [Link.delivered]
    omega

end phase

/-! ### The outcome -/

section outcome

variable (a b : Impl) (peerA peerB : Peer) (clock : Clock)

/-- `open_session` starts the handshake. -/
theorem phase_opened (ha : a.config.Handshakes)
    (hpeerB : (a.connections.find? peerB.id).isSome)
    (hpeerA : (b.connections.find? peerA.id).isSome)
    (hfresh : b.sessions.find? ⟨peerA.id, a.nextSessionId⟩ = none)
    (hids : clock.nowMs = 0 →
      0 ∉ (openMessages a.config clock a.nextMessageId a.nextSessionId).map Envelope.messageId) :
    Phase a.config b.config peerA peerB a.nextSessionId 0 0 (Link.opened a b clock peerB) := by
  obtain ⟨connection, hconnection⟩ := Option.isSome_iff_exists.mp hpeerB
  refine ⟨by omega, Nat.le_refl _, ?_, ?_, ?_, .nil⟩
  · -- the opener has entered its record and written to the connection
    obtain ⟨hconfig, hsessions, hconns⟩ := writeAll_frame { a with
        nextMessageId := a.nextMessageId + 1 + 1 + 1 + 1
        nextSessionId := a.nextSessionId + 1
        sessions := a.sessions.insert ⟨peerB.id, a.nextSessionId⟩
          { sessionId := a.nextSessionId, peerId := peerB.id } } clock peerB.id
      (openMessages a.config clock a.nextMessageId a.nextSessionId)
    rw [← openSession_eq hconnection] at hconfig hsessions hconns
    have hrecord : sessionRecord (openSession a clock peerB.id).1 ⟨peerB.id, a.nextSessionId⟩ =
        { sessionId := a.nextSessionId, peerId := peerB.id } := by
      simp only [sessionRecord, hsessions, SortedMap.find?_insert, if_true, Option.getD_some]
    refine ⟨hconfig, ?_, congrArg SessionInfo.state hrecord,
      Or.inl (congrArg SessionInfo.remoteEndpointUid hrecord)⟩
    exact (hconns peerB.id).trans hpeerB
  · -- the acceptor has no record yet
    have hrecord : sessionRecord b ⟨peerA.id, a.nextSessionId⟩ = {} := by
      rw [sessionRecord, hfresh]
      rfl
    exact ⟨rfl, hpeerA, congrArg SessionInfo.state hrecord,
      Or.inl (congrArg SessionInfo.remoteEndpointUid hrecord)⟩
  · -- the four messages are on their way to it
    have hid : ∀ messageId ∈ (openMessages a.config clock a.nextMessageId a.nextSessionId).map
        Envelope.messageId, clock.nowMs = 0 → messageId ≠ 0 := by
      rintro messageId hmem hclock rfl
      exact hids hclock hmem
    simp only [openMessages, sessionEnvelope, List.map_cons, List.map_nil, List.forall_mem_cons]
      at hid
    obtain ⟨hid₀, hid₁, hid₂, hid₃, -⟩ := hid
    refine carries_framesTo clock a.nextSessionId hpeerB (.cons ?_ (.cons ?_ (.cons ?_
      (.cons ?_ .nil))))
    · exact carries_sessionEnvelope clock _ _ _ _ ha.uid
        (validTypeRef_session "session.hello" (by simp)) (length_encodeText_le _) fun _ => hid₀
    · exact carries_sessionEnvelope clock _ _ _ _ ha.uid
        (validTypeRef_session "session.authenticate" (by simp)) (length_encodeText_le _)
        fun _ => hid₁
    · exact carries_sessionEnvelope clock _ _ _ _ ha.uid
        (validTypeRef_session "session.profiles" (by simp)) ha.size fun _ => hid₂
    · exact carries_sessionEnvelope clock _ _ _ _ ha.uid
        (validTypeRef_session "session.ready" (by simp)) (Nat.zero_le _) fun _ => hid₃

/-- A session is active at an end. -/
def Impl.HasActive (impl : Impl) (key : SessionKey) : Prop :=
  ∃ session, impl.sessions.find? key = some session ∧ session.state = .active

theorem Impl.hasActive_iff (impl : Impl) (key : SessionKey) :
    impl.HasActive key ↔ (sessionRecord impl key).state = .active := by
  unfold Impl.HasActive sessionRecord
  cases impl.sessions.find? key with
  | none => simp
  | some session => simp

/-- **The outcome of a handshake**: it is over after six deliveries at most; with equal
secrets both ends are active then, with different ones none of them ever is. -/
theorem handshake_outcome (ha : a.config.Handshakes) (hb : b.config.Handshakes)
    (hpeerB : (a.connections.find? peerB.id).isSome)
    (hpeerA : (b.connections.find? peerA.id).isSome)
    (hfresh : b.sessions.find? ⟨peerA.id, a.nextSessionId⟩ = none)
    (hids : clock.nowMs = 0 →
      0 ∉ (openMessages a.config clock a.nextMessageId a.nextSessionId).map Envelope.messageId)
    (deliveries : List Delivery) (link : Link)
    (hlink : link = (Link.opened a b clock peerB).run peerA peerB deliveries) :
    (Link.opened a b clock peerB).delivered peerA peerB deliveries ≤ 6 ∧
      (a.config.sharedSecret = b.config.sharedSecret → link.toA = [] → link.toB = [] →
        link.a.HasActive ⟨peerB.id, a.nextSessionId⟩ ∧
          link.b.HasActive ⟨peerA.id, a.nextSessionId⟩) ∧
      (a.config.sharedSecret ≠ b.config.sharedSecret →
        ¬ link.a.HasActive ⟨peerB.id, a.nextSessionId⟩ ∧
          ¬ link.b.HasActive ⟨peerA.id, a.nextSessionId⟩) := by
  have hopened := phase_opened a b peerA peerB clock ha hpeerB hpeerA hfresh hids
  obtain ⟨k, j, ⟨hk, hj, hopener, hacceptor, htoB, htoA⟩, hcount⟩ :=
    phase_run ha hb deliveries hopened
  rw [← hlink] at hopener hacceptor htoB htoA
  simp only [Impl.hasActive_iff, hopener.state, hacceptor.state]
  have hanswers := answered_le (a.config.sharedSecret = b.config.sharedSecret) k
  refine ⟨?_, ?_, ?_⟩
  · split at hanswers <;> omega
  · intro hsame hdoneA hdoneB
    rw [hdoneB] at htoB
    rw [hdoneA] at htoA
    -- With nothing on its way, all four requests and both answers have been delivered.
    have hrequests := htoB.length_eq
    have hanswered := htoA.length_eq
    rw [List.length_drop, length_take_answers] at hanswered
    obtain rfl : k = 4 := by
      simp only [List.length_nil, List.length_drop, requests, List.length_cons] at hrequests
      omega
    obtain rfl : j = 2 := by
      simp only [hsame, decide_true, answered, List.length_nil] at hanswered hj
      simp only [if_true] at hanswered hj
      omega
    simp [openerState, acceptorState, hsame]
  · intro hdiffer
    simp only [hdiffer, decide_false] at hanswers hj ⊢
    constructor
    · -- The opener has had the answer to its profiles at most.
      obtain rfl | rfl : j = 0 ∨ j = 1 := by
        simp only [Bool.false_eq_true, if_false] at hanswers
        omega
      · decide
      · decide
    · unfold acceptorState
      split <;> decide

end outcome

/-- An end that offers one version of one profile. -/
def endConfig (sharedSecret : Text) (minor : UInt16) : RuntimeConfig where
  sharedSecret
  profiles := [sampleProfile 1 minor]

/-- One of two ends; the other is `peerId` for it. -/
def sampleEnd (sharedSecret peerId : Text) (minor : UInt16) : Impl where
  config := endConfig sharedSecret minor
  running := true
  connections := SortedMap.empty.insert peerId { peer := { id := peerId }, running := true }

/-- The two directions in turn, once there is something to answer. -/
def sampleDeliveries : List Delivery :=
  [.toB {}, .toB {}, .toB {}, .toA {}, .toB {}, .toA {}]

/-- The handshake of two ends with these secrets. -/
def sampleLink (secretA secretB : Text) : Link :=
  (Link.opened (sampleEnd secretA [20] 2) (sampleEnd secretB [10] 4) {} { id := [20] }).run
    { id := [10] } { id := [20] } sampleDeliveries

/-- Equal secrets, and different ones. -/
theorem handshake_outcome_sample :
    ((sampleLink [1] [1]).a.HasActive ⟨[20], 1⟩ ∧ (sampleLink [1] [1]).b.HasActive ⟨[10], 1⟩) ∧
      ¬ (sampleLink [1] [7]).a.HasActive ⟨[20], 1⟩ ∧
      ¬ (sampleLink [1] [7]).b.HasActive ⟨[10], 1⟩ := by
  have hopener : (endConfig [1] 2).Handshakes :=
    ⟨by decide, by decide, by decide, by decide⟩
  have houtcome (secret : Text) (hacceptor : (endConfig secret 4).Handshakes) :=
    handshake_outcome (sampleEnd [1] [20] 2) (sampleEnd secret [10] 4) { id := [10] }
      { id := [20] } {} hopener hacceptor rfl rfl rfl (by decide) sampleDeliveries _ rfl
  have hsame := houtcome [1] ⟨by decide, by decide, by decide, by decide⟩
  have hdiffer := houtcome [7] ⟨by decide, by decide, by decide, by decide⟩
  have hdone : (sampleLink [1] [1]).toA = [] ∧ (sampleLink [1] [1]).toB = [] := by
    decide +kernel
  exact ⟨hsame.2.1 rfl hdone.1 hdone.2, hdiffer.2.2 (by decide)⟩

end YunLink
