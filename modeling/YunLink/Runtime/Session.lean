import YunLink.Runtime.Authority

/-!
# Sessions and received envelopes

`runtime_handle_envelope` with the session state machine, the lane handshake and
`runtime_drop_peer_state` (`session.cpp`).  A session lives on the connection of
its *control peer*; its *lossy lane* is a second connection, entered in
`lane_owner` under the lane's own peer id.

Session messages are handled under the peer they arrive from.  All others are
admitted under the *logical* peer, the control peer of a lane, but authority
requests and actions are still judged under the peer they arrive from.

## Main definitions

* `negotiateProfile`, `negotiate` — profile negotiation.
* `sessionStep` — the state machine: the record after one session message.
* `handleLaneBind`, `handleLaneReady` — the lane handshake.
* `logicalPeer`, `admission`, `handleMessage` — messages of the other families.
* `runtimeHandleEnvelope`, `runtimeDropPeerState`, `openSession` — the functions
  of the source.

## Main results

* `handleLaneBind_cases`, `handleLaneReady_cases` — what a lane message does.
* `drop_lane`, `drop_control` — what is dropped with a lane and with a control peer.
-/

namespace YunLink

namespace SessionOperation

/-- Names the endpoint. -/
def hello : UInt8 := 1

/-- Shows the shared secret. -/
def authenticate : UInt8 := 2

/-- Lists the profiles. -/
def profiles : UInt8 := 3

/-- Makes a negotiated session active. -/
def ready : UInt8 := 4

/-- Claims the connection as the lossy lane of a session. -/
def laneBind : UInt8 := 5

/-- Answers the claim. -/
def laneReady : UInt8 := 6

end SessionOperation

/-! ### Outgoing session messages -/

/-- The envelope of `send_session` and of `bind_lossy_lane`. -/
def sessionEnvelope (config : RuntimeConfig) (clock : Clock) (messageId sessionId : UInt64)
    (operation : UInt8) (typeName : String) (payload : Bytes) (correlationId : UInt64) :
    Envelope where
  family := .session
  operation
  sessionId
  messageId
  correlationId
  source := ⟨config.endpointUid, []⟩
  target := .broadcast
  type := ⟨ascii "yunlink.core", 2, 0, ascii typeName⟩
  createdAtMs := clock.nowMs
  ttlMs := 5000
  payload

/-- `send_session`. -/
def sendSession (impl : Impl) (clock : Clock) (peerId : Text) (sessionId : UInt64)
    (operation : UInt8) (typeName : String) (payload : Bytes) (correlationId : UInt64) : Impl :=
  let (impl, messageId) := impl.takeMessageId
  let envelope :=
    sessionEnvelope impl.config clock messageId sessionId operation typeName payload correlationId
  impl.write peerId (WireCodec.encode envelope true clock.nowMs)

/-- `Runtime::open_session`, with the id it returns. -/
def openSession (impl : Impl) (clock : Clock) (peerId : Text) : Impl × UInt64 :=
  match impl.connections.find? peerId with
  | none => (impl, 0)
  | some _ =>
      let sessionId := impl.nextSessionId
      let impl :=
        { impl with
          nextSessionId := impl.nextSessionId + 1
          sessions := impl.sessions.insert ⟨peerId, sessionId⟩ { sessionId, peerId } }
      let impl := sendSession impl clock peerId sessionId SessionOperation.hello "session.hello"
        (encodeText impl.config.endpointUid) 0
      let impl := sendSession impl clock peerId sessionId SessionOperation.authenticate
        "session.authenticate" (encodeText impl.config.sharedSecret) 0
      let impl := sendSession impl clock peerId sessionId SessionOperation.profiles
        "session.profiles" (encodeProfileList impl.config.profiles) 0
      let impl := sendSession impl clock peerId sessionId SessionOperation.ready "session.ready"
        [] 0
      (impl, sessionId)

/-! ### The session state machine -/

/-- `negotiate_profile`; an empty profile id reports that nothing was agreed. -/
def negotiateProfile («local» remote : ProfileDescriptor) : ProfileDescriptor :=
  if «local».profileId ≠ remote.profileId ∨ «local».major ≠ remote.major then {}
  else if «local».minor = remote.minor ∧ «local».schemaDigest ≠ remote.schemaDigest then {}
  else
    { (if «local».minor ≤ remote.minor then «local» else remote) with
      minor := min «local».minor remote.minor }

/-- The loop over the profiles a peer offers: those agreed on, those rejected. -/
def negotiate (profiles : List ProfileDescriptor) (remoteProfiles : List ProfileDescriptor) :
    SortedMap Text ProfileDescriptor × List Text :=
  remoteProfiles.foldl (fun (negotiated, rejected) remote =>
    match profiles.find? fun value => value.profileId = remote.profileId with
    | none => (negotiated, rejected ++ [remote.profileId])
    | some «local» =>
        let profile := negotiateProfile «local» remote
        if profile.profileId = [] then (negotiated, rejected ++ [remote.profileId])
        else (negotiated.insert remote.profileId profile, rejected)) (.empty, [])

/-- The record after a session message, and what is to be sent for it. -/
structure SessionStep where
  session : SessionInfo
  sourceMismatch : Bool := false
  replyProfiles : Bool := false
  replyReady : Bool := false

/-- The branches over the operation. -/
def sessionOperation (config : RuntimeConfig) (envelope : Envelope) (session : SessionInfo) :
    SessionStep :=
  if envelope.operation = SessionOperation.hello then
    match decodeText envelope.payload with
    | none => { session := { session with state := .invalid } }
    | some endpointUid =>
        if endpointUid ≠ envelope.source.endpointUid || !validUid endpointUid then
          { session := { session with state := .invalid } }
        else { session }
  else if envelope.operation = SessionOperation.authenticate then
    let authenticated := decodeText envelope.payload == some config.sharedSecret
    { session := { session with
        authenticated, state := if authenticated then .authenticated else .invalid } }
  else if envelope.operation = SessionOperation.profiles then
    match decodeProfileList envelope.payload with
    | none => { session := { session with state := .invalid } }
    | some remoteProfiles =>
        -- Any state but `kInvalid` will do here, also that of a record just made.
        let (negotiatedProfiles, rejectedProfiles) := negotiate config.profiles remoteProfiles
        { session := { session with
            negotiatedProfiles
            rejectedProfiles
            state := if session.state ≠ .invalid then .negotiated else .invalid }
          replyProfiles := envelope.correlationId = 0 }
  else if envelope.operation = SessionOperation.ready then
    if session.state = .negotiated then
      -- The source takes for granted that Authenticate and Profiles came before.
      { session := { session with state := .active, authenticated := true }
        replyReady := envelope.correlationId = 0 }
    else if session.state ≠ .active then { session := { session with state := .invalid } }
    else { session }
  else { session }

/-- One session message on the record `found`, or on a fresh one. -/
def sessionStep (config : RuntimeConfig) (peerId : Text) (envelope : Envelope)
    (found : SessionInfo) : SessionStep :=
  let session := { found with sessionId := envelope.sessionId, peerId }
  if session.remoteEndpointUid = [] then
    sessionOperation config envelope
      { session with remoteEndpointUid := envelope.source.endpointUid }
  else if session.remoteEndpointUid ≠ envelope.source.endpointUid then
    { session := { session with state := .invalid }, sourceMismatch := true }
  else sessionOperation config envelope session

/-- The record a message is handled on. -/
def sessionRecord (impl : Impl) (key : SessionKey) : SessionInfo :=
  (impl.sessions.find? key).getD {}

/-- The session part of `runtime_handle_envelope`. -/
def handleSession (impl : Impl) (clock : Clock) (peer : Peer) (envelope : Envelope) : Impl :=
  let key : SessionKey := ⟨peer.id, envelope.sessionId⟩
  let step := sessionStep impl.config peer.id envelope (sessionRecord impl key)
  let impl := { impl with sessions := impl.sessions.insert key step.session }
  let impl := impl.emit { kind := .session, peer, session := step.session }
  if step.sourceMismatch then impl
  else
    let impl :=
      if step.replyProfiles then
        sendSession impl clock peer.id envelope.sessionId SessionOperation.profiles
          "session.profiles" (encodeProfileList impl.config.profiles) envelope.messageId
      else impl
    if step.replyReady then
      sendSession impl clock peer.id envelope.sessionId SessionOperation.ready "session.ready" []
        envelope.messageId
    else impl

/-! ### The lane handshake -/

/-- Whether `handle_lane_bind` takes a session for the one the lane belongs to. -/
def laneBindMatches (peerId : Text) (envelope : Envelope) (session : SessionInfo) : Bool :=
  session.sessionId = envelope.sessionId && session.state = .active &&
    session.remoteEndpointUid = envelope.source.endpointUid &&
    (session.lossyPeerId = [] || session.lossyPeerId = peerId)

/-- `handle_lane_bind`. -/
def handleLaneBind (impl : Impl) (clock : Clock) (peer : Peer) (envelope : Envelope) : Impl :=
  if decodeText envelope.payload ≠ some impl.config.sharedSecret then impl
  else if (impl.connections.find? peer.id).isNone then impl
  else
    -- The loop stops at its first match, whichever control peer that is of.
    match impl.sessions.entries.find? fun entry => laneBindMatches peer.id envelope entry.2 with
    | none => impl
    | some (key, _) =>
        let impl :=
          { impl with
            sessions := impl.sessions.adjust key fun session =>
              { session with lossyPeerId := peer.id }
            laneOwner := impl.laneOwner.insert peer.id ⟨key.peerId, envelope.sessionId⟩ }
        if key.peerId = [] then impl
        else
          sendSession impl clock peer.id envelope.sessionId SessionOperation.laneReady
            "session.lane_ready" [] envelope.messageId

/-- `handle_lane_ready`. -/
def handleLaneReady (impl : Impl) (peer : Peer) (envelope : Envelope) : Impl :=
  match impl.laneOwner.find? peer.id with
  | none => impl
  | some owner =>
      if owner.sessionId ≠ envelope.sessionId then impl
      else
        match impl.sessions.find? ⟨owner.peerId, envelope.sessionId⟩ with
        | none => impl
        | some session =>
            if session.state ≠ .active then impl
            else
              { impl with
                sessions := impl.sessions.insert ⟨owner.peerId, envelope.sessionId⟩
                  { session with lossyPeerId := peer.id } }

/-! ### Messages of the other families -/

/-- The control peer of a lane, any other peer itself. -/
def logicalPeer (impl : Impl) (peer : Peer) : Peer :=
  match impl.laneOwner.find? peer.id with
  | none => peer
  | some owner =>
      match impl.connections.find? owner.peerId with
      | some control => control.peer
      -- The control connection is gone: only its id is known.
      | none => { peer with id := owner.peerId }

/-- Whether the session of a message lets it through, and what is reported when
it does not. -/
def admission (impl : Impl) (logicalId : Text) (envelope : Envelope) :
    Except (ErrorCode × Text) Unit :=
  let unauthorized := (ErrorCode.unauthorized,
    ascii "inactive session, source mismatch, or target mismatch")
  match impl.sessions.find? ⟨logicalId, envelope.sessionId⟩ with
  | none => .error unauthorized
  | some session =>
      if session.state ≠ .active ∨ session.remoteEndpointUid ≠ envelope.source.endpointUid then
        .error unauthorized
      else if !envelope.target.matches impl.config.endpointUid impl.config.entities
          impl.config.groupUids then .error unauthorized
      else if !envelope.type.isCore && !session.supportsProfile envelope.type.profileId
          envelope.type.major envelope.type.minor then
        .error (.unsupported, ascii "message type exceeds the negotiated profile version")
      else .ok ()

/-- The other part of `runtime_handle_envelope`. -/
def handleMessage (impl : Impl) (clock : Clock) (peer : Peer) (envelope : Envelope) : Impl :=
  let logical := logicalPeer impl peer
  match admission impl logical.id envelope with
  | .error (error, message) => impl.emit { kind := .error, peer, envelope, error, message }
  | .ok () =>
      -- From here on it is the peer again, not the logical peer, that counts.
      match runtimeHandleAuthority impl clock peer envelope with
      | some impl => impl
      | none =>
          match runtimeActionAuthorized impl clock.steady peer envelope with
          | .error message =>
              impl.emit { kind := .error, peer, envelope, error := .unauthorized, message }
          | .ok () => impl.emit { kind := .envelope, peer := logical, envelope }

/-- `runtime_handle_envelope`. -/
def runtimeHandleEnvelope (impl : Impl) (clock : Clock) (peer : Peer) (envelope : Envelope) :
    Impl :=
  if envelope.family = .session then
    if envelope.operation = SessionOperation.laneBind then handleLaneBind impl clock peer envelope
    else if envelope.operation = SessionOperation.laneReady then handleLaneReady impl peer envelope
    else handleSession impl clock peer envelope
  else handleMessage impl clock peer envelope

/-! ### Teardown -/

/-- The sessions of a control peer, in the order of the map. -/
def sessionsOf (impl : Impl) (peerId : Text) : List SessionInfo :=
  (impl.sessions.entries.filter fun entry => entry.1.peerId = peerId).map Prod.snd

/-- The lanes of sessions, in their order. -/
def lanesOf (sessions : List SessionInfo) : List Text :=
  (sessions.map SessionInfo.lossyPeerId).filter fun lane => lane ≠ []

/-- What the end of a connection does to a connection still in the map. -/
def stopConnection (impl : Impl) (peerId : Text) : Impl :=
  { impl with
    connections := impl.connections.adjust peerId fun connection =>
      { connection with running := false } }

/-- `runtime_drop_peer_state`.  A lane only loses its entry; for any other peer
the sessions and leases go, but only the last lane found is closed. -/
def runtimeDropPeerState (impl : Impl) (peer : Peer) : Impl :=
  match impl.laneOwner.find? peer.id with
  | some owner =>
      -- The source returns here, before it looks at sessions and leases of the peer.
      { impl with
        sessions := impl.sessions.adjust owner fun session =>
          if session.lossyPeerId = peer.id then { session with lossyPeerId := [] } else session
        laneOwner := impl.laneOwner.erase peer.id }
  | none =>
      let lost := sessionsOf impl peer.id
      let lanes := lanesOf lost
      let impl :=
        { impl with
          sessions := impl.sessions.eraseIf fun key _ => key.peerId = peer.id
          laneOwner := lanes.foldl SortedMap.erase impl.laneOwner
          authorityLeases := impl.authorityLeases.eraseIf fun _ lease => lease.peerId = peer.id }
      let impl := match lanes.getLast? with
        | none => impl
        | some lossyToClose => stopConnection impl lossyToClose
      lost.foldl (fun impl session =>
        impl.emit { kind := .session, peer, session := { session with state := .lost } }) impl

/-! The tables after a drop. -/

section drop

variable (impl : Impl) (peer : Peer)

/-- Events only go to the handlers. -/
theorem foldl_emit {α : Type*} (event : α → RuntimeEvent) (l : List α) :
    l.foldl (fun impl a => impl.emit (event a)) impl =
      { impl with events := impl.events ++ l.map event } := by
  induction l generalizing impl with
  | nil => simp
  | cons a l ih =>
    rw [List.foldl_cons, ih]
    simp [Impl.emit]

theorem drop_lane {owner : SessionKey} (h : impl.laneOwner.find? peer.id = some owner) :
    runtimeDropPeerState impl peer =
      { impl with
        sessions := impl.sessions.adjust owner fun session =>
          if session.lossyPeerId = peer.id then { session with lossyPeerId := [] } else session
        laneOwner := impl.laneOwner.erase peer.id } := by
  unfold runtimeDropPeerState
  rw [h]

theorem drop_control (h : impl.laneOwner.find? peer.id = none) :
    (runtimeDropPeerState impl peer).sessions =
        impl.sessions.eraseIf (fun key _ => key.peerId = peer.id) ∧
      (runtimeDropPeerState impl peer).laneOwner =
        (lanesOf (sessionsOf impl peer.id)).foldl SortedMap.erase impl.laneOwner ∧
      (runtimeDropPeerState impl peer).authorityLeases =
        impl.authorityLeases.eraseIf (fun _ lease => lease.peerId = peer.id) ∧
      (runtimeDropPeerState impl peer).running = impl.running := by
  unfold runtimeDropPeerState
  rw [h]
  simp only [foldl_emit]
  split <;> exact ⟨rfl, rfl, rfl, rfl⟩

/-- Of the connections only the last lane found is closed. -/
theorem connections_drop_control (h : impl.laneOwner.find? peer.id = none) :
    (runtimeDropPeerState impl peer).connections =
      match (lanesOf (sessionsOf impl peer.id)).getLast? with
      | none => impl.connections
      | some lossyToClose => (stopConnection impl lossyToClose).connections := by
  unfold runtimeDropPeerState
  rw [h]
  simp only [foldl_emit]
  split <;> rfl

end drop

/-! ### Frames -/

section frame

variable (impl : Impl) (clock : Clock) (peer : Peer) (envelope : Envelope)

@[simp] theorem sessions_sendSession (peerId : Text) (sessionId : UInt64) (operation : UInt8)
    (typeName : String) (payload : Bytes) (correlationId : UInt64) :
    (sendSession impl clock peerId sessionId operation typeName payload correlationId).sessions =
      impl.sessions := rfl

/-- A session message leaves one record behind. -/
theorem sessions_handleSession :
    (handleSession impl clock peer envelope).sessions =
      impl.sessions.insert ⟨peer.id, envelope.sessionId⟩
        (sessionStep impl.config peer.id envelope
          (sessionRecord impl ⟨peer.id, envelope.sessionId⟩)).session := by
  unfold handleSession
  simp only
  split
  · rfl
  · split <;> split <;> rfl

@[simp] theorem laneOwner_sendSession (peerId : Text) (sessionId : UInt64) (operation : UInt8)
    (typeName : String) (payload : Bytes) (correlationId : UInt64) :
    (sendSession impl clock peerId sessionId operation typeName payload correlationId).laneOwner =
      impl.laneOwner := rfl

theorem laneOwner_handleSession :
    (handleSession impl clock peer envelope).laneOwner = impl.laneOwner := by
  unfold handleSession
  simp only
  split
  · rfl
  · split <;> split <;> rfl

/-- The branches leave alone what tells records apart. -/
theorem sessionOperation_fields (config : RuntimeConfig) (session : SessionInfo) :
    (sessionOperation config envelope session).session.sessionId = session.sessionId ∧
      (sessionOperation config envelope session).session.lossyPeerId = session.lossyPeerId ∧
      (sessionOperation config envelope session).session.remoteEndpointUid =
        session.remoteEndpointUid ∧
      (sessionOperation config envelope session).sourceMismatch = false := by
  unfold sessionOperation
  split
  · split
    · exact ⟨rfl, rfl, rfl, rfl⟩
    · split <;> exact ⟨rfl, rfl, rfl, rfl⟩
  split
  · exact ⟨rfl, rfl, rfl, rfl⟩
  split
  · split <;> exact ⟨rfl, rfl, rfl, rfl⟩
  split
  · split
    · exact ⟨rfl, rfl, rfl, rfl⟩
    · split <;> exact ⟨rfl, rfl, rfl, rfl⟩
  · exact ⟨rfl, rfl, rfl, rfl⟩

section source

variable {envelope : Envelope} {found : SessionInfo} (config : RuntimeConfig) (peerId : Text)

/-- A message from the endpoint of the record, or from its first one. -/
theorem sessionStep_of_source
    (h : found.remoteEndpointUid = [] ∨ found.remoteEndpointUid = envelope.source.endpointUid) :
    sessionStep config peerId envelope found =
      sessionOperation config envelope
        { found with
          sessionId := envelope.sessionId
          peerId
          remoteEndpointUid := envelope.source.endpointUid } := by
  unfold sessionStep
  dsimp only
  by_cases hnew : found.remoteEndpointUid = []
  · rw [if_pos hnew]
  · have hsame := h.resolve_left hnew
    rw [if_neg hnew, if_neg (not_not_intro hsame), ← hsame]

/-- A message from another endpoint. -/
theorem sessionStep_of_mismatch
    (h : ¬ (found.remoteEndpointUid = [] ∨
      found.remoteEndpointUid = envelope.source.endpointUid)) :
    sessionStep config peerId envelope found =
      { session := { found with sessionId := envelope.sessionId, peerId, state := .invalid }
        sourceMismatch := true } := by
  obtain ⟨hknown, hother⟩ := not_or.mp h
  unfold sessionStep
  dsimp only
  rw [if_neg hknown, if_pos hother]

end source

/-- The record is the one of its key and keeps its lane. -/
theorem sessionStep_fields (config : RuntimeConfig) (peerId : Text) (found : SessionInfo) :
    (sessionStep config peerId envelope found).session.sessionId = envelope.sessionId ∧
      (sessionStep config peerId envelope found).session.lossyPeerId = found.lossyPeerId := by
  by_cases hsource : found.remoteEndpointUid = [] ∨
      found.remoteEndpointUid = envelope.source.endpointUid
  · rw [sessionStep_of_source config peerId hsource]
    obtain ⟨hid, hlane, -⟩ := sessionOperation_fields envelope config _
    exact ⟨hid, hlane⟩
  · rw [sessionStep_of_mismatch config peerId hsource]
    exact ⟨rfl, rfl⟩

/-- A message of another family touches neither sessions nor lanes. -/
theorem tables_handleMessage :
    (handleMessage impl clock peer envelope).sessions = impl.sessions ∧
      (handleMessage impl clock peer envelope).laneOwner = impl.laneOwner ∧
      (handleMessage impl clock peer envelope).config = impl.config := by
  unfold handleMessage
  simp only
  split
  · exact ⟨rfl, rfl, rfl⟩
  · split
    · next impl' hauthority =>
      unfold runtimeHandleAuthority at hauthority
      split at hauthority
      · rw [← Option.some.inj hauthority]
        exact ⟨rfl, rfl, rfl⟩
      · exact absurd hauthority (by simp)
    · split <;> exact ⟨rfl, rfl, rfl⟩

theorem sessions_handleMessage :
    (handleMessage impl clock peer envelope).sessions = impl.sessions :=
  (tables_handleMessage impl clock peer envelope).1

theorem laneOwner_handleMessage :
    (handleMessage impl clock peer envelope).laneOwner = impl.laneOwner :=
  (tables_handleMessage impl clock peer envelope).2.1

/-- **A lane is bound** to a session, which may be told so; or nothing happens. -/
theorem handleLaneBind_cases :
    handleLaneBind impl clock peer envelope = impl ∨
      ∃ (key : SessionKey) (bound : Impl),
        bound = { impl with
          sessions := impl.sessions.adjust key fun session => { session with lossyPeerId := peer.id }
          laneOwner := impl.laneOwner.insert peer.id ⟨key.peerId, envelope.sessionId⟩ } ∧
        (handleLaneBind impl clock peer envelope = bound ∨
          handleLaneBind impl clock peer envelope =
            sendSession bound clock peer.id envelope.sessionId SessionOperation.laneReady
              "session.lane_ready" [] envelope.messageId) := by
  unfold handleLaneBind
  split
  · exact Or.inl rfl
  split
  · exact Or.inl rfl
  split
  · exact Or.inl rfl
  next key session hfind =>
  refine Or.inr ⟨key, _, rfl, ?_⟩
  dsimp only
  split
  · exact Or.inl rfl
  · exact Or.inr rfl

/-- **A lane gets ready** for the session that owns it, if that is active; or nothing happens. -/
theorem handleLaneReady_cases :
    handleLaneReady impl peer envelope = impl ∨
      ∃ (owner : SessionKey) (session : SessionInfo), impl.laneOwner.find? peer.id = some owner ∧
        owner.sessionId = envelope.sessionId ∧ impl.sessions.find? owner = some session ∧
        session.state = .active ∧
        handleLaneReady impl peer envelope =
          { impl with
            sessions := impl.sessions.insert owner { session with lossyPeerId := peer.id } } := by
  unfold handleLaneReady
  split
  · exact Or.inl rfl
  next owner howner =>
  split
  · exact Or.inl rfl
  next hid =>
  -- The session that gets ready is the one that owns the lane.
  have hkey : (⟨owner.peerId, envelope.sessionId⟩ : SessionKey) = owner := by
    rw [← not_not.mp hid]
  rw [hkey]
  split
  · exact Or.inl rfl
  next session hfind =>
  split
  · exact Or.inl rfl
  next hactive =>
  exact Or.inr ⟨owner, session, howner, not_not.mp hid, hfind, not_not.mp hactive, rfl⟩

/-- Session messages touch neither the leases nor the configuration. -/
theorem leases_session (h : envelope.family = .session) :
    (runtimeHandleEnvelope impl clock peer envelope).authorityLeases = impl.authorityLeases ∧
      (runtimeHandleEnvelope impl clock peer envelope).config = impl.config := by
  unfold runtimeHandleEnvelope
  rw [if_pos h]
  split
  · rcases handleLaneBind_cases impl clock peer envelope with heq | ⟨key, _, rfl, heq | heq⟩
    · rw [heq]
      exact ⟨rfl, rfl⟩
    · rw [heq]
      exact ⟨rfl, rfl⟩
    · rw [heq]
      exact ⟨rfl, rfl⟩
  split
  · rcases handleLaneReady_cases impl peer envelope with heq | ⟨owner, session, -, -, -, -, heq⟩
    · rw [heq]
      exact ⟨rfl, rfl⟩
    · rw [heq]
      exact ⟨rfl, rfl⟩
  · unfold handleSession
    dsimp only
    split
    · exact ⟨rfl, rfl⟩
    · split <;> split <;> exact ⟨rfl, rfl⟩

/-- Nothing that is received changes the configuration. -/
theorem config_receive : (runtimeHandleEnvelope impl clock peer envelope).config = impl.config := by
  by_cases hfamily : envelope.family = .session
  · exact (leases_session impl clock peer envelope hfamily).2
  · rw [runtimeHandleEnvelope, if_neg hfamily]
    exact (tables_handleMessage impl clock peer envelope).2.2

end frame

end YunLink
