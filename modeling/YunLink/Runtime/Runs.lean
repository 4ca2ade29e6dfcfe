import YunLink.Runtime.Session

/-!
# Runs of a runtime

Connections come and go (`runtime.cpp`), and a run interleaves them with calls of
the interface and with envelopes received on any connection, each handled in one
step.  A receive loop may hand over an envelope while its connection is already
being closed, so nothing is asked of the peer of a `receive` step, and the
teardown at the end of a receive loop is a step of its own.

## Main definitions

* `acceptPeer`, `bindLossyLane`, `closePeer`, `reapClosedConnections`, `start`,
  `stop` — the operations on connections.
* `RuntimeStep`, `Impl.step`, `runtimeRun` — runs.
* `handshake`, `laneHandshake` — what a remote runtime sends to open a session and
  to bind a lane, as steps.

## Main results

* `runtimeRun_induction` — the induction principle of runs.
-/

namespace YunLink

/-- A connection is accepted, or `connect_peer` has established one. -/
def acceptPeer (impl : Impl) (peer : Peer) : Impl :=
  { impl with
    connections := impl.connections.insert peer.id
      { peer, running := true, maxQueuedBytes := impl.config.maxBufferBytesPerPeer } }.emit
    { kind := .link, peer, linkUp := true }

/-! ### Closing -/

/-- The lane `close_peer` goes on with: that of the last session of the peer that
has one. -/
def laneToClose (impl : Impl) (peerId : Text) : Text :=
  (lanesOf (sessionsOf impl peerId)).getLastD []

/-- The section of `close_peer` under the mutex. -/
def detachPeer (impl : Impl) (peerId : Text) : Impl :=
  let lossyPeerId := laneToClose impl peerId
  -- Every session of the peer forgets its lane, but only one lane leaves the table.
  let impl :=
    { impl with
      connections := impl.connections.erase peerId
      sessions := impl.sessions.mapVal fun key session =>
        if key.peerId = peerId then { session with lossyPeerId := [] } else session }
  let impl :=
    match impl.laneOwner.find? peerId with
    | none => impl
    | some owner =>
        { impl with
          sessions := impl.sessions.adjust owner fun session =>
            if session.lossyPeerId = peerId then { session with lossyPeerId := [] } else session
          laneOwner := impl.laneOwner.erase peerId }
  if lossyPeerId = [] then impl
  else { impl with laneOwner := impl.laneOwner.erase lossyPeerId }

theorem connections_detachPeer (impl : Impl) (peerId : Text) :
    (detachPeer impl peerId).connections = impl.connections.erase peerId := by
  unfold detachPeer
  simp only
  split <;> split <;> rfl

theorem leases_detachPeer (impl : Impl) (peerId : Text) :
    (detachPeer impl peerId).authorityLeases = impl.authorityLeases ∧
      (detachPeer impl peerId).config = impl.config := by
  unfold detachPeer
  simp only
  split <;> split <;> exact ⟨rfl, rfl⟩

/-- The peer's sessions lose their lanes, and its owner's session loses it as a lane. -/
theorem sessions_detachPeer (impl : Impl) (peerId : Text) :
    (detachPeer impl peerId).sessions = impl.sessions.mapVal fun key session =>
      if key.peerId = peerId ∨ impl.laneOwner.find? peerId = some key ∧
          session.lossyPeerId = peerId then { session with lossyPeerId := [] }
      else session := by
  unfold detachPeer
  dsimp only
  apply SortedMap.ext_find?
  intro key
  rw [SortedMap.find?_mapVal]
  -- The session of the owner is looked at only when the peer is a lane.
  cases hlane : impl.laneOwner.find? peerId with
  | none => split <;> simp
  | some owner =>
    have hfind : ((impl.sessions.mapVal fun key session =>
          if key.peerId = peerId then { session with lossyPeerId := [] } else session).adjust owner
        fun session => if session.lossyPeerId = peerId then { session with lossyPeerId := [] }
          else session).find? key =
        (impl.sessions.find? key).map fun session =>
          if key.peerId = peerId ∨ some owner = some key ∧ session.lossyPeerId = peerId then
            { session with lossyPeerId := [] }
          else session := by
      rw [SortedMap.find?_adjust, SortedMap.find?_mapVal]
      cases impl.sessions.find? key with
      | none => simp
      | some session =>
        by_cases hpeer : key.peerId = peerId
        · simp only [Option.map_some, if_pos hpeer, if_pos (Or.inl hpeer)]
          split_ifs <;> rfl
        · simp only [Option.map_some, hpeer, if_false, false_or, Option.some.injEq]
          by_cases howner : owner = key
          · simp only [howner, if_true, true_and]
          · simp only [howner, Ne.symm howner, if_false, false_and]
    split
    · exact hfind
    · exact hfind

theorem find?_laneOwner_detachPeer (impl : Impl) (peerId lane : Text) (owner : SessionKey) :
    (detachPeer impl peerId).laneOwner.find? lane = some owner ↔
      impl.laneOwner.find? lane = some owner ∧ lane ≠ peerId ∧
        (laneToClose impl peerId = [] ∨ lane ≠ laneToClose impl peerId) := by
  have hpeer : impl.laneOwner.find? peerId = none → impl.laneOwner.find? lane = some owner →
      lane ≠ peerId := by
    rintro hnone hfind rfl
    exact absurd (hnone.symm.trans hfind) (by simp)
  unfold detachPeer
  dsimp only
  cases hlane : impl.laneOwner.find? peerId with
  | none =>
    by_cases hlossy : laneToClose impl peerId = []
    · simpa [hlossy] using hpeer hlane
    · by_cases hlast : lane = laneToClose impl peerId
      · simp [hlossy, hlast]
      · simpa [hlossy, hlast] using hpeer hlane
  | some other =>
    by_cases hlossy : laneToClose impl peerId = []
    · by_cases hid : lane = peerId <;> simp [hlossy, hid]
    · by_cases hlast : lane = laneToClose impl peerId
      · simp [hlossy, hlast]
      · by_cases hid : lane = peerId <;> simp [hlossy, hlast, hid]

/-- `Runtime::close_peer`. -/
def closePeer (impl : Impl) (peerId : Text) : Impl :=
  match _h : impl.connections.find? peerId with
  | none => impl
  | some _ =>
      -- The connection is joined between the two; its teardown is a step of its own.
      let lossyPeerId := laneToClose impl peerId
      let impl' := detachPeer impl peerId
      if lossyPeerId ≠ [] ∧ lossyPeerId ≠ peerId then closePeer impl' lossyPeerId else impl'
termination_by impl.connections.entries.length
decreasing_by
  rw [connections_detachPeer]
  exact SortedMap.length_entries_erase_lt _h

/-- `reap_closed_connections`. -/
def reapClosedConnections (impl : Impl) : Impl :=
  { impl with
    connections := impl.connections.eraseIf fun _ connection => !connection.running }

/-- `Runtime::start`; `listening` is whether the acceptor could be set up.  Nothing
is cleared, and the configuration is kept even when it could not. -/
def start (impl : Impl) (config : RuntimeConfig) (listening : Bool) : Impl × ErrorCode :=
  if impl.running then (impl, .ok)
  else if !validUid config.endpointUid || !config.entities.all validUid ||
      config.profiles.any fun profile => !validProfileId profile.profileId || profile.major = 0 then
    (impl, .invalidArgument)
  else if !listening then ({ impl with config }, .internal)
  else ({ impl with config, running := true }, .ok)

/-- `Runtime::stop`; the table of lanes is not cleared. -/
def stop (impl : Impl) : Impl :=
  if !impl.running then impl
  else
    { impl with
      running := false
      connections := .empty
      sessions := .empty
      authorityLeases := .empty }

/-! ### Lanes -/

/-- `Runtime::bind_lossy_lane` up to the point where it waits for the peer's
answer; when it gives up waiting it calls `close_peer` on the lane. -/
def bindLossyLane (impl : Impl) (clock : Clock) (peerId : Text) (sessionId : UInt64) : Impl :=
  if !impl.running || sessionId = 0 then impl
  else
    match impl.sessions.find? ⟨peerId, sessionId⟩, impl.connections.find? peerId with
    | some info, some control =>
        if info.state ≠ .active ∨ info.lossyPeerId ≠ [] ∨ control.peer.port = 0 then impl
        else
          -- The lane is entered before the peer has agreed to it.
          let lanePeerId := peerId ++ ascii "#lossy"
          let lane : RuntimeConnection :=
            { peer := { control.peer with id := lanePeerId }
              running := true
              maxQueuedBytes := impl.config.maxBufferBytesPerPeer }
          let (impl, messageId) := impl.takeMessageId
          let bind := sessionEnvelope impl.config clock messageId sessionId
            SessionOperation.laneBind "session.lane_bind" (encodeText impl.config.sharedSecret) 0
          let (lane, accepted) :=
            runtimeEnqueue lane (WireCodec.encode bind true clock.nowMs) .reliableOrdered [] 0
          let impl :=
            { impl with
              connections := impl.connections.insert lanePeerId lane
              laneOwner := impl.laneOwner.insert lanePeerId ⟨peerId, sessionId⟩ }
          if accepted then impl else closePeer impl lanePeerId
    | _, _ => impl

/-! ### Runs -/

/-- A message that arrives, or a call of the interface. -/
inductive RuntimeStep
  | receive (clock : Clock) (peer : Peer) (envelope : Envelope)
  | openSession (clock : Clock) (peerId : Text)
  | dropPeer (peer : Peer)
  | accept (peer : Peer)
  | bindLane (clock : Clock) (peerId : Text) (sessionId : UInt64)
  | closePeer (peerId : Text)
  | reap
  | setEntities (entities : List Text)
  | revoke (peerId : Text) (sessionId : UInt64) (entityUids : List Text)
  | start (config : RuntimeConfig) (listening : Bool)
  | stop

/-- The state after the step. -/
def Impl.step (impl : Impl) : RuntimeStep → Impl
  | .receive clock peer envelope => runtimeHandleEnvelope impl clock peer envelope
  | .openSession clock peerId => (YunLink.openSession impl clock peerId).1
  | .dropPeer peer => runtimeDropPeerState impl peer
  | .accept peer => acceptPeer impl peer
  | .bindLane clock peerId sessionId => bindLossyLane impl clock peerId sessionId
  | .closePeer peerId => YunLink.closePeer impl peerId
  | .reap => reapClosedConnections impl
  | .setEntities entities => (YunLink.setEntities impl entities).1
  | .revoke peerId sessionId entityUids => runtimeRevokeAuthority impl peerId sessionId entityUids
  | .start config listening => (YunLink.start impl config listening).1
  | .stop => YunLink.stop impl

/-- A run from a runtime just started. -/
def runtimeRun (config : RuntimeConfig) (steps : List RuntimeStep) : Impl :=
  steps.foldl Impl.step { config, running := true }

/-- What holds of a runtime just started and is kept by every step holds along
every run. -/
theorem runtimeRun_induction {motive : Impl → Prop} (config : RuntimeConfig)
    (steps : List RuntimeStep) (start : motive { config, running := true })
    (step : ∀ impl s, motive impl → motive (impl.step s)) : motive (runtimeRun config steps) :=
  List.foldlRecOn steps Impl.step start fun impl himpl s _ => step impl s himpl

/-! ### A remote runtime -/

/-- A session message of a remote runtime, received from a peer. -/
def receiveSession (remote : RuntimeConfig) (peer : Peer) (sessionId : UInt64) (operation : UInt8)
    (typeName : String) (payload : Bytes) : RuntimeStep :=
  .receive {} peer (sessionEnvelope remote {} 0 sessionId operation typeName payload 0)

/-- A connection, and the messages of `open_session` received on it. -/
def handshake (remote : RuntimeConfig) (peer : Peer) (sessionId : UInt64) : List RuntimeStep :=
  [.accept peer,
    receiveSession remote peer sessionId SessionOperation.hello "session.hello"
      (encodeText remote.endpointUid),
    receiveSession remote peer sessionId SessionOperation.authenticate "session.authenticate"
      (encodeText remote.sharedSecret),
    receiveSession remote peer sessionId SessionOperation.profiles "session.profiles"
      (encodeProfileList remote.profiles),
    receiveSession remote peer sessionId SessionOperation.ready "session.ready" []]

/-- A connection, and the message of `bind_lossy_lane` received on it. -/
def laneHandshake (remote : RuntimeConfig) (lane : Peer) (sessionId : UInt64) : List RuntimeStep :=
  [.accept lane,
    receiveSession remote lane sessionId SessionOperation.laneBind "session.lane_bind"
      (encodeText remote.sharedSecret)]

/-- An authority request of a remote runtime for an entity. -/
def authorityEnvelope (remote : RuntimeConfig) (sessionId : UInt64) (operation : UInt8)
    (entityUid : Text) (request : AuthorityRequest) : Envelope where
  family := .authority
  operation
  sessionId
  source := ⟨remote.endpointUid, []⟩
  target := .ofEntity entityUid
  type := ⟨ascii "yunlink.core", 2, 0, ascii "authority.request"⟩
  payload := request.encode

end YunLink
