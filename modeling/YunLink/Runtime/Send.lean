import YunLink.Runtime.Session

/-!
# Sending messages

`Runtime::send` and `Runtime::publish` (`runtime_api.cpp`).  A message of a profile
goes out only if its session has agreed on the profile; messages that may be dropped
take the lossy lane of their session, if it has one.

## Main definitions

* `latestKey` — what ReliableLatest messages replace each other by.
* `sessionSupportsProfile`, `runtimeConnectionForSend` — the check and the route.
* `send`, `publish` — the functions of the source, with the code they return.

## Main results

* `supportsProfile_of_send` — what `send` accepts has passed the check.
-/

namespace YunLink

/-- A number as an output stream writes it. -/
def decimal (n : ℕ) : Text := ascii (toString n)

/-- `latest_key`. -/
def latestKey (envelope : Envelope) : Text :=
  decimal envelope.sessionId.toNat ++ ascii ":" ++ decimal envelope.family.toUInt8.toNat ++
    ascii ":" ++ envelope.source.entityUid ++ ascii ":" ++
    decimal envelope.target.scope.toUInt8.toNat ++ ascii ":" ++
    envelope.target.uids.flatMap (fun uid => uid ++ ascii ",") ++
    ascii ":" ++ envelope.type.profileId ++ ascii ":" ++ decimal envelope.type.major.toNat ++
    ascii ":" ++ decimal envelope.type.minor.toNat ++ ascii ":" ++ envelope.type.typeName

/-- `Runtime::session_supports_profile`. -/
def sessionSupportsProfile (impl : Impl) (peerId : Text) (sessionId : UInt64) (profileId : Text)
    (major minimumMinor : UInt16) : Bool :=
  match impl.sessions.find? ⟨peerId, sessionId⟩ with
  | none => false
  | some session => session.supportsProfile profileId major minimumMinor

/-- `runtime_connection_for_send`: the id the connection is found under, if there is
one. -/
def runtimeConnectionForSend (impl : Impl) (peerId : Text) (sessionId : UInt64) (qos : QosClass) :
    Option (Text × RuntimeConnection) :=
  let route :=
    if qosMayDrop qos then
      match impl.sessions.find? ⟨peerId, sessionId⟩ with
      | none => peerId
      | some session => if session.lossyPeerId = [] then peerId else session.lossyPeerId
    else peerId
  (impl.connections.find? route).map fun connection => (route, connection)

/-- `Runtime::send`; `stamp` is the ghost stamp of the frame. -/
def send (impl : Impl) (clock : Clock) (peerId : Text) (envelope : Envelope) (stamp : ℕ) :
    Impl × ErrorCode :=
  if envelope.family ≠ .session && !envelope.type.isCore &&
      !sessionSupportsProfile impl peerId envelope.sessionId envelope.type.profileId
        envelope.type.major envelope.type.minor then (impl, .unsupported)
  else
    match runtimeConnectionForSend impl peerId envelope.sessionId envelope.qosClass with
    | none => (impl, .notFound)
    | some (route, connection) =>
        let bytes := WireCodec.encode envelope true clock.nowMs
        if bytes = [] then (impl, .encodeError)
        else
          let (connection, accepted) := runtimeEnqueue connection bytes envelope.qosClass
            (if envelope.qosClass = .reliableLatest then latestKey envelope else []) stamp
          ({ impl with connections := impl.connections.insert route connection },
            if accepted then .ok else .rejected)

/-- `MessageHandle`. -/
structure MessageHandle where
  sessionId : UInt64 := 0
  messageId : UInt64 := 0
  correlationId : UInt64 := 0
  deriving DecidableEq, Repr, Inhabited

/-- `Runtime::publish`, with the handle of a message that was accepted. -/
def publish (impl : Impl) (clock : Clock) (peerId : Text) (sessionId : UInt64)
    (family : MessageFamily) (operation : UInt8) (target : TargetSelector) (type : TypeRef)
    (payload : Bytes) (correlationId : UInt64) (ttlMs : UInt32) (qos : QosClass)
    (sourceEntityUid : Text) (stamp : ℕ) : Impl × ErrorCode × Option MessageHandle :=
  let (impl, messageId) := impl.takeMessageId
  let envelope : Envelope :=
    { family, operation, qosClass := qos, sessionId, messageId, correlationId
      source := ⟨impl.config.endpointUid, sourceEntityUid⟩
      target, type, createdAtMs := clock.nowMs, ttlMs, payload }
  let (impl, result) := send impl clock peerId envelope stamp
  (impl, result, if result = .ok then some ⟨sessionId, messageId, correlationId⟩ else none)

/-- What `send` accepts can be written, and has passed the check of its profile. -/
theorem supportsProfile_of_send {impl : Impl} {clock : Clock} {peerId : Text} {envelope : Envelope}
    {stamp : ℕ} (h : (send impl clock peerId envelope stamp).2 = .ok)
    (hfamily : envelope.family ≠ .session) :
    WireCodec.encode envelope true clock.nowMs ≠ [] ∧
      (envelope.type.isCore ||
        sessionSupportsProfile impl peerId envelope.sessionId envelope.type.profileId
          envelope.type.major envelope.type.minor) = true := by
  unfold send at h
  split at h
  · exact absurd h (by simp)
  next hcheck =>
  split at h
  · exact absurd h (by simp)
  dsimp only at h
  refine ⟨fun hbytes => ?_, ?_⟩
  · rw [if_pos hbytes] at h
    exact absurd h (by simp)
  · rw [Bool.or_eq_true]
    by_cases hcore : envelope.type.isCore = true
    · exact Or.inl hcore
    · right
      simpa [hfamily, hcore] using hcheck

end YunLink
