import YunLink.Runtime.Runs

/-!
# Control connection and lane

A session with a lossy lane has two connections, and which of them carries a
message is a matter of its QoS.  The session is looked up under the control peer for
both, but leases are taken and checked under the peer a message comes from, so a
session does not know its own lease when it comes over the other connection.

## Main definitions

* `verdict` — what an envelope is answered with.
* `renameLane` — a table of leases with the lane called by its control peer's name.
* `SameOutcome` — the two connections make no difference.
* `consulted`, `JudgedAlike` — the lease an envelope is judged by, and when the name
  of the connection does not matter to it.
* `BoundLane` — a session and its lane.
* `Indifferent` — the condition under which the connections make no difference.

## Main results

* `handleMessage_of_verdict` — the verdict is what the runtime acts on.
* `connectionsNamed_runtimeRun` — connections are kept under their peer's name.
* `boundLane_sameOutcome_iff` — **the connections make no difference exactly when
  the lease in question is not the session's own**, but for a preempting claim.
* `goalOverLane_not_sameOutcome` — a goal over the lane, refused to the session that
  took the lease over its control connection.
-/

namespace YunLink

/-! ### Connections and their peers -/

theorem peer_runtimeEnqueue (c : RuntimeConnection) (bytes : Bytes) (qos : QosClass)
    (latestKey : Text) (stamp : ℕ) :
    (runtimeEnqueue c bytes qos latestKey stamp).1.peer = c.peer := by
  have hevicts : ∀ {c c' : RuntimeConnection}, Evicts c c' → c'.peer = c.peer :=
    fun h => h.invariant _ fun _ _ _ _ _ => rfl
  have houtcome := runtimeEnqueue_outcome c bytes qos latestKey stamp
  generalize runtimeEnqueue c bytes qos latestKey stamp = out at houtcome
  cases houtcome with
  | ignored => rfl
  | refused h =>
    have hpeer := hevicts h
    exact hpeer
  | kept _ _ h =>
    have hpeer := hevicts h
    exact hpeer
  | replaced _ _ _ _ _ _ h =>
    have hpeer := hevicts h
    exact hpeer
  | pushed _ _ h =>
    have hpeer := hevicts h
    exact hpeer

/-- Every connection has a property of the id it is kept under and its peer. -/
def ConnectionsAll (P : Text → Peer → Prop) (connections : SortedMap Text RuntimeConnection) :
    Prop :=
  ∀ peerId connection, connections.find? peerId = some connection → P peerId connection.peer

/-- Every connection is kept under the id of its peer. -/
def ConnectionsNamed (connections : SortedMap Text RuntimeConnection) : Prop :=
  ∀ peerId connection, connections.find? peerId = some connection → connection.peer.id = peerId

namespace ConnectionsAll

variable {P : Text → Peer → Prop} {connections : SortedMap Text RuntimeConnection}

theorem insert (h : ConnectionsAll P connections) {peerId : Text} {connection : RuntimeConnection}
    (hnew : P peerId connection.peer) :
    ConnectionsAll P (connections.insert peerId connection) := by
  intro peerId' connection' hfind
  rw [SortedMap.find?_insert] at hfind
  split at hfind
  · next hkey =>
    rw [hkey, ← Option.some.inj hfind]
    exact hnew
  · exact h peerId' connection' hfind

theorem adjust (h : ConnectionsAll P connections) (peerId : Text)
    {f : RuntimeConnection → RuntimeConnection}
    (hf : ∀ connection, (f connection).peer = connection.peer) :
    ConnectionsAll P (connections.adjust peerId f) := by
  intro peerId' connection' hfind
  rw [SortedMap.find?_adjust] at hfind
  split at hfind
  · obtain ⟨connection, hold, rfl⟩ := Option.map_eq_some_iff.mp hfind
    rw [hf]
    exact h peerId' connection hold
  · exact h peerId' connection' hfind

theorem eraseIf (h : ConnectionsAll P connections) (p : Text → RuntimeConnection → Bool) :
    ConnectionsAll P (connections.eraseIf p) := by
  intro peerId connection hfind
  rw [SortedMap.find?_eraseIf] at hfind
  exact h peerId connection (Option.filter_eq_some_iff.mp hfind).1

end ConnectionsAll

section all

variable {P : Text → Peer → Prop} {impl : Impl}

theorem all_write (h : ConnectionsAll P impl.connections) (peerId : Text) (bytes : Bytes) :
    ConnectionsAll P (impl.write peerId bytes).connections :=
  h.adjust peerId fun _ => peer_runtimeEnqueue _ _ _ _ _

theorem all_sendSession (h : ConnectionsAll P impl.connections) (clock : Clock) (peerId : Text)
    (sessionId : UInt64) (operation : UInt8) (typeName : String) (payload : Bytes)
    (correlationId : UInt64) :
    ConnectionsAll P (sendSession impl clock peerId sessionId operation typeName payload
      correlationId).connections := by
  apply all_write
  exact h

theorem all_handleSession (h : ConnectionsAll P impl.connections) (clock : Clock) (peer : Peer)
    (envelope : Envelope) :
    ConnectionsAll P (handleSession impl clock peer envelope).connections := by
  unfold handleSession
  dsimp only
  split
  · exact h
  split <;> split
  · exact all_sendSession (all_sendSession h _ _ _ _ _ _ _) _ _ _ _ _ _ _
  · exact all_sendSession h _ _ _ _ _ _ _
  · exact all_sendSession h _ _ _ _ _ _ _
  · exact h

theorem all_handleLaneBind (h : ConnectionsAll P impl.connections) (clock : Clock) (peer : Peer)
    (envelope : Envelope) :
    ConnectionsAll P (handleLaneBind impl clock peer envelope).connections := by
  rcases handleLaneBind_cases impl clock peer envelope with heq | ⟨key, _, rfl, heq | heq⟩
  · rw [heq]
    exact h
  · rw [heq]
    exact h
  · rw [heq]
    exact all_sendSession h _ _ _ _ _ _ _

theorem connections_handleLaneReady (peer : Peer) (envelope : Envelope) :
    (handleLaneReady impl peer envelope).connections = impl.connections := by
  rcases handleLaneReady_cases impl peer envelope with heq | ⟨owner, session, -, -, -, -, heq⟩
  · rw [heq]
  · rw [heq]

theorem all_handleMessage (h : ConnectionsAll P impl.connections) (clock : Clock) (peer : Peer)
    (envelope : Envelope) :
    ConnectionsAll P (handleMessage impl clock peer envelope).connections := by
  unfold handleMessage
  dsimp only
  split
  · exact h
  split
  · next impl' hauthority =>
    unfold runtimeHandleAuthority at hauthority
    split at hauthority
    · obtain rfl := Option.some.inj hauthority
      exact all_write h _ _
    · exact absurd hauthority (by simp)
  split <;> exact h

theorem all_runtimeDropPeerState (h : ConnectionsAll P impl.connections) (peer : Peer) :
    ConnectionsAll P (runtimeDropPeerState impl peer).connections := by
  unfold runtimeDropPeerState
  split
  · exact h
  · dsimp only
    refine List.foldlRecOn (motive := fun impl : Impl => ConnectionsAll P impl.connections) _ _ ?_
      fun _ hold _ _ => hold
    split
    · exact h
    · exact h.adjust _ fun _ => rfl

theorem all_closePeer (h : ConnectionsAll P impl.connections) (peerId : Text) :
    ConnectionsAll P (closePeer impl peerId).connections := by
  fun_induction closePeer impl peerId with
  | case1 => exact h
  | case2 impl peerId _ _ lossyPeerId impl' _ ih =>
    refine ih ?_
    rw [connections_detachPeer]
    exact h.eraseIf _
  | case3 impl peerId =>
    rw [connections_detachPeer]
    exact h.eraseIf _

theorem all_openSession (h : ConnectionsAll P impl.connections) (clock : Clock) (peerId : Text) :
    ConnectionsAll P (openSession impl clock peerId).1.connections := by
  unfold openSession
  split
  · exact h
  · dsimp only
    iterate 4 apply all_sendSession
    exact h

theorem all_bindLossyLane (hnew : ∀ peer : Peer, P peer.id peer)
    (h : ConnectionsAll P impl.connections) (clock : Clock) (peerId : Text) (sessionId : UInt64) :
    ConnectionsAll P (bindLossyLane impl clock peerId sessionId).connections := by
  unfold bindLossyLane
  split
  · exact h
  split
  · next control _ _ =>
    have hlane := hnew { control.peer with id := peerId ++ ascii "#lossy" }
    split
    · exact h
    · dsimp only
      split
      · apply h.insert
        rw [peer_runtimeEnqueue]
        exact hlane
      · apply all_closePeer
        apply h.insert
        rw [peer_runtimeEnqueue]
        exact hlane
  · exact h

theorem all_runtimeHandleEnvelope (h : ConnectionsAll P impl.connections) (clock : Clock)
    (peer : Peer) (envelope : Envelope) :
    ConnectionsAll P (runtimeHandleEnvelope impl clock peer envelope).connections := by
  unfold runtimeHandleEnvelope
  split
  · split
    · exact all_handleLaneBind h clock peer envelope
    split
    · rw [connections_handleLaneReady]
      exact h
    · exact all_handleSession h clock peer envelope
  · exact all_handleMessage h clock peer envelope

/-- New connections are entered under their peer's name. -/
theorem all_step (hnew : ∀ peer : Peer, P peer.id peer) (h : ConnectionsAll P impl.connections)
    (s : RuntimeStep) : ConnectionsAll P (impl.step s).connections := by
  cases s with
  | receive clock peer envelope => exact all_runtimeHandleEnvelope h clock peer envelope
  | openSession clock peerId => exact all_openSession h clock peerId
  | dropPeer peer => exact all_runtimeDropPeerState h peer
  | accept peer => exact h.insert (hnew peer)
  | bindLane clock peerId sessionId => exact all_bindLossyLane hnew h clock peerId sessionId
  | closePeer peerId => exact all_closePeer h peerId
  | reap => exact h.eraseIf _
  | setEntities entities =>
    simp only [Impl.step, setEntities]
    split <;> exact h
  | revoke peerId sessionId entityUids => exact h
  | start config listening =>
    simp only [Impl.step, start]
    split
    · exact h
    split
    · exact h
    split <;> exact h
  | stop =>
    simp only [Impl.step, stop]
    split
    · exact h
    · intro peerId connection hfind
      exact absurd hfind (by simp)

end all

/-- Connections are kept under their peer's name, in every run. -/
theorem connectionsNamed_runtimeRun (config : RuntimeConfig) (steps : List RuntimeStep) :
    ConnectionsNamed (runtimeRun config steps).connections := by
  apply runtimeRun_induction (motive := fun impl =>
    ConnectionsAll (fun peerId peer => peer.id = peerId) impl.connections)
  · intro peerId connection hfind
    exact absurd hfind (by simp)
  · intro impl s h
    exact all_step (fun _ => rfl) h s

/-! ### Outcomes -/

/-- What becomes of an envelope of another family than Session. -/
inductive Verdict
  /-- The session, the target or the profile does not let it through. -/
  | inadmissible (error : ErrorCode) (message : Text)
  /-- An authority request is answered. -/
  | answered (reasonCode : UInt16)
  /-- An action is refused for want of a lease. -/
  | unauthorized (message : Text)
  | delivered
  deriving DecidableEq, Repr

/-- The verdict on an envelope. -/
def verdict (impl : Impl) (clock : Clock) (peer : Peer) (envelope : Envelope) : Verdict :=
  match admission impl (logicalPeer impl peer).id envelope with
  | .error (error, message) => .inadmissible error message
  | .ok () =>
      if isAuthorityRequest envelope then
        .answered (authorityOutcome impl.authorityLeases clock.steady peer.id envelope).2.reasonCode
      else
        match runtimeActionAuthorized impl clock.steady peer envelope with
        | .error message => .unauthorized message
        | .ok () => .delivered

/-- **The verdict is what the runtime acts on.** -/
theorem handleMessage_of_verdict (impl : Impl) (clock : Clock) (peer : Peer) (envelope : Envelope) :
    handleMessage impl clock peer envelope =
      match verdict impl clock peer envelope with
      | .inadmissible error message =>
          impl.emit { kind := .error, peer, envelope, error, message }
      | .answered _ =>
          let outcome := authorityOutcome impl.authorityLeases clock.steady peer.id envelope
          sendStatus { impl with authorityLeases := outcome.1 } clock peer envelope outcome.2
      | .unauthorized message =>
          impl.emit { kind := .error, peer, envelope, error := .unauthorized, message }
      | .delivered => impl.emit { kind := .envelope, peer := logicalPeer impl peer, envelope } := by
  unfold handleMessage verdict
  dsimp only
  cases admission impl (logicalPeer impl peer).id envelope with
  | error reported => rfl
  | ok _ =>
    simp only [runtimeHandleAuthority]
    cases isAuthorityRequest envelope with
    | true => rfl
    | false =>
      simp only [Bool.false_eq_true, if_false]
      cases runtimeActionAuthorized impl clock.steady peer envelope <;> rfl

/-- The table with the lane called by its control peer's name. -/
def renameLane (lane control : Text) (leases : LeaseTable) : LeaseTable :=
  leases.mapVal fun _ lease =>
    if lease.peerId = lane then { lease with peerId := control } else lease

/-- Up to the name of the lane, it makes no difference which of two connections an
envelope arrives on. -/
def SameOutcome (impl : Impl) (clock : Clock) (control lane : Peer) (envelope : Envelope) : Prop :=
  renameLane lane.id control.id
      (runtimeHandleEnvelope impl clock control envelope).authorityLeases =
    renameLane lane.id control.id
      (runtimeHandleEnvelope impl clock lane envelope).authorityLeases ∧
  verdict impl clock control envelope = verdict impl clock lane envelope

/-- Whether the request handler looks at the entry it finds. -/
def looksAtEntry (operation : UInt8) : Prop :=
  operation = AuthorityOperation.claim ∨ operation = AuthorityOperation.renew ∨
    operation = AuthorityOperation.release
  deriving Decidable

/-- The lease an envelope is judged by: the entry the request handler finds, which
for an expired lease is the one behind it, or the live lease an action needs. -/
def consulted (impl : Impl) (now : ℕ) (envelope : Envelope) : Option AuthorityLease :=
  if isAuthorityRequest envelope then
    match authorityRequest envelope with
    | none => none
    | some (key, _) =>
        if looksAtEntry envelope.operation then
          (purgeExpired impl.authorityLeases now key).2.map Prod.snd
        else none
  else if envelope.target.scope ≠ .entity ∨ envelope.target.uids.length ≠ 1 then none
  else
    liveLease impl.authorityLeases now
      ⟨envelope.target.uids.headD [], authorityScope impl.config envelope.type⟩

/-- A claim that takes a lease away from whoever holds it. -/
def preempts (envelope : Envelope) : Bool :=
  isAuthorityRequest envelope && envelope.operation = AuthorityOperation.claim &&
    (authorityRequest envelope).any fun (_, request) => request.allowPreempt

/-- The envelope is judged alike under the names of both connections: no lease of its
own session is consulted, or it takes the lease in any case. -/
def JudgedAlike (impl : Impl) (now : ℕ) (control lane : Text) (envelope : Envelope) : Prop :=
  (∀ lease, consulted impl now envelope = some lease →
    lease.holder ≠ ⟨control, envelope.sessionId⟩ ∧ lease.holder ≠ ⟨lane, envelope.sessionId⟩) ∨
  preempts envelope = true

/-! ### Requests under two names -/

section request

variable {leases : LeaseTable} {now : ℕ} {holder holder' : SessionKey} {operation : UInt8}
  {key : LeaseKey}

/-- The reason code of a reply only depends on whether the entry found is owned. -/
theorem reasonCode_authorityTransition (leases : LeaseTable) (now : ℕ) (holder : SessionKey)
    (operation : UInt8) (key : LeaseKey) (request : AuthorityRequest) :
    (authorityTransition leases now holder operation key request).2.reasonCode =
      let existing := (purgeExpired leases now key).2
      let owned := existing.any fun entry => entry.2.holder = holder
      if operation = AuthorityOperation.release ∨ operation = AuthorityOperation.renew then
        if owned then 0 else ErrorCode.unauthorized.toUInt16
      else if operation = AuthorityOperation.claim then
        if existing.isNone || owned || request.allowPreempt then 0 else ErrorCode.conflict.toUInt16
      else invalidRequest.reasonCode := by
  unfold authorityTransition
  obtain ⟨leases', existing⟩ := purgeExpired leases now key
  dsimp only
  -- In each branch: no entry, or one that is owned or not.
  by_cases hrelease : operation = AuthorityOperation.release
  · rw [if_pos hrelease, if_pos (Or.inl hrelease)]
    cases existing with
    | none => rfl
    | some entry => by_cases hown : entry.2.holder = holder <;> simp [hown, Option.filter]
  by_cases hrenew : operation = AuthorityOperation.renew
  · rw [if_neg hrelease, if_pos hrenew, if_pos (Or.inr hrenew)]
    cases existing with
    | none => rfl
    | some entry => by_cases hown : entry.2.holder = holder <;> simp [hown, Option.filter]
  rw [if_neg hrelease, if_neg hrenew, if_neg (not_or.mpr ⟨hrelease, hrenew⟩)]
  by_cases hclaim : operation = AuthorityOperation.claim
  · rw [if_pos hclaim, if_pos hclaim]
    cases existing with
    | none => rfl
    | some entry =>
      by_cases hown : entry.2.holder = holder
      · simp [hown, Option.filter]
      · cases hpreempt : request.allowPreempt <;> simp [hown, Option.filter]
  · rw [if_neg hclaim, if_neg hclaim]

/-- A holder that does not own the entry found, or preempts it, changes the table
only by what it claims for itself. -/
theorem leases_authorityTransition {request : AuthorityRequest}
    (h : (looksAtEntry operation →
        ∀ entry, (purgeExpired leases now key).2 = some entry → entry.2.holder ≠ holder) ∨
      operation = AuthorityOperation.claim ∧ request.allowPreempt = true) :
    (authorityTransition leases now holder operation key request).1 =
      if operation = AuthorityOperation.claim ∧
          ((purgeExpired leases now key).2.isNone || request.allowPreempt) = true then
        (purgeExpired leases now key).1.insert key
          ⟨holder.peerId, holder.sessionId, now + milliseconds request.leaseTtlMs⟩
      else (purgeExpired leases now key).1 := by
  unfold authorityTransition
  generalize purgeExpired leases now key = purged at h
  obtain ⟨leases', existing⟩ := purged
  dsimp only at h ⊢
  -- A stranger's search comes out empty, so release and renew do nothing for it.
  have howned : (∀ entry, existing = some entry → entry.2.holder ≠ holder) →
      existing.filter (fun entry => decide (entry.2.holder = holder)) = none := by
    intro hforeign
    exact Option.filter_eq_none_iff.mpr fun entry hentry => by simpa using hforeign entry hentry
  by_cases hclaim : operation = AuthorityOperation.claim
  · have hrelease : operation ≠ AuthorityOperation.release := by rw [hclaim]; decide
    have hrenew : operation ≠ AuthorityOperation.renew := by rw [hclaim]; decide
    rw [if_neg hrelease, if_neg hrenew, if_pos hclaim]
    rcases h with hforeign | ⟨-, hpreempt⟩
    · rw [howned (hforeign (Or.inl hclaim))]
      simp only [hclaim, true_and, Option.isSome_none, Bool.or_false]
      split <;> rfl
    · simp [hclaim, hpreempt]
  · have hforeign := h.resolve_right fun hboth => hclaim hboth.1
    simp only [hclaim, false_and, if_false]
    split
    · next hrelease =>
      rw [howned (hforeign (Or.inr (Or.inr hrelease)))]
    · split
      · next hrenew =>
        rw [howned (hforeign (Or.inr (Or.inl hrenew)))]
      · rfl

/-- The two names of a session differ where it owns the entry found. -/
theorem reasonCode_ne_of_owned {request : AuthorityRequest} {entry : LeaseKey × AuthorityLease}
    (hexisting : (purgeExpired leases now key).2 = some entry) (hown : entry.2.holder = holder)
    (hne : holder ≠ holder')
    (hop : looksAtEntry operation)
    (hpreempt : operation = AuthorityOperation.claim → request.allowPreempt = false) :
    (authorityTransition leases now holder operation key request).2.reasonCode ≠
      (authorityTransition leases now holder' operation key request).2.reasonCode := by
  rw [reasonCode_authorityTransition, reasonCode_authorityTransition]
  simp only [hexisting, Option.any_some, hown, hne, decide_true, decide_false]
  rcases hop with rfl | rfl | rfl
  · simp only [hpreempt rfl, Option.isNone_some]
    decide
  · simp only [or_true, if_true, Bool.false_eq_true, if_false]
    decide
  · simp only [true_or, if_true, Bool.false_eq_true, if_false]
    decide

theorem renameLane_insert (leases : LeaseTable) (key : LeaseKey) (lane control : Text)
    (sessionId : UInt64) (expiresAt : ℕ) :
    renameLane lane control (leases.insert key ⟨control, sessionId, expiresAt⟩) =
      renameLane lane control (leases.insert key ⟨lane, sessionId, expiresAt⟩) := by
  refine SortedMap.ext_find? ?_
  intro k
  simp only [renameLane, SortedMap.find?_mapVal, SortedMap.find?_insert]
  by_cases hk : k = key
  · by_cases hsame : control = lane
    · simp [hk, hsame]
    · simp [hk, hsame]
  · simp [hk]

/-- **Requests under two names** come out the same exactly when neither owns the
entry found, or the request is a preempting claim. -/
theorem authorityTransition_same_iff {request : AuthorityRequest} {control lane : Text}
    {sessionId : UInt64} (hne : control ≠ lane) :
    renameLane lane control
          (authorityTransition leases now ⟨control, sessionId⟩ operation key request).1 =
        renameLane lane control
          (authorityTransition leases now ⟨lane, sessionId⟩ operation key request).1 ∧
      (authorityTransition leases now ⟨control, sessionId⟩ operation key request).2.reasonCode =
        (authorityTransition leases now ⟨lane, sessionId⟩ operation key request).2.reasonCode ↔
    (looksAtEntry operation →
      ∀ entry, (purgeExpired leases now key).2 = some entry →
        entry.2.holder ≠ ⟨control, sessionId⟩ ∧ entry.2.holder ≠ ⟨lane, sessionId⟩) ∨
      operation = AuthorityOperation.claim ∧ request.allowPreempt = true := by
  have hnames : (⟨control, sessionId⟩ : SessionKey) ≠ ⟨lane, sessionId⟩ :=
    fun h => hne (congrArg SessionKey.peerId h)
  constructor
  · -- An owner of the entry and a stranger get different reason codes.
    rintro ⟨-, hcode⟩
    by_contra hcontra
    obtain ⟨hfound, hpreempt⟩ := not_or.mp hcontra
    refine hfound ?_
    intro hop entry hexisting
    have hplain : operation = AuthorityOperation.claim → request.allowPreempt = false :=
      fun hclaim => Bool.eq_false_iff.mpr fun h => hpreempt ⟨hclaim, h⟩
    constructor
    · -- Both names are strangers to the entry, or the claim takes it whoever holds it.
      intro hown
      exact reasonCode_ne_of_owned hexisting hown hnames hop hplain hcode
    · intro hown
      exact reasonCode_ne_of_owned hexisting hown hnames.symm hop hplain hcode.symm
  · intro h
    constructor
    · have hcontrol := h.imp_left fun hfound hop entry he => (hfound hop entry he).1
      have hlane := h.imp_left fun hfound hop entry he => (hfound hop entry he).2
      rw [leases_authorityTransition hcontrol, leases_authorityTransition hlane]
      split
      · exact renameLane_insert _ _ _ _ _ _
      · rfl
    · rw [reasonCode_authorityTransition, reasonCode_authorityTransition]
      dsimp only
      rcases h with hfound | ⟨hclaim, hpreempt⟩
      · by_cases hop : looksAtEntry operation
        · have hforeign := hfound hop
          cases hexisting : (purgeExpired leases now key).2 with
          | none => rfl
          | some entry => simp [hforeign entry hexisting]
        · obtain ⟨hclaim, hrest⟩ := not_or.mp hop
          obtain ⟨hrenew, hrelease⟩ := not_or.mp hrest
          simp only [hclaim, hrenew, hrelease, or_self, if_false]
      · have hother : ¬ (operation = AuthorityOperation.release ∨
            operation = AuthorityOperation.renew) := by rw [hclaim]; decide
        rw [if_neg hother, if_neg hother, if_pos hclaim, if_pos hclaim]
        simp only [hpreempt, Bool.or_true]

end request

/-! ### Exactly when the connections make no difference -/

section outcome

variable {impl : Impl} {clock : Clock} {control lane : Peer} {envelope : Envelope}

/-- Authority requests and actions are no session messages. -/
theorem runtimeHandleEnvelope_of_kind
    (hkind : isAuthorityRequest envelope = true ∨ isGoalOrCancel envelope = true) (peer : Peer) :
    runtimeHandleEnvelope impl clock peer envelope = handleMessage impl clock peer envelope := by
  have hfamily : envelope.family ≠ .session := by
    rintro hsession
    rcases hkind with h | h <;> simp [isAuthorityRequest, isGoalOrCancel, hsession] at h
  unfold runtimeHandleEnvelope
  rw [if_neg hfamily]

/-- A request that is let through on both connections. -/
theorem request_same_iff (hrequest : isAuthorityRequest envelope = true)
    (hne : control.id ≠ lane.id) :
    renameLane lane.id control.id
          (authorityOutcome impl.authorityLeases clock.steady control.id envelope).1 =
        renameLane lane.id control.id
          (authorityOutcome impl.authorityLeases clock.steady lane.id envelope).1 ∧
      (authorityOutcome impl.authorityLeases clock.steady control.id envelope).2.reasonCode =
        (authorityOutcome impl.authorityLeases clock.steady lane.id envelope).2.reasonCode ↔
    JudgedAlike impl clock.steady control.id lane.id envelope := by
  unfold authorityOutcome JudgedAlike consulted preempts
  cases hvalid : authorityRequest envelope with
  | none => simp [hrequest]
  | some valid =>
    obtain ⟨key, request⟩ := valid
    dsimp only
    rw [authorityTransition_same_iff hne]
    refine or_congr ?_ (by simp [hrequest])
    rw [if_pos hrequest]
    by_cases hop : looksAtEntry envelope.operation
    · simp only [hop, if_true, forall_const, Option.map_eq_some_iff]
      constructor
      · rintro h lease ⟨entry, hentry, rfl⟩
        exact h entry hentry
      · intro h entry hentry
        exact h entry.2 ⟨entry, hentry, rfl⟩
    · simp [hop]

/-- A goal or cancel that is let through on both connections. -/
theorem action_same_iff (haction : isGoalOrCancel envelope = true) (hne : control.id ≠ lane.id) :
    runtimeActionAuthorized impl clock.steady control envelope =
        runtimeActionAuthorized impl clock.steady lane envelope ↔
      JudgedAlike impl clock.steady control.id lane.id envelope := by
  have hrequest : isAuthorityRequest envelope = false := by
    simp only [isGoalOrCancel, Bool.and_eq_true, decide_eq_true_iff] at haction
    simp [isAuthorityRequest, haction.1]
  have hnames : (⟨control.id, envelope.sessionId⟩ : SessionKey) ≠ ⟨lane.id, envelope.sessionId⟩ :=
    fun h => hne (congrArg SessionKey.peerId h)
  simp only [JudgedAlike, preempts, consulted, runtimeActionAuthorized, hrequest, haction,
    Bool.not_true, Bool.false_eq_true, if_false, Bool.false_and, or_false]
  split
  · simp
  · cases hlive : liveLease impl.authorityLeases clock.steady
        ⟨envelope.target.uids.headD [], authorityScope impl.config envelope.type⟩ with
    | none => simp
    | some lease =>
      simp only [Option.some.injEq, forall_eq']
      by_cases hcontrol : lease.holder = ⟨control.id, envelope.sessionId⟩
      · simp [hcontrol, hnames]
      · by_cases hlane : lease.holder = ⟨lane.id, envelope.sessionId⟩
        · simp [hlane, hnames.symm]
        · simp [hcontrol, hlane]

theorem leases_handleMessage_of_error {peer : Peer} {reported : ErrorCode × Text}
    (h : admission impl (logicalPeer impl peer).id envelope = .error reported) :
    (handleMessage impl clock peer envelope).authorityLeases = impl.authorityLeases := by
  rw [handleMessage_of_verdict]
  simp only [verdict, h]
  rfl

theorem leases_handleMessage_of_ok {peer : Peer}
    (h : admission impl (logicalPeer impl peer).id envelope = .ok ()) :
    (handleMessage impl clock peer envelope).authorityLeases =
      if isAuthorityRequest envelope then
        (authorityOutcome impl.authorityLeases clock.steady peer.id envelope).1
      else impl.authorityLeases := by
  rw [handleMessage_of_verdict]
  simp only [verdict, h]
  cases isAuthorityRequest envelope with
  | true => rfl
  | false =>
    simp only [Bool.false_eq_true, if_false]
    cases runtimeActionAuthorized impl clock.steady peer envelope <;> rfl

/-- What is let through is not called inadmissible. -/
theorem verdict_of_ok {peer : Peer} {error : ErrorCode} {message : Text}
    (h : admission impl (logicalPeer impl peer).id envelope = .ok ()) :
    verdict impl clock peer envelope ≠ .inadmissible error message := by
  simp only [verdict, h]
  split
  · exact Verdict.noConfusion
  · split <;> exact Verdict.noConfusion

/-- Any two connections make no difference exactly when the session check does not
tell them apart and the envelope, if it gets through, is not judged by a lease of
its own session. -/
theorem sameOutcome_iff
    (hkind : isAuthorityRequest envelope = true ∨ isGoalOrCancel envelope = true)
    (hne : control.id ≠ lane.id) :
    SameOutcome impl clock control lane envelope ↔
      admission impl (logicalPeer impl control).id envelope =
          admission impl (logicalPeer impl lane).id envelope ∧
        (admission impl (logicalPeer impl lane).id envelope = .ok () →
          JudgedAlike impl clock.steady control.id lane.id envelope) := by
  unfold SameOutcome
  rw [runtimeHandleEnvelope_of_kind hkind, runtimeHandleEnvelope_of_kind hkind]
  -- Where the session check tells the connections apart, so do the verdicts.
  cases hcontrol : admission impl (logicalPeer impl control).id envelope with
  | error reported =>
    rw [leases_handleMessage_of_error hcontrol]
    cases hlane : admission impl (logicalPeer impl lane).id envelope with
    | error reported' =>
      rw [leases_handleMessage_of_error hlane]
      simp [verdict, hcontrol, hlane, Prod.ext_iff]
    | ok _ =>
      have hverdict :
          verdict impl clock control envelope = .inadmissible reported.1 reported.2 := by
        simp only [verdict, hcontrol]
      constructor
      · rintro ⟨-, hsame⟩
        exact absurd (hsame.symm.trans hverdict) (verdict_of_ok hlane)
      · rintro ⟨hsame, -⟩
        exact absurd hsame (by simp)
  | ok _ =>
    cases hlane : admission impl (logicalPeer impl lane).id envelope with
    | error reported =>
      have hverdict : verdict impl clock lane envelope = .inadmissible reported.1 reported.2 := by
        simp only [verdict, hlane]
      constructor
      · rintro ⟨-, hsame⟩
        exact absurd (hsame.trans hverdict) (verdict_of_ok hcontrol)
      · rintro ⟨hsame, -⟩
        exact absurd hsame (by simp)
    | ok _ =>
      -- Both get through, and it is the lease that decides.
      rw [leases_handleMessage_of_ok hcontrol, leases_handleMessage_of_ok hlane]
      simp only [verdict, hcontrol, hlane, true_and, forall_const]
      cases hrequest : isAuthorityRequest envelope with
      | true =>
        simp only [if_true, Verdict.answered.injEq]
        exact request_same_iff hrequest hne
      | false =>
        have haction := hkind.resolve_left (by simp [hrequest])
        rw [← action_same_iff haction hne]
        simp only [Bool.false_eq_true, if_false, true_and]
        cases runtimeActionAuthorized impl clock.steady control envelope <;>
          cases runtimeActionAuthorized impl clock.steady lane envelope <;> simp

/-- Outcomes depend on a peer by its id only. -/
theorem sameOutcome_of_id_eq
    (hkind : isAuthorityRequest envelope = true ∨ isGoalOrCancel envelope = true)
    (hid : control.id = lane.id) : SameOutcome impl clock control lane envelope := by
  have hlogical : (logicalPeer impl control).id = (logicalPeer impl lane).id := by
    unfold logicalPeer
    rw [hid]
    split
    · exact hid
    · split <;> rfl
  have haction : runtimeActionAuthorized impl clock.steady control envelope =
      runtimeActionAuthorized impl clock.steady lane envelope := by
    unfold runtimeActionAuthorized
    rw [hid]
  unfold SameOutcome
  rw [runtimeHandleEnvelope_of_kind hkind, runtimeHandleEnvelope_of_kind hkind]
  constructor
  · cases hlane : admission impl (logicalPeer impl lane).id envelope with
    | error reported =>
      rw [leases_handleMessage_of_error hlane, leases_handleMessage_of_error (hlogical ▸ hlane)]
    | ok _ =>
      rw [leases_handleMessage_of_ok hlane, leases_handleMessage_of_ok (hlogical ▸ hlane), hid]
  · unfold verdict
    rw [hlogical, hid, haction]

end outcome

/-- An active session and its lane. -/
structure BoundLane (impl : Impl) (control lane : Peer) (sessionId : UInt64) : Prop where
  session : ∃ session, impl.sessions.find? ⟨control.id, sessionId⟩ = some session ∧
    session.state = .active ∧ session.lossyPeerId = lane.id
  owner : impl.laneOwner.find? lane.id = some ⟨control.id, sessionId⟩

/-- The logical peer of a lane is its control peer. -/
theorem BoundLane.logicalPeer {impl : Impl} {control lane : Peer} {sessionId : UInt64}
    (h : BoundLane impl control lane sessionId) (hnamed : ConnectionsNamed impl.connections) :
    (logicalPeer impl lane).id = control.id := by
  unfold YunLink.logicalPeer
  rw [h.owner]
  dsimp only
  split
  · next connection hfind => exact hnamed control.id connection hfind
  · rfl

/-- The connections make no difference: they are one, or the session check answers
for the control connection as for the control peer, and an envelope it lets through
is not judged by a lease of its own session. -/
def Indifferent (impl : Impl) (now : ℕ) (control lane : Peer) (envelope : Envelope) : Prop :=
  control.id = lane.id ∨
    admission impl (logicalPeer impl control).id envelope = admission impl control.id envelope ∧
      (admission impl control.id envelope = .ok () →
        JudgedAlike impl now control.id lane.id envelope)

/-- **The connections of a session make no difference exactly when the lease in
question is not the session's own**, but for a preempting claim: in every state a
run reaches, for every lane bound there. -/
theorem boundLane_sameOutcome_iff (config : RuntimeConfig) (steps : List RuntimeStep)
    (clock : Clock) (control lane : Peer) (envelope : Envelope)
    (hbound : BoundLane (runtimeRun config steps) control lane envelope.sessionId)
    (hkind : isAuthorityRequest envelope = true ∨ isGoalOrCancel envelope = true) :
    SameOutcome (runtimeRun config steps) clock control lane envelope ↔
      Indifferent (runtimeRun config steps) clock.steady control lane envelope := by
  have hlogical := hbound.logicalPeer (connectionsNamed_runtimeRun config steps)
  unfold Indifferent
  by_cases hid : control.id = lane.id
  · simp only [hid, true_or, iff_true]
    exact sameOutcome_of_id_eq hkind hid
  · simp only [hid, false_or]
    rw [sameOutcome_iff hkind hid, hlogical]

/-! ### A lease that its session does not know -/

/-- A configuration with one entity and one profile. -/
def sampleConfig (endpointUid : String) : RuntimeConfig where
  endpointUid := ascii endpointUid
  entities := [ascii "entity.alpha"]
  profiles := [⟨ascii "org.yunlink.mobility", 1, 0, ascii "digest"⟩]

/-- The control connection. -/
def sampleControl : Peer := ⟨ascii "tcp://10.0.0.2:5000", ascii "10.0.0.2", 5000⟩

/-- The lossy lane. -/
def sampleLane : Peer := ⟨ascii "tcp://10.0.0.2:5001", ascii "10.0.0.2", 5001⟩

/-- A session that takes a lease over its control connection and then binds a lane. -/
def leaseOverControl : List RuntimeStep :=
  handshake (sampleConfig "ground") sampleControl 1 ++
    [.receive {} sampleControl
      (authorityEnvelope (sampleConfig "ground") 1 AuthorityOperation.claim (ascii "entity.alpha")
        ⟨ascii "org.yunlink.mobility", 2000, false⟩)] ++
    laneHandshake (sampleConfig "ground") sampleLane 1

/-- A goal of that session. -/
def sampleGoal : Envelope where
  family := .action
  operation := ActionOperation.goal
  sessionId := 1
  source := ⟨ascii "ground", []⟩
  target := .ofEntity (ascii "entity.alpha")
  type := ⟨ascii "org.yunlink.mobility", 1, 0, ascii "GotoGoal"⟩

theorem boundLane_leaseOverControl :
    BoundLane (runtimeRun (sampleConfig "drone") leaseOverControl) sampleControl sampleLane 1 := by
  have hsession : ((runtimeRun (sampleConfig "drone") leaseOverControl).sessions.find?
      ⟨sampleControl.id, 1⟩).map (fun session => (session.state, session.lossyPeerId)) =
        some (.active, sampleLane.id) := by
    decide
  obtain ⟨session, hfind, hfields⟩ := Option.map_eq_some_iff.mp hsession
  obtain ⟨hstate, hlossy⟩ := Prod.ext_iff.mp hfields
  exact ⟨⟨session, hfind, hstate, hlossy⟩, by decide⟩

theorem boundLane_sameOutcome_iff_sampleGoal :
    SameOutcome (runtimeRun (sampleConfig "drone") leaseOverControl) {} sampleControl sampleLane
        sampleGoal ↔
      Indifferent (runtimeRun (sampleConfig "drone") leaseOverControl) 0 sampleControl sampleLane
        sampleGoal :=
  boundLane_sameOutcome_iff (sampleConfig "drone") leaseOverControl {} sampleControl sampleLane
    sampleGoal boundLane_leaseOverControl (Or.inr (by decide))

/-- The goal is delivered when it comes over the control connection and refused when
it comes over the lane. -/
theorem goalOverLane_not_sameOutcome :
    BoundLane (runtimeRun (sampleConfig "drone") leaseOverControl) sampleControl sampleLane
        sampleGoal.sessionId ∧
      isGoalOrCancel sampleGoal = true ∧
      ¬ SameOutcome (runtimeRun (sampleConfig "drone") leaseOverControl) {} sampleControl sampleLane
        sampleGoal := by
  refine ⟨boundLane_leaseOverControl, by decide, fun h => ?_⟩
  have hcontrol : verdict (runtimeRun (sampleConfig "drone") leaseOverControl) {} sampleControl
      sampleGoal = .delivered := by
    decide
  have hlane : verdict (runtimeRun (sampleConfig "drone") leaseOverControl) {} sampleLane
      sampleGoal =
        .unauthorized (ascii "no active authority lease for entity and profile scope") := by
    decide +kernel
  exact absurd (hcontrol.symm.trans (h.2.trans hlane)) (by simp)

end YunLink
