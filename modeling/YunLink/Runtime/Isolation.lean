import YunLink.Runtime.LaneOwnership
import YunLink.Runtime.Records

/-!
# Peers are isolated from each other

Whatever a peer sends, `runtime_handle_envelope` writes under that peer's own name:
the record of its session, its entry in the table of lanes, its leases.  Two things
reach further.  A lane sets `lossy_peer_id` in the record of a session of another
peer, once it has shown the shared secret or is entered for that session already; and
an authority request may take the lease of its own key away from another holder, when
that lease has expired or when a claim preempts it.

## Main definitions

* `LaneGranted` — a lane message may set the lane of a session.
* `LeaseTaken` — a request may take the lease of its key away.
* `Isolated` — what the handling of an envelope leaves alone.

## Main results

* `runtimeRun_isolated` — **in every reachable state, every envelope of a peer leaves
  alone what belongs to others.**
-/

namespace YunLink

/-! ### What a request writes -/

section leases

variable {leases : LeaseTable} {now : ℕ} {holder : SessionKey} {operation : UInt8} {key : LeaseKey}

/-- A request may take the lease of its key away: it has expired, or a
claim preempts it. -/
def LeaseTaken (now : ℕ) (operation : UInt8) (request : AuthorityRequest)
    (lease : AuthorityLease) : Prop :=
  lease.expiresAt ≤ now ∨
    now < lease.expiresAt ∧ operation = AuthorityOperation.claim ∧ request.allowPreempt = true

/-- Purging leaves a lease alone, unless it is the expired one of the key. -/
theorem find?_purgeExpired_of_find? (now : ℕ) (key : LeaseKey) {k : LeaseKey}
    {lease : AuthorityLease} (h : leases.find? k = some lease) :
    (purgeExpired leases now key).1.find? k = some lease ∨
      k = key ∧ lease.expiresAt ≤ now ∧ (purgeExpired leases now key).1.find? k = none := by
  rw [find?_purgeExpired]
  by_cases hkey : k = key
  · rw [if_pos hkey]
    rw [hkey] at h
    by_cases hlive : now < lease.expiresAt
    · exact Or.inl (liveLease_eq_some.mpr ⟨h, hlive⟩)
    · refine Or.inr ⟨hkey, Nat.le_of_not_lt hlive, ?_⟩
      rw [liveLease, h, Option.filter_some, if_neg (by simpa using hlive)]
  · rw [if_neg hkey]
    exact Or.inl h

/-- The lease of another holder after a request: the same, or, at the key of the
request, taken away. -/
theorem find?_authorityTransition_of_other (now : ℕ) (operation : UInt8) (key : LeaseKey)
    (request : AuthorityRequest) {k : LeaseKey} {lease : AuthorityLease}
    (h : leases.find? k = some lease) (hother : lease.holder ≠ holder) :
    (authorityTransition leases now holder operation key request).1.find? k = some lease ∨
      k = key ∧ LeaseTaken now operation request lease ∧
        ∀ left, (authorityTransition leases now holder operation key request).1.find? k =
          some left → left.holder = holder ∧ operation = AuthorityOperation.claim := by
  have hpurged := find?_purgeExpired_of_find? now key h
  -- An entry of the session itself stands elsewhere.
  have helsewhere : ∀ {k' own}, (purgeExpired leases now key).2 = some (k', own) →
      own.holder = holder → k ≠ k' := by
    rintro k' own hentry hown rfl
    have hsame := (find?_of_purgeExpired hentry).symm.trans h
    exact hother (Option.some.inj hsame ▸ hown)
  rcases authorityTransition_table leases now holder operation key request with
    htable | ⟨k', own, hentry, hown, htable⟩ | ⟨hclaim, hallowed, htable⟩
  · rw [htable]
    rcases hpurged with hsame | ⟨hkey, hexp, hnone⟩
    · exact Or.inl hsame
    · refine Or.inr ⟨hkey, Or.inl hexp, fun left hleft => ?_⟩
      exact absurd (hnone.symm.trans hleft) (by simp)
  · have hfind : (authorityTransition leases now holder operation key request).1.find? k =
        (purgeExpired leases now key).1.find? k := by
      rcases htable with htable | ⟨-, htable⟩
      · rw [htable, SortedMap.find?_erase, if_neg (helsewhere hentry hown)]
      · rw [htable, SortedMap.find?_insert, if_neg (helsewhere hentry hown)]
    rw [hfind]
    rcases hpurged with hsame | ⟨hkey, hexp, hnone⟩
    · exact Or.inl hsame
    · refine Or.inr ⟨hkey, Or.inl hexp, fun left hleft => ?_⟩
      exact absurd (hnone.symm.trans hleft) (by simp)
  · rw [htable, SortedMap.find?_insert]
    by_cases hkey : k = key
    · rw [if_pos hkey]
      refine Or.inr ⟨hkey, ?_, fun left hleft => ⟨by rw [← Option.some.inj hleft]; rfl, hclaim⟩⟩
      rcases hpurged with hsame | ⟨-, hexp, -⟩
      · rw [find?_purgeExpired, if_pos hkey] at hsame
        have hpreempt := (hallowed _ (entry_of_live hsame)).resolve_left hother
        exact Or.inr ⟨(liveLease_eq_some.mp hsame).2, hclaim, hpreempt⟩
      · exact Or.inl hexp
    · rw [if_neg hkey]
      exact Or.inl (hpurged.resolve_right fun h => hkey h.1)

/-- A lease of another holder after a request was there before. -/
theorem find?_of_authorityTransition_of_other {k : LeaseKey} {lease : AuthorityLease}
    {request : AuthorityRequest} (hother : lease.holder ≠ holder)
    (h : (authorityTransition leases now holder operation key request).1.find? k = some lease) :
    leases.find? k = some lease := by
  rcases find?_of_authorityTransition h with hold | ⟨-, old, -, hown, rfl⟩ | ⟨-, -, rfl⟩
  · exact hold
  · rw [AuthorityLease.holder_renewed] at hother
    exact absurd hown hother
  · exact absurd rfl hother

end leases

/-! ### What an envelope leaves alone -/

/-- A lane message may set the lane of a session: it shows the shared secret on behalf
of the session's endpoint, or comes from a lane entered for the session. -/
inductive LaneGranted (impl : Impl) (peer : Peer) (envelope : Envelope) (key : SessionKey)
    (session : SessionInfo) : Prop
  | bind (hop : envelope.operation = SessionOperation.laneBind)
      (hsecret : decodeText envelope.payload = some impl.config.sharedSecret)
      (hsource : session.remoteEndpointUid = envelope.source.endpointUid)
  | ready (hop : envelope.operation = SessionOperation.laneReady)
      (howner : impl.laneOwner.find? peer.id = some key)

/-- All that happens to the records is that one active session gets the lane. -/
def SetsLane (impl after : Impl) (peer : Peer) (envelope : Envelope) : Prop :=
  ∃ key session, impl.sessions.find? key = some session ∧
    LaneGranted impl peer envelope key session ∧ session.state = .active ∧
    session.sessionId = envelope.sessionId ∧ key.sessionId = envelope.sessionId ∧
    ∀ k, after.sessions.find? k =
      if k = key then some { session with lossyPeerId := peer.id } else impl.sessions.find? k

/-- What the handling of an envelope leaves alone: all that belongs to other peers,
with the exceptions named. -/
structure Isolated (impl after : Impl) (now : ℕ) (peer : Peer) (envelope : Envelope) : Prop where
  /-- The records of other peers, but for the lane of at most one active session. -/
  sessions : (∀ key : SessionKey, key.peerId ≠ peer.id →
      after.sessions.find? key = impl.sessions.find? key) ∨
    envelope.family = .session ∧ SetsLane impl after peer envelope
  /-- The endpoint of every record that has one. -/
  endpoints : ∀ key session, impl.sessions.find? key = some session →
    session.remoteEndpointUid ≠ [] →
    (after.sessions.find? key).map SessionInfo.remoteEndpointUid = some session.remoteEndpointUid
  /-- The leases of other holders, but for the one of the request's own key; what is
  there instead is a claim of the request. -/
  leases : ∀ key lease, impl.authorityLeases.find? key = some lease →
    lease.holder ≠ ⟨peer.id, envelope.sessionId⟩ →
    after.authorityLeases.find? key = some lease ∨
      ∃ request, isAuthorityRequest envelope = true ∧
        authorityRequest envelope = some (key, request) ∧
        LeaseTaken now envelope.operation request lease ∧
        ∀ left, after.authorityLeases.find? key = some left →
          left.holder = ⟨peer.id, envelope.sessionId⟩ ∧
            envelope.operation = AuthorityOperation.claim
  /-- No lease is made for another holder. -/
  made : ∀ key lease, after.authorityLeases.find? key = some lease →
    lease.holder ≠ ⟨peer.id, envelope.sessionId⟩ → impl.authorityLeases.find? key = some lease
  /-- The lanes of other peers. -/
  lanes : ∀ lane, lane ≠ peer.id → after.laneOwner.find? lane = impl.laneOwner.find? lane

/-- Records stand under their own session id. -/
def SessionsNamed (impl : Impl) : Prop :=
  ∀ key session, impl.sessions.find? key = some session → session.sessionId = key.sessionId

section envelope

variable {impl : Impl} {clock : Clock} {peer : Peer} {envelope : Envelope}

/-- The endpoint of a record only changes from none to the source. -/
theorem remoteEndpointUid_sessionStep (config : RuntimeConfig) (peerId : Text)
    {found : SessionInfo} (h : found.remoteEndpointUid ≠ []) :
    (sessionStep config peerId envelope found).session.remoteEndpointUid =
      found.remoteEndpointUid := by
  by_cases hsource : found.remoteEndpointUid = [] ∨
      found.remoteEndpointUid = envelope.source.endpointUid
  · rw [sessionStep_of_source config peerId hsource,
      (sessionOperation_fields envelope config _).2.2.1]
    exact (hsource.resolve_left h).symm
  · rw [sessionStep_of_mismatch config peerId hsource]

/-- What changes no lease changes none of another holder. -/
theorem isolated_of_session {after : Impl} {now : ℕ}
    (hleases : after.authorityLeases = impl.authorityLeases)
    (hsessions : (∀ key : SessionKey, key.peerId ≠ peer.id →
        after.sessions.find? key = impl.sessions.find? key) ∨
      envelope.family = .session ∧ SetsLane impl after peer envelope)
    (hendpoints : ∀ key session, impl.sessions.find? key = some session →
      session.remoteEndpointUid ≠ [] →
      (after.sessions.find? key).map SessionInfo.remoteEndpointUid =
        some session.remoteEndpointUid)
    (hlanes : ∀ lane, lane ≠ peer.id →
      after.laneOwner.find? lane = impl.laneOwner.find? lane) :
    Isolated impl after now peer envelope where
  sessions := hsessions
  endpoints := hendpoints
  leases := by
    intro key lease hfind _
    rw [hleases]
    exact Or.inl hfind
  made := by
    intro key lease hfind _
    rwa [hleases] at hfind
  lanes := hlanes

/-- Setting the lane of one session. -/
theorem isolated_of_setsLane {after : Impl} {now : ℕ}
    (hleases : after.authorityLeases = impl.authorityLeases)
    (hfamily : envelope.family = .session) (hset : SetsLane impl after peer envelope)
    (hlanes : ∀ lane, lane ≠ peer.id →
      after.laneOwner.find? lane = impl.laneOwner.find? lane) :
    Isolated impl after now peer envelope := by
  refine isolated_of_session hleases (Or.inr ⟨hfamily, hset⟩) ?_ hlanes
  obtain ⟨key, session, hfind, -, -, -, -, hsessions⟩ := hset
  intro k old hold _
  rw [hsessions]
  by_cases heq : k = key
  · rw [heq, hfind] at hold
    rw [if_pos heq, ← Option.some.inj hold, Option.map_some]
  · rw [if_neg heq, hold, Option.map_some]

theorem isolated_self (now : ℕ) : Isolated impl impl now peer envelope := by
  refine isolated_of_session rfl (Or.inl fun _ _ => rfl) ?_ fun _ _ => rfl
  intro key session hfind _
  rw [hfind, Option.map_some]

theorem isolated_handleSession (hfamily : envelope.family = .session)
    (hbind : envelope.operation ≠ SessionOperation.laneBind)
    (hready : envelope.operation ≠ SessionOperation.laneReady) :
    Isolated impl (handleSession impl clock peer envelope) clock.steady peer envelope := by
  have hleases := (leases_session impl clock peer envelope hfamily).1
  rw [runtimeHandleEnvelope, if_pos hfamily, if_neg hbind, if_neg hready] at hleases
  refine isolated_of_session hleases (Or.inl ?_) ?_ ?_
  · intro key hkey
    rw [sessions_handleSession, SortedMap.find?_insert, if_neg]
    rintro rfl
    exact hkey rfl
  · intro key session hfind hknown
    rw [sessions_handleSession, SortedMap.find?_insert]
    split
    · next heq =>
      rw [sessionRecord, ← heq, hfind, Option.getD_some, Option.map_some,
        remoteEndpointUid_sessionStep impl.config peer.id hknown]
    · rw [hfind, Option.map_some]
  · intro lane _
    rw [laneOwner_handleSession]

theorem isolated_handleLaneBind (hnamed : SessionsNamed impl) (hfamily : envelope.family = .session)
    (hop : envelope.operation = SessionOperation.laneBind) :
    Isolated impl (handleLaneBind impl clock peer envelope) clock.steady peer envelope := by
  have hleases := (leases_session impl clock peer envelope hfamily).1
  rw [runtimeHandleEnvelope, if_pos hfamily, if_pos hop] at hleases
  cases hkey : laneBindKey impl peer envelope with
  | none =>
    rw [handleLaneBind_of_none clock hkey]
    exact isolated_self _
  | some key =>
    obtain ⟨⟨session, hfind, hmatch⟩, hsessions, hlanes⟩ := handleLaneBind_of_some clock hkey
    simp only [laneBindMatches, Bool.and_eq_true, decide_eq_true_iff] at hmatch
    obtain ⟨⟨⟨hid, hactive⟩, hsource⟩, -⟩ := hmatch
    -- With another secret the envelope binds no session.
    have hsecret : decodeText envelope.payload = some impl.config.sharedSecret := by
      unfold laneBindKey at hkey
      by_contra hwrong
      rw [if_pos hwrong] at hkey
      exact absurd hkey (by simp)
    refine isolated_of_setsLane hleases hfamily
      ⟨key, session, hfind, .bind hop hsecret hsource, hactive, hid,
        (hnamed key session hfind).symm.trans hid, ?_⟩ ?_
    · intro k
      rw [hsessions, SortedMap.find?_adjust]
      split
      · next heq => rw [heq, hfind, Option.map_some]
      · rfl
    · intro lane hne
      rw [hlanes, SortedMap.find?_insert, if_neg hne]

theorem isolated_handleLaneReady (hnamed : SessionsNamed impl)
    (hfamily : envelope.family = .session)
    (hop : envelope.operation = SessionOperation.laneReady) :
    Isolated impl (handleLaneReady impl peer envelope) clock.steady peer envelope := by
  rcases handleLaneReady_cases impl peer envelope with
    heq | ⟨owner, session, howner, hid, hfind, hactive, heq⟩
  · rw [heq]
    exact isolated_self _
  rw [heq]
  refine isolated_of_setsLane rfl hfamily
    ⟨owner, session, hfind, .ready hop howner, hactive, (hnamed owner session hfind).trans hid,
      hid, ?_⟩ fun _ _ => rfl
  intro k
  exact SortedMap.find?_insert _ _ _ _

/-- A message changes the leases only as a valid authority request that was let through. -/
theorem leases_handleMessage_cases (impl : Impl) (clock : Clock) (peer : Peer)
    (envelope : Envelope) :
    (handleMessage impl clock peer envelope).authorityLeases = impl.authorityLeases ∨
      ∃ key request, admission impl (logicalPeer impl peer).id envelope = .ok () ∧
        isAuthorityRequest envelope = true ∧ authorityRequest envelope = some (key, request) ∧
        (handleMessage impl clock peer envelope).authorityLeases =
          (authorityTransition impl.authorityLeases clock.steady ⟨peer.id, envelope.sessionId⟩
            envelope.operation key request).1 := by
  cases hadmission : admission impl (logicalPeer impl peer).id envelope with
  | error reported => exact Or.inl (leases_handleMessage_of_error hadmission)
  | ok _ =>
    have hleases := @leases_handleMessage_of_ok impl clock envelope peer hadmission
    by_cases hkind : isAuthorityRequest envelope = true
    · rw [if_pos hkind, authorityOutcome] at hleases
      cases hrequest : authorityRequest envelope with
      | none =>
        rw [hrequest] at hleases
        exact Or.inl hleases
      | some keyed =>
        rw [hrequest] at hleases
        exact Or.inr ⟨keyed.1, keyed.2, rfl, hkind, rfl, hleases⟩
    · rw [if_neg hkind] at hleases
      exact Or.inl hleases

theorem isolated_handleMessage :
    Isolated impl (handleMessage impl clock peer envelope) clock.steady peer envelope := by
  obtain ⟨hsessions, hlanes, -⟩ := tables_handleMessage impl clock peer envelope
  have hendpoints : ∀ key session, impl.sessions.find? key = some session →
      session.remoteEndpointUid ≠ [] →
      ((handleMessage impl clock peer envelope).sessions.find? key).map
        SessionInfo.remoteEndpointUid = some session.remoteEndpointUid := by
    intro key session hfind _
    rw [hsessions, hfind, Option.map_some]
  rcases leases_handleMessage_cases impl clock peer envelope with
    hsame | ⟨key, request, -, hkind, hrequest, hleases⟩
  · exact isolated_of_session hsame (Or.inl fun key _ => by rw [hsessions]) hendpoints
      fun lane _ => by rw [hlanes]
  · refine ⟨Or.inl fun key _ => by rw [hsessions], hendpoints, ?_, ?_,
      fun lane _ => by rw [hlanes]⟩
    · intro k lease hfind hother
      rw [hleases]
      rcases find?_authorityTransition_of_other clock.steady envelope.operation key request hfind
        hother with hkept | ⟨rfl, htaken, hleft⟩
      · exact Or.inl hkept
      · exact Or.inr ⟨request, hkind, hrequest, htaken, hleft⟩
    · intro k lease hfind hother
      rw [hleases] at hfind
      exact find?_of_authorityTransition_of_other hother hfind

/-- Every envelope of a peer leaves alone what belongs to others. -/
theorem isolated_runtimeHandleEnvelope (hnamed : SessionsNamed impl) :
    Isolated impl (runtimeHandleEnvelope impl clock peer envelope) clock.steady peer envelope := by
  unfold runtimeHandleEnvelope
  split
  · next hfamily =>
    split
    · next hop => exact isolated_handleLaneBind hnamed hfamily hop
    next hbind =>
    split
    · next hop => exact isolated_handleLaneReady hnamed hfamily hop
    · next hready => exact isolated_handleSession hfamily hbind hready
  · exact isolated_handleMessage

end envelope

/-! ### Runs -/

/-- A step that uses a key leaves a record of that session there. -/
theorem sessionId_step_of_used {impl : Impl} {s : RuntimeStep} {key : SessionKey}
    {session : SessionInfo} (hused : usedKey impl s = some key)
    (hfind : (impl.step s).sessions.find? key = some session) :
    session.sessionId = key.sessionId := by
  cases s with
  | receive clock peer envelope =>
    simp only [usedKey, Option.ite_none_right_eq_some, Option.some.injEq] at hused
    obtain ⟨hmessage, rfl⟩ := hused
    rw [sessions_receive impl hmessage, SortedMap.find?_insert, if_pos rfl] at hfind
    rw [← Option.some.inj hfind]
    exact (sessionStep_fields envelope impl.config peer.id _).1
  | openSession clock peerId =>
    cases hconn : impl.connections.find? peerId with
    | none => simp [usedKey, hconn] at hused
    | some connection =>
      simp only [usedKey, hconn, Option.some.injEq] at hused
      rw [sessions_openSession impl hconn, SortedMap.find?_insert, if_pos hused.symm] at hfind
      rw [← Option.some.inj hfind, ← hused]
  | _ => exact absurd hused (by simp [usedKey])

theorem sessionsNamed_step {impl : Impl} (h : SessionsNamed impl) (s : RuntimeStep) :
    SessionsNamed (impl.step s) := by
  intro key session hfind
  by_cases hused : usedKey impl s = some key
  · exact sessionId_step_of_used hused hfind
  · obtain ⟨old, hold, hsame⟩ := exists_before impl s hused hfind
    have hid : old.forgetLane.sessionId = session.forgetLane.sessionId := by rw [hsame]
    exact hid.symm.trans (h key old hold)

theorem sessionsNamed_runtimeRun (config : RuntimeConfig) (steps : List RuntimeStep) :
    SessionsNamed (runtimeRun config steps) := by
  refine runtimeRun_induction config steps ?_ fun impl s h => sessionsNamed_step h s
  intro key session hfind
  exact absurd hfind (by simp)

/-- **In every reachable state, every envelope of a peer leaves alone what belongs to
others**: their records but for the lane of at most one session, the endpoint of every
record, their leases but for that of the request's own key, and their lanes. -/
theorem runtimeRun_isolated (config : RuntimeConfig) (steps : List RuntimeStep) (clock : Clock)
    (peer : Peer) (envelope : Envelope) :
    Isolated (runtimeRun config steps)
      (runtimeHandleEnvelope (runtimeRun config steps) clock peer envelope) clock.steady peer
      envelope :=
  isolated_runtimeHandleEnvelope (sessionsNamed_runtimeRun config steps)

end YunLink
