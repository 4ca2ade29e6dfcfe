import YunLink.Lib.Runs
import YunLink.Runtime.LaneTeardown

/-!
# Sessions and the table of lanes

A session knows its lane by `lossy_peer_id`, and the lane's connection finds the
session through `lane_owner`.  The two should say the same: the lane of a session is
entered under the session.

All that takes entries away does so on both sides, and `session.lane_ready` sets the
lane of the very session that is entered.  What puts entries in does not look at the
sessions the lane may be serving already: `handle_lane_bind` checks that the session
has no other lane, but not that the lane has no other session, and `bind_lossy_lane`
makes one and the same lane id for all sessions of a peer.

## Main definitions

* `LanesOwned` — every lane is entered under its session.
* `laneBindKey`, `bindsLane` — the session a connection is bound to.
* `rebinds` — a step binds a lane that serves another session.

## Main results

* `lanesOwned_runtimeRun` — **lane ownership is consistent in every run without a
  rebinding.**
-/

namespace YunLink

/-- Every lane is entered under its session. -/
structure LanesOwned (impl : Impl) : Prop where
  named : ∀ key session, impl.sessions.find? key = some session →
    session.sessionId = key.sessionId
  owner : ∀ key session, impl.sessions.find? key = some session → session.lossyPeerId ≠ [] →
    impl.laneOwner.find? session.lossyPeerId = some key

/-- The session `handle_lane_bind` gives the connection to. -/
def laneBindKey (impl : Impl) (peer : Peer) (envelope : Envelope) : Option SessionKey :=
  if decodeText envelope.payload ≠ some impl.config.sharedSecret then none
  else if (impl.connections.find? peer.id).isNone then none
  else
    (impl.sessions.entries.find? fun entry => laneBindMatches peer.id envelope entry.2).map
      Prod.fst

/-- Whether `bind_lossy_lane` enters a lane. -/
def bindsLane (impl : Impl) (peerId : Text) (sessionId : UInt64) : Bool :=
  impl.running && sessionId ≠ 0 &&
    match impl.sessions.find? ⟨peerId, sessionId⟩, impl.connections.find? peerId with
    | some info, some control =>
        info.state = .active && info.lossyPeerId = [] && control.peer.port ≠ 0
    | _, _ => false

/-- The step binds a lane that serves another session. -/
def rebinds (impl : Impl) : RuntimeStep → Bool
  | .receive _ peer envelope =>
      envelope.family = .session && envelope.operation = SessionOperation.laneBind &&
        peer.id ≠ [] &&
        match laneBindKey impl peer envelope with
        | none => false
        | some key => impl.sessions.entries.any fun entry =>
            entry.1 ≠ key && entry.2.lossyPeerId = peer.id
  | .bindLane _ peerId sessionId =>
      bindsLane impl peerId sessionId &&
        impl.sessions.entries.any fun entry => entry.2.lossyPeerId = peerId ++ ascii "#lossy"
  | _ => false

/-! ### The two bindings -/

theorem handleLaneBind_of_none {impl : Impl} {peer : Peer} {envelope : Envelope} (clock : Clock)
    (h : laneBindKey impl peer envelope = none) :
    handleLaneBind impl clock peer envelope = impl := by
  unfold handleLaneBind
  unfold laneBindKey at h
  split
  · rfl
  next hsecret =>
  rw [if_neg hsecret] at h
  split
  · rfl
  next hconn =>
  rw [if_neg hconn, Option.map_eq_none_iff] at h
  rw [h]

theorem handleLaneBind_of_some {impl : Impl} {peer : Peer} {envelope : Envelope} (clock : Clock)
    {key : SessionKey} (h : laneBindKey impl peer envelope = some key) :
    (∃ session, impl.sessions.find? key = some session ∧
        laneBindMatches peer.id envelope session = true) ∧
      (handleLaneBind impl clock peer envelope).sessions =
        impl.sessions.adjust key (fun session => { session with lossyPeerId := peer.id }) ∧
      (handleLaneBind impl clock peer envelope).laneOwner =
        impl.laneOwner.insert peer.id ⟨key.peerId, envelope.sessionId⟩ := by
  unfold laneBindKey at h
  unfold handleLaneBind
  split at h
  · exact absurd h (by simp)
  next hsecret =>
  split at h
  · exact absurd h (by simp)
  next hconn =>
  rw [if_neg hsecret, if_neg hconn]
  obtain ⟨⟨key', session⟩, hfind, rfl⟩ := Option.map_eq_some_iff.mp h
  rw [hfind]
  refine ⟨⟨session, ?_, by simpa using List.find?_some hfind⟩, ?_⟩
  · exact SortedMap.mem_entries_iff.mp (List.mem_of_find?_eq_some hfind)
  · dsimp only
    split <;> exact ⟨rfl, rfl⟩

/-- `bind_lossy_lane` enters a lane or does nothing; it takes the lane back when the
first message does not fit into the queue. -/
theorem bindLossyLane_cases (impl : Impl) (clock : Clock) (peerId : Text) (sessionId : UInt64) :
    bindLossyLane impl clock peerId sessionId = impl ∨
      bindsLane impl peerId sessionId = true ∧
        ∃ bound : Impl, bound.sessions = impl.sessions ∧
          bound.laneOwner =
            impl.laneOwner.insert (peerId ++ ascii "#lossy") ⟨peerId, sessionId⟩ ∧
          (bindLossyLane impl clock peerId sessionId = bound ∨
            bindLossyLane impl clock peerId sessionId =
              closePeer bound (peerId ++ ascii "#lossy")) := by
  unfold bindLossyLane bindsLane
  split
  · exact Or.inl rfl
  next hguard =>
  cases impl.sessions.find? ⟨peerId, sessionId⟩ with
  | none => exact Or.inl rfl
  | some info =>
    cases impl.connections.find? peerId with
    | none => exact Or.inl rfl
    | some control =>
      dsimp only
      split
      · exact Or.inl rfl
      next hactive =>
      right
      refine ⟨?_, ?_⟩
      · simp only [not_or, not_not] at hactive
        have hguard : impl.running = true ∧ sessionId ≠ 0 := by simpa using hguard
        simp [hguard, hactive]
      · split
        · refine ⟨_, ?_, ?_, Or.inl rfl⟩ <;> rfl
        · refine ⟨_, ?_, ?_, Or.inr rfl⟩ <;> rfl

/-! ### One step -/

section steps

variable {impl : Impl}

/-- The tables of a step that takes records and entries away, each entry with the
lanes it serves. -/
theorem LanesOwned.shrink (h : LanesOwned impl) {after : Impl}
    (hsessions : ∀ key session', after.sessions.find? key = some session' →
      ∃ session, impl.sessions.find? key = some session ∧
        session'.sessionId = session.sessionId ∧
        (session'.lossyPeerId ≠ [] → session'.lossyPeerId = session.lossyPeerId ∧
          (impl.laneOwner.find? session.lossyPeerId = some key →
            after.laneOwner.find? session.lossyPeerId = some key))) : LanesOwned after where
  named := by
    intro key session' hfind
    obtain ⟨session, hold, hid, -⟩ := hsessions key session' hfind
    exact hid.trans (h.named key session hold)
  owner := by
    intro key session' hfind hlane
    obtain ⟨session, hold, -, hkeep⟩ := hsessions key session' hfind
    obtain ⟨hsame, howner⟩ := hkeep hlane
    rw [hsame] at hlane ⊢
    exact howner (h.owner key session hold hlane)

theorem lanesOwned_handleSession (h : LanesOwned impl) (clock : Clock) (peer : Peer)
    (envelope : Envelope) : LanesOwned (handleSession impl clock peer envelope) := by
  have hstep := sessionStep_fields envelope impl.config peer.id
    (sessionRecord impl ⟨peer.id, envelope.sessionId⟩)
  constructor
  · intro key session hfind
    rw [sessions_handleSession, SortedMap.find?_insert] at hfind
    split at hfind
    · next heq => rw [← Option.some.inj hfind, heq, hstep.1]
    · exact h.named key session hfind
  · intro key session hfind hlane
    rw [laneOwner_handleSession]
    rw [sessions_handleSession, SortedMap.find?_insert] at hfind
    split at hfind
    · next heq =>
      rw [← Option.some.inj hfind, hstep.2] at hlane ⊢
      unfold sessionRecord at hlane ⊢
      rw [← heq] at hlane ⊢
      cases hold : impl.sessions.find? key with
      | none =>
        rw [hold] at hlane
        exact absurd rfl hlane
      | some old =>
        rw [hold] at hlane
        exact h.owner key old hold hlane
    · exact h.owner key session hfind hlane

theorem lanesOwned_openSession (h : LanesOwned impl) (clock : Clock) (peerId : Text) :
    LanesOwned (openSession impl clock peerId).1 := by
  unfold openSession
  split
  · exact h
  dsimp only
  constructor
  · intro key session hfind
    simp only [sessions_sendSession, SortedMap.find?_insert] at hfind
    split at hfind
    · next heq => rw [← Option.some.inj hfind, heq]
    · exact h.named key session hfind
  · intro key session hfind hlane
    simp only [sessions_sendSession, laneOwner_sendSession, SortedMap.find?_insert] at hfind ⊢
    split at hfind
    · rw [← Option.some.inj hfind] at hlane
      exact absurd rfl hlane
    · exact h.owner key session hfind hlane

theorem lanesOwned_handleLaneBind (h : LanesOwned impl) (clock : Clock) (peer : Peer)
    (envelope : Envelope)
    (hok : ∀ key, laneBindKey impl peer envelope = some key → peer.id ≠ [] →
      ∀ key' session, impl.sessions.find? key' = some session → session.lossyPeerId = peer.id →
        key' = key) :
    LanesOwned (handleLaneBind impl clock peer envelope) := by
  cases hkey : laneBindKey impl peer envelope with
  | none =>
    rw [handleLaneBind_of_none clock hkey]
    exact h
  | some key =>
    obtain ⟨⟨session, hfind, hmatch⟩, hsessions, hlanes⟩ := handleLaneBind_of_some clock hkey
    have hid : envelope.sessionId = key.sessionId := by
      simp only [laneBindMatches, Bool.and_eq_true, decide_eq_true_iff] at hmatch
      rw [← h.named key session hfind, hmatch.1.1.1]
    rw [hid] at hlanes
    constructor
    · intro key' session' hfind'
      rw [hsessions, SortedMap.find?_adjust] at hfind'
      split at hfind'
      · obtain ⟨old, hold, rfl⟩ := Option.map_eq_some_iff.mp hfind'
        exact h.named key' old hold
      · exact h.named key' session' hfind'
    · intro key' session' hfind' hlane
      rw [hsessions, SortedMap.find?_adjust] at hfind'
      rw [hlanes, SortedMap.find?_insert]
      split at hfind'
      · next heq =>
        obtain ⟨old, hold, rfl⟩ := Option.map_eq_some_iff.mp hfind'
        rw [if_pos rfl, heq]
      · next heq =>
        rw [if_neg]
        · exact h.owner key' session' hfind' hlane
        · intro hpeer
          exact heq (hok key hkey (hpeer ▸ hlane) key' session' hfind' hpeer)

theorem lanesOwned_handleLaneReady (h : LanesOwned impl) (peer : Peer) (envelope : Envelope) :
    LanesOwned (handleLaneReady impl peer envelope) := by
  rcases handleLaneReady_cases impl peer envelope with
    heq | ⟨owner, session, howner, -, hfind, -, heq⟩
  · rw [heq]
    exact h
  rw [heq]
  constructor
  · intro key session' hfind'
    dsimp only at hfind'
    rw [SortedMap.find?_insert] at hfind'
    split at hfind'
    · next heq =>
      rw [← Option.some.inj hfind', heq]
      exact h.named owner session hfind
    · exact h.named key session' hfind'
  · intro key session' hfind' hlane
    dsimp only at hfind'
    rw [SortedMap.find?_insert] at hfind'
    split at hfind'
    · next heq =>
      rw [← Option.some.inj hfind', heq]
      exact howner
    · exact h.owner key session' hfind' hlane

theorem lanesOwned_detachPeer (h : LanesOwned impl) (peerId : Text) :
    LanesOwned (detachPeer impl peerId) := by
  refine h.shrink ?_
  intro key session' hfind
  rw [sessions_detachPeer, SortedMap.find?_mapVal] at hfind
  obtain ⟨session, hold, rfl⟩ := Option.map_eq_some_iff.mp hfind
  refine ⟨session, hold, by split <;> rfl, ?_⟩
  split
  · intro hlane
    exact absurd rfl hlane
  · next hother =>
    intro hlane
    refine ⟨rfl, fun howner => ?_⟩
    obtain ⟨hpeer, hlast⟩ := not_or.mp hother
    refine (find?_laneOwner_detachPeer _ _ _ _).mpr ⟨howner, fun heq => ?_, ?_⟩
    · exact hlast ⟨heq ▸ howner, heq⟩
    · -- The lane that is erased is one of the peer's own.
      by_cases hempty : laneToClose impl peerId = []
      · exact Or.inl hempty
      · right
        intro heq
        obtain ⟨key', session', hfind', hkey', hlossy, -⟩ := laneOf_laneToClose hempty
        have howner' := h.owner key' session' hfind' (by rw [hlossy]; exact hempty)
        rw [hlossy, ← heq, howner] at howner'
        exact hpeer (Option.some.inj howner' ▸ hkey')

theorem lanesOwned_closePeer (h : LanesOwned impl) (peerId : Text) :
    LanesOwned (closePeer impl peerId) := by
  fun_induction closePeer impl peerId with
  | case1 => exact h
  | case2 impl peerId _ _ lossyPeerId impl' _ ih => exact ih (lanesOwned_detachPeer h peerId)
  | case3 impl peerId => exact lanesOwned_detachPeer h peerId

theorem lanesOwned_runtimeDropPeerState (h : LanesOwned impl) (peer : Peer) :
    LanesOwned (runtimeDropPeerState impl peer) := by
  cases hlane : impl.laneOwner.find? peer.id with
  | some owner =>
    rw [drop_lane impl peer hlane]
    refine h.shrink ?_
    intro key session' hfind
    dsimp only at hfind ⊢
    rw [SortedMap.find?_adjust] at hfind
    have herase : ∀ session, impl.sessions.find? key = some session →
        session.lossyPeerId ≠ peer.id → impl.laneOwner.find? session.lossyPeerId = some key →
        (impl.laneOwner.erase peer.id).find? session.lossyPeerId = some key := by
      intro session _ hne howner
      rw [SortedMap.find?_erase, if_neg hne]
      exact howner
    split at hfind
    · obtain ⟨session, hold, rfl⟩ := Option.map_eq_some_iff.mp hfind
      refine ⟨session, hold, by split <;> rfl, ?_⟩
      split
      · intro hempty
        exact absurd rfl hempty
      · next hne => exact fun _ => ⟨rfl, herase session hold hne⟩
    · next hkey =>
      refine ⟨session', hfind, rfl, fun _ => ⟨rfl, fun howner => ?_⟩⟩
      refine herase session' hfind (fun heq => hkey ?_) howner
      -- A lane of two sessions would be entered under both.
      rw [heq, hlane] at howner
      exact (Option.some.inj howner).symm
  | none =>
    obtain ⟨hsessions, hlanes, -, -⟩ := drop_control impl peer hlane
    refine h.shrink ?_
    intro key session hfind
    rw [hsessions, SortedMap.find?_eraseIf_eq_some, decide_eq_false_iff_not] at hfind
    obtain ⟨hold, hpeer⟩ := hfind
    refine ⟨session, hold, rfl, fun _ => ⟨rfl, fun howner => ?_⟩⟩
    rw [hlanes]
    refine SortedMap.find?_foldl_erase_eq_some.mpr ⟨howner, fun hmem => ?_⟩
    obtain ⟨key', session', hfind', hkey', hlossy, hempty⟩ := mem_lanesOf.mp hmem
    have howner' := h.owner key' session' hfind' (by rw [hlossy]; exact hempty)
    rw [hlossy, howner] at howner'
    exact hpeer (Option.some.inj howner' ▸ hkey')

theorem lanesOwned_bindLossyLane (h : LanesOwned impl) (clock : Clock) (peerId : Text)
    (sessionId : UInt64)
    (hok : bindsLane impl peerId sessionId = true → ∀ key session,
      impl.sessions.find? key = some session →
        session.lossyPeerId ≠ peerId ++ ascii "#lossy") :
    LanesOwned (bindLossyLane impl clock peerId sessionId) := by
  rcases bindLossyLane_cases impl clock peerId sessionId with
    hnone | ⟨hbinds, bound, hsessions, hlanes, hbound⟩
  · rw [hnone]
    exact h
  have howned : LanesOwned bound := by
    refine h.shrink ?_
    intro key session hfind
    rw [hsessions] at hfind
    refine ⟨session, hfind, rfl, fun _ => ⟨rfl, fun howner => ?_⟩⟩
    rw [hlanes, SortedMap.find?_insert, if_neg (hok hbinds key session hfind)]
    exact howner
  rcases hbound with hbound | hbound
  · rw [hbound]
    exact howned
  · rw [hbound]
    exact lanesOwned_closePeer howned _

/-- **The step lemma.** -/
theorem lanesOwned_step (h : LanesOwned impl) (s : RuntimeStep) (hok : rebinds impl s = false) :
    LanesOwned (impl.step s) := by
  -- Most steps leave the two tables alone.
  have hsame : ∀ {after : Impl}, after.sessions = impl.sessions →
      after.laneOwner = impl.laneOwner → LanesOwned after := by
    intro after hsessions hlanes
    refine ⟨?_, ?_⟩
    · rw [hsessions]
      exact h.named
    · rw [hsessions, hlanes]
      exact h.owner
  cases s with
  | receive clock peer envelope =>
    simp only [Impl.step, runtimeHandleEnvelope]
    split
    · next hfamily =>
      split
      · next hop =>
        refine lanesOwned_handleLaneBind h clock peer envelope ?_
        intro key hkey hpeer key' session hfind hlane
        by_contra hne
        refine absurd hok (Bool.eq_false_iff.mp · ?_)
        simp only [rebinds, hkey, hfamily, hop, Bool.and_eq_true, decide_eq_true_iff, true_and]
        refine ⟨hpeer, List.any_eq_true.mpr ⟨(key', session), ?_, ?_⟩⟩
        · exact SortedMap.mem_entries_iff.mpr hfind
        · simp [hne, hlane]
      split
      · exact lanesOwned_handleLaneReady h peer envelope
      · exact lanesOwned_handleSession h clock peer envelope
    · exact hsame (sessions_handleMessage _ _ _ _) (laneOwner_handleMessage _ _ _ _)
  | openSession clock peerId => exact lanesOwned_openSession h clock peerId
  | dropPeer peer => exact lanesOwned_runtimeDropPeerState h peer
  | accept peer => exact hsame rfl rfl
  | bindLane clock peerId sessionId =>
    refine lanesOwned_bindLossyLane h clock peerId sessionId ?_
    intro hbinds key session hfind hlane
    refine absurd hok (Bool.eq_false_iff.mp · ?_)
    simp only [rebinds, hbinds, Bool.true_and]
    exact List.any_eq_true.mpr ⟨(key, session), SortedMap.mem_entries_iff.mpr hfind, by simp [hlane]⟩
  | closePeer peerId => exact lanesOwned_closePeer h peerId
  | reap => exact hsame rfl rfl
  | setEntities entities =>
    simp only [Impl.step, setEntities]
    split <;> exact hsame rfl rfl
  | revoke peerId sessionId entityUids => exact hsame rfl rfl
  | start config listening =>
    simp only [Impl.step, start]
    split
    · exact h
    split
    · exact h
    split <;> exact hsame rfl rfl
  | stop =>
    simp only [Impl.step, stop]
    split
    · exact h
    · refine ⟨?_, ?_⟩ <;> intro key session hfind <;> exact absurd hfind (by simp)

end steps

/-! ### Runs -/

/-- **Lane ownership is consistent in every run without a rebinding**: every lane is
entered under its session, and serves no other. -/
theorem lanesOwned_runtimeRun (config : RuntimeConfig) (steps : List RuntimeStep)
    (hok : Run.Along Impl.step (fun impl s => rebinds impl s = false) { config, running := true }
      steps)
    (key : SessionKey) (session : SessionInfo)
    (hfind : (runtimeRun config steps).sessions.find? key = some session)
    (hlane : session.lossyPeerId ≠ []) :
    (runtimeRun config steps).laneOwner.find? session.lossyPeerId = some key ∧
      ∀ key' session', (runtimeRun config steps).sessions.find? key' = some session' →
        session'.lossyPeerId = session.lossyPeerId → key' = key := by
  have hstart : LanesOwned { config, running := true } :=
    ⟨fun _ _ h => absurd h (by simp), fun _ _ h => absurd h (by simp)⟩
  have howned : LanesOwned (runtimeRun config steps) :=
    Run.Along.invariant (motive := LanesOwned) (fun _ s h hstep => lanesOwned_step h s hstep)
      hstart hok
  have howner := howned.owner key session hfind hlane
  refine ⟨howner, ?_⟩
  intro key' session' hfind' hsame
  have howner' := howned.owner key' session' hfind' (hsame ▸ hlane)
  rw [hsame, howner] at howner'
  exact (Option.some.inj howner').symm

theorem lanesOwned_twoLanes :
    (runtimeRun (sampleConfig "drone") twoLanes).laneOwner.find? sampleLane.id =
      some ⟨sampleControl.id, 1⟩ := by
  have hsession : ((runtimeRun (sampleConfig "drone") twoLanes).sessions.find?
      ⟨sampleControl.id, 1⟩).map SessionInfo.lossyPeerId = some sampleLane.id := by
    decide +kernel
  obtain ⟨session, hfind, hlane⟩ := Option.map_eq_some_iff.mp hsession
  have hne : session.lossyPeerId ≠ [] := by
    rw [hlane]
    decide
  have howner := (lanesOwned_runtimeRun (sampleConfig "drone") twoLanes (by decide +kernel)
    ⟨sampleControl.id, 1⟩ session hfind hne).1
  rwa [hlane] at howner

/-- A peer with two sessions binds one connection to both of them. -/
def laneBoundTwice : List RuntimeStep :=
  handshake (sampleConfig "ground") sampleControl 1 ++
    handshake (sampleConfig "ground") sampleControl 2 ++
    laneHandshake (sampleConfig "ground") sampleLane 1 ++
    [receiveSession (sampleConfig "ground") sampleLane 2 SessionOperation.laneBind
      "session.lane_bind" (encodeText (sampleConfig "ground").sharedSecret)]

/-- The first session still takes it for its lane. -/
theorem laneBoundTwice_not_owned :
    ∃ session, (runtimeRun (sampleConfig "drone") laneBoundTwice).sessions.find?
        ⟨sampleControl.id, 1⟩ = some session ∧ session.lossyPeerId = sampleLane.id ∧
      session.lossyPeerId ≠ [] ∧
      (runtimeRun (sampleConfig "drone") laneBoundTwice).laneOwner.find? sampleLane.id =
        some ⟨sampleControl.id, 2⟩ := by
  have hsession : ((runtimeRun (sampleConfig "drone") laneBoundTwice).sessions.find?
      ⟨sampleControl.id, 1⟩).map SessionInfo.lossyPeerId = some sampleLane.id := by
    decide +kernel
  obtain ⟨session, hfind, hlane⟩ := Option.map_eq_some_iff.mp hsession
  refine ⟨session, hfind, hlane, ?_, by decide +kernel⟩
  rw [hlane]
  decide

end YunLink
