import YunLink.Lib.Runs
import YunLink.Runtime.Runs

/-!
# Session records

What one step of a run can do to the record of a key: a session message for the key
handles it or makes it, `open_session` makes it, the teardown of its peer and `stop`
remove it, and everything else leaves it alone but for its lane.  So a record is
there exactly when its key has been used since the last removal.

Session ids are drawn from a counter at each end, but both ends write under one key
for each connection.  Hence `open_session` draws an id that the other end may have
used before, and then it overwrites a live record.

## Main definitions

* `forgetLanes` — the records without their lanes.
* `usedKey`, `removesKey` — the key a step writes, and the keys it removes.
* `History`, `historyOf` — the steps of a run with the states they are taken in.
* `OpensFresh` — `open_session` leaves the records that are there alone.

## Main results

* `forgetLane_step`, `isSome_step_of_used`, `find?_step_of_removed` — one step.
* `isSome_iff_since` — **a record is there exactly when its key has been used since it
  was last removed.**
* `opensFresh_iff` — **when `open_session` disturbs no other session.**
-/

namespace YunLink

/-- Whether an envelope is handled by the session state machine. -/
def isSessionMessage (envelope : Envelope) : Bool :=
  envelope.family = .session && envelope.operation ≠ SessionOperation.laneBind &&
    envelope.operation ≠ SessionOperation.laneReady

/-! ### Records and their lanes -/

/-- The record without its lane. -/
def SessionInfo.forgetLane (session : SessionInfo) : SessionInfo := { session with lossyPeerId := [] }

/-- Records that differ in their lanes only. -/
theorem SessionInfo.eq_of_forgetLane {session other : SessionInfo}
    (h : session.forgetLane = other.forgetLane) :
    session.state = other.state ∧ session.negotiatedProfiles = other.negotiatedProfiles := by
  have hstate := congrArg SessionInfo.state h
  have hprofiles := congrArg SessionInfo.negotiatedProfiles h
  exact ⟨hstate, hprofiles⟩

/-- The records without their lanes. -/
def forgetLanes (sessions : SortedMap SessionKey SessionInfo) : SortedMap SessionKey SessionInfo :=
  sessions.mapVal fun _ => SessionInfo.forgetLane

theorem find?_forgetLanes (sessions : SortedMap SessionKey SessionInfo) (key : SessionKey) :
    (forgetLanes sessions).find? key = (sessions.find? key).map SessionInfo.forgetLane := by
  rw [forgetLanes, SortedMap.find?_mapVal]

/-- The walks that only touch lanes. -/
theorem forgetLanes_mapVal (sessions : SortedMap SessionKey SessionInfo)
    {f : SessionKey → SessionInfo → SessionInfo}
    (hf : ∀ key session, (f key session).forgetLane = session.forgetLane) :
    forgetLanes (sessions.mapVal f) = forgetLanes sessions := by
  apply SortedMap.ext_find?
  intro key
  rw [find?_forgetLanes, find?_forgetLanes, SortedMap.find?_mapVal, Option.map_map]
  congr 1
  funext session
  exact hf key session

theorem forgetLanes_adjust (sessions : SortedMap SessionKey SessionInfo) (owner : SessionKey)
    {f : SessionInfo → SessionInfo} (hf : ∀ session, (f session).forgetLane = session.forgetLane) :
    forgetLanes (sessions.adjust owner f) = forgetLanes sessions := by
  refine forgetLanes_mapVal sessions fun key session => ?_
  split
  · exact hf session
  · rfl

/-- Taking a lane away. -/
theorem forgetLane_clear (session : SessionInfo) (p : Prop) [Decidable p] :
    (if p then { session with lossyPeerId := [] } else session).forgetLane =
      session.forgetLane := by
  split <;> rfl

section lanes

variable (impl : Impl) (clock : Clock) (peer : Peer) (envelope : Envelope)

theorem forgetLanes_handleLaneBind :
    forgetLanes (handleLaneBind impl clock peer envelope).sessions = forgetLanes impl.sessions := by
  rcases handleLaneBind_cases impl clock peer envelope with heq | ⟨key, _, rfl, heq | heq⟩
  · rw [heq]
  · rw [heq]
    exact forgetLanes_adjust _ _ fun _ => rfl
  · rw [heq, sessions_sendSession]
    exact forgetLanes_adjust _ _ fun _ => rfl

theorem forgetLanes_handleLaneReady :
    forgetLanes (handleLaneReady impl peer envelope).sessions = forgetLanes impl.sessions := by
  rcases handleLaneReady_cases impl peer envelope with heq | ⟨owner, session, -, -, hfind, -, heq⟩
  · rw [heq]
  rw [heq]
  apply SortedMap.ext_find?
  intro key
  rw [find?_forgetLanes, find?_forgetLanes, SortedMap.find?_insert]
  split
  · next hkey =>
    rw [hkey, hfind]
    rfl
  · rfl

theorem forgetLanes_detachPeer (peerId : Text) :
    forgetLanes (detachPeer impl peerId).sessions = forgetLanes impl.sessions := by
  rw [sessions_detachPeer]
  exact forgetLanes_mapVal _ fun _ session => forgetLane_clear session _

theorem forgetLanes_closePeer (peerId : Text) :
    forgetLanes (closePeer impl peerId).sessions = forgetLanes impl.sessions := by
  fun_induction closePeer impl peerId with
  | case1 => rfl
  | case2 impl peerId _ _ lossyPeerId impl' _ ih => rw [ih, forgetLanes_detachPeer]
  | case3 impl peerId => exact forgetLanes_detachPeer impl peerId

theorem forgetLanes_bindLossyLane (peerId : Text) (sessionId : UInt64) :
    forgetLanes (bindLossyLane impl clock peerId sessionId).sessions =
      forgetLanes impl.sessions := by
  unfold bindLossyLane
  split
  · rfl
  split
  · split
    · rfl
    · dsimp only
      split
      · rfl
      · exact forgetLanes_closePeer _ _
  · rfl

end lanes

/-! ### One step -/

/-- The key a step makes or handles a record under. -/
def usedKey (impl : Impl) : RuntimeStep → Option SessionKey
  | .receive _ peer envelope =>
      if isSessionMessage envelope then some ⟨peer.id, envelope.sessionId⟩ else none
  | .openSession _ peerId =>
      match impl.connections.find? peerId with
      | none => none
      | some _ => some ⟨peerId, impl.nextSessionId⟩
  | _ => none

/-- Whether a step removes the record of the key, if there is one. -/
def removesKey (impl : Impl) (key : SessionKey) : RuntimeStep → Bool
  | .dropPeer peer => (impl.laneOwner.find? peer.id).isNone && key.peerId = peer.id
  | .stop => impl.running
  | _ => false

section step

variable (impl : Impl)

/-- What a step writes. -/
theorem sessions_receive {clock : Clock} {peer : Peer} {envelope : Envelope}
    (h : isSessionMessage envelope = true) :
    (impl.step (.receive clock peer envelope)).sessions =
      impl.sessions.insert ⟨peer.id, envelope.sessionId⟩
        (sessionStep impl.config peer.id envelope
          (sessionRecord impl ⟨peer.id, envelope.sessionId⟩)).session := by
  simp only [isSessionMessage, Bool.and_eq_true, decide_eq_true_iff] at h
  obtain ⟨⟨hfamily, hbind⟩, hready⟩ := h
  simp only [Impl.step, runtimeHandleEnvelope, if_pos hfamily, if_neg hbind, if_neg hready]
  exact sessions_handleSession impl clock peer envelope

theorem forgetLanes_receive {clock : Clock} {peer : Peer} {envelope : Envelope}
    (h : isSessionMessage envelope = false) :
    forgetLanes (impl.step (.receive clock peer envelope)).sessions =
      forgetLanes impl.sessions := by
  simp only [Impl.step, runtimeHandleEnvelope]
  split
  · next hfamily =>
    split
    · exact forgetLanes_handleLaneBind _ _ _ _
    · next hbind =>
      split
      · exact forgetLanes_handleLaneReady _ _ _
      · next hready =>
        exact absurd (by simp [isSessionMessage, hfamily, hbind, hready]) (Bool.eq_false_iff.mp h)
  · rw [sessions_handleMessage]

theorem sessions_openSession {clock : Clock} {peerId : Text} {connection : RuntimeConnection}
    (h : impl.connections.find? peerId = some connection) :
    (impl.step (.openSession clock peerId)).sessions =
      impl.sessions.insert ⟨peerId, impl.nextSessionId⟩
        { sessionId := impl.nextSessionId, peerId } := by
  simp only [Impl.step, openSession, h]
  rfl

theorem step_openSession_of_none {clock : Clock} {peerId : Text}
    (h : impl.connections.find? peerId = none) :
    impl.step (.openSession clock peerId) = impl := by
  simp only [Impl.step, openSession, h]

/-- Erasing records touches no other. -/
theorem find?_forgetLanes_eraseIf {key : SessionKey} {p : SessionKey → SessionInfo → Bool}
    (h : ∀ session, p key session = false) :
    ((impl.sessions.eraseIf p).find? key).map SessionInfo.forgetLane =
      (impl.sessions.find? key).map SessionInfo.forgetLane := by
  rw [SortedMap.find?_eraseIf]
  cases impl.sessions.find? key with
  | none => rfl
  | some session => simp [h session]

/-- **The step lemma**: a record that is neither used nor removed keeps everything but
its lane. -/
theorem forgetLane_step (s : RuntimeStep) {key : SessionKey} (hused : usedKey impl s ≠ some key)
    (hremoved : removesKey impl key s = false) :
    ((impl.step s).sessions.find? key).map SessionInfo.forgetLane =
      (impl.sessions.find? key).map SessionInfo.forgetLane := by
  have hlanes : ∀ {after : Impl}, forgetLanes after.sessions = forgetLanes impl.sessions →
      (after.sessions.find? key).map SessionInfo.forgetLane =
        (impl.sessions.find? key).map SessionInfo.forgetLane := by
    intro after hafter
    rw [← find?_forgetLanes, hafter, find?_forgetLanes]
  -- Only a session message, `open_session` and the drop of a control connection change more of a
  -- record than its lane.
  cases s with
  | receive clock peer envelope =>
    by_cases hmessage : isSessionMessage envelope = true
    · rw [usedKey, if_pos hmessage] at hused
      rw [sessions_receive impl hmessage, SortedMap.find?_insert,
        if_neg fun heq => hused (by rw [heq])]
    · exact hlanes (forgetLanes_receive impl (Bool.eq_false_iff.mpr hmessage))
  | openSession clock peerId =>
    cases hconn : impl.connections.find? peerId with
    | none => rw [step_openSession_of_none impl hconn]
    | some connection =>
      simp only [usedKey, hconn] at hused
      rw [sessions_openSession impl hconn, SortedMap.find?_insert,
        if_neg fun heq => hused (by rw [heq])]
  | dropPeer peer =>
    simp only [Impl.step]
    cases hlane : impl.laneOwner.find? peer.id with
    | some owner =>
      refine hlanes ?_
      rw [drop_lane impl peer hlane]
      exact forgetLanes_adjust _ _ fun session => forgetLane_clear session _
    | none =>
      rw [(drop_control impl peer hlane).1]
      refine find?_forgetLanes_eraseIf impl fun _ => ?_
      simpa [removesKey, hlane] using hremoved
  | accept peer => rfl
  | bindLane clock peerId sessionId => exact hlanes (forgetLanes_bindLossyLane _ _ _ _)
  | closePeer peerId => exact hlanes (forgetLanes_closePeer _ _)
  | reap => rfl
  | setEntities entities =>
    simp only [Impl.step, setEntities]
    split <;> rfl
  | revoke peerId sessionId entityUids => rfl
  | start config listening =>
    simp only [Impl.step, start]
    split
    · rfl
    split
    · rfl
    split <;> rfl
  | stop =>
    have hstopped : impl.running = false := hremoved
    simp only [Impl.step, stop, hstopped]
    rfl

/-- A key that is used has a record. -/
theorem isSome_step_of_used (s : RuntimeStep) {key : SessionKey} (h : usedKey impl s = some key) :
    ((impl.step s).sessions.find? key).isSome := by
  cases s with
  | receive clock peer envelope =>
    simp only [usedKey, Option.ite_none_right_eq_some, Option.some.injEq] at h
    rw [sessions_receive impl h.1, SortedMap.find?_insert, if_pos h.2.symm]
    rfl
  | openSession clock peerId =>
    cases hconn : impl.connections.find? peerId with
    | none => simp [usedKey, hconn] at h
    | some connection =>
      simp only [usedKey, hconn, Option.some.injEq] at h
      rw [sessions_openSession impl hconn, SortedMap.find?_insert, if_pos h.symm]
      rfl
  | _ => exact absurd h (by simp [usedKey])

/-- A key that is removed has none. -/
theorem find?_step_of_removed (s : RuntimeStep) {key : SessionKey}
    (h : removesKey impl key s = true) : (impl.step s).sessions.find? key = none := by
  cases s with
  | dropPeer peer =>
    simp only [removesKey, Bool.and_eq_true, Option.isNone_iff_eq_none, decide_eq_true_iff] at h
    simp only [Impl.step]
    rw [(drop_control impl peer h.1).1, SortedMap.find?_eraseIf]
    cases impl.sessions.find? key with
    | none => rfl
    | some session => simp [h.2]
  | stop =>
    have hrunning : impl.running = true := h
    simp only [Impl.step, stop, hrunning]
    rfl
  | _ => exact absurd h (by simp [removesKey])

/-- A record that was not used was there before. -/
theorem exists_before (s : RuntimeStep) {key : SessionKey} {session : SessionInfo}
    (hused : usedKey impl s ≠ some key)
    (hfind : (impl.step s).sessions.find? key = some session) :
    ∃ old, impl.sessions.find? key = some old ∧ old.forgetLane = session.forgetLane := by
  by_cases hremoved : removesKey impl key s = true
  · exact absurd ((find?_step_of_removed impl s hremoved).symm.trans hfind) (by simp)
  have hsame := forgetLane_step impl s hused (Bool.eq_false_iff.mpr hremoved)
  rw [hfind] at hsame
  exact Option.map_eq_some_iff.mp hsame.symm

end step

/-! ### Runs -/

/-- The steps taken so far, the newest first, each with the state it was taken in. -/
abbrev History := List (Impl × RuntimeStep)

/-- One step, put on top of the history. -/
def History.step (past : Impl × History) (s : RuntimeStep) : Impl × History :=
  (past.1.step s, (past.1, s) :: past.2)

/-- The history of a run from a runtime just started. -/
def historyOf (config : RuntimeConfig) (steps : List RuntimeStep) : History :=
  (steps.foldl History.step ({ config, running := true }, [])).2

/-- The key has been used, and has not been removed since. -/
def UsedSince (key : SessionKey) (history : History) : Prop :=
  Run.Since (fun entry => usedKey entry.1 entry.2 = some key)
    (fun entry => removesKey entry.1 key entry.2 = true) history

/-- **A record is there exactly when its key has been used since it was last
removed.** -/
theorem isSome_iff_since (config : RuntimeConfig) (steps : List RuntimeStep) (key : SessionKey) :
    ((runtimeRun config steps).sessions.find? key).isSome ↔
      UsedSince key (historyOf config steps) := by
  -- The run and its history side by side.
  have hrun : ∀ past : Impl × History,
      ((past.1.sessions.find? key).isSome ↔ UsedSince key past.2) →
      (((steps.foldl Impl.step past.1).sessions.find? key).isSome ↔
        UsedSince key (steps.foldl History.step past).2) := by
    induction steps with
    | nil => exact fun _ h => h
    | cons s steps ih =>
      intro past h
      refine ih (History.step past s) ?_
      unfold UsedSince at h ⊢
      rw [History.step, Run.since_cons, ← h]
      by_cases hused : usedKey past.1 s = some key
      · exact iff_of_true (isSome_step_of_used past.1 s hused) (Or.inl hused)
      · rw [or_iff_right hused]
        by_cases hremoved : removesKey past.1 key s = true
        · simp [find?_step_of_removed past.1 s hremoved, hremoved]
        · have hsame := congrArg Option.isSome
            (forgetLane_step past.1 s hused (Bool.eq_false_iff.mpr hremoved))
          simp only [Option.isSome_map] at hsame
          rw [and_iff_right hremoved, hsame]
  exact hrun ({ config, running := true }, []) (by simp [UsedSince])

/-! ### Opening a session -/

/-- `open_session` leaves the records that are there alone: the key it writes is new. -/
structure OpensFresh (impl : Impl) (clock : Clock) (peerId : Text) : Prop where
  kept : ∀ key session, impl.sessions.find? key = some session →
    (openSession impl clock peerId).1.sessions.find? key = some session
  fresh : (impl.connections.find? peerId).isSome →
    impl.sessions.find? ⟨peerId, impl.nextSessionId⟩ = none

/-- **When `open_session` disturbs no other session**: the id it draws has not been
used on the connection since the peer's records were last removed. -/
theorem opensFresh_iff (config : RuntimeConfig) (steps : List RuntimeStep) (clock : Clock)
    (peerId : Text) :
    OpensFresh (runtimeRun config steps) clock peerId ↔
      ((runtimeRun config steps).connections.find? peerId).isSome →
        ¬ UsedSince ⟨peerId, (runtimeRun config steps).nextSessionId⟩ (historyOf config steps) := by
  rw [← isSome_iff_since, Option.not_isSome_iff_eq_none]
  refine ⟨OpensFresh.fresh, fun hfresh => ⟨?_, hfresh⟩⟩
  intro key session hfind
  cases hconn : (runtimeRun config steps).connections.find? peerId with
  | none =>
    rw [show (openSession (runtimeRun config steps) clock peerId).1 = _ from
      step_openSession_of_none _ hconn]
    exact hfind
  | some connection =>
    rw [show (openSession (runtimeRun config steps) clock peerId).1.sessions = _ from
      sessions_openSession _ hconn, SortedMap.find?_insert, if_neg]
    · exact hfind
    · rintro rfl
      exact absurd ((hfresh (by simp [hconn])).symm.trans hfind) (by simp)

/-- The other end has opened session 1 on the connection. -/
def openedByPeer : List RuntimeStep :=
  handshake { endpointUid := ascii "ground" }
    ⟨ascii "tcp://10.0.0.2:5000", ascii "10.0.0.2", 5000⟩ 1

/-- The first session of this end takes its place: the record of an active session is
overwritten. -/
theorem openedByPeer_overwritten :
    ¬ OpensFresh (runtimeRun {} openedByPeer) {} (ascii "tcp://10.0.0.2:5000") := by
  intro h
  have hstate : ((runtimeRun {} openedByPeer).sessions.find?
      ⟨ascii "tcp://10.0.0.2:5000", 1⟩).map SessionInfo.state = some .active := by
    decide
  have hafter : ((openSession (runtimeRun {} openedByPeer) {}
      (ascii "tcp://10.0.0.2:5000")).1.sessions.find?
        ⟨ascii "tcp://10.0.0.2:5000", 1⟩).map SessionInfo.state = some .handshaking := by
    decide
  obtain ⟨session, hfind, hactive⟩ := Option.map_eq_some_iff.mp hstate
  rw [h.kept _ _ hfind, Option.map_some, hactive] at hafter
  exact absurd hafter (by decide)

end YunLink
