import YunLink.Runtime.Lanes
import YunLink.Runtime.Teardown

/-!
# Losing a session with lanes

A session with a lane goes down with two connections, each with a receive loop of
its own, so the two drops come in either order.  And a control peer may have many
sessions, each with a lane of its own, all of which should be closed with it.

Neither is quite so.  The drop that comes second takes another branch when the
control peer went first, and only that branch looks at what the lane itself has
taken.  And both `runtime_drop_peer_state` and `close_peer` carry one lane out of
their walk over the sessions, the last.

## Main definitions

* `LaneOf` — a lane of some session of a peer.
* `SameTeardown`, `NothingOverLane` — the order of the drops makes no difference,
  and the condition for it.
* `Closes` — the connections `close_peer` goes on to.
* `LanesClosed`, `Stopped` — the lanes of a peer are gone.

## Main results

* `sameTeardown_iff` — **the order makes no difference exactly when nothing was
  taken over the lane.**
* `connections_closePeer`, `laneOwner_closePeer` — what `close_peer` closes.
* `lanesClosed_iff` — **which lanes are closed with their control peer.**
-/

namespace YunLink

/-- A lane of some session of the peer. -/
def LaneOf (impl : Impl) (peerId lane : Text) : Prop :=
  ∃ key session, impl.sessions.find? key = some session ∧ key.peerId = peerId ∧
    session.lossyPeerId = lane ∧ lane ≠ []

theorem mem_lanesOf {impl : Impl} {peerId lane : Text} :
    lane ∈ lanesOf (sessionsOf impl peerId) ↔ LaneOf impl peerId lane := by
  simp only [lanesOf, sessionsOf, List.mem_filter, List.mem_map, LaneOf]
  constructor
  · rintro ⟨⟨session, ⟨⟨key, session'⟩, ⟨hmem, hkey⟩, rfl⟩, rfl⟩, hlane⟩
    exact ⟨key, session', SortedMap.mem_entries_iff.mp hmem, by simpa using hkey, rfl,
      by simpa using hlane⟩
  · rintro ⟨key, session, hfind, hkey, rfl, hlane⟩
    exact ⟨⟨session, ⟨(key, session), ⟨SortedMap.mem_entries_iff.mpr hfind, by simpa using hkey⟩,
      rfl⟩, rfl⟩, by simpa using hlane⟩

/-- The lane `close_peer` goes on with is one of the peer's. -/
theorem laneOf_laneToClose {impl : Impl} {peerId : Text} (h : laneToClose impl peerId ≠ []) :
    LaneOf impl peerId (laneToClose impl peerId) := by
  refine mem_lanesOf.mp ?_
  unfold laneToClose at h ⊢
  cases hlanes : lanesOf (sessionsOf impl peerId) with
  | nil =>
    rw [hlanes] at h
    exact absurd rfl h
  | cons lane lanes =>
    rw [List.getLastD_cons]
    exact List.getLastD_mem_cons

/-! ### Two drops -/

/-- One connection is lost, then the other. -/
def dropBoth (impl : Impl) (first second : Peer) : Impl :=
  runtimeDropPeerState (runtimeDropPeerState impl first) second

/-- No lease of the session is left, over either connection. -/
def Released (impl : Impl) (control lane : Peer) (sessionId : UInt64) : Prop :=
  ∀ key lease, impl.authorityLeases.find? key = some lease →
    lease.holder ≠ ⟨control.id, sessionId⟩ ∧ lease.holder ≠ ⟨lane.id, sessionId⟩

/-- The two orders lead to the same tables, without a lease of the session. -/
structure SameTeardown (impl : Impl) (control lane : Peer) (sessionId : UInt64) : Prop where
  sessions : (dropBoth impl control lane).sessions = (dropBoth impl lane control).sessions
  leases : (dropBoth impl control lane).authorityLeases =
    (dropBoth impl lane control).authorityLeases
  lanes : (dropBoth impl control lane).laneOwner = (dropBoth impl lane control).laneOwner
  controlFirst : Released (dropBoth impl control lane) control lane sessionId
  laneFirst : Released (dropBoth impl lane control) control lane sessionId

/-- Nothing was taken over the lane: no session and no lease is kept under its name.
A control peer that is a lane itself keeps all its leases, so there must be none of
the session at all. -/
def NothingOverLane (impl : Impl) (control lane : Peer) (sessionId : UInt64) : Prop :=
  match impl.laneOwner.find? control.id with
  | none =>
      (∀ key, key.peerId = lane.id → impl.sessions.find? key = none) ∧
      ∀ key lease, impl.authorityLeases.find? key = some lease → lease.peerId ≠ lane.id
  | some _ => Released impl control lane sessionId

section order

variable {impl : Impl} {control lane : Peer} {sessionId : UInt64}

/-- The lanes of the control peer once its session has lost the lane. -/
theorem laneOf_drop_lane (hbound : BoundLane impl control lane sessionId) (hid : lane.id ≠ [])
    (other : Text) :
    LaneOf impl control.id other ↔
      other = lane.id ∨ LaneOf (runtimeDropPeerState impl lane) control.id other := by
  obtain ⟨session, hsession, -, hlossy⟩ := hbound.session
  rw [drop_lane impl lane hbound.owner]
  constructor
  · rintro ⟨key, session', hfind, hkey, hother, hne⟩
    by_cases howner : key = ⟨control.id, sessionId⟩
    · left
      rw [howner, hsession] at hfind
      rw [← hother, ← Option.some.inj hfind, hlossy]
    · right
      refine ⟨key, session', ?_, hkey, hother, hne⟩
      simp only [SortedMap.find?_adjust, if_neg howner]
      exact hfind
  · rintro (rfl | ⟨key, session', hfind, hkey, hother, hne⟩)
    · exact ⟨_, session, hsession, rfl, hlossy, hid⟩
    · simp only [SortedMap.find?_adjust] at hfind
      split at hfind
      · next howner =>
        -- The only record the drop rewrites has no lane any more.
        rw [howner, hsession, Option.map_some, if_pos hlossy] at hfind
        rw [← hother, ← Option.some.inj hfind] at hne
        exact absurd rfl hne
      · exact ⟨key, session', hfind, hkey, hother, hne⟩

/-- The lane loses its entry with the control peer, so its own drop is that of a
control peer. -/
theorem dropBoth_controlFirst (h : impl.laneOwner.find? control.id = none)
    (hlane : LaneOf impl control.id lane.id) :
    (∀ key session, (dropBoth impl control lane).sessions.find? key = some session ↔
        impl.sessions.find? key = some session ∧ key.peerId ≠ control.id ∧
          key.peerId ≠ lane.id) ∧
      (∀ key lease, (dropBoth impl control lane).authorityLeases.find? key = some lease ↔
        impl.authorityLeases.find? key = some lease ∧ lease.peerId ≠ control.id ∧
          lease.peerId ≠ lane.id) ∧
      ∀ other owner, (dropBoth impl control lane).laneOwner.find? other = some owner ↔
        impl.laneOwner.find? other = some owner ∧ ¬ LaneOf impl control.id other ∧
          ¬ LaneOf (runtimeDropPeerState impl control) lane.id other := by
  obtain ⟨hsessions, hlanes, hleases, -⟩ := drop_control impl control h
  -- With the control peer goes the entry of the lane.
  have hnone : (runtimeDropPeerState impl control).laneOwner.find? lane.id = none := by
    rw [hlanes]
    refine Option.eq_none_iff_forall_ne_some.mpr fun owner hfind => ?_
    exact (SortedMap.find?_foldl_erase_eq_some.mp hfind).2 (mem_lanesOf.mpr hlane)
  obtain ⟨hsessions', hlanes', hleases', -⟩ :=
    drop_control (runtimeDropPeerState impl control) lane hnone
  unfold dropBoth
  refine ⟨?_, ?_, ?_⟩
  · intro key session
    rw [hsessions', hsessions, SortedMap.find?_eraseIf_eq_some, SortedMap.find?_eraseIf_eq_some,
      decide_eq_false_iff_not, decide_eq_false_iff_not, and_assoc]
  · intro key lease
    rw [hleases', hleases, SortedMap.find?_eraseIf_eq_some, SortedMap.find?_eraseIf_eq_some,
      decide_eq_false_iff_not, decide_eq_false_iff_not, and_assoc]
  · intro other owner
    rw [hlanes', hlanes, SortedMap.find?_foldl_erase_eq_some, SortedMap.find?_foldl_erase_eq_some,
      mem_lanesOf, mem_lanesOf, and_assoc]

/-- The lane goes first and leaves its owner's session without a lane. -/
theorem dropBoth_laneFirst (h : impl.laneOwner.find? control.id = none)
    (hbound : BoundLane impl control lane sessionId) (hid : lane.id ≠ []) :
    (∀ key session, (dropBoth impl lane control).sessions.find? key = some session ↔
        impl.sessions.find? key = some session ∧ key.peerId ≠ control.id) ∧
      (∀ key lease, (dropBoth impl lane control).authorityLeases.find? key = some lease ↔
        impl.authorityLeases.find? key = some lease ∧ lease.peerId ≠ control.id) ∧
      ∀ other owner, (dropBoth impl lane control).laneOwner.find? other = some owner ↔
        impl.laneOwner.find? other = some owner ∧ ¬ LaneOf impl control.id other := by
  have hdrop := drop_lane impl lane hbound.owner
  have hnone : (runtimeDropPeerState impl lane).laneOwner.find? control.id = none := by
    rw [hdrop, SortedMap.find?_erase, h]
    exact ite_self none
  obtain ⟨hsessions, hlanes, hleases, -⟩ :=
    drop_control (runtimeDropPeerState impl lane) control hnone
  unfold dropBoth
  refine ⟨?_, ?_, ?_⟩
  · intro key session
    rw [hsessions, SortedMap.find?_eraseIf_eq_some, decide_eq_false_iff_not]
    refine and_congr_left fun hkey => ?_
    -- The record that lost its lane is one of the control peer's.
    have hother : key ≠ ⟨control.id, sessionId⟩ := fun heq => hkey (by rw [heq])
    rw [hdrop, SortedMap.find?_adjust, if_neg hother]
  · intro key lease
    rw [hleases, SortedMap.find?_eraseIf_eq_some, decide_eq_false_iff_not, hdrop]
  · intro other owner
    rw [hlanes, SortedMap.find?_foldl_erase_eq_some, mem_lanesOf, laneOf_drop_lane hbound hid,
      not_or, ← and_assoc]
    refine and_congr_left fun _ => ?_
    rw [show (runtimeDropPeerState impl lane).laneOwner = impl.laneOwner.erase lane.id from
      congrArg Impl.laneOwner hdrop, SortedMap.find?_erase]
    by_cases heq : other = lane.id
    · simp [heq]
    · simp [heq]

theorem sameTeardown_control_iff (h : impl.laneOwner.find? control.id = none)
    (hbound : BoundLane impl control lane sessionId) (hid : lane.id ≠ [])
    (hne : control.id ≠ lane.id) :
    SameTeardown impl control lane sessionId ↔
      (∀ key, key.peerId = lane.id → impl.sessions.find? key = none) ∧
      ∀ key lease, impl.authorityLeases.find? key = some lease → lease.peerId ≠ lane.id := by
  have hlane : LaneOf impl control.id lane.id := (laneOf_drop_lane hbound hid _).mpr (.inl rfl)
  obtain ⟨hsessions, hleases, hlanes⟩ := dropBoth_controlFirst h hlane
  obtain ⟨hsessions', hleases', hlanes'⟩ := dropBoth_laneFirst h hbound hid
  constructor
  · -- One order would leave what is filed under the lane, and the other remove it.
    rintro ⟨hsame, hsame', -, -, -⟩
    refine ⟨?_, ?_⟩
    · intro key hkey
      refine Option.eq_none_iff_forall_ne_some.mpr fun session hfind => ?_
      have hleft := (hsessions' key session).mpr ⟨hfind, fun heq => hne (heq.symm.trans hkey)⟩
      rw [← hsame] at hleft
      exact ((hsessions key session).mp hleft).2.2 hkey
    · intro key lease hfind hlease
      have hleft := (hleases' key lease).mpr ⟨hfind, fun heq => hne (heq.symm.trans hlease)⟩
      rw [← hsame'] at hleft
      exact ((hleases key lease).mp hleft).2.2 hlease
  · rintro ⟨hnosession, hnolease⟩
    refine ⟨?_, ?_, ?_, ?_, ?_⟩
    · refine SortedMap.eq_iff_find?_eq_some.mpr fun key session => ?_
      rw [hsessions, hsessions']
      refine and_congr_right fun hfind => ?_
      refine and_iff_left fun hkey => ?_
      exact absurd ((hnosession key hkey).symm.trans hfind) (by simp)
    · refine SortedMap.eq_iff_find?_eq_some.mpr fun key lease => ?_
      rw [hleases, hleases']
      exact and_congr_right fun hfind => and_iff_left (hnolease key lease hfind)
    · refine SortedMap.eq_iff_find?_eq_some.mpr fun other owner => ?_
      have hnone : ¬ LaneOf (runtimeDropPeerState impl control) lane.id other := by
        rintro ⟨key, session, hfind, hkey, -⟩
        rw [(drop_control impl control h).1, SortedMap.find?_eraseIf_eq_some,
          hnosession key hkey] at hfind
        exact absurd hfind.1 (by simp)
      rw [hlanes, hlanes', and_iff_left hnone]
    · intro key lease hfind
      obtain ⟨-, hcontrol, hlane⟩ := (hleases key lease).mp hfind
      exact ⟨fun heq => hcontrol (congrArg SessionKey.peerId heq),
        fun heq => hlane (congrArg SessionKey.peerId heq)⟩
    · intro key lease hfind
      obtain ⟨hold, hcontrol⟩ := (hleases' key lease).mp hfind
      exact ⟨fun heq => hcontrol (congrArg SessionKey.peerId heq),
        fun heq => hnolease key lease hold (congrArg SessionKey.peerId heq)⟩

/-- Two lanes: each drop takes away its own entry, and neither looks at leases. -/
theorem sameTeardown_lane_iff {owner : SessionKey}
    (h : impl.laneOwner.find? control.id = some owner)
    (hbound : BoundLane impl control lane sessionId) (hne : control.id ≠ lane.id) :
    SameTeardown impl control lane sessionId ↔ Released impl control lane sessionId := by
  have hcontrol := drop_lane impl control h
  have hlane := drop_lane impl lane hbound.owner
  have hlaneLeft : (runtimeDropPeerState impl control).laneOwner.find? lane.id =
      some ⟨control.id, sessionId⟩ := by
    rw [hcontrol, SortedMap.find?_erase, if_neg hne.symm]
    exact hbound.owner
  have hcontrolLeft : (runtimeDropPeerState impl lane).laneOwner.find? control.id =
      some owner := by
    rw [hlane, SortedMap.find?_erase, if_neg hne]
    exact h
  have hfirst := drop_lane _ lane hlaneLeft
  have hsecond := drop_lane _ control hcontrolLeft
  have hleases : (dropBoth impl control lane).authorityLeases = impl.authorityLeases := by
    rw [dropBoth, hfirst, hcontrol]
  have hleases' : (dropBoth impl lane control).authorityLeases = impl.authorityLeases := by
    rw [dropBoth, hsecond, hlane]
  constructor
  · intro hsame key lease hfind
    rw [← hleases] at hfind
    exact hsame.controlFirst key lease hfind
  · intro hreleased
    refine ⟨?_, hleases.trans hleases'.symm, ?_, ?_, ?_⟩
    · rw [dropBoth, dropBoth, hfirst, hsecond, hcontrol, hlane]
      dsimp only
      -- The drops clear different lanes of a record, in either order.
      apply SortedMap.adjust_comm
      intro session
      by_cases hc : session.lossyPeerId = control.id
      · simp [hc, hne]
      · by_cases hl : session.lossyPeerId = lane.id
        · simp [hl, hne.symm]
        · simp [hc, hl]
    · rw [dropBoth, dropBoth, hfirst, hsecond, hcontrol, hlane]
      refine SortedMap.ext_find? fun other => ?_
      simp only [SortedMap.find?_erase]
      by_cases hc : other = control.id
      · simp [hc]
      · simp [hc]
    · intro key lease hfind
      exact hreleased key lease (hleases ▸ hfind)
    · intro key lease hfind
      exact hreleased key lease (hleases' ▸ hfind)

end order

/-- **The order of the two drops makes no difference exactly when nothing was taken
over the lane.** -/
theorem sameTeardown_iff (impl : Impl) (control lane : Peer) (sessionId : UInt64)
    (hbound : BoundLane impl control lane sessionId) (hid : lane.id ≠ [])
    (hne : control.id ≠ lane.id) :
    SameTeardown impl control lane sessionId ↔ NothingOverLane impl control lane sessionId := by
  unfold NothingOverLane
  cases h : impl.laneOwner.find? control.id with
  | none => exact sameTeardown_control_iff h hbound hid hne
  | some owner => exact sameTeardown_lane_iff h hbound hne

theorem sameTeardown_iff_leaseOverControl :
    SameTeardown (runtimeRun (sampleConfig "drone") leaseOverControl) sampleControl sampleLane 1 ↔
      NothingOverLane (runtimeRun (sampleConfig "drone") leaseOverControl) sampleControl
        sampleLane 1 :=
  sameTeardown_iff (runtimeRun (sampleConfig "drone") leaseOverControl) sampleControl sampleLane 1
    boundLane_leaseOverControl (by decide) (by decide)

/-- A lease taken over the lane stays when the lane goes first, and goes when the
control connection does. -/
theorem leaseThroughLane_order :
    BoundLane (runtimeRun { entities := [ascii "entity.alpha"] } leaseThroughLane) sampleControl
        sampleLane 1 ∧
      ¬ SameTeardown (runtimeRun { entities := [ascii "entity.alpha"] } leaseThroughLane)
        sampleControl sampleLane 1 := by
  refine ⟨⟨?_, by decide +kernel⟩, fun h => ?_⟩
  · have hsession : ((runtimeRun { entities := [ascii "entity.alpha"] }
        leaseThroughLane).sessions.find? ⟨sampleControl.id, 1⟩).map
          (fun session => (session.state, session.lossyPeerId)) =
            some (.active, sampleLane.id) := by
      decide +kernel
    obtain ⟨session, hfind, hfields⟩ := Option.map_eq_some_iff.mp hsession
    obtain ⟨hstate, hlossy⟩ := Prod.ext_iff.mp hfields
    exact ⟨session, hfind, hstate, hlossy⟩
  · have hlease : (dropBoth (runtimeRun { entities := [ascii "entity.alpha"] } leaseThroughLane)
        sampleLane sampleControl).authorityLeases.find?
          ⟨ascii "entity.alpha", ascii "org.yunlink.mobility"⟩ =
        some ⟨sampleLane.id, 1, 2000000000⟩ := by
      decide +kernel
    exact (h.laneFirst _ _ hlease).2 rfl

/-! ### What `close_peer` closes -/

/-- The peer of `close_peer` and the lanes it goes on to, from one connection to the
next, as long as there are connections. -/
inductive Closes (impl : Impl) (peerId : Text) : Text → Prop
  | peer (hconn : (impl.connections.find? peerId).isSome) : Closes impl peerId peerId
  | lane {id : Text} (h : Closes impl peerId id) (hconn : (impl.connections.find? id).isSome)
      (hlane : laneToClose impl id ≠ []) : Closes impl peerId (laneToClose impl id)

section close

variable {impl : Impl} {peerId : Text}

/-- `close_peer` does nothing for a peer without a connection. -/
theorem Closes.isSome {id : Text} (h : Closes impl peerId id) :
    (impl.connections.find? peerId).isSome := by
  induction h with
  | peer hconn => exact hconn
  | lane _ _ _ ih => exact ih

/-- The sessions of other peers are left alone, when the peer is no lane. -/
theorem sessionsOf_detachPeer (h : impl.laneOwner.find? peerId = none) {id : Text}
    (hid : id ≠ peerId) : sessionsOf (detachPeer impl peerId) id = sessionsOf impl id := by
  simp only [sessionsOf, sessions_detachPeer, h, SortedMap.mapVal, List.filter_map, List.map_map]
  apply List.map_congr_left
  intro entry hentry
  have hkey : entry.1.peerId = id := by simpa using (List.mem_filter.mp hentry).2
  simp [hkey, hid]

theorem laneToClose_detachPeer (h : impl.laneOwner.find? peerId = none) {id : Text}
    (hid : id ≠ peerId) : laneToClose (detachPeer impl peerId) id = laneToClose impl id := by
  unfold laneToClose
  rw [sessionsOf_detachPeer h hid]

theorem isSome_connections_detachPeer (id : Text) :
    ((detachPeer impl peerId).connections.find? id).isSome ↔
      id ≠ peerId ∧ (impl.connections.find? id).isSome := by
  rw [connections_detachPeer, SortedMap.find?_erase]
  by_cases hid : id = peerId
  · simp [hid]
  · simp [hid]

/-- The lane `close_peer` goes on with has left the table of lanes. -/
theorem laneOwner_laneToClose (h : laneToClose impl peerId ≠ []) :
    (detachPeer impl peerId).laneOwner.find? (laneToClose impl peerId) = none := by
  refine Option.eq_none_iff_forall_ne_some.mpr fun owner hfind => ?_
  obtain ⟨-, -, hempty | hother⟩ := (find?_laneOwner_detachPeer _ _ _ _).mp hfind
  · exact h hempty
  · exact hother rfl

/-- The recursion of `close_peer`. -/
theorem closes_iff (h : impl.laneOwner.find? peerId = none)
    (hconn : (impl.connections.find? peerId).isSome) (id : Text) :
    Closes impl peerId id ↔ id = peerId ∨ laneToClose impl peerId ≠ [] ∧
      (id = laneToClose impl peerId ∨
        Closes (detachPeer impl peerId) (laneToClose impl peerId) id) := by
  constructor
  · intro hcloses
    -- The chain of lanes starts at the peer, and its first link is the peer's own lane.
    induction hcloses with
    | peer => exact Or.inl rfl
    | @lane id _ hid hlane ih =>
      right
      by_cases heq : id = peerId
      · subst heq
        exact ⟨hlane, Or.inl rfl⟩
      have hid' : ((detachPeer impl peerId).connections.find? id).isSome :=
        (isSome_connections_detachPeer id).mpr ⟨heq, hid⟩
      rcases ih with rfl | ⟨hfirst, hrest⟩
      · exact absurd rfl heq
      refine ⟨hfirst, Or.inr ?_⟩
      have hreached : Closes (detachPeer impl peerId) (laneToClose impl peerId) id := by
        rcases hrest with rfl | hrest
        · exact .peer hid'
        · exact hrest
      rw [← laneToClose_detachPeer h heq] at hlane ⊢
      exact .lane hreached hid' hlane
  · have hfirst : laneToClose impl peerId ≠ [] →
        Closes impl peerId (laneToClose impl peerId) := .lane (.peer hconn) hconn
    rintro (rfl | ⟨hlane, rfl | hcloses⟩)
    · exact .peer hconn
    · exact hfirst hlane
    · -- Every chain from the lane on is one from the peer on.
      induction hcloses with
      | peer => exact hfirst hlane
      | @lane id _ hid hnext ih =>
        obtain ⟨heq, hid'⟩ := (isSome_connections_detachPeer id).mp hid
        rw [laneToClose_detachPeer h heq] at hnext ⊢
        exact .lane ih hid' hnext

/-- There is no lane to go on with, or the lane is the peer itself. -/
theorem closes_last_iff (h : impl.laneOwner.find? peerId = none)
    (hconn : (impl.connections.find? peerId).isSome)
    (hlast : ¬ (laneToClose impl peerId ≠ [] ∧ laneToClose impl peerId ≠ peerId)) (id : Text) :
    Closes impl peerId id ↔ id = peerId := by
  rw [closes_iff h hconn id]
  refine or_iff_left_of_imp ?_
  rintro ⟨hempty, hmore⟩
  have hself : laneToClose impl peerId = peerId := by
    by_contra hother
    exact hlast ⟨hempty, hother⟩
  rw [hself] at hmore
  rcases hmore with hid | hmore
  · exact hid
  · exact absurd rfl ((isSome_connections_detachPeer _).mp hmore.isSome).1

/-- **What `close_peer` leaves of the connections.** -/
theorem connections_closePeer (h : impl.laneOwner.find? peerId = none) (id : Text)
    (connection : RuntimeConnection) :
    (closePeer impl peerId).connections.find? id = some connection ↔
      impl.connections.find? id = some connection ∧ ¬ Closes impl peerId id := by
  fun_induction closePeer impl peerId with
  | case1 impl peerId hnone =>
    refine (and_iff_left fun hcloses => ?_).symm
    exact absurd hcloses.isSome (by simp [hnone])
  | case2 impl peerId _ hconn lossyPeerId impl' hlane ih =>
    rw [ih (laneOwner_laneToClose hlane.1), closes_iff h (by simp [hconn]) id]
    constructor
    · rintro ⟨hfind, hrest⟩
      have hsome : (impl'.connections.find? id).isSome := by simp [hfind]
      rw [connections_detachPeer, SortedMap.find?_erase] at hfind
      split at hfind
      · exact absurd hfind (by simp)
      next hid =>
      refine ⟨hfind, ?_⟩
      rintro (heq | ⟨-, rfl | hmore⟩)
      · exact hid heq
      · -- The lane is closed in the next round, as it has a connection.
        exact hrest (.peer hsome)
      · exact hrest hmore
    · rintro ⟨hfind, hrest⟩
      refine ⟨?_, fun hmore => hrest (Or.inr ⟨hlane.1, Or.inr hmore⟩)⟩
      rw [connections_detachPeer, SortedMap.find?_erase, if_neg fun hid => hrest (Or.inl hid)]
      exact hfind
  | case3 impl peerId _ hconn lossyPeerId impl' hlane =>
    rw [closes_last_iff h (by simp [hconn]) hlane, connections_detachPeer, SortedMap.find?_erase]
    by_cases hid : id = peerId
    · simp [hid]
    · simp [hid]

/-- **What `close_peer` leaves of the table of lanes.** -/
theorem laneOwner_closePeer (h : impl.laneOwner.find? peerId = none) (id : Text)
    (owner : SessionKey) :
    (closePeer impl peerId).laneOwner.find? id = some owner ↔
      impl.laneOwner.find? id = some owner ∧ ¬ Closes impl peerId id := by
  fun_induction closePeer impl peerId with
  | case1 impl peerId hnone =>
    refine (and_iff_left fun hcloses => ?_).symm
    exact absurd hcloses.isSome (by simp [hnone])
  | case2 impl peerId _ hconn lossyPeerId impl' hlane ih =>
    rw [ih (laneOwner_laneToClose hlane.1), closes_iff h (by simp [hconn]) id,
      find?_laneOwner_detachPeer, or_iff_right hlane.1, and_assoc, and_assoc]
    simp only [not_or, not_and, and_congr_right_iff]
    intro _ _
    exact ⟨fun hrest _ => hrest, fun hrest => hrest hlane.1⟩
  | case3 impl peerId _ hconn lossyPeerId impl' hlane =>
    rw [closes_last_iff h (by simp [hconn]) hlane, find?_laneOwner_detachPeer]
    refine and_congr_right fun _ => and_iff_left_of_imp fun hid => ?_
    by_cases hempty : laneToClose impl peerId = []
    · exact Or.inl hempty
    · right
      rintro rfl
      exact hlane ⟨hempty, hid⟩

/-- The peer's sessions have no lanes any more, and no session has got one. -/
theorem laneOf_detachPeer {control lane : Text} (h : LaneOf (detachPeer impl peerId) control lane) :
    control ≠ peerId ∧ LaneOf impl control lane := by
  obtain ⟨key, session, hfind, hkey, hlane, hne⟩ := h
  rw [sessions_detachPeer, SortedMap.find?_mapVal] at hfind
  obtain ⟨old, hold, rfl⟩ := Option.map_eq_some_iff.mp hfind
  split at hlane
  · exact absurd hlane.symm hne
  · next hother =>
    refine ⟨fun heq => hother (Or.inl (hkey.trans heq)), key, old, hold, hkey, hlane, hne⟩

theorem laneOf_closePeer {control lane : Text} (h : LaneOf (closePeer impl peerId) control lane) :
    LaneOf impl control lane ∧ ((impl.connections.find? peerId).isSome → control ≠ peerId) := by
  fun_induction closePeer impl peerId with
  | case1 impl peerId hnone => exact ⟨h, fun hsome => absurd hsome (by simp [hnone])⟩
  | case2 impl peerId _ _ lossyPeerId impl' _ ih =>
    obtain ⟨hne, hold⟩ := laneOf_detachPeer (ih h).1
    exact ⟨hold, fun _ => hne⟩
  | case3 impl peerId =>
    obtain ⟨hne, hold⟩ := laneOf_detachPeer h
    exact ⟨hold, fun _ => hne⟩

end close

/-! ### The lanes of a control peer -/

/-- The connection is gone or no longer running. -/
def Stopped (impl : Impl) (peerId : Text) : Prop :=
  ∀ connection, impl.connections.find? peerId = some connection → connection.running = false

/-- The lanes the peer had are stopped and forgotten. -/
def LanesClosed (impl after : Impl) (peerId : Text) : Prop :=
  ∀ lane, LaneOf impl peerId lane → Stopped after lane ∧ after.laneOwner.find? lane = none

section lanes

variable {impl : Impl} {peer : Peer}

/-- The lane carried out of the walk over the sessions. -/
theorem getLast?_lanesOf {lane : Text} (h : LaneOf impl peer.id lane) :
    (lanesOf (sessionsOf impl peer.id)).getLast? = some (laneToClose impl peer.id) := by
  have hne : lanesOf (sessionsOf impl peer.id) ≠ [] := List.ne_nil_of_mem (mem_lanesOf.mpr h)
  rw [laneToClose, List.getLastD_eq_getLast?, List.getLast?_eq_getLast_of_ne_nil hne,
    Option.getD_some]

theorem lanesClosed_drop_iff (h : impl.laneOwner.find? peer.id = none) :
    LanesClosed impl (runtimeDropPeerState impl peer) peer.id ↔
      ∀ lane, LaneOf impl peer.id lane → lane = laneToClose impl peer.id ∨ Stopped impl lane := by
  refine forall₂_congr fun lane hlane => ?_
  have hgone : (runtimeDropPeerState impl peer).laneOwner.find? lane = none := by
    rw [(drop_control impl peer h).2.1]
    refine Option.eq_none_iff_forall_ne_some.mpr fun owner hfind => ?_
    exact (SortedMap.find?_foldl_erase_eq_some.mp hfind).2 (mem_lanesOf.mpr hlane)
  rw [and_iff_left hgone]
  unfold Stopped
  rw [connections_drop_control impl peer h, getLast?_lanesOf hlane]
  simp only [stopConnection, SortedMap.find?_adjust]
  by_cases hlast : lane = laneToClose impl peer.id
  · refine iff_of_true ?_ (Or.inl hlast)
    intro connection hfind
    rw [if_pos hlast] at hfind
    obtain ⟨old, -, rfl⟩ := Option.map_eq_some_iff.mp hfind
    rfl
  · rw [or_iff_right hlast]
    simp only [if_neg hlast]

theorem lanesClosed_closePeer_iff (h : impl.laneOwner.find? peer.id = none) :
    LanesClosed impl (closePeer impl peer.id) peer.id ↔
      ∀ lane, LaneOf impl peer.id lane →
        Closes impl peer.id lane ∨ Stopped impl lane ∧ impl.laneOwner.find? lane = none := by
  refine forall₂_congr fun lane _ => ?_
  simp only [Stopped, connections_closePeer h, Option.eq_none_iff_forall_ne_some, ne_eq,
    laneOwner_closePeer h]
  by_cases hcloses : Closes impl peer.id lane
  · simp [hcloses]
  · simp [hcloses]

/-- The receive loop that `close_peer` joins has no lanes left to close. -/
theorem lanesClosed_joined_iff (h : impl.laneOwner.find? peer.id = none)
    (hconn : (impl.connections.find? peer.id).isSome) :
    LanesClosed impl (runtimeDropPeerState (closePeer impl peer.id) peer) peer.id ↔
      LanesClosed impl (closePeer impl peer.id) peer.id := by
  have hnone : (closePeer impl peer.id).laneOwner.find? peer.id = none := by
    refine Option.eq_none_iff_forall_ne_some.mpr fun owner hfind => ?_
    exact ((laneOwner_closePeer h _ _).mp hfind).2 (.peer hconn)
  have hlanes : lanesOf (sessionsOf (closePeer impl peer.id) peer.id) = [] := by
    refine List.eq_nil_iff_forall_not_mem.mpr fun lane hmem => ?_
    exact (laneOf_closePeer (mem_lanesOf.mp hmem)).2 hconn rfl
  unfold LanesClosed Stopped
  rw [connections_drop_control _ peer hnone, (drop_control _ peer hnone).2.1, hlanes]
  rfl

end lanes

/-- `close_peer` to its end, with the teardown of the receive loop it joins. -/
def closePeerJoined (impl : Impl) (peer : Peer) : Impl :=
  match impl.connections.find? peer.id with
  | none => impl
  | some _ => runtimeDropPeerState (closePeer impl peer.id) peer

/-- **Which lanes are closed with their control peer.**  A drop closes the last lane
found; `close_peer` goes from lane to lane, and from a lane to the lanes of sessions
on the lane, but closes one lane of each only. -/
theorem lanesClosed_iff (impl : Impl) (peer : Peer) (h : impl.laneOwner.find? peer.id = none) :
    (LanesClosed impl (runtimeDropPeerState impl peer) peer.id ↔
        ∀ lane, LaneOf impl peer.id lane → lane = laneToClose impl peer.id ∨ Stopped impl lane) ∧
      (LanesClosed impl (closePeerJoined impl peer) peer.id ↔
        ∀ lane, LaneOf impl peer.id lane →
          Closes impl peer.id lane ∨ Stopped impl lane ∧ impl.laneOwner.find? lane = none) := by
  refine ⟨lanesClosed_drop_iff h, ?_⟩
  rw [← lanesClosed_closePeer_iff h]
  unfold closePeerJoined
  cases hconn : impl.connections.find? peer.id with
  | none =>
    rw [show closePeer impl peer.id = impl by
      unfold closePeer
      split
      · rfl
      · next hsome => exact absurd (hconn.symm.trans hsome) (by simp)]
  | some connection => exact lanesClosed_joined_iff h (by simp [hconn])

/-- A peer with two sessions, each with a lane of its own. -/
def twoLanes : List RuntimeStep :=
  handshake (sampleConfig "ground") sampleControl 1 ++
    handshake (sampleConfig "ground") sampleControl 2 ++
    laneHandshake (sampleConfig "ground") sampleLane 1 ++
    laneHandshake (sampleConfig "ground")
      ⟨ascii "tcp://10.0.0.2:5002", ascii "10.0.0.2", 5002⟩ 2

theorem lanesClosed_iff_twoLanes :
    (LanesClosed (runtimeRun (sampleConfig "drone") twoLanes)
        (runtimeDropPeerState (runtimeRun (sampleConfig "drone") twoLanes) sampleControl)
        sampleControl.id ↔
      ∀ lane, LaneOf (runtimeRun (sampleConfig "drone") twoLanes) sampleControl.id lane →
        lane = laneToClose (runtimeRun (sampleConfig "drone") twoLanes) sampleControl.id ∨
          Stopped (runtimeRun (sampleConfig "drone") twoLanes) lane) :=
  (lanesClosed_iff (runtimeRun (sampleConfig "drone") twoLanes) sampleControl
    (by decide +kernel)).1

/-- The lane of the first session stays open, whichever way its control peer is lost;
`close_peer` leaves its entry behind as well. -/
theorem twoLanes_left_open :
    (runtimeRun (sampleConfig "drone") twoLanes).laneOwner.find? sampleControl.id = none ∧
      ¬ LanesClosed (runtimeRun (sampleConfig "drone") twoLanes)
        (runtimeDropPeerState (runtimeRun (sampleConfig "drone") twoLanes) sampleControl)
        sampleControl.id ∧
      ¬ LanesClosed (runtimeRun (sampleConfig "drone") twoLanes)
        (closePeerJoined (runtimeRun (sampleConfig "drone") twoLanes) sampleControl)
        sampleControl.id := by
  have hlane : LaneOf (runtimeRun (sampleConfig "drone") twoLanes) sampleControl.id
      sampleLane.id := by
    refine mem_lanesOf.mp ?_
    decide +kernel
  refine ⟨by decide +kernel, fun hdrop => ?_, fun hclose => ?_⟩
  · have hrunning : ((runtimeDropPeerState (runtimeRun (sampleConfig "drone") twoLanes)
        sampleControl).connections.find? sampleLane.id).map RuntimeConnection.running =
          some true := by
      decide +kernel
    obtain ⟨connection, hfind, hopen⟩ := Option.map_eq_some_iff.mp hrunning
    exact absurd ((hdrop _ hlane).1 connection hfind) (by simp [hopen])
  · have howner : ((closePeerJoined (runtimeRun (sampleConfig "drone") twoLanes)
        sampleControl).laneOwner.find? sampleLane.id) = some ⟨sampleControl.id, 1⟩ := by
      decide +kernel
    exact absurd ((hclose _ hlane).2.symm.trans howner) (by simp)

end YunLink
