import YunLink.Runtime.Runs

/-!
# What is left of a peer

`runtime_drop_peer_state` should leave nothing that names the peer.  It takes one
of two paths: a peer entered in `lane_owner` only loses that entry and the lane of
its owner's session, and every other peer loses its sessions and leases.  A peer
that is both at once is cleaned up halfway.

## Main definitions

* `TornDown` — nothing names the peer.
* `OneRole` — the peer is only a lane, or only a control peer.

## Main results

* `tornDown_iff` — **a drop tears down exactly the peers with one role.**
* `leaseThroughLane_remains` — a run in which a lease taken through a lane
  outlives the lane.
-/

namespace YunLink

/-- Nothing in the tables names the peer. -/
structure TornDown (impl : Impl) (peerId : Text) : Prop where
  sessions : ∀ key, key.peerId = peerId → impl.sessions.find? key = none
  leases : ∀ key lease, impl.authorityLeases.find? key = some lease → lease.peerId ≠ peerId
  lane : impl.laneOwner.find? peerId = none
  lossy : ∀ key session, impl.sessions.find? key = some session → session.lossyPeerId ≠ peerId

/-- A lane has no sessions and no leases of its own and serves its owner's session
only; any other peer is the lane of no session but its own. -/
def OneRole (impl : Impl) (peerId : Text) : Prop :=
  match impl.laneOwner.find? peerId with
  | some owner =>
      (∀ key, key.peerId = peerId → impl.sessions.find? key = none) ∧
      (∀ key lease, impl.authorityLeases.find? key = some lease → lease.peerId ≠ peerId) ∧
      ∀ key session, impl.sessions.find? key = some session → session.lossyPeerId = peerId →
        key = owner ∧ peerId ≠ []
  | none =>
      ∀ key session, impl.sessions.find? key = some session → key.peerId ≠ peerId →
        session.lossyPeerId ≠ peerId

/-! ### Exactly when nothing is left -/

theorem tornDown_lane_iff {impl : Impl} {peer : Peer} {owner : SessionKey}
    (h : impl.laneOwner.find? peer.id = some owner) :
    TornDown (runtimeDropPeerState impl peer) peer.id ↔
      (∀ key, key.peerId = peer.id → impl.sessions.find? key = none) ∧
      (∀ key lease, impl.authorityLeases.find? key = some lease → lease.peerId ≠ peer.id) ∧
      ∀ key session, impl.sessions.find? key = some session → session.lossyPeerId = peer.id →
        key = owner ∧ peer.id ≠ [] := by
  rw [drop_lane impl peer h]
  constructor
  · intro ht
    refine ⟨?_, ht.leases, ?_⟩
    · intro key hkey
      have hnone := ht.sessions key hkey
      simp only [SortedMap.find?_adjust] at hnone
      split at hnone
      · exact Option.map_eq_none_iff.mp hnone
      · exact hnone
    · intro key session hfind hlossy
      -- The drop clears the lane of the owner's session only.
      have hkept := ht.lossy key
      simp only [SortedMap.find?_adjust, hfind] at hkept
      by_cases hkey : key = owner
      · refine ⟨hkey, fun hempty => ?_⟩
        rw [if_pos hkey] at hkept
        refine hkept _ rfl ?_
        simp only [if_pos hlossy]
        exact hempty.symm
      · rw [if_neg hkey] at hkept
        exact absurd hlossy (hkept session rfl)
  · rintro ⟨hsessions, hleases, hlossy⟩
    refine ⟨?_, hleases, ?_, ?_⟩
    · intro key hkey
      simp only [SortedMap.find?_adjust]
      rw [hsessions key hkey]
      exact ite_self none
    · simp only [SortedMap.find?_erase, if_true]
    · intro key session hfind
      simp only [SortedMap.find?_adjust] at hfind
      split at hfind
      · obtain ⟨old, hold, rfl⟩ := Option.map_eq_some_iff.mp hfind
        by_cases hlane : old.lossyPeerId = peer.id
        · rw [if_pos hlane]
          exact (hlossy key old hold hlane).2.symm
        · rw [if_neg hlane]
          exact hlane
      · next hkey => exact fun hlane => hkey (hlossy key session hfind hlane).1

theorem tornDown_control_iff {impl : Impl} {peer : Peer} (h : impl.laneOwner.find? peer.id = none) :
    TornDown (runtimeDropPeerState impl peer) peer.id ↔
      ∀ key session, impl.sessions.find? key = some session → key.peerId ≠ peer.id →
        session.lossyPeerId ≠ peer.id := by
  obtain ⟨hsessions, hlanes, hleases, -⟩ := drop_control impl peer h
  have hfind : ∀ key session,
      (runtimeDropPeerState impl peer).sessions.find? key = some session ↔
        impl.sessions.find? key = some session ∧ key.peerId ≠ peer.id := by
    intro key session
    rw [hsessions, SortedMap.find?_eraseIf, Option.filter_eq_some_iff]
    simp
  constructor
  · intro ht key session hold hkey
    exact ht.lossy key session ((hfind key session).mpr ⟨hold, hkey⟩)
  · intro hlossy
    refine ⟨?_, ?_, ?_, ?_⟩
    · intro key hkey
      refine Option.eq_none_iff_forall_not_mem.mpr ?_
      intro session hnew
      exact ((hfind key session).mp hnew).2 hkey
    · intro key lease hlease
      rw [hleases, SortedMap.find?_eraseIf, Option.filter_eq_some_iff] at hlease
      simpa using hlease.2
    · -- Nothing was entered for the peer, so there is nothing to erase.
      rw [hlanes]
      exact SortedMap.find?_foldl_erase h _
    · intro key session hnew
      obtain ⟨hold, hkey⟩ := (hfind key session).mp hnew
      exact hlossy key session hold hkey

/-- **A drop tears down exactly the peers with one role.** -/
theorem tornDown_iff (impl : Impl) (peer : Peer) :
    TornDown (runtimeDropPeerState impl peer) peer.id ↔ OneRole impl peer.id := by
  unfold OneRole
  cases h : impl.laneOwner.find? peer.id with
  | some owner => exact tornDown_lane_iff h
  | none => exact tornDown_control_iff h

/-- A session with a lane, and a claim sent over the lane. -/
def leaseThroughLane : List RuntimeStep :=
  let remote : RuntimeConfig := { endpointUid := ascii "ground" }
  let lane : Peer := ⟨ascii "tcp://10.0.0.2:5001", ascii "10.0.0.2", 5001⟩
  handshake remote ⟨ascii "tcp://10.0.0.2:5000", ascii "10.0.0.2", 5000⟩ 1 ++
    laneHandshake remote lane 1 ++
    [.receive {} lane (authorityEnvelope remote 1 AuthorityOperation.claim (ascii "entity.alpha")
      ⟨ascii "org.yunlink.mobility", 2000, false⟩)]

/-- The lease taken over the lane outlives the lane: the lane's branch of the drop
returns before it gets to the leases. -/
theorem leaseThroughLane_remains :
    ¬ TornDown
      (runtimeDropPeerState
        (runtimeRun { entities := [ascii "entity.alpha"] } leaseThroughLane)
        ⟨ascii "tcp://10.0.0.2:5001", ascii "10.0.0.2", 5001⟩)
      (ascii "tcp://10.0.0.2:5001") := by
  intro h
  have hlease : (runtimeDropPeerState
      (runtimeRun { entities := [ascii "entity.alpha"] } leaseThroughLane)
      ⟨ascii "tcp://10.0.0.2:5001", ascii "10.0.0.2", 5001⟩).authorityLeases.find?
        ⟨ascii "entity.alpha", ascii "org.yunlink.mobility"⟩ =
      some ⟨ascii "tcp://10.0.0.2:5001", 1, 2000000000⟩ := by
    decide +kernel
  exact h.leases _ _ hlease rfl

end YunLink
