import YunLink.Runtime.Authentication
import YunLink.Runtime.Negotiation

/-!
# Required profiles

The configuration names profiles a session cannot do without, and a session in which
one is missing should not become usable.  No function reads them: Ready makes a
session active whatever was agreed on.  So it is up to the other end to offer what is
required.

## Main definitions

* `offers` — an offer that a required profile comes of.
* `missesRequired` — a profile list without a required profile is handled.
* `RequiredMet` — the invariant.

## Main results

* `supportsProfile_negotiate_iff` — what comes of an offer, read off the lists.
* `required_runtimeRun` — **an active session supports what is required**, in every
  run in which it is offered.
-/

namespace YunLink

/-! ### Offers -/

/-- The required profile comes of the offer: the last version of it that goes with the
own one does, and the lower of the two is enough. -/
def offers (profiles remotes : List ProfileDescriptor) (required : ProfileDescriptor) : Bool :=
  match paired profiles required.profileId with
  | none => false
  | some «local» =>
      match remotes.reverse.find? fun remote =>
          remote.profileId = required.profileId ∧ Compatible «local» remote with
      | none => false
      | some remote =>
          «local».major = required.major && required.minor ≤ «local».minor &&
            required.minor ≤ remote.minor

section offers

variable {profiles remotes : List ProfileDescriptor}

/-- The search for the last offer that something comes of. -/
theorem findSome?_agreed {profileId : Text} {«local» : ProfileDescriptor}
    (h : paired profiles profileId = some «local») (offered : List ProfileDescriptor) :
    (offered.findSome? fun remote =>
        if remote.profileId = profileId then agreed profiles remote else none) =
      (offered.find? fun remote => remote.profileId = profileId ∧ Compatible «local» remote).map
        (lowerVersion «local») := by
  induction offered with
  | nil => rfl
  | cons remote offered ih =>
    rw [List.findSome?_cons, List.find?_cons, ih]
    by_cases hid : remote.profileId = profileId
    · by_cases hcompatible : Compatible «local» remote
      · simp [hid, agreed, h, hcompatible]
      · simp [hid, agreed, h, hcompatible]
    · simp [hid]

theorem major_lowerVersion {p q : ProfileDescriptor} (h : Compatible p q) :
    (lowerVersion p q).major = p.major := by
  unfold lowerVersion
  split
  · rfl
  · exact h.1.symm

theorem le_minor_lowerVersion {p q : ProfileDescriptor} {minor : UInt16} :
    minor ≤ (lowerVersion p q).minor ↔ minor ≤ p.minor ∧ minor ≤ q.minor := by
  unfold lowerVersion
  split
  · next hle => exact ⟨fun h => ⟨h, UInt16.le_trans h hle⟩, And.left⟩
  · next hle =>
    have hge : q.minor ≤ p.minor := UInt16.le_of_lt (UInt16.not_le.mp hle)
    exact ⟨fun h => ⟨UInt16.le_trans h hge, h⟩, And.right⟩

/-- **What comes of an offer, read off the two lists.** -/
theorem supportsProfile_negotiate_iff (hids : ∀ remote ∈ remotes, remote.profileId ≠ [])
    {session : SessionInfo} (h : session.negotiatedProfiles = (negotiate profiles remotes).1)
    (required : ProfileDescriptor) :
    session.supportsProfile required.profileId required.major required.minor =
      offers profiles remotes required := by
  unfold SessionInfo.supportsProfile offers
  rw [h, find?_negotiate hids]
  cases hpaired : paired profiles required.profileId with
  | none =>
    -- Without a profile of the name at this end there is nothing to agree on.
    have hnone : (remotes.reverse.findSome? fun remote =>
        if remote.profileId = required.profileId then agreed profiles remote else none) = none := by
      rw [List.findSome?_eq_none_iff]
      intro remote _
      split
      · next hid => rw [agreed, hid, hpaired]
      · rfl
    rw [hnone]
  | some «local» =>
    rw [findSome?_agreed hpaired]
    dsimp only
    cases hfound : remotes.reverse.find? fun remote =>
        remote.profileId = required.profileId ∧ Compatible «local» remote with
    | none => rfl
    | some remote =>
      have hcompatible : Compatible «local» remote := by
        have hboth := List.find?_some hfound
        exact (of_decide_eq_true hboth).2
      rw [Option.map_some]
      simp only [major_lowerVersion hcompatible, le_minor_lowerVersion, Bool.decide_and,
        Bool.and_assoc]

end offers

/-! ### Runs -/

/-- The profile tables of a record have a say: it is negotiated or active. -/
def Negotiated (session : SessionInfo) : Prop := session.state = .negotiated ∨ session.state = .active

instance (session : SessionInfo) : Decidable (Negotiated session) :=
  inferInstanceAs (Decidable (_ ∨ _))

/-- A readable profile list in which a required profile is missing, for a record that
goes on with it.  And a start with such records left over, which there are not: `stop`
clears them, after all receive loops have ended. -/
def missesRequired (impl : Impl) : RuntimeStep → Bool
  | .receive _ peer envelope =>
      let record := sessionRecord impl ⟨peer.id, envelope.sessionId⟩
      isSessionMessage envelope && envelope.operation = SessionOperation.profiles &&
        (record.remoteEndpointUid = [] || record.remoteEndpointUid = envelope.source.endpointUid) &&
        record.state ≠ .invalid &&
        match decodeProfileList envelope.payload with
        | none => false
        | some remotes =>
            !impl.config.requiredProfiles.all (offers impl.config.profiles remotes)
  | .start _ _ =>
      !impl.running && impl.sessions.entries.any fun entry => Negotiated entry.2
  | _ => false

/-- Every session that has got that far supports what is required. -/
def RequiredMet (impl : Impl) : Prop :=
  ∀ key session, impl.sessions.find? key = some session → Negotiated session →
    ∀ required ∈ impl.config.requiredProfiles,
      session.supportsProfile required.profileId required.major required.minor = true

section steps

variable {impl : Impl}

theorem config_closePeer (impl : Impl) (peerId : Text) :
    (closePeer impl peerId).config = impl.config := by
  fun_induction closePeer impl peerId with
  | case1 => rfl
  | case2 impl peerId _ _ lossyPeerId impl' _ ih => rw [ih, (leases_detachPeer impl peerId).2]
  | case3 impl peerId => exact (leases_detachPeer impl peerId).2

/-- What is required changes by `start` only. -/
theorem requiredProfiles_step (s : RuntimeStep)
    (hstart : ∀ config listening, s ≠ .start config listening) :
    (impl.step s).config.requiredProfiles = impl.config.requiredProfiles := by
  cases s with
  | receive clock peer envelope =>
    simp only [Impl.step]
    rw [config_receive]
  | openSession clock peerId =>
    simp only [Impl.step, openSession]
    split <;> rfl
  | dropPeer peer =>
    simp only [Impl.step, runtimeDropPeerState]
    split
    · rfl
    · simp only [foldl_emit]
      split <;> rfl
  | accept peer => rfl
  | bindLane clock peerId sessionId =>
    simp only [Impl.step, bindLossyLane]
    split
    · rfl
    split
    · split
      · rfl
      · split
        · rfl
        · rw [config_closePeer]
          rfl
    · rfl
  | closePeer peerId =>
    simp only [Impl.step]
    rw [config_closePeer]
  | reap => rfl
  | setEntities entities =>
    simp only [Impl.step, setEntities]
    split <;> rfl
  | revoke peerId sessionId entityUids => rfl
  | start config listening => exact absurd rfl (hstart config listening)
  | stop =>
    simp only [Impl.step, stop]
    split <;> rfl

/-- A session message: the tables are new when a list was handled, and otherwise the
record had got that far before. -/
theorem required_sessionStep {peerId : Text} {envelope : Envelope} {found : SessionInfo}
    (hfound : Negotiated found → ∀ required ∈ impl.config.requiredProfiles,
      found.supportsProfile required.profileId required.major required.minor = true)
    (hoffer : envelope.operation = SessionOperation.profiles →
      (found.remoteEndpointUid = [] ∨ found.remoteEndpointUid = envelope.source.endpointUid) →
      found.state ≠ .invalid → ∀ remotes, decodeProfileList envelope.payload = some remotes →
      impl.config.requiredProfiles.all (offers impl.config.profiles remotes) = true)
    (hafter : Negotiated (sessionStep impl.config peerId envelope found).session) :
    ∀ required ∈ impl.config.requiredProfiles,
      (sessionStep impl.config peerId envelope found).session.supportsProfile required.profileId
        required.major required.minor = true := by
  have htables := tables_sessionStep impl.config peerId envelope found
  obtain hinvalid | ⟨hsource, hchange⟩ := sessionStep_change impl.config peerId envelope found
  · rw [Negotiated, hinvalid] at hafter
    exact absurd hafter (by decide)
  generalize (sessionStep impl.config peerId envelope found).session = after at *
  rw [Negotiated] at hafter
  generalize after.state = state at hafter hchange
  -- Unless a list was handled, the record is as it was.
  have hkept : Negotiated found → after.tables = found.tables →
      ∀ required ∈ impl.config.requiredProfiles,
        after.supportsProfile required.profileId required.major required.minor = true := by
    intro hbefore hsame required hmem
    have hnegotiated : after.negotiatedProfiles = found.negotiatedProfiles :=
      congrArg Prod.fst hsame
    unfold SessionInfo.supportsProfile
    rw [hnegotiated]
    exact hfound hbefore required hmem
  by_cases hop : envelope.operation = SessionOperation.profiles
  · rw [if_pos ⟨hop, hsource⟩] at htables
    cases hdecode : decodeProfileList envelope.payload with
    | none =>
      rw [hdecode] at htables
      cases hchange with
      | kept => exact hkept hafter htables
      | invalid => exact absurd hafter (by decide)
      | authenticated => exact absurd hafter (by decide)
      | negotiated _ hlist => exact absurd hlist (by simp [hdecode])
      | active hready => exact absurd (hop.symm.trans hready) (by decide)
    | some remotes =>
      rw [hdecode] at htables
      have hvalid : found.state ≠ .invalid := by
        intro hinvalid
        rw [hinvalid] at hchange
        cases hchange with
        | kept => exact absurd hafter (by decide)
        | invalid => exact absurd hafter (by decide)
        | authenticated => exact absurd hafter (by decide)
        | negotiated _ _ hold => exact hold rfl
        | active _ hold => exact absurd hold (by decide)
      intro required hmem
      rw [supportsProfile_negotiate_iff (fun remote hr =>
        (valid_of_decodeProfileList hdecode remote hr).profileId_ne) (congrArg Prod.fst htables)]
      exact List.all_eq_true.mp (hoffer hop hsource hvalid remotes hdecode) required hmem
  · rw [if_neg fun h => hop h.1] at htables
    cases hchange with
    | kept => exact hkept hafter htables
    | invalid => exact absurd hafter (by decide)
    | authenticated => exact absurd hafter (by decide)
    | negotiated hlist => exact absurd hlist hop
    | active _ hold => exact hkept (Or.inl hold) htables

/-- The record a message is handled on. -/
theorem RequiredMet.found (h : RequiredMet impl) (key : SessionKey)
    (hstate : Negotiated (sessionRecord impl key)) :
    ∀ required ∈ impl.config.requiredProfiles,
      (sessionRecord impl key).supportsProfile required.profileId required.major
        required.minor = true := by
  unfold sessionRecord at hstate ⊢
  cases hfind : impl.sessions.find? key with
  | none =>
    rw [hfind] at hstate
    exact absurd hstate (by decide)
  | some session =>
    rw [hfind] at hstate
    exact h key session hfind hstate

/-- **The step lemma.** -/
theorem requiredMet_step (h : RequiredMet impl) {s : RuntimeStep}
    (hok : missesRequired impl s = false) : RequiredMet (impl.step s) := by
  by_cases hstart : ∃ config listening, s = .start config listening
  · obtain ⟨config, listening, rfl⟩ := hstart
    intro key session hfind hstate
    cases hrunning : impl.running with
    | true =>
      simp only [Impl.step, start, hrunning, if_true] at hfind ⊢
      exact h key session hfind hstate
    | false =>
      -- The new configuration finds no record it could be wrong for.
      have hsessions : (impl.step (.start config listening)).sessions = impl.sessions := by
        simp only [Impl.step, start]
        split
        · rfl
        split
        · rfl
        split <;> rfl
      rw [hsessions] at hfind
      have hnone : ∀ key session, (key, session) ∈ impl.sessions.entries → ¬ Negotiated session := by
        simpa [missesRequired, hrunning] using hok
      exact absurd hstate (hnone key session (SortedMap.mem_entries_iff.mpr hfind))
  have hsame : (impl.step s).config.requiredProfiles = impl.config.requiredProfiles :=
    requiredProfiles_step s fun config listening heq => hstart ⟨config, listening, heq⟩
  intro key session hfind hstate
  rw [hsame]
  by_cases hused : usedKey impl s = some key
  · cases s with
    | receive clock peer envelope =>
      simp only [usedKey, Option.ite_none_right_eq_some, Option.some.injEq] at hused
      obtain ⟨hmessage, hkey⟩ := hused
      rw [sessions_receive impl hmessage, SortedMap.find?_insert, if_pos hkey.symm, hkey] at hfind
      obtain rfl := Option.some.inj hfind
      refine required_sessionStep (h.found key) ?_ hstate
      intro hop hsource hvalid remotes hdecode
      simpa [missesRequired, hmessage, hop, hkey, hsource, hvalid, hdecode] using hok
    | openSession clock peerId =>
      cases hconn : impl.connections.find? peerId with
      | none => simp [usedKey, hconn] at hused
      | some connection =>
        simp only [usedKey, hconn, Option.some.injEq] at hused
        rw [sessions_openSession impl hconn, SortedMap.find?_insert, if_pos hused.symm] at hfind
        rw [← Option.some.inj hfind] at hstate
        exact absurd hstate (by simp [Negotiated])
    | _ => exact absurd hused (by simp [usedKey])
  · obtain ⟨old, hold, hlane⟩ := exists_before impl s hused hfind
    obtain ⟨hstate', htables⟩ := SessionInfo.eq_of_forgetLane hlane
    have hmet := h key old hold (by rw [Negotiated, hstate']; exact hstate)
    unfold SessionInfo.supportsProfile at hmet ⊢
    rwa [htables] at hmet

end steps

/-- **An active session supports what is required**, in every run in which every
profile list handled has it. -/
theorem required_runtimeRun (config : RuntimeConfig) (steps : List RuntimeStep)
    (hok : Run.Along Impl.step (fun impl s => missesRequired impl s = false)
      { config, running := true } steps)
    (key : SessionKey) (session : SessionInfo)
    (hfind : (runtimeRun config steps).sessions.find? key = some session)
    (hactive : session.state = .active) :
    ∀ required ∈ (runtimeRun config steps).config.requiredProfiles,
      session.supportsProfile required.profileId required.major required.minor = true := by
  have hstart : RequiredMet { config, running := true } :=
    fun _ _ h => absurd h (by simp)
  have hmet : RequiredMet (runtimeRun config steps) :=
    Run.Along.invariant (motive := RequiredMet) (fun _ _ h hstep => requiredMet_step h hstep)
      hstart hok
  exact hmet key session hfind (Or.inr hactive)

/-- An end that cannot do without a profile. -/
def demanding : RuntimeConfig :=
  { profiles := [sampleProfile 1 2], requiredProfiles := [sampleProfile 1 1] }

/-- An end that has it. -/
def capable : RuntimeConfig := { endpointUid := ascii "ground", profiles := [sampleProfile 1 4] }

theorem required_runtimeRun_sample :
    ∃ session, (runtimeRun demanding (handshake capable
        ⟨ascii "tcp://10.0.0.2:5000", ascii "10.0.0.2", 5000⟩ 1)).sessions.find?
          ⟨ascii "tcp://10.0.0.2:5000", 1⟩ = some session ∧ session.state = .active ∧
      session.supportsProfile (sampleProfile 1 1).profileId 1 1 = true := by
  have hstate : ((runtimeRun demanding (handshake capable
      ⟨ascii "tcp://10.0.0.2:5000", ascii "10.0.0.2", 5000⟩ 1)).sessions.find?
        ⟨ascii "tcp://10.0.0.2:5000", 1⟩).map SessionInfo.state = some .active := by
    decide
  obtain ⟨session, hfind, hactive⟩ := Option.map_eq_some_iff.mp hstate
  have hrequired : sampleProfile 1 1 ∈ (runtimeRun demanding (handshake capable
      ⟨ascii "tcp://10.0.0.2:5000", ascii "10.0.0.2", 5000⟩ 1)).config.requiredProfiles := by
    decide
  refine ⟨session, hfind, hactive, ?_⟩
  exact required_runtimeRun demanding _ (by decide) _ session hfind hactive _ hrequired

/-- An end that has not gets an active session all the same. -/
theorem required_missing_active :
    demanding.Accepted ∧
      ∃ session, (runtimeRun demanding (handshake { endpointUid := ascii "ground" }
          ⟨ascii "tcp://10.0.0.2:5000", ascii "10.0.0.2", 5000⟩ 1)).sessions.find?
            ⟨ascii "tcp://10.0.0.2:5000", 1⟩ = some session ∧ session.state = .active ∧
        sampleProfile 1 1 ∈ demanding.requiredProfiles ∧
        session.supportsProfile (sampleProfile 1 1).profileId 1 1 = false := by
  have hsession : ((runtimeRun demanding (handshake { endpointUid := ascii "ground" }
      ⟨ascii "tcp://10.0.0.2:5000", ascii "10.0.0.2", 5000⟩ 1)).sessions.find?
        ⟨ascii "tcp://10.0.0.2:5000", 1⟩).map (fun session => (session.state,
          session.supportsProfile (sampleProfile 1 1).profileId 1 1)) =
            some (.active, false) := by
    decide
  obtain ⟨session, hfind, hfields⟩ := Option.map_eq_some_iff.mp hsession
  obtain ⟨hactive, hmissing⟩ := Prod.ext_iff.mp hfields
  exact ⟨by decide, session, hfind, hactive, by decide, hmissing⟩

end YunLink
