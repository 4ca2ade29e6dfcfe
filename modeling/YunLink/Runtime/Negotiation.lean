import YunLink.Runtime.Records
import YunLink.Runtime.Send
import YunLink.Wire.RoundTrip

/-!
# Profile negotiation

Each end pairs the profiles the other offers with its own and keeps what it agrees on
in a map by profile id.  The pairing takes the first profile of the id in the own list,
whatever its version, and a later offer of the id replaces an earlier one.  With one
version of each profile the two ends come to the same map; with several they may miss
one they both have.

## Main definitions

* `Compatible`, `agreed` — two versions that go together, and what comes of an offer.
* `Processed` — a record after the other end's list has been handled.
* `Agreement` — the two ends agree on the profiles of their session.
* `FirstGoesWith` — the first own version of a profile goes with one of the other's.

## Main results

* `find?_negotiate`, `rejected_negotiate` — what the loop leaves behind.
* `negotiation_agrees` — **with one version of each profile, the ends agree.**
* `common_negotiated_iff` — **when a common version is found.**
-/

namespace YunLink

/-! ### The loop -/

/-- The two versions of a profile go together. -/
def Compatible («local» remote : ProfileDescriptor) : Prop :=
  «local».major = remote.major ∧
    ¬ («local».minor = remote.minor ∧ «local».schemaDigest ≠ remote.schemaDigest)

instance («local» remote : ProfileDescriptor) : Decidable (Compatible «local» remote) :=
  inferInstanceAs (Decidable (_ ∧ ¬ (_ ∧ _)))

theorem Compatible.symm {p q : ProfileDescriptor} (h : Compatible p q) : Compatible q p :=
  ⟨h.1.symm, fun hconflict => h.2 ⟨hconflict.1.symm, Ne.symm hconflict.2⟩⟩

/-- The lower of two versions that go together. -/
def lowerVersion (p q : ProfileDescriptor) : ProfileDescriptor := if p.minor ≤ q.minor then p else q

theorem lowerVersion_comm {p q : ProfileDescriptor} (hid : p.profileId = q.profileId)
    (h : Compatible p q) : lowerVersion p q = lowerVersion q p := by
  unfold lowerVersion
  by_cases hle : p.minor ≤ q.minor
  · by_cases hge : q.minor ≤ p.minor
    · have heq : p.minor = q.minor := UInt16.le_antisymm hle hge
      have hdigest : p.schemaDigest = q.schemaDigest := by
        by_contra hne
        exact h.2 ⟨heq, hne⟩
      have hmajor := h.1
      cases p
      cases q
      simp_all
    · rw [if_pos hle, if_neg hge]
  · have hge : q.minor ≤ p.minor := UInt16.le_of_lt (UInt16.not_le.mp hle)
    rw [if_neg hle, if_pos hge]

/-- `negotiate_profile` gives the lower version, or nothing. -/
theorem negotiateProfile_eq {p q : ProfileDescriptor} (hid : p.profileId = q.profileId) :
    negotiateProfile p q = if Compatible p q then lowerVersion p q else {} := by
  unfold negotiateProfile
  by_cases hmajor : p.major = q.major
  · rw [if_neg (by simp [hid, hmajor])]
    by_cases hconflict : p.minor = q.minor ∧ p.schemaDigest ≠ q.schemaDigest
    · rw [if_pos hconflict, if_neg fun h : Compatible p q => h.2 hconflict]
    · rw [if_neg hconflict, if_pos (show Compatible p q from ⟨hmajor, hconflict⟩)]
      unfold lowerVersion
      have hmin : min p.minor q.minor = if p.minor ≤ q.minor then p.minor else q.minor := rfl
      by_cases hle : p.minor ≤ q.minor
      · simp only [hmin, if_pos hle]
      · simp only [hmin, if_neg hle]
  · rw [if_pos (Or.inr hmajor), if_neg fun h : Compatible p q => hmajor h.1]

/-- The own profile an offer is paired with: the first of its id. -/
def paired (profiles : List ProfileDescriptor) (profileId : Text) : Option ProfileDescriptor :=
  profiles.find? fun value => value.profileId = profileId

/-- What comes of an offer. -/
def agreed (profiles : List ProfileDescriptor) (remote : ProfileDescriptor) :
    Option ProfileDescriptor :=
  match paired profiles remote.profileId with
  | none => none
  | some «local» => if Compatible «local» remote then some (lowerVersion «local» remote) else none

theorem profileId_paired {profiles : List ProfileDescriptor} {profileId : Text}
    {«local» : ProfileDescriptor} (h : paired profiles profileId = some «local») :
    «local».profileId = profileId := by
  simpa using List.find?_some h

theorem profileId_lowerVersion {p q : ProfileDescriptor} (hid : p.profileId = q.profileId) :
    (lowerVersion p q).profileId = q.profileId := by
  unfold lowerVersion
  split
  · exact hid
  · rfl

/-- One round of the loop. -/
theorem negotiate_concat (profiles remotes : List ProfileDescriptor) {remote : ProfileDescriptor}
    (hid : remote.profileId ≠ []) :
    negotiate profiles (remotes ++ [remote]) =
      match agreed profiles remote with
      | none =>
          ((negotiate profiles remotes).1, (negotiate profiles remotes).2 ++ [remote.profileId])
      | some profile =>
          ((negotiate profiles remotes).1.insert remote.profileId profile,
            (negotiate profiles remotes).2) := by
  unfold agreed
  rw [negotiate, List.foldl_append, List.foldl_cons, List.foldl_nil, ← negotiate]
  dsimp only
  cases hpaired : paired profiles remote.profileId with
  | none =>
    unfold paired at hpaired
    rw [hpaired]
  | some «local» =>
    have hsame := profileId_paired hpaired
    unfold paired at hpaired
    rw [hpaired]
    dsimp only
    rw [negotiateProfile_eq hsame]
    by_cases hcompatible : Compatible «local» remote
    · rw [if_pos hcompatible, if_pos hcompatible, profileId_lowerVersion hsame, if_neg hid]
    · rw [if_neg hcompatible, if_neg hcompatible]
      rfl

section loop

variable {profiles remotes : List ProfileDescriptor}

/-- **What is agreed on**: the last offer of the id that goes with the own profile. -/
theorem find?_negotiate (hids : ∀ remote ∈ remotes, remote.profileId ≠ []) (profileId : Text) :
    (negotiate profiles remotes).1.find? profileId =
      remotes.reverse.findSome? fun remote =>
        if remote.profileId = profileId then agreed profiles remote else none := by
  induction remotes using List.reverseRecOn with
  | nil => rfl
  | append_singleton remotes remote ih =>
    have ih := ih fun r hr => hids r (List.mem_append_left _ hr)
    rw [negotiate_concat _ _ (hids remote (by simp)), List.reverse_append, List.reverse_singleton,
      List.singleton_append, List.findSome?_cons, ← ih]
    cases hagreed : agreed profiles remote with
    | none => simp
    | some profile =>
      dsimp only
      rw [SortedMap.find?_insert]
      by_cases hsame : remote.profileId = profileId
      · simp [hsame]
      · simp [hsame, Ne.symm hsame]

/-- What is rejected: every offer that nothing came of. -/
theorem rejected_negotiate (hids : ∀ remote ∈ remotes, remote.profileId ≠ []) :
    (negotiate profiles remotes).2 =
      (remotes.filter fun remote => (agreed profiles remote).isNone).map
        ProfileDescriptor.profileId := by
  induction remotes using List.reverseRecOn with
  | nil => rfl
  | append_singleton remotes remote ih =>
    have ih := ih fun r hr => hids r (List.mem_append_left _ hr)
    rw [negotiate_concat _ _ (hids remote (by simp)), List.filter_append, List.map_append, ← ih]
    cases hagreed : agreed profiles remote with
    | none => simp [hagreed]
    | some profile => simp [hagreed]

theorem agreed_eq_some {remote profile : ProfileDescriptor} :
    agreed profiles remote = some profile ↔
      ∃ «local», paired profiles remote.profileId = some «local» ∧ Compatible «local» remote ∧
        profile = lowerVersion «local» remote := by
  unfold agreed
  cases paired profiles remote.profileId with
  | none => simp
  | some «local» =>
    dsimp only
    by_cases hcompatible : Compatible «local» remote
    · simp [hcompatible, eq_comm]
    · simp [hcompatible]

/-- Something is agreed on exactly when some offer goes with the own profile. -/
theorem isSome_negotiate (hids : ∀ remote ∈ remotes, remote.profileId ≠ []) (profileId : Text) :
    ((negotiate profiles remotes).1.find? profileId).isSome ↔
      ∃ «local», paired profiles profileId = some «local» ∧
        ∃ remote ∈ remotes, remote.profileId = profileId ∧ Compatible «local» remote := by
  rw [find?_negotiate hids, List.findSome?_isSome_iff]
  constructor
  · rintro ⟨remote, hmem, hsome⟩
    by_cases hid : remote.profileId = profileId
    · rw [if_pos hid] at hsome
      obtain ⟨profile, hprofile⟩ := Option.isSome_iff_exists.mp hsome
      obtain ⟨«local», hpaired, hcompatible, -⟩ := agreed_eq_some.mp hprofile
      exact ⟨«local», hid ▸ hpaired, remote, List.mem_reverse.mp hmem, hid, hcompatible⟩
    · rw [if_neg hid] at hsome
      exact absurd hsome (by simp)
  · rintro ⟨«local», hpaired, remote, hmem, hid, hcompatible⟩
    refine ⟨remote, List.mem_reverse.mpr hmem, ?_⟩
    rw [if_pos hid, agreed_eq_some.mpr ⟨«local», hid ▸ hpaired, hcompatible, rfl⟩]
    rfl

end loop

/-! ### One version of each profile -/

/-- No two profiles of the list have the same id. -/
def DistinctIds (profiles : List ProfileDescriptor) : Prop :=
  (profiles.map ProfileDescriptor.profileId).Nodup

instance (profiles : List ProfileDescriptor) : Decidable (DistinctIds profiles) :=
  inferInstanceAs (Decidable (List.Nodup _))

section distinct

variable {profiles remotes : List ProfileDescriptor}

theorem paired_of_mem (h : DistinctIds profiles) {profile : ProfileDescriptor}
    (hmem : profile ∈ profiles) : paired profiles profile.profileId = some profile := by
  cases hpaired : paired profiles profile.profileId with
  | none =>
    have hno := List.find?_eq_none.mp hpaired profile hmem
    exact absurd (by simp) hno
  | some other =>
    congr 1
    exact List.inj_on_of_nodup_map h (List.mem_of_find?_eq_some hpaired) hmem
      (profileId_paired hpaired)

/-- With one offer of each id, no offer replaces another. -/
theorem find?_negotiate_of_mem (h : DistinctIds remotes)
    (hids : ∀ remote ∈ remotes, remote.profileId ≠ []) {remote : ProfileDescriptor}
    (hmem : remote ∈ remotes) :
    (negotiate profiles remotes).1.find? remote.profileId = agreed profiles remote := by
  rw [find?_negotiate hids]
  cases hfound : remotes.reverse.findSome? fun other =>
      if other.profileId = remote.profileId then agreed profiles other else none with
  | none =>
    have hno := List.findSome?_eq_none_iff.mp hfound remote (List.mem_reverse.mpr hmem)
    rw [if_pos rfl] at hno
    exact hno.symm
  | some profile =>
    obtain ⟨other, hother, hprofile⟩ := List.exists_of_findSome?_eq_some hfound
    split at hprofile
    · next hsame =>
      have heq : other = remote :=
        List.inj_on_of_nodup_map h (List.mem_reverse.mp hother) hmem hsame
      rw [← heq, hprofile]
    · exact absurd hprofile (by simp)

/-- The loop as one comparison of the two lists. -/
theorem find?_negotiate_of_distinct (h : DistinctIds remotes)
    (hids : ∀ remote ∈ remotes, remote.profileId ≠ []) (profileId : Text) :
    (negotiate profiles remotes).1.find? profileId =
      match paired profiles profileId, paired remotes profileId with
      | some «local», some remote =>
          if Compatible «local» remote then some (lowerVersion «local» remote) else none
      | _, _ => none := by
  cases hremote : paired remotes profileId with
  | none =>
    -- Nobody offers the id.
    have hnone : (negotiate profiles remotes).1.find? profileId = none := by
      rw [find?_negotiate hids, List.findSome?_eq_none_iff]
      intro remote hmem
      refine if_neg fun hid => ?_
      have hno := List.find?_eq_none.mp hremote remote (List.mem_reverse.mp hmem)
      exact hno (by simp [hid])
    rw [hnone]
    cases paired profiles profileId <;> rfl
  | some remote =>
    have hagreed : (negotiate profiles remotes).1.find? remote.profileId =
        agreed profiles remote :=
      find?_negotiate_of_mem h hids (List.mem_of_find?_eq_some hremote)
    rw [profileId_paired hremote] at hagreed
    rw [hagreed]
    unfold agreed
    rw [profileId_paired hremote]
    cases paired profiles profileId <;> rfl

/-- **The two ends come to the same map.** -/
theorem negotiate_symm {a b : List ProfileDescriptor} (ha : DistinctIds a) (hb : DistinctIds b)
    (hida : ∀ profile ∈ a, profile.profileId ≠ []) (hidb : ∀ profile ∈ b, profile.profileId ≠ []) :
    (negotiate a b).1 = (negotiate b a).1 := by
  apply SortedMap.ext_find?
  intro profileId
  rw [find?_negotiate_of_distinct hb hidb, find?_negotiate_of_distinct ha hida]
  cases hp : paired a profileId with
  | none => cases paired b profileId <;> rfl
  | some p =>
    cases hq : paired b profileId with
    | none => rfl
    | some q =>
      have hid : p.profileId = q.profileId := (profileId_paired hp).trans (profileId_paired hq).symm
      dsimp only
      by_cases hcompatible : Compatible p q
      · rw [if_pos hcompatible, if_pos hcompatible.symm, lowerVersion_comm hid hcompatible]
      · rw [if_neg hcompatible, if_neg fun h => hcompatible h.symm]

/-- An offer is agreed on or rejected, never both. -/
theorem negotiated_iff_not_rejected (h : DistinctIds remotes)
    (hids : ∀ remote ∈ remotes, remote.profileId ≠ []) {remote : ProfileDescriptor}
    (hmem : remote ∈ remotes) :
    ((negotiate profiles remotes).1.find? remote.profileId).isSome ↔
      remote.profileId ∉ (negotiate profiles remotes).2 := by
  rw [find?_negotiate_of_mem h hids hmem, rejected_negotiate hids, Option.isSome_iff_ne_none,
    not_iff_not, List.mem_map]
  constructor
  · intro hnone
    exact ⟨remote, List.mem_filter.mpr ⟨hmem, by simp [hnone]⟩, rfl⟩
  · rintro ⟨other, hother, hid⟩
    obtain ⟨hin, hnone⟩ := List.mem_filter.mp hother
    have heq : other = remote := List.inj_on_of_nodup_map h hin hmem hid
    rw [heq] at hnone
    exact Option.isNone_iff_eq_none.mp hnone

end distinct

/-! ### Records -/

/-- A configuration `Runtime::start` takes. -/
def RuntimeConfig.Accepted (config : RuntimeConfig) : Prop := (start {} config true).2 = .ok

instance (config : RuntimeConfig) : Decidable config.Accepted :=
  inferInstanceAs (Decidable (_ = _))

theorem RuntimeConfig.Accepted.valid {config : RuntimeConfig} (h : config.Accepted) :
    validUid config.endpointUid = true ∧ ∀ profile ∈ config.profiles, profile.Valid := by
  unfold RuntimeConfig.Accepted start at h
  rw [if_neg (by simp)] at h
  split at h
  · exact absurd h (by simp)
  next hchecks =>
  simp only [Bool.or_eq_true, not_or, Bool.not_eq_true', Bool.not_eq_false] at hchecks
  obtain ⟨⟨huid, -⟩, hprofiles⟩ := hchecks
  refine ⟨huid, fun profile hmem => ?_⟩
  have hno := List.any_eq_false.mp (Bool.eq_false_iff.mpr hprofiles) profile hmem
  simpa [ProfileDescriptor.Valid] using hno

theorem ProfileDescriptor.Valid.profileId_ne {profile : ProfileDescriptor} (h : profile.Valid) :
    profile.profileId ≠ [] := by
  intro hempty
  have hid := h.1
  rw [hempty] at hid
  exact absurd hid (by decide)

/-- A record of a session whose last profile list was the one given. -/
inductive Processed (config : RuntimeConfig) (remotes : List ProfileDescriptor) :
    SessionInfo → Prop
  | list {found : SessionInfo} (peerId : Text) {envelope : Envelope}
      (hop : envelope.operation = SessionOperation.profiles)
      (hpayload : envelope.payload = encodeProfileList remotes)
      (hsource : found.remoteEndpointUid = [] ∨
        found.remoteEndpointUid = envelope.source.endpointUid) :
      Processed config remotes (sessionStep config peerId envelope found).session
  | other {session : SessionInfo} (h : Processed config remotes session) (peerId : Text)
      {envelope : Envelope} (hop : envelope.operation ≠ SessionOperation.profiles) :
      Processed config remotes (sessionStep config peerId envelope session).session
  | lane {session : SessionInfo} (h : Processed config remotes session) (lossyPeerId : Text) :
      Processed config remotes { session with lossyPeerId }

/-- The profile tables of a record. -/
def SessionInfo.tables (session : SessionInfo) : SortedMap Text ProfileDescriptor × List Text :=
  (session.negotiatedProfiles, session.rejectedProfiles)

/-- Only a readable profile list touches the tables of a record. -/
theorem tables_sessionOperation (config : RuntimeConfig) (envelope : Envelope)
    (session : SessionInfo) :
    (sessionOperation config envelope session).session.tables =
      if envelope.operation = SessionOperation.profiles then
        match decodeProfileList envelope.payload with
        | none => session.tables
        | some remotes => negotiate config.profiles remotes
      else session.tables := by
  unfold sessionOperation
  split
  · next hop =>
    rw [if_neg (by rw [hop]; decide)]
    split
    · rfl
    · split <;> rfl
  split
  · next hop =>
    rw [if_neg (by rw [hop]; decide)]
    rfl
  split
  · next hop =>
    cases decodeProfileList envelope.payload <;> rfl
  split
  · split
    · rfl
    · split <;> rfl
  · rfl

/-- The same of a whole session message: one from another endpoint touches nothing. -/
theorem tables_sessionStep (config : RuntimeConfig) (peerId : Text) (envelope : Envelope)
    (found : SessionInfo) :
    (sessionStep config peerId envelope found).session.tables =
      if envelope.operation = SessionOperation.profiles ∧
          (found.remoteEndpointUid = [] ∨
            found.remoteEndpointUid = envelope.source.endpointUid) then
        match decodeProfileList envelope.payload with
        | none => found.tables
        | some remotes => negotiate config.profiles remotes
      else found.tables := by
  by_cases hsource : found.remoteEndpointUid = [] ∨
      found.remoteEndpointUid = envelope.source.endpointUid
  · rw [sessionStep_of_source config peerId hsource, tables_sessionOperation]
    simp only [hsource, and_true]
    rfl
  · rw [sessionStep_of_mismatch config peerId hsource, if_neg fun h => hsource h.2]
    rfl

/-- The tables are those of the last list. -/
theorem Processed.tables_eq {config : RuntimeConfig} {remotes : List ProfileDescriptor}
    {session : SessionInfo} (h : Processed config remotes session)
    (hvalid : ∀ profile ∈ remotes, profile.Valid) (hlist : encodeProfileList remotes ≠ []) :
    session.negotiatedProfiles = (negotiate config.profiles remotes).1 ∧
      session.rejectedProfiles = (negotiate config.profiles remotes).2 := by
  refine Prod.ext_iff.mp (show session.tables = negotiate config.profiles remotes from ?_)
  induction h with
  | list peerId hop hpayload hsource =>
    rw [tables_sessionStep, if_pos ⟨hop, hsource⟩, hpayload,
      decodeProfileList_encodeProfileList hvalid hlist]
  | other _ peerId hop ih =>
    rw [tables_sessionStep, if_neg fun h => hop h.1]
    exact ih
  | lane _ lossyPeerId ih => exact ih

/-- The two ends of a session agree on its profiles. -/
structure Agreement (a b : List ProfileDescriptor) (sa sb : SessionInfo) : Prop where
  same : sa.negotiatedProfiles = sb.negotiatedProfiles
  version : ∀ p ∈ a, ∀ q ∈ b, p.profileId = q.profileId →
    sa.negotiatedProfiles.find? p.profileId =
      if Compatible p q then some (lowerVersion p q) else none
  common : ∀ profileId profile, sa.negotiatedProfiles.find? profileId = some profile →
    (∃ p ∈ a, p.profileId = profileId) ∧ ∃ q ∈ b, q.profileId = profileId
  rejected : ∀ q ∈ b,
    (sa.negotiatedProfiles.find? q.profileId).isSome ↔ q.profileId ∉ sa.rejectedProfiles
  rejected' : ∀ p ∈ a,
    (sb.negotiatedProfiles.find? p.profileId).isSome ↔ p.profileId ∉ sb.rejectedProfiles
  /-- What one end sends passes the check of the other. -/
  sent : ∀ (impl : Impl) (clock : Clock) (peerId : Text) (envelope : Envelope) (stamp : ℕ),
    impl.sessions.find? ⟨peerId, envelope.sessionId⟩ = some sa →
    (send impl clock peerId envelope stamp).2 = .ok → envelope.family ≠ .session →
    ∀ received, received =
        (WireCodec.decode (WireCodec.encode envelope true clock.nowMs)).envelope →
      (received.type.isCore ||
        sb.supportsProfile received.type.profileId received.type.major received.type.minor) = true

/-- A message arrives with the type it was sent with. -/
theorem type_received {envelope : Envelope} {now : UInt64}
    (h : WireCodec.encode envelope true now ≠ []) :
    (WireCodec.decode (WireCodec.encode envelope true now)).envelope.type = envelope.type := by
  obtain ⟨hvalue, hframe⟩ := WireCodec.encode_eq_frame h
  have hdecode := WireCodec.decode_frame hvalue []
  rw [List.append_nil] at hdecode
  rw [hframe, hdecode]
  rfl

/-- **With one version of each profile, the two ends agree.** -/
theorem negotiation_agrees (a b : RuntimeConfig) (ha : a.Accepted) (hb : b.Accepted)
    (hda : DistinctIds a.profiles) (hdb : DistinctIds b.profiles)
    (hea : encodeProfileList a.profiles ≠ []) (heb : encodeProfileList b.profiles ≠ [])
    (sa sb : SessionInfo) (hsa : Processed a b.profiles sa) (hsb : Processed b a.profiles sb) :
    Agreement a.profiles b.profiles sa sb := by
  have hida : ∀ profile ∈ a.profiles, profile.profileId ≠ [] :=
    fun profile hmem => (ha.valid.2 profile hmem).profileId_ne
  have hidb : ∀ profile ∈ b.profiles, profile.profileId ≠ [] :=
    fun profile hmem => (hb.valid.2 profile hmem).profileId_ne
  obtain ⟨hna, hra⟩ := hsa.tables_eq hb.valid.2 heb
  obtain ⟨hnb, hrb⟩ := hsb.tables_eq ha.valid.2 hea
  -- Both ends negotiate from the same two lists, and the result does not depend on the end.
  have hsame : sa.negotiatedProfiles = sb.negotiatedProfiles := by
    rw [hna, hnb, negotiate_symm hda hdb hida hidb]
  refine ⟨hsame, ?_, ?_, ?_, ?_, ?_⟩
  · intro p hp q hq hid
    rw [hna, find?_negotiate_of_distinct hdb hidb, paired_of_mem hda hp, hid,
      paired_of_mem hdb hq]
  · intro profileId profile hfind
    have hsome : ((negotiate a.profiles b.profiles).1.find? profileId).isSome := by
      rw [← hna, hfind]
      rfl
    obtain ⟨p, hpaired, q, hq, hqid, -⟩ := (isSome_negotiate hidb profileId).mp hsome
    exact ⟨⟨p, List.mem_of_find?_eq_some hpaired, profileId_paired hpaired⟩, q, hq, hqid⟩
  · intro q hq
    rw [hna, hra]
    exact negotiated_iff_not_rejected hdb hidb hq
  · intro p hp
    rw [hnb, hrb]
    exact negotiated_iff_not_rejected hda hida hp
  · intro impl clock peerId envelope stamp hfind hsend hfamily received hreceived
    obtain ⟨hbytes, hcheck⟩ := supportsProfile_of_send hsend hfamily
    rw [hreceived, type_received hbytes]
    simpa only [sessionSupportsProfile, hfind, SessionInfo.supportsProfile, hsame] using hcheck

/-- A telemetry profile in one version. -/
def sampleProfile (major minor : UInt16) : ProfileDescriptor where
  profileId := ascii "org.yunlink.mobility"
  major
  minor
  schemaDigest := ascii "sha256:00"

/-- The message a configuration offers its profiles in. -/
def profilesEnvelope (config : RuntimeConfig) : Envelope :=
  sessionEnvelope config {} 3 1 SessionOperation.profiles "session.profiles"
    (encodeProfileList config.profiles) 0

theorem negotiation_agrees_sample :
    Agreement [sampleProfile 1 2] [sampleProfile 1 4]
      (sessionStep { profiles := [sampleProfile 1 2] } [1]
        (profilesEnvelope { profiles := [sampleProfile 1 4] }) {}).session
      (sessionStep { profiles := [sampleProfile 1 4] } [2]
        (profilesEnvelope { profiles := [sampleProfile 1 2] }) {}).session :=
  negotiation_agrees { profiles := [sampleProfile 1 2] } { profiles := [sampleProfile 1 4] }
    (by decide) (by decide) (by decide) (by decide) (by decide)
    (by decide) _ _ (.list _ rfl rfl (Or.inl rfl)) (.list _ rfl rfl (Or.inl rfl))

/-! ### Several versions of one profile -/

/-- The first own profile of the id goes with one of the other's. -/
def FirstGoesWith (profiles others : List ProfileDescriptor) (profileId : Text) : Prop :=
  ∃ first, paired profiles profileId = some first ∧
    ∃ other ∈ others, other.profileId = profileId ∧ Compatible first other

/-- Both ends have agreed on every profile of which they have a version in common. -/
def CommonNegotiated (a b : List ProfileDescriptor) (sa sb : SessionInfo) : Prop :=
  ∀ common ∈ a, common ∈ b →
    (sa.negotiatedProfiles.find? common.profileId).isSome ∧
      (sb.negotiatedProfiles.find? common.profileId).isSome

/-- **When a common version is found**: versions behind the first of their id do not
count, so the first of each end must go with some version of the other. -/
theorem common_negotiated_iff (a b : RuntimeConfig) (ha : a.Accepted) (hb : b.Accepted)
    (hea : encodeProfileList a.profiles ≠ []) (heb : encodeProfileList b.profiles ≠ [])
    (sa sb : SessionInfo) (hsa : Processed a b.profiles sa) (hsb : Processed b a.profiles sb) :
    CommonNegotiated a.profiles b.profiles sa sb ↔
      ∀ common ∈ a.profiles, common ∈ b.profiles →
        FirstGoesWith a.profiles b.profiles common.profileId ∧
          FirstGoesWith b.profiles a.profiles common.profileId := by
  unfold CommonNegotiated
  rw [(hsa.tables_eq hb.valid.2 heb).1, (hsb.tables_eq ha.valid.2 hea).1]
  refine forall₃_congr fun common _ _ => and_congr (isSome_negotiate ?_ _) (isSome_negotiate ?_ _)
  · exact fun profile hmem => (hb.valid.2 profile hmem).profileId_ne
  · exact fun profile hmem => (ha.valid.2 profile hmem).profileId_ne

/-- An end that offers two majors. -/
def twoMajors : RuntimeConfig := { profiles := [sampleProfile 1 0, sampleProfile 2 0] }

/-- An end that offers the second of them. -/
def secondMajor : RuntimeConfig := { profiles := [sampleProfile 2 0] }

theorem common_negotiated_iff_twoMajors :
    CommonNegotiated twoMajors.profiles secondMajor.profiles
        (sessionStep twoMajors [1] (profilesEnvelope secondMajor) {}).session
        (sessionStep secondMajor [2] (profilesEnvelope twoMajors) {}).session ↔
      ∀ common ∈ twoMajors.profiles, common ∈ secondMajor.profiles →
        FirstGoesWith twoMajors.profiles secondMajor.profiles common.profileId ∧
          FirstGoesWith secondMajor.profiles twoMajors.profiles common.profileId :=
  common_negotiated_iff twoMajors secondMajor (by decide) (by decide)
    (by decide) (by decide) _ _ (.list _ rfl rfl (Or.inl rfl))
    (.list _ rfl rfl (Or.inl rfl))

/-- The first end pairs the offer with its first major and rejects it, so only the
other has agreed on the version they both have. -/
theorem twoMajors_missed :
    twoMajors.Accepted ∧ secondMajor.Accepted ∧
      Processed twoMajors secondMajor.profiles
        (sessionStep twoMajors [1] (profilesEnvelope secondMajor) {}).session ∧
      Processed secondMajor twoMajors.profiles
        (sessionStep secondMajor [2] (profilesEnvelope twoMajors) {}).session ∧
      ¬ CommonNegotiated twoMajors.profiles secondMajor.profiles
        (sessionStep twoMajors [1] (profilesEnvelope secondMajor) {}).session
        (sessionStep secondMajor [2] (profilesEnvelope twoMajors) {}).session := by
  refine ⟨by decide, by decide, .list _ rfl rfl (Or.inl rfl),
    .list _ rfl rfl (Or.inl rfl), fun h => ?_⟩
  have hmissed : (sessionStep twoMajors [1] (profilesEnvelope secondMajor)
      {}).session.negotiatedProfiles.find? (ascii "org.yunlink.mobility") = none := by
    decide
  have hsome := (h (sampleProfile 2 0) (by decide) (by decide)).1
  rw [show (sampleProfile 2 0).profileId = ascii "org.yunlink.mobility" from rfl, hmissed] at hsome
  exact absurd hsome (by simp)

end YunLink
