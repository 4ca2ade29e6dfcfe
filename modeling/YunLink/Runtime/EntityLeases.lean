import YunLink.Runtime.Isolation

/-!
# Leases on declared entities

A lease is for an entity the runtime declares: a request gets as far as the table of
leases only when its target matches an entity of the configuration, and `set_entities`
takes the leases of the entities it no longer declares away.  But the target is checked
in one section under the mutex and the lease entered in another.  A call of
`set_entities` between the two finds no lease to take away, and the one entered after
it is for an entity nobody declares.

Receive threads and calls of `set_entities` are interleaved here section by section.
A thread that has got through a section keeps what it read there in its `ThreadPhase`.

## Main definitions

* `ThreadPhase`, `Sections`, `SectionStep`, `Sections.step`, `sectionsRun` — runs whose
  steps are the sections under the mutex.
* `LeasesDeclared` — every lease is for a declared entity.
* `staleClaim` — a claim enters its section when its entity is not declared any more.

## Main results

* `sections_handleMessage` — the sections of a message, one right after the other,
  are `handleMessage`.
* `leasesDeclared_iff` — **every lease is for a declared entity, all along a run,
  exactly when no claim of the run is stale.**
-/

namespace YunLink

/-! ### Sections -/

/-- What `runtime_handle_envelope` does with a message once it is admitted. -/
def handleAdmitted (impl : Impl) (clock : Clock) (peer logical : Peer) (envelope : Envelope) :
    Impl :=
  match runtimeHandleAuthority impl clock peer envelope with
  | some impl => impl
  | none =>
      match runtimeActionAuthorized impl clock.steady peer envelope with
      | .error message =>
          impl.emit { kind := .error, peer, envelope, error := .unauthorized, message }
      | .ok () => impl.emit { kind := .envelope, peer := logical, envelope }

/-- Where a receive thread stands in the handling of a message. -/
inductive ThreadPhase
  | idle
  /-- It has looked up the logical peer. -/
  | resolved (peer logical : Peer) (envelope : Envelope)
  /-- It has found the session active and the target matching. -/
  | admitted (peer logical : Peer) (envelope : Envelope)
  deriving Inhabited

/-- The runtime, and where each receive thread stands. -/
structure Sections where
  impl : Impl
  threads : ℕ → ThreadPhase := fun _ => .idle

/-- The sections under the mutex. -/
inductive SectionStep
  /-- A thread takes an envelope and looks up the logical peer.  A session message
  has one section of its own that writes the tables; it is handled at once. -/
  | receive (clock : Clock) (thread : ℕ) (peer : Peer) (envelope : Envelope)
  /-- The section that checks session and target. -/
  | checkTarget (thread : ℕ)
  /-- The section of `runtime_handle_authority`, or that of `runtime_action_authorized`. -/
  | act (clock : Clock) (thread : ℕ)
  | setEntities (entities : List Text)
  | accept (peer : Peer)
  | dropPeer (peer : Peer)

namespace Sections

/-- The state with a thread in another phase. -/
def enter (s : Sections) (thread : ℕ) (phase : ThreadPhase) : Sections :=
  { s with threads := Function.update s.threads thread phase }

/-- One section; it is skipped where the thread stands elsewhere. -/
def step (s : Sections) : SectionStep → Sections
  | .receive clock thread peer envelope =>
      match s.threads thread with
      | .idle =>
          if envelope.family = .session then
            { s with impl := runtimeHandleEnvelope s.impl clock peer envelope }
          else s.enter thread (.resolved peer (logicalPeer s.impl peer) envelope)
      | _ => s
  | .checkTarget thread =>
      match s.threads thread with
      | .resolved peer logical envelope =>
          match admission s.impl logical.id envelope with
          | .error (error, message) =>
              { s with impl := s.impl.emit { kind := .error, peer, envelope, error, message } }.enter
                thread .idle
          | .ok () => s.enter thread (.admitted peer logical envelope)
      | _ => s
  | .act clock thread =>
      match s.threads thread with
      | .admitted peer logical envelope =>
          { s with impl := handleAdmitted s.impl clock peer logical envelope }.enter thread .idle
      | _ => s
  | .setEntities entities => { s with impl := (YunLink.setEntities s.impl entities).1 }
  | .accept peer => { s with impl := acceptPeer s.impl peer }
  | .dropPeer peer => { s with impl := runtimeDropPeerState s.impl peer }

end Sections

/-- A run from a runtime just started, its threads in any order. -/
def sectionsRun (config : RuntimeConfig) (steps : List SectionStep) : Sections :=
  steps.foldl Sections.step { impl := { config, running := true } }

/-- The sections of a message, one right after the other, are `handleMessage`. -/
theorem sections_handleMessage (s : Sections) (clock : Clock) {thread : ℕ} (peer : Peer)
    {envelope : Envelope} (hidle : s.threads thread = .idle)
    (hfamily : envelope.family ≠ .session) :
    (((s.step (.receive clock thread peer envelope)).step (.checkTarget thread)).step
      (.act clock thread)).impl = handleMessage s.impl clock peer envelope := by
  have hresolved : s.step (.receive clock thread peer envelope) =
      s.enter thread (.resolved peer (logicalPeer s.impl peer) envelope) := by
    simp only [Sections.step, hidle, if_neg hfamily]
  rw [hresolved]
  unfold handleMessage
  dsimp only
  cases hadmission : admission s.impl (logicalPeer s.impl peer).id envelope with
  | error reported => simp [Sections.step, Sections.enter, hadmission]
  | ok _ =>
    simp only [Sections.step, Sections.enter, Function.update_self, hadmission]
    rfl

/-! ### Declared leases -/

/-- Every lease is for a declared entity. -/
def LeasesDeclared (impl : Impl) : Prop :=
  ∀ key lease, impl.authorityLeases.find? key = some lease →
    key.entityUid ∈ impl.config.entities

/-- A claim enters its section when its entity is not declared any more. -/
def staleClaim (s : Sections) : SectionStep → Bool
  | .act _ thread =>
      match s.threads thread with
      | .admitted _ _ envelope =>
          envelope.family = .authority && envelope.operation = AuthorityOperation.claim &&
            match authorityRequest envelope with
            | some (key, _) => !s.impl.config.entities.contains key.entityUid
            | none => false
      | _ => false
  | _ => false

section declared

variable {impl after : Impl}

/-- Leases only taken away, and the same entities. -/
theorem LeasesDeclared.shrink (h : LeasesDeclared impl)
    (hleases : ∀ key lease, after.authorityLeases.find? key = some lease →
      impl.authorityLeases.find? key = some lease)
    (hconfig : after.config = impl.config) : LeasesDeclared after := by
  intro key lease hfind
  rw [hconfig]
  exact h key lease (hleases key lease hfind)

theorem leasesDeclared_setEntities (h : LeasesDeclared impl) (entities : List Text) :
    LeasesDeclared (setEntities impl entities).1 := by
  unfold setEntities
  split
  · exact h
  · intro key lease hfind
    obtain ⟨-, hkept⟩ := SortedMap.find?_eraseIf_eq_some.mp hfind
    simpa using hkept

theorem leasesDeclared_dropPeer (h : LeasesDeclared impl) (peer : Peer) :
    LeasesDeclared (runtimeDropPeerState impl peer) := by
  cases hlane : impl.laneOwner.find? peer.id with
  | some owner =>
    rw [drop_lane impl peer hlane]
    exact h
  | none =>
    refine h.shrink ?_ ?_
    · intro key lease hfind
      rw [(drop_control impl peer hlane).2.2.1] at hfind
      exact (SortedMap.find?_eraseIf_eq_some.mp hfind).1
    · unfold runtimeDropPeerState
      rw [hlane]
      simp only [foldl_emit]
      split <;> rfl

/-- The leases after a message that was admitted. -/
theorem leases_handleAdmitted (impl : Impl) (clock : Clock) (peer logical : Peer)
    (envelope : Envelope) :
    (handleAdmitted impl clock peer logical envelope).authorityLeases =
        (if isAuthorityRequest envelope then
          (authorityOutcome impl.authorityLeases clock.steady peer.id envelope).1
        else impl.authorityLeases) ∧
      (handleAdmitted impl clock peer logical envelope).config = impl.config := by
  unfold handleAdmitted runtimeHandleAuthority
  by_cases hkind : isAuthorityRequest envelope = true
  · rw [if_pos hkind, if_pos hkind]
    exact ⟨rfl, rfl⟩
  · rw [if_neg hkind, if_neg hkind]
    dsimp only
    split <;> exact ⟨rfl, rfl⟩

/-- A request keeps the leases declared, unless it claims an entity that is not. -/
theorem declared_authorityTransition_iff {leases : LeaseTable} {entities : List Text}
    (h : ∀ key lease, leases.find? key = some lease → key.entityUid ∈ entities) (now : ℕ)
    (holder : SessionKey) (operation : UInt8) (key : LeaseKey) (request : AuthorityRequest) :
    (∀ k lease, (authorityTransition leases now holder operation key request).1.find? k =
        some lease → k.entityUid ∈ entities) ↔
      (operation = AuthorityOperation.claim → key.entityUid ∈ entities) := by
  constructor
  · intro hafter hclaim
    by_contra hundeclared
    -- There is no lease of the key, so the claim is granted.
    have hnone : leases.find? key = none := by
      refine Option.eq_none_iff_forall_ne_some.mpr fun lease hfind => ?_
      exact hundeclared (h key lease hfind)
    have hpurged : purgeExpired leases now key = (leases, none) := by
      unfold purgeExpired
      rw [hnone]
    have htable := @leases_authorityTransition leases now holder operation key request
      (Or.inl fun _ entry hentry => by rw [hpurged] at hentry; exact absurd hentry (by simp))
    rw [hpurged, if_pos ⟨hclaim, rfl⟩] at htable
    refine hundeclared (hafter key
      ⟨holder.peerId, holder.sessionId, now + milliseconds request.leaseTtlMs⟩ ?_)
    rw [htable, SortedMap.find?_insert, if_pos rfl]
  · intro hclaim k lease hfind
    rcases find?_of_authorityTransition hfind with hold | ⟨-, old, hold, -, -⟩ | ⟨hop, rfl, -⟩
    · exact h k lease hold
    · exact h k old hold
    · exact hclaim hop

end declared

/-! ### One step, and runs -/

section runs

variable {s : Sections}

/-- The section of a request that was admitted. -/
theorem leasesDeclared_handleAdmitted_iff {impl : Impl} (h : LeasesDeclared impl) (clock : Clock)
    (peer logical : Peer) (envelope : Envelope) :
    LeasesDeclared (handleAdmitted impl clock peer logical envelope) ↔
      ∀ key request, envelope.family = .authority →
        envelope.operation = AuthorityOperation.claim →
        authorityRequest envelope = some (key, request) → key.entityUid ∈ impl.config.entities := by
  obtain ⟨hleases, hconfig⟩ := leases_handleAdmitted impl clock peer logical envelope
  unfold LeasesDeclared
  rw [hleases, hconfig]
  by_cases hkind : isAuthorityRequest envelope = true
  · rw [if_pos hkind, authorityOutcome]
    have hfamily : envelope.family = .authority := by
      simp only [isAuthorityRequest, Bool.and_eq_true, decide_eq_true_iff] at hkind
      exact hkind.1
    cases hrequest : authorityRequest envelope with
    | none =>
      refine iff_of_true h ?_
      intro key request _ _ hsome
      exact absurd hsome (by simp)
    | some keyed =>
      obtain ⟨key, request⟩ := keyed
      dsimp only
      rw [declared_authorityTransition_iff h]
      constructor
      · rintro hclaim key' request' - hop heq
        obtain ⟨rfl, -⟩ := Prod.mk.inj (Option.some.inj heq)
        exact hclaim hop
      · intro hall hop
        exact hall key request hfamily hop rfl
  · rw [if_neg hkind]
    refine iff_of_true h ?_
    intro key request hfamily hop
    refine absurd ?_ hkind
    rw [isAuthorityRequest, hfamily, hop]
    decide

/-- **The step lemma**: from a state with declared leases, exactly a stale claim leads
to one without. -/
theorem leasesDeclared_step_iff (h : LeasesDeclared s.impl) (a : SectionStep) :
    LeasesDeclared (s.step a).impl ↔ staleClaim s a = false := by
  cases a with
  | receive clock thread peer envelope =>
    refine iff_of_true ?_ rfl
    simp only [Sections.step]
    split
    · split
      · next hfamily =>
        obtain ⟨hleases, hconfig⟩ := leases_session s.impl clock peer envelope hfamily
        exact h.shrink (fun key lease hfind => by rwa [hleases] at hfind) hconfig
      · exact h
    · exact h
  | checkTarget thread =>
    refine iff_of_true ?_ rfl
    simp only [Sections.step]
    split
    · split <;> exact h
    · exact h
  | act clock thread =>
    simp only [Sections.step, staleClaim]
    -- Only a request that was admitted writes to the table, however long ago that was.
    cases hphase : s.threads thread with
    | idle => exact iff_of_true h rfl
    | resolved peer logical envelope => exact iff_of_true h rfl
    | admitted peer logical envelope =>
      simp only [Sections.enter]
      rw [leasesDeclared_handleAdmitted_iff h]
      cases hrequest : authorityRequest envelope with
      | none => simp
      | some keyed =>
        obtain ⟨key, request⟩ := keyed
        simp only [Bool.and_eq_false_iff, decide_eq_false_iff_not]
        by_cases hfamily : envelope.family = .authority
        · by_cases hop : envelope.operation = AuthorityOperation.claim
          · simp [hfamily, hop]
          · simp [hop]
        · simp [hfamily]
  | setEntities entities => exact iff_of_true (leasesDeclared_setEntities h entities) rfl
  | accept peer => exact iff_of_true h rfl
  | dropPeer peer => exact iff_of_true (leasesDeclared_dropPeer h peer) rfl

end runs

/-- **Every lease is for a declared entity, all along a run, exactly when no claim of
the run is stale**, however receive threads and calls of `set_entities` interleave. -/
theorem leasesDeclared_iff (config : RuntimeConfig) (steps : List SectionStep) :
    (∀ n, LeasesDeclared (sectionsRun config (steps.take n)).impl) ↔
      Run.Along Sections.step (fun s a => staleClaim s a = false)
        { impl := { config, running := true } } steps := by
  refine Run.always_iff (motive := fun s : Sections => LeasesDeclared s.impl) ?_ ?_
  · intro s a h
    exact leasesDeclared_step_iff h a
  · intro key lease hfind
    exact absurd hfind (by simp)

/-- A session is opened and claims the one entity; the entity goes after the claim was
admitted and before the lease is entered. -/
def entityRemoved : List SectionStep :=
  let remote := sampleConfig "ground"
  let session operation typeName payload : SectionStep :=
    .receive {} 0 sampleControl (sessionEnvelope remote {} 0 1 operation typeName payload 0)
  [.accept sampleControl,
    session SessionOperation.hello "session.hello" (encodeText remote.endpointUid),
    session SessionOperation.authenticate "session.authenticate" (encodeText remote.sharedSecret),
    session SessionOperation.profiles "session.profiles" (encodeProfileList remote.profiles),
    session SessionOperation.ready "session.ready" [],
    .receive {} 0 sampleControl
      (authorityEnvelope remote 1 AuthorityOperation.claim (ascii "entity.alpha")
        ⟨ascii "org.yunlink.mobility", 2000, false⟩),
    .checkTarget 0,
    .setEntities [],
    .act {} 0]

/-- The lease of that run is for an entity that is not declared. -/
theorem entityRemoved_not_declared :
    ¬ LeasesDeclared (sectionsRun (sampleConfig "drone") entityRemoved).impl := by
  intro h
  have hlease : ((sectionsRun (sampleConfig "drone") entityRemoved).impl.authorityLeases.find?
      ⟨ascii "entity.alpha", ascii "org.yunlink.mobility"⟩).isSome = true := by
    decide
  obtain ⟨lease, hfind⟩ := Option.isSome_iff_exists.mp hlease
  have hmem := h _ lease hfind
  exact absurd hmem (by decide)

end YunLink
