import YunLink.Runtime.Records

/-!
# Authentication of sessions

A session opened from the other side should become active only after the other
side has sent the shared secret.  The state machine does not ask for it: Profiles
takes a record in any state but `kInvalid` to `kNegotiated`, from where Ready makes
it active, so a peer that leaves out Authenticate gets an active session.  Nothing
else goes wrong: as long as no profile list comes before the secret, every active
session of a remote handshake has seen it.

Runs are traced: beside the runtime, a log keeps for each record who made it and
which envelopes were handled on it since.

## Main definitions

* `SessionLog`, `Traced`, `tracedRun` — the log of each record, and traced runs.
* `earlyProfiles` — a profile list handled before the secret.
* `Vetted` — the invariant.
* `Invalid`, `revives`, `LeavesInvalid` — invalid records, and what brings them back.

## Main results

* `StateChange`, `sessionStep_change` — what a session message makes of the state
  of a record.
* `kept_step` — the states of records change by session messages only.
* `active_authenticated` — **an active session of a remote handshake has seen the
  shared secret**, in every run without an early profile list.
* `invalid_stays` — **an invalid session stays invalid**, in every run in which no
  secret comes after all.
-/

namespace YunLink

/-! ### Traced runs -/

/-- Who made a record. -/
inductive Origin
  | opened
  | received
  deriving DecidableEq, Repr, Inhabited

/-- An envelope handled on a record: the peer it came from, and the secret of the
configuration at that moment. -/
structure Handled where
  peerId : Text
  sharedSecret : Text
  envelope : Envelope
  deriving DecidableEq, Inhabited

/-- The past of a record. -/
structure SessionLog where
  origin : Origin
  handled : List Handled := []
  deriving DecidableEq, Inhabited

/-- An Authenticate envelope with the shared secret was handled for the key. -/
def SessionLog.Authenticated (log : SessionLog) (key : SessionKey) : Prop :=
  ∃ entry ∈ log.handled, entry.peerId = key.peerId ∧ entry.envelope.sessionId = key.sessionId ∧
    entry.envelope.operation = SessionOperation.authenticate ∧
    decodeText entry.envelope.payload = some entry.sharedSecret

instance (log : SessionLog) (key : SessionKey) : Decidable (log.Authenticated key) :=
  inferInstanceAs (Decidable (∃ entry ∈ log.handled, _))

/-- A runtime with the logs of its records. -/
structure Traced where
  impl : Impl
  log : SessionKey → Option SessionLog := fun _ => none

namespace Traced

/-- The log of a record after a step that leaves the record in place. -/
def logStep (traced : Traced) (key : SessionKey) : RuntimeStep → Option SessionLog
  | .receive _ peer envelope =>
      if isSessionMessage envelope ∧ key = ⟨peer.id, envelope.sessionId⟩ then
        let log := (traced.log key).getD { origin := .received }
        some { log with
          handled := log.handled ++ [⟨peer.id, traced.impl.config.sharedSecret, envelope⟩] }
      else traced.log key
  | .openSession _ peerId =>
      if (traced.impl.connections.find? peerId).isSome ∧
          key = ⟨peerId, traced.impl.nextSessionId⟩ then some { origin := .opened }
      else traced.log key
  | _ => traced.log key

/-- One step; a record that goes takes its log along. -/
def step (traced : Traced) (s : RuntimeStep) : Traced where
  impl := traced.impl.step s
  log key :=
    if ((traced.impl.step s).sessions.find? key).isSome then traced.logStep key s else none

end Traced

/-- A traced run from a runtime just started. -/
def tracedRun (config : RuntimeConfig) (steps : List RuntimeStep) : Traced :=
  steps.foldl Traced.step { impl := { config, running := true } }

/-- Tracing changes nothing. -/
theorem impl_tracedRun (config : RuntimeConfig) (steps : List RuntimeStep) :
    (tracedRun config steps).impl = runtimeRun config steps :=
  (List.foldl_hom Traced.impl fun _ _ => rfl).symm

/-- A readable profile list for a record that a remote handshake is about to make,
or has made, while no secret has been accepted for it. -/
def earlyProfiles (traced : Traced) : RuntimeStep → Bool
  | .receive _ peer envelope =>
      let key : SessionKey := ⟨peer.id, envelope.sessionId⟩
      let record := sessionRecord traced.impl key
      isSessionMessage envelope && envelope.operation = SessionOperation.profiles &&
        (decodeProfileList envelope.payload).isSome && record.state = .handshaking &&
        (record.remoteEndpointUid = [] || record.remoteEndpointUid = envelope.source.endpointUid) &&
        ((traced.log key).map SessionLog.origin ≠ some .opened)
  | _ => false

/-! ### Session messages -/

/-- The states an envelope can take a record to, with what it takes to get there. -/
inductive StateChange (config : RuntimeConfig) (envelope : Envelope) (old : SessionState) :
    SessionState → Prop
  | kept : StateChange config envelope old old
  | invalid : StateChange config envelope old .invalid
  | authenticated (hop : envelope.operation = SessionOperation.authenticate)
      (hsecret : decodeText envelope.payload = some config.sharedSecret) :
      StateChange config envelope old .authenticated
  | negotiated (hop : envelope.operation = SessionOperation.profiles)
      (hlist : (decodeProfileList envelope.payload).isSome) (hold : old ≠ .invalid) :
      StateChange config envelope old .negotiated
  | active (hop : envelope.operation = SessionOperation.ready) (hold : old = .negotiated) :
      StateChange config envelope old .active

theorem sessionOperation_change (config : RuntimeConfig) (envelope : Envelope)
    (session : SessionInfo) :
    StateChange config envelope session.state
      (sessionOperation config envelope session).session.state := by
  unfold sessionOperation
  -- The operations in the order of the source: hello, authenticate, profiles, ready, and others.
  split
  · split
    · exact .invalid
    · split
      · exact .invalid
      · exact .kept
  split
  · next hop =>
    by_cases hsecret : decodeText envelope.payload = some config.sharedSecret
    · simpa [hsecret] using .authenticated hop hsecret
    · simpa [hsecret] using .invalid
  split
  · next hop =>
    cases hlist : decodeProfileList envelope.payload with
    | none => exact .invalid
    | some remoteProfiles =>
      by_cases hold : session.state = .invalid
      · simpa [hold] using .invalid
      · simpa [hold] using .negotiated hop (by simp [hlist]) hold
  split
  · next hop =>
    split
    · next hold => exact .active hop hold
    · split
      · exact .invalid
      · exact .kept
  · exact .kept

/-- A message from the endpoint of the record, or from the first one, changes the
state as it should; any other makes the record invalid. -/
theorem sessionStep_change (config : RuntimeConfig) (peerId : Text) (envelope : Envelope)
    (found : SessionInfo) :
    (sessionStep config peerId envelope found).session.state = .invalid ∨
      (found.remoteEndpointUid = [] ∨ found.remoteEndpointUid = envelope.source.endpointUid) ∧
        StateChange config envelope found.state
          (sessionStep config peerId envelope found).session.state := by
  by_cases hsource : found.remoteEndpointUid = [] ∨
      found.remoteEndpointUid = envelope.source.endpointUid
  · rw [sessionStep_of_source config peerId hsource]
    refine Or.inr ⟨hsource, ?_⟩
    apply sessionOperation_change config envelope { found with
      sessionId := envelope.sessionId, peerId, remoteEndpointUid := envelope.source.endpointUid }
  · rw [sessionStep_of_mismatch config peerId hsource]
    exact Or.inl rfl

/-! ### Everything else -/

/-- Records only go, or keep their state. -/
def SessionsKept (sessions sessions' : SortedMap SessionKey SessionInfo) : Prop :=
  ∀ key session', sessions'.find? key = some session' →
    ∃ session, sessions.find? key = some session ∧ session.state = session'.state

/-- A step that uses no key only takes records away. -/
theorem kept_step {impl : Impl} {s : RuntimeStep} (h : usedKey impl s = none) :
    SessionsKept impl.sessions (impl.step s).sessions := by
  intro key session' hfind
  obtain ⟨session, hold, hlane⟩ := exists_before impl s (by simp [h]) hfind
  exact ⟨session, hold, (SessionInfo.eq_of_forgetLane hlane).1⟩

/-! ### The invariant -/

theorem SessionLog.Authenticated.append {log : SessionLog} {key : SessionKey}
    (h : log.Authenticated key) (entries : List Handled) :
    SessionLog.Authenticated { log with handled := log.handled ++ entries } key := by
  obtain ⟨entry, hmem, hentry⟩ := h
  exact ⟨entry, List.mem_append_left entries hmem, hentry⟩

/-- Exactly the records have a log, and a record of a remote handshake that has got
past its first state has seen the secret. -/
structure Vetted (traced : Traced) : Prop where
  absent : ∀ key, traced.impl.sessions.find? key = none → traced.log key = none
  record : ∀ key session, traced.impl.sessions.find? key = some session →
    ∃ log, traced.log key = some log ∧ (log.origin = .received → session.state ≠ .handshaking →
      session.state ≠ .invalid → log.Authenticated key)

section steps

variable {traced : Traced} {s : RuntimeStep}

/-- Logs go with their records. -/
theorem absent_step (traced : Traced) (s : RuntimeStep) (key : SessionKey)
    (h : (traced.step s).impl.sessions.find? key = none) : (traced.step s).log key = none := by
  have hnone : (traced.impl.step s).sessions.find? key = none := h
  simp [Traced.step, hnone]

theorem log_step {key : SessionKey} {session : SessionInfo}
    (h : (traced.step s).impl.sessions.find? key = some session) :
    (traced.step s).log key = traced.logStep key s := by
  have hsome : (traced.impl.step s).sessions.find? key = some session := h
  simp [Traced.step, hsome]

/-- A step that neither makes nor handles records. -/
theorem vetted_of_kept (h : Vetted traced)
    (hused : usedKey traced.impl s = none)
    (hlog : ∀ key, traced.logStep key s = traced.log key) : Vetted (traced.step s) where
  absent := absent_step traced s
  record := by
    intro key session' hnew
    obtain ⟨session, hold, hstate⟩ := kept_step hused key session' hnew
    obtain ⟨log, hlookup, hseen⟩ := h.record key session hold
    refine ⟨log, ?_, hstate ▸ hseen⟩
    rw [log_step hnew, hlog, hlookup]

theorem vetted_openSession (h : Vetted traced) (clock : Clock) (peerId : Text) :
    Vetted (traced.step (.openSession clock peerId)) := by
  cases hconn : traced.impl.connections.find? peerId with
  | none =>
    refine vetted_of_kept h (by simp [usedKey, hconn]) fun key => ?_
    simp [Traced.logStep, hconn]
  | some connection =>
    refine ⟨absent_step _ _, ?_⟩
    intro key session' hnew
    have hfind := hnew
    rw [show (traced.step (.openSession clock peerId)).impl.sessions = _ from
      sessions_openSession traced.impl hconn, SortedMap.find?_insert] at hfind
    rw [log_step hnew]
    by_cases hkey : key = ⟨peerId, traced.impl.nextSessionId⟩
    · refine ⟨{ origin := .opened }, by simp [Traced.logStep, hconn, hkey], ?_⟩
      intro horigin
      exact absurd horigin (by decide)
    · rw [if_neg hkey] at hfind
      obtain ⟨log, hlookup, hseen⟩ := h.record key session' hfind
      exact ⟨log, by simp [Traced.logStep, hkey, hlookup], hseen⟩

/-- The log an envelope is added to, and what is known of it. -/
theorem Vetted.found (h : Vetted traced) (key : SessionKey) :
    ((traced.log key).getD { origin := .received }).origin = .received →
      (sessionRecord traced.impl key).state ≠ .handshaking →
      (sessionRecord traced.impl key).state ≠ .invalid →
      ((traced.log key).getD { origin := .received }).Authenticated key := by
  unfold sessionRecord
  cases hfind : traced.impl.sessions.find? key with
  | none =>
    intro _ hstate
    exact absurd rfl hstate
  | some session =>
    obtain ⟨log, hlookup, hseen⟩ := h.record key session hfind
    rw [hlookup]
    exact hseen

/-- The log of a record that had none, or one of a remote handshake. -/
theorem origin_ne_opened {log : Option SessionLog}
    (h : (log.getD { origin := .received }).origin = .received) :
    log.map SessionLog.origin ≠ some .opened := by
  cases log with
  | none => simp
  | some log =>
    intro hopened
    have : log.origin = .opened := by simpa using hopened
    exact absurd (this.symm.trans h) (by decide)

theorem vetted_handleSession (h : Vetted traced) {clock : Clock} {peer : Peer} {envelope : Envelope}
    (hmessage : isSessionMessage envelope = true)
    (hok : earlyProfiles traced (.receive clock peer envelope) = false) :
    Vetted (traced.step (.receive clock peer envelope)) := by
  refine ⟨absent_step _ _, ?_⟩
  intro key session' hnew
  have hfind := hnew
  rw [show (traced.step (.receive clock peer envelope)).impl.sessions = _ from
    sessions_receive traced.impl hmessage, SortedMap.find?_insert] at hfind
  rw [log_step hnew]
  -- Only the record of the envelope is new; the others keep their logs.
  by_cases hkey : key = ⟨peer.id, envelope.sessionId⟩
  swap
  · rw [if_neg hkey] at hfind
    obtain ⟨log, hlookup, hseen⟩ := h.record key session' hfind
    exact ⟨log, by simp [Traced.logStep, hkey, hlookup], hseen⟩
  rw [if_pos hkey, ← hkey] at hfind
  obtain rfl := Option.some.inj hfind
  refine ⟨_, if_pos ⟨hmessage, hkey⟩, ?_⟩
  intro horigin hfirst hvalid
  have hbefore := h.found key horigin
  rcases sessionStep_change traced.impl.config peer.id envelope (sessionRecord traced.impl key) with
    hinvalid | ⟨hsource, hchange⟩
  · exact absurd hinvalid hvalid
  -- The secret was seen before, or this envelope brings it, or it came too early.
  generalize (sessionStep traced.impl.config peer.id envelope
    (sessionRecord traced.impl key)).session.state = state at hfirst hvalid hchange
  cases hchange with
  | kept => exact (hbefore hfirst hvalid).append _
  | invalid => exact absurd rfl hvalid
  | authenticated hop hsecret =>
    refine ⟨_, List.mem_append_right _ (List.mem_singleton_self _), ?_⟩
    exact ⟨by rw [hkey], by rw [hkey], hop, hsecret⟩
  | negotiated hop hlist hold =>
    by_cases hstart : (sessionRecord traced.impl key).state = .handshaking
    · have hbad : earlyProfiles traced (.receive clock peer envelope) = true := by
        have hremote := origin_ne_opened horigin
        simp only [earlyProfiles, ← hkey, Bool.and_eq_true, Bool.or_eq_true, decide_eq_true_iff]
        exact ⟨⟨⟨⟨⟨hmessage, hop⟩, hlist⟩, hstart⟩, hsource⟩, hremote⟩
      exact absurd (hok.symm.trans hbad) (by decide)
    · exact (hbefore hstart hold).append _
  | active hop hold =>
    refine (hbefore ?_ ?_).append _
    · rw [hold]
      decide
    · rw [hold]
      decide

/-- **The step lemma.** -/
theorem vetted_step (h : Vetted traced) (hok : earlyProfiles traced s = false) :
    Vetted (traced.step s) := by
  -- Two steps make records or handle them; all others only take records away.
  cases s with
  | receive clock peer envelope =>
    by_cases hmessage : isSessionMessage envelope = true
    · exact vetted_handleSession h hmessage hok
    · refine vetted_of_kept h (by simp [usedKey, hmessage]) fun key => ?_
      simp [Traced.logStep, hmessage]
  | openSession clock peerId => exact vetted_openSession h clock peerId
  | _ => exact vetted_of_kept h rfl fun _ => rfl

end steps

/-! ### Authentication is necessary -/

/-- **An active session of a remote handshake has seen the shared secret**, in
every run in which no profile list comes before the secret. -/
theorem active_authenticated (config : RuntimeConfig) (steps : List RuntimeStep)
    (hok : Run.Along Traced.step (fun traced s => earlyProfiles traced s = false)
      { impl := { config, running := true } } steps)
    (key : SessionKey) (session : SessionInfo)
    (hfind : (runtimeRun config steps).sessions.find? key = some session)
    (hactive : session.state = .active) :
    ∃ log, (tracedRun config steps).log key = some log ∧
      (log.origin = .received → log.Authenticated key) := by
  have hstart : Vetted { impl := { config, running := true } } :=
    ⟨fun _ _ => rfl, fun _ _ h => absurd h (by simp)⟩
  have hvetted : Vetted (tracedRun config steps) :=
    hok.invariant (fun _ _ h hstep => vetted_step h hstep) hstart
  rw [← impl_tracedRun] at hfind
  obtain ⟨log, hlookup, hseen⟩ := hvetted.record key session hfind
  refine ⟨log, hlookup, fun horigin => ?_⟩
  apply hseen horigin <;> rw [hactive] <;> decide

/-- A remote handshake in its proper order. -/
theorem active_authenticated_handshake :
    ∃ log, (tracedRun {} (handshake { endpointUid := ascii "ground" }
        ⟨ascii "tcp://10.0.0.2:5000", ascii "10.0.0.2", 5000⟩ 1)).log
          ⟨ascii "tcp://10.0.0.2:5000", 1⟩ = some log ∧
      (log.origin = .received → log.Authenticated ⟨ascii "tcp://10.0.0.2:5000", 1⟩) := by
  have hactive : ((runtimeRun {} (handshake { endpointUid := ascii "ground" }
      ⟨ascii "tcp://10.0.0.2:5000", ascii "10.0.0.2", 5000⟩ 1)).sessions.find?
        ⟨ascii "tcp://10.0.0.2:5000", 1⟩).map SessionInfo.state = some .active := by
    decide
  obtain ⟨session, hfind, hstate⟩ := Option.map_eq_some_iff.mp hactive
  exact active_authenticated {} _ (by decide) _ session hfind hstate

/-- A peer that leaves out Authenticate. -/
def skippedAuthentication : List RuntimeStep :=
  let remote : RuntimeConfig := { endpointUid := ascii "ground" }
  let peer : Peer := ⟨ascii "tcp://10.0.0.2:5000", ascii "10.0.0.2", 5000⟩
  [.accept peer,
    receiveSession remote peer 1 SessionOperation.profiles "session.profiles"
      (encodeProfileList []),
    receiveSession remote peer 1 SessionOperation.ready "session.ready" []]

/-- Its session is active all the same. -/
theorem skippedAuthentication_active :
    ∃ session log,
      (runtimeRun {} skippedAuthentication).sessions.find? ⟨ascii "tcp://10.0.0.2:5000", 1⟩ =
          some session ∧ session.state = .active ∧
        (tracedRun {} skippedAuthentication).log ⟨ascii "tcp://10.0.0.2:5000", 1⟩ = some log ∧
        log.origin = .received ∧ ¬ log.Authenticated ⟨ascii "tcp://10.0.0.2:5000", 1⟩ := by
  have hactive : ((runtimeRun {} skippedAuthentication).sessions.find?
      ⟨ascii "tcp://10.0.0.2:5000", 1⟩).map SessionInfo.state = some .active := by
    decide
  have hlog : ((tracedRun {} skippedAuthentication).log ⟨ascii "tcp://10.0.0.2:5000", 1⟩).map
      (fun log => (log.origin, decide (log.Authenticated ⟨ascii "tcp://10.0.0.2:5000", 1⟩))) =
        some (.received, false) := by
    decide
  obtain ⟨session, hfind, hstate⟩ := Option.map_eq_some_iff.mp hactive
  obtain ⟨log, hlookup, hpast⟩ := Option.map_eq_some_iff.mp hlog
  obtain ⟨horigin, hunseen⟩ := Prod.ext_iff.mp hpast
  exact ⟨session, log, hfind, hstate, hlookup, horigin, of_decide_eq_false hunseen⟩

/-! ### Invalid records -/

/-- The record of the key is invalid. -/
def Invalid (key : SessionKey) (impl : Impl) : Prop :=
  ∃ session, impl.sessions.find? key = some session ∧ session.state = .invalid

/-- The secret, sent for the key from the endpoint of its record.  Unlike the branch
for Profiles, the one for Authenticate does not ask whether the record is invalid. -/
def revives (key : SessionKey) (impl : Impl) : RuntimeStep → Bool
  | .receive _ peer envelope =>
      isSessionMessage envelope && key = ⟨peer.id, envelope.sessionId⟩ &&
        envelope.operation = SessionOperation.authenticate &&
        decodeText envelope.payload = some impl.config.sharedSecret &&
        ((sessionRecord impl key).remoteEndpointUid = [] ||
          (sessionRecord impl key).remoteEndpointUid = envelope.source.endpointUid)
  | _ => false

/-- `open_session` draws the key. -/
def reopens (key : SessionKey) (impl : Impl) : RuntimeStep → Bool
  | .openSession clock peerId => usedKey impl (.openSession clock peerId) = some key
  | _ => false

/-- What may happen to an invalid record without ending its state: all but the secret,
`open_session` on its key and its removal. -/
def LeavesInvalid (key : SessionKey) (impl : Impl) (s : RuntimeStep) : Prop :=
  revives key impl s = false ∧ reopens key impl s = false ∧ removesKey impl key s = false

instance (key : SessionKey) (impl : Impl) (s : RuntimeStep) :
    Decidable (LeavesInvalid key impl s) :=
  inferInstanceAs (Decidable (_ ∧ _ ∧ _))

/-- A session message of any other kind leaves the state alone. -/
theorem invalid_handleSession {key : SessionKey} {impl : Impl} (h : Invalid key impl)
    {clock : Clock} {peer : Peer} {envelope : Envelope}
    (hmessage : isSessionMessage envelope = true) (hkey : key = ⟨peer.id, envelope.sessionId⟩)
    (hok : revives key impl (.receive clock peer envelope) = false) :
    Invalid key (impl.step (.receive clock peer envelope)) := by
  obtain ⟨session, hfind, hinvalid⟩ := h
  have hrecord : sessionRecord impl key = session := by
    rw [sessionRecord, hfind, Option.getD_some]
  refine ⟨(sessionStep impl.config peer.id envelope session).session, ?_, ?_⟩
  · rw [sessions_receive impl hmessage, SortedMap.find?_insert, if_pos hkey, ← hkey, hrecord]
  rcases sessionStep_change impl.config peer.id envelope session with hstate | ⟨hsource, hchange⟩
  · exact hstate
  rw [hinvalid] at hchange
  generalize (sessionStep impl.config peer.id envelope session).session.state = state at hchange
  cases hchange with
  | kept => rfl
  | invalid => rfl
  | authenticated hop hsecret =>
    refine absurd hok (Bool.eq_false_iff.mp · ?_)
    simp only [revives, hrecord, Bool.and_eq_true, Bool.or_eq_true, decide_eq_true_iff]
    exact ⟨⟨⟨⟨hmessage, hkey⟩, hop⟩, hsecret⟩, hsource⟩
  | negotiated _ _ hold => exact absurd rfl hold
  | active _ hold => exact absurd hold (by decide)

theorem invalid_step {key : SessionKey} {impl : Impl} {s : RuntimeStep} (h : Invalid key impl)
    (hok : LeavesInvalid key impl s) : Invalid key (impl.step s) := by
  obtain ⟨hrevives, hreopens, hremoved⟩ := hok
  by_cases hused : usedKey impl s = some key
  · cases s with
    | receive clock peer envelope =>
      simp only [usedKey, Option.ite_none_right_eq_some, Option.some.injEq] at hused
      exact invalid_handleSession h hused.1 hused.2.symm hrevives
    | openSession clock peerId => exact absurd hreopens (by simp [reopens, hused])
    | _ => exact absurd hused (by simp [usedKey])
  · obtain ⟨session, hfind, hinvalid⟩ := h
    have hsame := forgetLane_step impl s hused hremoved
    rw [hfind] at hsame
    obtain ⟨session', hnew, hlane⟩ := Option.map_eq_some_iff.mp hsame
    exact ⟨session', hnew, (SessionInfo.eq_of_forgetLane hlane).1.trans hinvalid⟩

/-- **An invalid session stays invalid** as long as it is neither removed nor opened
again from this side, in every run in which the secret does not come after all. -/
theorem invalid_stays (config : RuntimeConfig) (before after : List RuntimeStep) (key : SessionKey)
    (hinvalid : Invalid key (runtimeRun config before))
    (hok : Run.Along Impl.step (LeavesInvalid key) (runtimeRun config before) after) :
    Invalid key (runtimeRun config (before ++ after)) := by
  unfold runtimeRun at hinvalid hok ⊢
  rw [List.foldl_append]
  exact Run.Along.invariant (motive := Invalid key) (fun _ _ h hstep => invalid_step h hstep)
    hinvalid hok

/-- A peer that begins with a wrong secret. -/
def wrongSecret : List RuntimeStep :=
  let peer : Peer := ⟨ascii "tcp://10.0.0.2:5000", ascii "10.0.0.2", 5000⟩
  [.accept peer,
    receiveSession { endpointUid := ascii "ground" } peer 1 SessionOperation.authenticate
      "session.authenticate" (encodeText (ascii "guess"))]

theorem invalid_wrongSecret : Invalid ⟨ascii "tcp://10.0.0.2:5000", 1⟩
    (runtimeRun {} wrongSecret) := by
  have hstate : ((runtimeRun {} wrongSecret).sessions.find?
      ⟨ascii "tcp://10.0.0.2:5000", 1⟩).map SessionInfo.state = some .invalid := by
    decide
  obtain ⟨session, hfind, hinvalid⟩ := Option.map_eq_some_iff.mp hstate
  exact ⟨session, hfind, hinvalid⟩

/-- Profiles and Ready do not help it. -/
theorem invalid_stays_wrongSecret :
    Invalid ⟨ascii "tcp://10.0.0.2:5000", 1⟩
      (runtimeRun {} (wrongSecret ++ skippedAuthentication)) :=
  invalid_stays {} wrongSecret skippedAuthentication ⟨ascii "tcp://10.0.0.2:5000", 1⟩
    invalid_wrongSecret (by decide)

/-- The right secret does: the same record goes on as if nothing had happened. -/
theorem wrongSecret_revived :
    Invalid ⟨ascii "tcp://10.0.0.2:5000", 1⟩ (runtimeRun {} wrongSecret) ∧
      ∃ session, (runtimeRun {} (wrongSecret ++
          [receiveSession { endpointUid := ascii "ground" }
            ⟨ascii "tcp://10.0.0.2:5000", ascii "10.0.0.2", 5000⟩ 1 SessionOperation.authenticate
            "session.authenticate" (encodeText (ascii "yunlink-default-secret"))])).sessions.find?
        ⟨ascii "tcp://10.0.0.2:5000", 1⟩ = some session ∧ session.state = .authenticated := by
  refine ⟨invalid_wrongSecret, Option.map_eq_some_iff.mp ?_⟩
  decide

end YunLink
