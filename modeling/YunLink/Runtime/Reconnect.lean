import YunLink.Runtime.Lanes
import YunLink.Runtime.Records

/-!
# Reconnecting

A peer id names an address, not a connection.  When a connection ends and the address
is connected to again, the new connection has the id of the old one, and so have its
sessions and leases.  The receive loop of the old connection drops the state of the
id as the last thing it does, and `connect_peer` waits for that; but only for the
connection it finds in the map.  The accept thread and `close_peer` take a connection
out of the map before they wait for its loop, and while they wait the map says
nothing about it.

Here a step is one section under the mutex, and connections are objects: they are
numbered in the order in which they enter the map, and each has a receive loop of its
own.  Which object a session or lease was made on is kept beside the tables.

## Main definitions

* `ConnectionObject`, `LoopPhase` — a connection and how far its receive loop is.
* `Threads`, `ThreadStep`, `Threads.act` — the runtime and its threads.
* `Threads.step` — the same with the makers of sessions and leases.
* `Spares` — a teardown leaves newer connections alone.
* `Settled` — the condition: nothing is made on a connection while a teardown of an
  older one of its id is ahead.
* `EntersSettled` — a condition on the map alone that is enough for it.

## Main results

* `makers_threadsRun` — sessions and leases have a maker, of their peer id.
* `spares_threadsRun` — **no teardown hits a newer connection**, in every run within
  the condition.
* `reconnectedBefore_lost` — a session lost to the teardown of the connection before.
* `spares_of_entersSettled` — connections that enter the map after the teardowns of
  their id are safe.
* `lost_of_unsettled` — a session made outside the condition can be lost.
-/

namespace YunLink

/-! ### Threads -/

/-- How far a receive loop is: reading, past the loop, or past the teardown. -/
inductive LoopPhase
  | reading
  | ended
  | dropped
  deriving DecidableEq, Repr, Inhabited

/-- A connection, whether or not the map still holds it. -/
structure ConnectionObject where
  peer : Peer
  phase : LoopPhase := .reading
  deriving DecidableEq, Inhabited

/-- The runtime and what its threads are at. -/
structure Threads where
  impl : Impl
  /-- All connections there ever were, in the order in which they entered the map. -/
  objects : List ConnectionObject := []
  /-- The object that entered the map last under an id; it is the one the map holds. -/
  latest : Text → ℕ := fun _ => 0
  /-- The connections the accept thread waits for. -/
  joining : List ℕ := []
  /-- The calls of `connect_peer` past their lookup, with the connection to wait for. -/
  connecting : List (Peer × Option ℕ) := []
  /-- Ghost: the object a session was made on. -/
  sessionMaker : SessionKey → Option ℕ := fun _ => none
  /-- Ghost: the object a lease was claimed on. -/
  leaseMaker : LeaseKey → Option ℕ := fun _ => none

/-- The sections under the mutex, and the ends of loops. -/
inductive ThreadStep
  /-- The receive loop is left: `running` is set to false. -/
  | endLoop (object : ℕ)
  /-- The send loop gives up on the connection. -/
  | sendFails (object : ℕ)
  /-- The teardown at the end of `runtime_receive_loop`. -/
  | drop (object : ℕ)
  | receive (object : ℕ) (clock : Clock) (envelope : Envelope)
  | openSession (clock : Clock) (peerId : Text)
  /-- `reap_closed_connections`, up to where it waits. -/
  | reap
  | accept (peer : Peer)
  /-- `close_peer`, up to where it waits; the lane is another call. -/
  | closePeer (peerId : Text)
  /-- `connect_peer` up to where it waits; `caller` is the connection in whose receive
  loop it is called, if it is in one. -/
  | connectLookup (peer : Peer) (caller : Option ℕ)
  /-- The rest of a call under way. -/
  | connectInsert (call : ℕ)

namespace Threads

/-- Whether a connection's receive thread can be joined. -/
def hasDropped (t : Threads) (n : ℕ) : Bool :=
  match t.objects[n]? with
  | none => false
  | some object => object.phase = .dropped

/-- The state with a connection's loop in another phase. -/
def setPhase (t : Threads) (n : ℕ) (phase : LoopPhase) : Threads :=
  { t with objects := t.objects.modify n fun object => { object with phase } }

/-- The object in the map under an id. -/
def current (t : Threads) (peerId : Text) : Option ℕ :=
  (t.impl.connections.find? peerId).map fun _ => t.latest peerId

/-- A connection's `running` is set to false.  Only the map's reading of it counts. -/
def stopRunning (t : Threads) (n : ℕ) (peerId : Text) : Threads :=
  if t.current peerId = some n then { t with impl := stopConnection t.impl peerId } else t

/-- `connections[peer.id] = connection`, whatever was there. -/
def enter (t : Threads) (peer : Peer) : Threads :=
  { t with
    impl := acceptPeer t.impl peer
    objects := t.objects ++ [{ peer }]
    latest := fun peerId => if peerId = peer.id then t.objects.length else t.latest peerId }

/-- One step; a step of a thread that is not there yet, or waits, does nothing. -/
def act (t : Threads) : ThreadStep → Threads
  | .endLoop n =>
      match t.objects[n]? with
      | some ⟨peer, .reading⟩ => (t.stopRunning n peer.id).setPhase n .ended
      | _ => t
  | .sendFails n =>
      match t.objects[n]? with
      | some object => t.stopRunning n object.peer.id
      | none => t
  | .drop n =>
      match t.objects[n]? with
      | some ⟨peer, .ended⟩ =>
          { t.setPhase n .dropped with impl := runtimeDropPeerState t.impl peer }
      | _ => t
  | .receive n clock envelope =>
      match t.objects[n]? with
      | some ⟨peer, .reading⟩ =>
          { t with impl := runtimeHandleEnvelope t.impl clock peer envelope }
      | _ => t
  | .openSession clock peerId => { t with impl := (YunLink.openSession t.impl clock peerId).1 }
  | .reap =>
      if t.joining.all t.hasDropped then
        { t with
          impl := reapClosedConnections t.impl
          joining := (t.impl.connections.entries.filter fun entry => !entry.2.running).map
            fun entry => t.latest entry.1 }
      else t
  | .accept peer => if t.joining.all t.hasDropped then t.enter peer else t
  | .closePeer peerId =>
      if (t.impl.connections.find? peerId).isSome then
        { t with impl := detachPeer t.impl peerId }
      else t
  | .connectLookup peer caller =>
      match t.impl.connections.find? peer.id with
      | none => { t with connecting := t.connecting ++ [(peer, none)] }
      | some connection =>
          if connection.running then t
          else
            let stale := t.latest peer.id
            { t with
              impl := { t.impl with connections := t.impl.connections.erase peer.id }
              -- A receive thread does not wait for itself.
              connecting := t.connecting ++
                [(peer, if caller = some stale then none else some stale)] }
  | .connectInsert call =>
      match t.connecting[call]? with
      | none => t
      | some (peer, stale) =>
          if stale.all t.hasDropped then
            { t.enter peer with connecting := t.connecting.eraseIdx call }
          else t

/-! ### Makers -/

/-- The connection a step makes a session or claims a lease on, as far as it can be
told before the step. -/
def maker (t : Threads) : ThreadStep → Option ℕ
  | .receive n _ envelope =>
      match t.objects[n]? with
      | some ⟨peer, .reading⟩ =>
          if isSessionMessage envelope &&
                (t.impl.sessions.find? ⟨peer.id, envelope.sessionId⟩).isNone ||
              isAuthorityRequest envelope && envelope.operation = AuthorityOperation.claim then
            some n
          else none
      | _ => none
  | .openSession _ peerId => t.current peerId
  | _ => none

/-- Whether a step makes the record of the key: there was none, or `open_session`
writes it anew. -/
def makesSession (t : Threads) (key : SessionKey) : ThreadStep → Bool
  | .openSession _ peerId =>
      (t.impl.connections.find? peerId).isSome && key = ⟨peerId, t.impl.nextSessionId⟩
  | _ => (t.impl.sessions.find? key).isNone

/-- Whether a step claims the lease it leaves under a key. -/
def claimsLease (t t' : Threads) (key : LeaseKey) : ThreadStep → Bool
  | .receive _ _ envelope =>
      envelope.operation = AuthorityOperation.claim &&
        t'.impl.authorityLeases.find? key ≠ t.impl.authorityLeases.find? key
  | _ => false

/-- A step, and who made what is there after it. -/
def step (t : Threads) (s : ThreadStep) : Threads :=
  let t' := t.act s
  { t' with
    sessionMaker := fun key =>
      (t'.impl.sessions.find? key).bind fun _ =>
        if t.makesSession key s then t.maker s else t.sessionMaker key
    leaseMaker := fun key =>
      (t'.impl.authorityLeases.find? key).bind fun _ =>
        if claimsLease t t' key s then t.maker s else t.leaseMaker key }

/-- A runtime just started. -/
def started (config : RuntimeConfig) : Threads where
  impl := { config, running := true }

/-- A run from a runtime just started. -/
def run (config : RuntimeConfig) (steps : List ThreadStep) : Threads :=
  steps.foldl step (started config)

/-- Every older connection of the same id has run its teardown. -/
def settled (t : Threads) (n : ℕ) : Bool :=
  match t.objects[n]? with
  | none => true
  | some newer => (t.objects.take n).all fun older =>
      older.peer.id ≠ newer.peer.id || older.phase = .dropped

end Threads

/-! ### Connections stay what they are -/

theorem objects_stopRunning (t : Threads) (n : ℕ) (peerId : Text) :
    (t.stopRunning n peerId).objects = t.objects := by
  unfold Threads.stopRunning
  split <;> rfl

theorem latest_stopRunning (t : Threads) (n : ℕ) (peerId : Text) :
    (t.stopRunning n peerId).latest = t.latest := by
  unfold Threads.stopRunning
  split <;> rfl

section objects

variable (t : Threads) (s : ThreadStep)

/-- What a step does to the connections: nothing, or one more, or a new phase for one
that has not dropped its state yet. -/
theorem objects_act :
    (t.act s).objects = t.objects ∨ (∃ peer, (t.act s).objects = t.objects ++ [⟨peer, .reading⟩]) ∨
      ∃ n object phase, t.objects[n]? = some object ∧ object.phase ≠ .dropped ∧
        (t.act s).objects = t.objects.modify n fun object => { object with phase } := by
  cases s with
  | endLoop n =>
    simp only [Threads.act]
    split
    · next peer hobject =>
      refine Or.inr (Or.inr ⟨n, _, .ended, hobject, by simp, ?_⟩)
      simp only [Threads.setPhase, objects_stopRunning]
    · exact Or.inl rfl
  | sendFails n =>
    simp only [Threads.act]
    split
    · exact Or.inl (objects_stopRunning t n _)
    · exact Or.inl rfl
  | drop n =>
    simp only [Threads.act]
    split
    · next peer hobject => exact Or.inr (Or.inr ⟨n, _, .dropped, hobject, by simp, rfl⟩)
    · exact Or.inl rfl
  | receive n clock envelope =>
    simp only [Threads.act]
    split <;> exact Or.inl rfl
  | openSession clock peerId => exact Or.inl rfl
  | reap =>
    simp only [Threads.act]
    split <;> exact Or.inl rfl
  | accept peer =>
    simp only [Threads.act]
    split
    · exact Or.inr (Or.inl ⟨peer, rfl⟩)
    · exact Or.inl rfl
  | closePeer peerId =>
    simp only [Threads.act]
    split <;> exact Or.inl rfl
  | connectLookup peer caller =>
    simp only [Threads.act]
    split
    · exact Or.inl rfl
    · split <;> exact Or.inl rfl
  | connectInsert call =>
    simp only [Threads.act]
    split
    · exact Or.inl rfl
    · split
      · exact Or.inr (Or.inl ⟨_, rfl⟩)
      · exact Or.inl rfl

/-- A connection keeps its number and its peer, and a teardown is not undone. -/
theorem object_act {n : ℕ} {object : ConnectionObject} (h : t.objects[n]? = some object) :
    ∃ object', (t.act s).objects[n]? = some object' ∧ object'.peer = object.peer ∧
      (object.phase = .dropped → object'.phase = .dropped) := by
  rcases objects_act t s with heq | ⟨peer, heq⟩ | ⟨m, other, phase, hother, hphase, heq⟩
  · exact ⟨object, heq ▸ h, rfl, id⟩
  · refine ⟨object, ?_, rfl, id⟩
    rw [heq, List.getElem?_append_left (List.getElem?_eq_some_iff.mp h).1]
    exact h
  · by_cases hm : m = n
    · subst hm
      obtain rfl := Option.some.inj (h.symm.trans hother)
      refine ⟨{ object with phase }, ?_, rfl, fun hdropped => absurd hdropped hphase⟩
      rw [heq, List.getElem?_modify_eq, h]
      rfl
    · refine ⟨object, ?_, rfl, id⟩
      rw [heq, List.getElem?_modify_ne _ _ hm]
      exact h

end objects

/-! ### What a step can do -/

/-- What a step does to the runtime. -/
inductive Acts (t : Threads) : ThreadStep → Threads → Prop
  | receive {n : ℕ} {peer : Peer} {clock : Clock} {envelope : Envelope} {t' : Threads}
      (hobject : t.objects[n]? = some ⟨peer, .reading⟩)
      (himpl : t'.impl = t.impl.step (.receive clock peer envelope))
      (hlatest : t'.latest = t.latest) : Acts t (.receive n clock envelope) t'
  | openSession {clock : Clock} {peerId : Text} {t' : Threads}
      (himpl : t'.impl = t.impl.step (.openSession clock peerId))
      (hlatest : t'.latest = t.latest) : Acts t (.openSession clock peerId) t'
  | drop {n : ℕ} {peer : Peer} {t' : Threads} (hobject : t.objects[n]? = some ⟨peer, .ended⟩)
      (himpl : t'.impl = t.impl.step (.dropPeer peer)) (hlatest : t'.latest = t.latest) :
      Acts t (.drop n) t'
  | enter {s : ThreadStep} {t' : Threads} (peer : Peer)
      (himpl : t'.impl = t.impl.step (.accept peer))
      (hobjects : t'.objects = t.objects ++ [⟨peer, .reading⟩])
      (hlatest : t'.latest = (t.enter peer).latest)
      (hs : ∀ clock peerId, s ≠ .openSession clock peerId) : Acts t s t'
  /-- Connections at most leave the map or lose `running`, and sessions their lanes. -/
  | quiet {s : ThreadStep} {t' : Threads}
      (hsessions : forgetLanes t'.impl.sessions = forgetLanes t.impl.sessions)
      (hleases : t'.impl.authorityLeases = t.impl.authorityLeases)
      (hconnections : ∀ P, ConnectionsAll P t.impl.connections →
        ConnectionsAll P t'.impl.connections)
      (hlatest : t'.latest = t.latest)
      (hs : ∀ clock peerId, s ≠ .openSession clock peerId) : Acts t s t'

theorem Acts.still (t : Threads) {s : ThreadStep}
    (hs : ∀ clock peerId, s ≠ .openSession clock peerId) : Acts t s t :=
  .quiet rfl rfl (fun _ h => h) rfl hs

/-- `running` is lost. -/
theorem Acts.stopRunning {t t' : Threads} {n : ℕ} {peerId : Text} {s : ThreadStep}
    (himpl : t'.impl = (t.stopRunning n peerId).impl) (hlatest : t'.latest = t.latest)
    (hs : ∀ clock peerId, s ≠ .openSession clock peerId) : Acts t s t' := by
  unfold Threads.stopRunning at himpl
  split at himpl
  · refine .quiet (by rw [himpl]; rfl) (by rw [himpl]; rfl) (fun P h => ?_) hlatest hs
    rw [himpl]
    exact h.adjust _ fun _ => rfl
  · exact .quiet (by rw [himpl]) (by rw [himpl]) (fun P h => himpl ▸ h) hlatest hs

/-- **Every step is one of these.** -/
theorem acts (t : Threads) (s : ThreadStep) : Acts t s (t.act s) := by
  cases s with
  | endLoop n =>
    simp only [Threads.act]
    split
    · next peer _ =>
      exact .stopRunning rfl (latest_stopRunning t n peer.id) (by simp)
    · exact .still t (by simp)
  | sendFails n =>
    simp only [Threads.act]
    split
    · exact .stopRunning rfl (latest_stopRunning t n _) (by simp)
    · exact .still t (by simp)
  | drop n =>
    simp only [Threads.act]
    split
    · next peer hobject => exact .drop hobject rfl rfl
    · exact .still t (by simp)
  | receive n clock envelope =>
    simp only [Threads.act]
    split
    · next peer hobject => exact .receive hobject rfl rfl
    · exact .still t (by simp)
  | openSession clock peerId => exact .openSession rfl rfl
  | reap =>
    simp only [Threads.act]
    split
    · exact .quiet rfl rfl (fun _ h => h.eraseIf _) rfl (by simp)
    · exact .still t (by simp)
  | accept peer =>
    simp only [Threads.act]
    split
    · exact .enter peer rfl rfl rfl (by simp)
    · exact .still t (by simp)
  | closePeer peerId =>
    simp only [Threads.act]
    split
    · refine .quiet (forgetLanes_detachPeer t.impl peerId) ?_ (fun P h => ?_) rfl (by simp)
      · exact (leases_detachPeer t.impl peerId).1
      · show ConnectionsAll P (detachPeer t.impl peerId).connections
        rw [connections_detachPeer]
        exact h.eraseIf _
    · exact .still t (by simp)
  | connectLookup peer caller =>
    simp only [Threads.act]
    split
    · exact .quiet rfl rfl (fun _ h => h) rfl (by simp)
    · split
      · exact .still t (by simp)
      · exact .quiet rfl rfl (fun _ h => h.eraseIf _) rfl (by simp)
  | connectInsert call =>
    simp only [Threads.act]
    split
    · exact .still t (by simp)
    · split
      · exact .enter _ rfl rfl rfl (by simp)
      · exact .still t (by simp)

/-! ### Leases and the requests behind them -/

section leases

/-- A lease after a message: an old one, that may have been renewed, or one claimed. -/
theorem lease_receive {impl : Impl} {clock : Clock} {peer : Peer} {envelope : Envelope}
    {key : LeaseKey} {lease : AuthorityLease}
    (h : (runtimeHandleEnvelope impl clock peer envelope).authorityLeases.find? key = some lease) :
    (∃ old, impl.authorityLeases.find? key = some old ∧ old.peerId = lease.peerId ∧
        (envelope.operation ≠ AuthorityOperation.renew → old = lease)) ∨
      isAuthorityRequest envelope = true ∧ envelope.operation = AuthorityOperation.claim ∧
        lease.peerId = peer.id := by
  by_cases hfamily : envelope.family = .session
  · rw [(leases_session impl clock peer envelope hfamily).1] at h
    exact Or.inl ⟨lease, h, rfl, fun _ => rfl⟩
  rw [runtimeHandleEnvelope, if_neg hfamily] at h
  cases hadmission : admission impl (logicalPeer impl peer).id envelope with
  | error reported =>
    rw [leases_handleMessage_of_error hadmission] at h
    exact Or.inl ⟨lease, h, rfl, fun _ => rfl⟩
  | ok =>
    rw [leases_handleMessage_of_ok hadmission] at h
    split at h
    · next hrequest =>
      unfold authorityOutcome at h
      split at h
      · exact Or.inl ⟨lease, h, rfl, fun _ => rfl⟩
      · exact (lease_authorityTransition h).imp_right fun hclaim => ⟨hrequest, hclaim⟩
    · exact Or.inl ⟨lease, h, rfl, fun _ => rfl⟩

theorem leases_openSession (impl : Impl) (clock : Clock) (peerId : Text) :
    (impl.step (.openSession clock peerId)).authorityLeases = impl.authorityLeases := by
  simp only [Impl.step, openSession]
  split <;> rfl

/-- A teardown only takes leases away. -/
theorem lease_dropPeer {impl : Impl} {peer : Peer} {key : LeaseKey} {lease : AuthorityLease}
    (h : (impl.step (.dropPeer peer)).authorityLeases.find? key = some lease) :
    impl.authorityLeases.find? key = some lease := by
  simp only [Impl.step] at h
  cases hlane : impl.laneOwner.find? peer.id with
  | some owner =>
    rw [drop_lane impl peer hlane] at h
    exact h
  | none =>
    rw [(drop_control impl peer hlane).2.2.1] at h
    exact (SortedMap.find?_eraseIf_eq_some.mp h).1

end leases

/-! ### Makers are known -/

/-- A connection of an id. -/
def Threads.HasObject (t : Threads) (n : ℕ) (peerId : Text) : Prop :=
  ∃ object, t.objects[n]? = some object ∧ object.peer.id = peerId

/-- Every session and lease has a maker, and the map its objects. -/
structure Known (t : Threads) : Prop where
  map : ConnectionsAll (fun peerId _ => t.HasObject (t.latest peerId) peerId) t.impl.connections
  session : ∀ key session, t.impl.sessions.find? key = some session →
    ∃ n, t.sessionMaker key = some n ∧ t.HasObject n key.peerId
  lease : ∀ key lease, t.impl.authorityLeases.find? key = some lease →
    ∃ n, t.leaseMaker key = some n ∧ t.HasObject n lease.peerId

section known

variable {t : Threads} {s : ThreadStep}

theorem Threads.HasObject.step {n : ℕ} {peerId : Text} (h : t.HasObject n peerId)
    (s : ThreadStep) : (t.step s).HasObject n peerId := by
  obtain ⟨object, hobject, hid⟩ := h
  obtain ⟨object', hobject', hpeer, -⟩ := object_act t s hobject
  exact ⟨object', hobject', hpeer ▸ hid⟩

/-- The map after a step. -/
theorem Known.map_step (h : Known t) (s : ThreadStep) :
    ConnectionsAll (fun peerId _ => (t.step s).HasObject ((t.step s).latest peerId) peerId)
      (t.step s).impl.connections := by
  have hold : ConnectionsAll (fun peerId _ => (t.step s).HasObject (t.latest peerId) peerId)
      t.impl.connections := fun peerId connection hfind => (h.map peerId connection hfind).step s
  have hlatest : (t.step s).latest = (t.act s).latest := rfl
  have himpl : (t.step s).impl = (t.act s).impl := rfl
  cases acts t s with
  | receive _ hact hkept =>
    rw [hlatest, himpl, hkept, hact]
    exact all_runtimeHandleEnvelope hold _ _ _
  | openSession hact hkept =>
    rw [hlatest, himpl, hkept, hact]
    exact all_openSession hold _ _
  | drop _ hact hkept =>
    rw [hlatest, himpl, hkept, hact]
    exact all_runtimeDropPeerState hold _
  | enter peer hact hobjects hentered _ =>
    intro peerId connection hfind
    rw [hlatest, hentered]
    rw [himpl, hact] at hfind
    by_cases hid : peerId = peer.id
    · refine ⟨⟨peer, .reading⟩, ?_, hid.symm⟩
      show (t.act s).objects[(t.enter peer).latest peerId]? = _
      rw [hobjects]
      simp [Threads.enter, hid]
    · have hbefore : t.impl.connections.find? peerId = some connection := by
        simpa [Impl.step, acceptPeer, Impl.emit, hid] using hfind
      simpa [Threads.enter, hid] using hold peerId connection hbefore
  | quiet _ _ hconnections hkept _ =>
    rw [hlatest, himpl, hkept]
    exact hconnections _ hold

/-- The maker of a record: the maker of the step when the step makes it. -/
theorem sessionMaker_step {key : SessionKey} {session : SessionInfo}
    (h : (t.step s).impl.sessions.find? key = some session) :
    (t.step s).sessionMaker key =
      if t.makesSession key s then t.maker s else t.sessionMaker key := by
  have hfind : (t.act s).impl.sessions.find? key = some session := h
  simp [Threads.step, hfind]

theorem leaseMaker_step {key : LeaseKey} {lease : AuthorityLease}
    (h : (t.step s).impl.authorityLeases.find? key = some lease) :
    (t.step s).leaseMaker key =
      if Threads.claimsLease t (t.act s) key s then t.maker s else t.leaseMaker key := by
  have hfind : (t.act s).impl.authorityLeases.find? key = some lease := h
  simp [Threads.step, hfind]

/-- Only `open_session` makes a record anew. -/
theorem makesSession_of_some (hs : ∀ clock peerId, s ≠ .openSession clock peerId)
    {key : SessionKey} {session : SessionInfo} (h : t.impl.sessions.find? key = some session) :
    t.makesSession key s = false := by
  cases s with
  | openSession clock peerId => exact absurd rfl (hs clock peerId)
  | _ => simp [Threads.makesSession, h]

/-- The sessions after a step. -/
theorem Known.session_step (h : Known t) (s : ThreadStep) (key : SessionKey)
    (session : SessionInfo) (hfind : (t.step s).impl.sessions.find? key = some session) :
    ∃ n, (t.step s).sessionMaker key = some n ∧ (t.step s).HasObject n key.peerId := by
  -- Records that were there keep their maker.
  have hkept : t.makesSession key s = false → (∃ old, t.impl.sessions.find? key = some old) →
      ∃ n, (t.step s).sessionMaker key = some n ∧ (t.step s).HasObject n key.peerId := by
    rintro hmakes ⟨old, hold⟩
    obtain ⟨n, hmaker, hobject⟩ := h.session key old hold
    refine ⟨n, ?_, hobject.step s⟩
    rw [sessionMaker_step hfind, if_neg (by simp [hmakes]), hmaker]
  have hmade : ∀ n, t.makesSession key s = true → t.maker s = some n →
      t.HasObject n key.peerId →
      ∃ n, (t.step s).sessionMaker key = some n ∧ (t.step s).HasObject n key.peerId := by
    intro n hmakes hmaker hobject
    refine ⟨n, ?_, hobject.step s⟩
    rw [sessionMaker_step hfind, if_pos hmakes, hmaker]
  have hafter : (t.act s).impl.sessions.find? key = some session := hfind
  cases acts t s with
  | @receive n peer clock envelope _ hobject himpl =>
    rw [himpl] at hafter
    cases hbefore : t.impl.sessions.find? key with
    | some old => exact hkept (makesSession_of_some (by simp) hbefore) ⟨old, hbefore⟩
    | none =>
      by_cases hused : usedKey t.impl (.receive clock peer envelope) = some key
      · simp only [usedKey, Option.ite_none_right_eq_some, Option.some.injEq] at hused
        obtain ⟨hmessage, rfl⟩ := hused
        refine hmade n (by simp [Threads.makesSession, hbefore]) ?_ ⟨_, hobject, rfl⟩
        simp [Threads.maker, hobject, hmessage, hbefore]
      · obtain ⟨old, hold, -⟩ := exists_before t.impl _ hused hafter
        exact absurd (hbefore.symm.trans hold) (by simp)
  | @openSession clock peerId _ himpl =>
    rw [himpl] at hafter
    by_cases hused : usedKey t.impl (.openSession clock peerId) = some key
    · cases hconn : t.impl.connections.find? peerId with
      | none => simp [usedKey, hconn] at hused
      | some connection =>
        simp only [usedKey, hconn, Option.some.injEq] at hused
        refine hmade (t.latest peerId) (by simp [Threads.makesSession, hconn, hused]) ?_ ?_
        · simp [Threads.maker, Threads.current, hconn]
        · rw [← hused]
          exact h.map peerId connection hconn
    · obtain ⟨old, hold, -⟩ := exists_before t.impl _ hused hafter
      refine hkept ?_ ⟨old, hold⟩
      cases hconn : t.impl.connections.find? peerId with
      | none => simp [Threads.makesSession, hconn]
      | some connection =>
        simp only [usedKey, hconn, Option.some.injEq] at hused
        simpa [Threads.makesSession, hconn] using Ne.symm hused
  | drop _ himpl =>
    rw [himpl] at hafter
    obtain ⟨old, hold, -⟩ := exists_before t.impl _ (by simp [usedKey]) hafter
    exact hkept (makesSession_of_some (by simp) hold) ⟨old, hold⟩
  | enter peer himpl _ _ hs =>
    rw [himpl] at hafter
    obtain ⟨old, hold, -⟩ := exists_before t.impl _ (by simp [usedKey]) hafter
    exact hkept (makesSession_of_some hs hold) ⟨old, hold⟩
  | quiet hsessions _ _ _ hs =>
    have hsame : ((t.act s).impl.sessions.find? key).map SessionInfo.forgetLane =
        (t.impl.sessions.find? key).map SessionInfo.forgetLane := by
      rw [← find?_forgetLanes, hsessions, find?_forgetLanes]
    rw [hafter] at hsame
    obtain ⟨old, hold, -⟩ := Option.map_eq_some_iff.mp hsame.symm
    exact hkept (makesSession_of_some hs hold) ⟨old, hold⟩

/-- The leases after a step. -/
theorem Known.lease_step (h : Known t) (s : ThreadStep) (key : LeaseKey) (lease : AuthorityLease)
    (hfind : (t.step s).impl.authorityLeases.find? key = some lease) :
    ∃ n, (t.step s).leaseMaker key = some n ∧ (t.step s).HasObject n lease.peerId := by
  have hkept : ∀ old, t.impl.authorityLeases.find? key = some old → old.peerId = lease.peerId →
      Threads.claimsLease t (t.act s) key s = false →
      ∃ n, (t.step s).leaseMaker key = some n ∧ (t.step s).HasObject n lease.peerId := by
    intro old hold hpeer hclaims
    obtain ⟨n, hmaker, hobject⟩ := h.lease key old hold
    refine ⟨n, ?_, hpeer ▸ hobject.step s⟩
    rw [leaseMaker_step hfind, if_neg (by simp [hclaims]), hmaker]
  have hafter : (t.act s).impl.authorityLeases.find? key = some lease := hfind
  -- A lease that is just as it was is not claimed.
  have hsame : t.impl.authorityLeases.find? key = some lease →
      ∃ n, (t.step s).leaseMaker key = some n ∧ (t.step s).HasObject n lease.peerId := by
    intro hold
    refine hkept lease hold rfl ?_
    cases s <;> simp [Threads.claimsLease, hafter, hold]
  cases acts t s with
  | @receive n peer clock envelope _ hobject himpl =>
    have hreceived := hafter
    rw [himpl] at hreceived
    rcases lease_receive hreceived with ⟨old, hold, hpeer, hunless⟩ | ⟨hrequest, hclaim, hpeer⟩
    · by_cases hrenew : envelope.operation = AuthorityOperation.renew
      · refine hkept old hold hpeer ?_
        simp only [Threads.claimsLease, hrenew]
        rfl
      · exact hsame (hunless hrenew ▸ hold)
    · by_cases hbefore : t.impl.authorityLeases.find? key = some lease
      · exact hsame hbefore
      · refine ⟨n, ?_, Threads.HasObject.step ⟨_, hobject, hpeer.symm⟩ _⟩
        rw [leaseMaker_step hfind, if_pos]
        · simp [Threads.maker, hobject, hrequest, hclaim]
        · simpa [Threads.claimsLease, hclaim, hafter] using Ne.symm hbefore
  | openSession himpl =>
    rw [himpl] at hafter
    rw [leases_openSession] at hafter
    exact hsame hafter
  | @drop n peer _ hobject himpl =>
    rw [himpl] at hafter
    exact hsame (lease_dropPeer hafter)
  | enter peer himpl =>
    rw [himpl] at hafter
    exact hsame hafter
  | quiet _ hleases =>
    rw [hleases] at hafter
    exact hsame hafter

/-- **The step lemma.** -/
theorem known_step (h : Known t) (s : ThreadStep) : Known (t.step s) :=
  ⟨h.map_step s, h.session_step s, h.lease_step s⟩

end known

/-- Sessions and leases have a maker of their peer id, in every run. -/
theorem makers_threadsRun (config : RuntimeConfig) (steps : List ThreadStep) :
    Known (Threads.run config steps) := by
  refine List.foldlRecOn (motive := Known) steps Threads.step ?_ fun _ h s _ => known_step h s
  constructor
  · intro peerId connection hfind
    exact absurd hfind (by simp [Threads.started])
  · intro key session hfind
    exact absurd hfind (by simp [Threads.started])
  · intro key lease hfind
    exact absurd hfind (by simp [Threads.started])

/-! ### Teardowns and newer connections -/

/-- A teardown takes nothing that was made on a newer connection of the same id. -/
def Spares (t : Threads) (s : ThreadStep) : Prop :=
  ∀ o, s = .drop o → ∀ n peerId, o < n → t.HasObject o peerId → t.HasObject n peerId →
    (∀ key, t.sessionMaker key = some n → (t.impl.sessions.find? key).isSome →
      ((t.step s).impl.sessions.find? key).isSome) ∧
    ∀ key, t.leaseMaker key = some n → (t.impl.authorityLeases.find? key).isSome →
      ((t.step s).impl.authorityLeases.find? key).isSome

/-- When a session is made or a lease claimed on a connection, every older connection
of the same id has run its teardown. -/
def Settled (t : Threads) (s : ThreadStep) : Prop := (t.maker s).all t.settled = true

instance (t : Threads) (s : ThreadStep) : Decidable (Settled t s) :=
  inferInstanceAs (Decidable (_ = true))

section settled

variable {t : Threads} {s : ThreadStep} {n : ℕ} {peerId : Text}

theorem settled_iff (h : t.HasObject n peerId) :
    t.settled n = true ↔ ∀ m older, m < n → t.objects[m]? = some older →
      older.peer.id = peerId → older.phase = .dropped := by
  obtain ⟨newer, hnewer, rfl⟩ := h
  unfold Threads.settled
  rw [hnewer]
  simp only [List.all_eq_true, Bool.or_eq_true, decide_eq_true_iff, List.mem_iff_getElem?]
  constructor
  · intro hall m older hlt hm hid
    refine (hall older ⟨m, ?_⟩).resolve_left (fun hne => hne hid)
    rw [List.getElem?_take_of_lt hlt]
    exact hm
  · rintro hall older ⟨m, hm⟩
    rw [List.getElem?_take] at hm
    split at hm
    · next hlt =>
      by_cases hid : older.peer.id = newer.peer.id
      · exact Or.inr (hall m older hlt hm hid)
      · exact Or.inl hid
    · exact absurd hm (by simp)

/-- Connections that come later do not unsettle a connection. -/
theorem settled_step (hobject : t.HasObject n peerId) (h : t.settled n = true) (s : ThreadStep) :
    (t.step s).settled n = true := by
  have hall := (settled_iff hobject).mp h
  refine (settled_iff (hobject.step s)).mpr fun m older' hlt hm hid => ?_
  obtain ⟨newer, hnewer, -⟩ := hobject
  have hbefore : m < t.objects.length :=
    Nat.lt_trans hlt (List.getElem?_eq_some_iff.mp hnewer).1
  obtain ⟨older, hsame, hpeer, hdropped⟩ := object_act t s (List.getElem?_eq_getElem hbefore)
  obtain rfl := Option.some.inj (hsame.symm.trans hm)
  exact hdropped (hall m _ hlt (List.getElem?_eq_getElem hbefore) (hpeer ▸ hid))

/-- Everything was made on a settled connection. -/
structure MadeSettled (t : Threads) : Prop where
  known : Known t
  session : ∀ key n, t.sessionMaker key = some n →
    (∃ peerId, t.HasObject n peerId) ∧ t.settled n = true
  lease : ∀ key n, t.leaseMaker key = some n →
    (∃ peerId, t.HasObject n peerId) ∧ t.settled n = true

/-- The maker of a step is a connection. -/
theorem Known.hasObject_maker (h : Known t) (hmaker : t.maker s = some n) :
    ∃ peerId, t.HasObject n peerId := by
  unfold Threads.maker at hmaker
  split at hmaker
  · split at hmaker
    · next peer hobject =>
      split at hmaker
      · obtain rfl := Option.some.inj hmaker
        exact ⟨peer.id, _, hobject, rfl⟩
      · exact absurd hmaker (by simp)
    · exact absurd hmaker (by simp)
  · next peerId =>
    obtain ⟨connection, hconn, rfl⟩ := Option.map_eq_some_iff.mp hmaker
    exact ⟨peerId, h.map peerId connection hconn⟩
  · exact absurd hmaker (by simp)

/-- **The step lemma.** -/
theorem madeSettled_step (h : MadeSettled t) (hok : Settled t s) : MadeSettled (t.step s) := by
  have hnew : ∀ n, t.maker s = some n →
      (∃ peerId, (t.step s).HasObject n peerId) ∧ (t.step s).settled n = true := by
    intro n hmaker
    obtain ⟨peerId, hobject⟩ := h.known.hasObject_maker hmaker
    have hsettled : t.settled n = true := by
      simpa [Settled, hmaker] using hok
    exact ⟨⟨peerId, hobject.step s⟩, settled_step hobject hsettled s⟩
  have hold : ∀ n, (∃ peerId, t.HasObject n peerId) ∧ t.settled n = true →
      (∃ peerId, (t.step s).HasObject n peerId) ∧ (t.step s).settled n = true := by
    rintro n ⟨⟨peerId, hobject⟩, hsettled⟩
    exact ⟨⟨peerId, hobject.step s⟩, settled_step hobject hsettled s⟩
  refine ⟨known_step h.known s, fun key n hmaker => ?_, fun key n hmaker => ?_⟩
  · obtain ⟨session, hfind, hmade⟩ := Option.bind_eq_some_iff.mp hmaker
    split at hmade
    · exact hnew n hmade
    · exact hold n (h.session key n hmade)
  · obtain ⟨lease, hfind, hmade⟩ := Option.bind_eq_some_iff.mp hmaker
    split at hmade
    · exact hnew n hmade
    · exact hold n (h.lease key n hmade)

/-- What was made on a settled connection is out of reach for older ones. -/
theorem MadeSettled.spares (h : MadeSettled t) (s : ThreadStep) : Spares t s := by
  rintro o rfl n peerId hlt ⟨older, holder, hid⟩ hnewer
  -- A teardown that is still ahead cannot be that of an older connection.
  have hended : ∀ peer, t.objects[o]? = some ⟨peer, .ended⟩ → t.settled n ≠ true := by
    intro peer hobject hsettled
    obtain rfl := Option.some.inj (holder.symm.trans hobject)
    exact absurd ((settled_iff hnewer).mp hsettled o _ hlt hobject hid) (by simp)
  have hstill : t.settled n = true → (t.step (.drop o)).impl = t.impl := by
    intro hsettled
    show (t.act (.drop o)).impl = t.impl
    simp only [Threads.act]
    split
    · next peer hobject => exact absurd hsettled (hended peer hobject)
    · rfl
  constructor
  · intro key hmaker hsome
    rwa [hstill (h.session key n hmaker).2]
  · intro key hmaker hsome
    rwa [hstill (h.lease key n hmaker).2]

end settled

theorem madeSettled_started (config : RuntimeConfig) : MadeSettled (Threads.started config) := by
  refine ⟨makers_threadsRun config [], ?_, ?_⟩
  · intro key n hmaker
    exact absurd hmaker (by simp [Threads.started])
  · intro key n hmaker
    exact absurd hmaker (by simp [Threads.started])

/-- **No teardown hits a newer connection**, in every run in which sessions are made and
leases claimed on settled connections. -/
theorem spares_threadsRun (config : RuntimeConfig) (steps : List ThreadStep)
    (hok : Run.Along Threads.step Settled (Threads.started config) steps) :
    Run.Along Threads.step Spares (Threads.started config) steps :=
  Run.Along.imp (motive := MadeSettled) (fun _ _ h hstep => madeSettled_step h hstep)
    (fun _ s h _ => h.spares s) (madeSettled_started config) hok

/-- The address is connected to again after the teardown. -/
def reconnectedAfter : List ThreadStep :=
  [.connectLookup sampleControl none, .connectInsert 0, .openSession {} sampleControl.id,
    .endLoop 0, .reap, .drop 0,
    .connectLookup sampleControl none, .connectInsert 0, .openSession {} sampleControl.id,
    .endLoop 1, .drop 1]

theorem spares_reconnectedAfter :
    Run.Along Threads.step Spares (Threads.started {}) reconnectedAfter :=
  spares_threadsRun {} reconnectedAfter (by decide)

/-- The connection breaks, the accept thread takes it out of the map, and the address is
connected to again before the teardown. -/
def reconnectedBefore : List ThreadStep :=
  [.connectLookup sampleControl none, .connectInsert 0, .openSession {} sampleControl.id,
    .endLoop 0, .reap,
    .connectLookup sampleControl none, .connectInsert 0, .openSession {} sampleControl.id,
    .drop 0]

/-- The second session goes with the first connection. -/
theorem reconnectedBefore_lost :
    ¬ Run.Along Threads.step Spares (Threads.started {}) reconnectedBefore := by
  intro h
  obtain ⟨-, -, -, -, -, -, -, -, hspares, -⟩ := h
  have hkept := (hspares 0 rfl 1 sampleControl.id (by decide) ⟨_, rfl, rfl⟩ ⟨_, rfl, rfl⟩).1
    ⟨sampleControl.id, 2⟩ (by decide) (by decide)
  exact absurd hkept (by decide)

/-! The condition is met when connections enter the map only after the teardowns of
their id. -/

/-- A connection enters the map when every other one of its id has run its teardown. -/
def EntersSettled (t : Threads) (s : ThreadStep) : Prop :=
  ∀ peer, (t.act s).objects = t.objects ++ [⟨peer, .reading⟩] →
    ∀ object ∈ t.objects, object.peer.id = peer.id → object.phase = .dropped

theorem allSettled_step {t : Threads} {s : ThreadStep} (hok : EntersSettled t s)
    (h : ∀ n peerId, t.HasObject n peerId → t.settled n = true) (n : ℕ) (peerId : Text)
    (hobject : (t.step s).HasObject n peerId) : (t.step s).settled n = true := by
  by_cases hbefore : n < t.objects.length
  · have hold : t.HasObject n t.objects[n].peer.id := ⟨_, List.getElem?_eq_getElem hbefore, rfl⟩
    exact settled_step hold (h n _ hold) s
  -- The connection is the one that has just entered.
  obtain ⟨object, hfind, rfl⟩ := hobject
  have hlast := (List.getElem?_eq_some_iff.mp hfind).1
  rcases objects_act t s with heq | ⟨peer, heq⟩ | ⟨m, other, phase, -, -, heq⟩
  · exact absurd (heq ▸ hlast) hbefore
  · obtain rfl : n = t.objects.length := by
      have hlength : n < (t.objects ++ [(⟨peer, .reading⟩ : ConnectionObject)]).length :=
        heq ▸ hlast
      rw [List.length_append, List.length_singleton] at hlength
      omega
    have hnew : object = ⟨peer, .reading⟩ := by
      replace hfind : (t.act s).objects[t.objects.length]? = some object := hfind
      rw [heq, List.getElem?_append_right (Nat.le_refl _), Nat.sub_self] at hfind
      exact (Option.some.inj hfind).symm
    refine (settled_iff ⟨object, hfind, rfl⟩).mpr fun m older hlt hm hid => ?_
    replace hm : (t.act s).objects[m]? = some older := hm
    rw [heq, List.getElem?_append_left hlt] at hm
    exact hok peer heq older (List.mem_of_getElem? hm) (by rw [hid, hnew])
  · have hlength : n < (t.objects.modify m fun object => { object with phase }).length :=
      heq ▸ hlast
    rw [List.length_modify] at hlength
    exact absurd hlength hbefore

/-- Then no teardown hits a newer connection either. -/
theorem spares_of_entersSettled (config : RuntimeConfig) (steps : List ThreadStep)
    (hok : Run.Along Threads.step EntersSettled (Threads.started config) steps) :
    Run.Along Threads.step Spares (Threads.started config) steps := by
  refine Run.Along.imp
    (motive := fun t => MadeSettled t ∧ ∀ n peerId, t.HasObject n peerId → t.settled n = true)
    ?_ (fun _ s h _ => h.1.spares s) ⟨madeSettled_started config, ?_⟩ hok
  · rintro t s ⟨hmade, hall⟩ hstep
    refine ⟨madeSettled_step hmade ?_, allSettled_step hstep hall⟩
    cases hmaker : t.maker s with
    | none => simp [Settled, hmaker]
    | some n =>
      obtain ⟨peerId, hobject⟩ := hmade.known.hasObject_maker hmaker
      simp [Settled, hmaker, hall n peerId hobject]
  · rintro n peerId ⟨object, hobject, -⟩
    exact absurd hobject (by simp [Threads.started])

section unsettled

variable {t : Threads} {n : ℕ} {peer : Peer}

/-- The loop of a connection ends, if it has not; the tables stay as they are. -/
theorem endLoop_step {phase : LoopPhase} (hobject : t.objects[n]? = some ⟨peer, phase⟩)
    (hphase : phase ≠ .dropped) :
    (t.step (.endLoop n)).objects[n]? = some ⟨peer, .ended⟩ ∧
      (t.step (.endLoop n)).impl.sessions = t.impl.sessions ∧
      (t.step (.endLoop n)).impl.laneOwner = t.impl.laneOwner := by
  simp only [Threads.step, Threads.act, hobject]
  cases phase with
  | reading =>
    refine ⟨?_, ?_, ?_⟩
    · simp [Threads.setPhase, objects_stopRunning, List.getElem?_modify_eq, hobject]
    · simp only [Threads.setPhase, Threads.stopRunning]
      split <;> rfl
    · simp only [Threads.setPhase, Threads.stopRunning]
      split <;> rfl
  | ended => exact ⟨hobject, rfl, rfl⟩
  | dropped => exact absurd rfl hphase

/-- **The condition is needed**: a session made on a connection that is not settled is
lost to the next teardown of an older one, unless the id is that of a lane. -/
theorem lost_of_unsettled {key : SessionKey} (hsettled : t.settled n = false)
    (hobject : t.HasObject n key.peerId) (hmaker : t.sessionMaker key = some n)
    (hsome : (t.impl.sessions.find? key).isSome)
    (hlane : t.impl.laneOwner.find? key.peerId = none) :
    ∃ o, ¬ Run.Along Threads.step Spares t [.endLoop o, .drop o] := by
  have hnot : ¬ ∀ m older, m < n → t.objects[m]? = some older →
      older.peer.id = key.peerId → older.phase = .dropped := by
    rw [← settled_iff hobject, hsettled]
    simp
  push Not at hnot
  obtain ⟨o, ⟨peer, phase⟩, hlt, holder, hid, hphase⟩ := hnot
  replace hid : peer.id = key.peerId := hid
  refine ⟨o, fun ⟨_, hspares, _⟩ => ?_⟩
  -- The older loop ends, and drops what is filed under its id, the session among it.
  obtain ⟨hended, hsessions, hlanes⟩ := endLoop_step holder hphase
  obtain ⟨session, hfind⟩ := Option.isSome_iff_exists.mp hsome
  have hfind' : (t.step (.endLoop o)).impl.sessions.find? key = some session := hsessions ▸ hfind
  have hmaker' : (t.step (.endLoop o)).sessionMaker key = some n := by
    rw [sessionMaker_step hfind', makesSession_of_some (by simp) hfind]
    exact hmaker
  have hkept := (hspares o rfl n key.peerId hlt ⟨_, hended, hid⟩ (hobject.step _)).1 key hmaker'
    (hfind' ▸ rfl)
  have hgone : ((t.step (.endLoop o)).step (.drop o)).impl.sessions.find? key = none := by
    have hdrop : ((t.step (.endLoop o)).step (.drop o)).impl =
        (t.step (.endLoop o)).impl.step (.dropPeer peer) := by
      show ((t.step (.endLoop o)).act (.drop o)).impl = _
      simp only [Threads.act, hended]
      rfl
    rw [hdrop]
    refine find?_step_of_removed _ _ ?_
    simp [removesKey, hlanes, hlane, hid]
  rw [hgone] at hkept
  exact absurd hkept (by simp)

end unsettled

end YunLink
