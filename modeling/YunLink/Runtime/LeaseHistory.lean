import YunLink.Lib.Runs
import YunLink.Runtime.Session
import YunLink.Runtime.Runs

/-!
# Leases and their history

Who has authority over an entity can be read off the history of the requests and
their replies alone: the holder's latest grant has not expired, and nothing ended
it since.  The table of leases is meant to be no more than a summary of that.

It is one as long as no request is misdirected.  A renewal or release of an expired
lease acts on the lease behind it when that lease is the requester's own, and so
extends or drops a lease the history says nothing about.

## Main definitions

* `LeaseStep`, `LeaseRun` — runs of the operations that touch leases, with the
  history they leave.
* `Record.Grants`, `Record.Ends` — what a record of the history says about a holder.
* `Held` — authority, read off the history.
* `RefinesHistory` — the table of leases agrees with the history.

## Main results

* `leaseRun_refinesHistory` — **without misdirected requests the table refines the
  history.**
* `releaseExpired_not_refinesHistory` — a run in which one release of an expired
  lease takes away another, live one.
-/

namespace YunLink

/-! ### Runs -/

/-- The steps that reach the table of leases. -/
inductive LeaseStep
  | request (peer : Peer) (envelope : Envelope)
  | revoke (peerId : Text) (sessionId : UInt64) (entityUids : List Text)
  | setEntities (entities : List Text)
  | dropPeer (peer : Peer)
  | stop
  deriving DecidableEq, Inhabited

/-- One step and whether it succeeded.  Requests come from the receive loops, which
do not outlive the runtime; a request succeeds when its reply has reason code 0. -/
def leaseStep (impl : Impl) (clock : Clock) : LeaseStep → Impl × Bool
  | .request peer envelope =>
      -- `stop` joins the receive loops, so nobody is left to hand a request over.
      if !impl.running then (impl, false)
      else
        match runtimeHandleAuthority impl clock peer envelope with
        | none => (impl, false)
        | some impl' =>
            let outcome := authorityOutcome impl.authorityLeases clock.steady peer.id envelope
            (impl', outcome.2.reasonCode = 0)
  | .revoke peerId sessionId entityUids =>
      (runtimeRevokeAuthority impl peerId sessionId entityUids, true)
  | .setEntities entities =>
      ((setEntities impl entities).1, (setEntities impl entities).2 = .ok)
  | .dropPeer peer => (runtimeDropPeerState impl peer, true)
  | .stop => (stop impl, true)

/-- An entry of the history. -/
structure Record where
  now : ℕ
  step : LeaseStep
  succeeded : Bool
  deriving DecidableEq, Inhabited

/-- A runtime, the last reading of the clock and the history, newest entry first. -/
structure LeaseRun where
  impl : Impl
  now : ℕ := 0
  history : List Record := []

/-- The record a step leaves. -/
def LeaseRun.record (run : LeaseRun) (input : Clock × LeaseStep) : Record :=
  ⟨input.1.steady, input.2, (leaseStep run.impl input.1 input.2).2⟩

/-- One step; the time and the record are noted. -/
def LeaseRun.step (run : LeaseRun) (input : Clock × LeaseStep) : LeaseRun where
  impl := (leaseStep run.impl input.1 input.2).1
  now := input.1.steady
  history := run.record input :: run.history

/-- A run from a runtime without leases. -/
def leaseRun (impl : Impl) (inputs : List (Clock × LeaseStep)) : LeaseRun :=
  inputs.foldl LeaseRun.step { impl := { impl with running := true, authorityLeases := .empty } }

/-- The inputs a run may take: the clock does not go back, and no lane is dropped. -/
def admissible (run : LeaseRun) (input : Clock × LeaseStep) : Bool :=
  run.now ≤ input.1.steady &&
    match input.2 with
    | .dropPeer peer => run.impl.laneOwner.find? peer.id = none
    | _ => true

/-- A request that acts on the lease behind its key. -/
def misdirectedRequest (run : LeaseRun) (input : Clock × LeaseStep) : Bool :=
  match input.2 with
  | .request peer envelope =>
      (authorityRequest envelope).any fun (key, _) =>
        misdirected run.impl.authorityLeases input.1.steady ⟨peer.id, envelope.sessionId⟩
          envelope.operation key
  | _ => false

/-! ### Reading the history -/

/-- What a request asked for. -/
structure Served where
  operation : UInt8
  key : LeaseKey
  holder : SessionKey
  leaseTtl : ℕ
  allowPreempt : Bool
  deriving DecidableEq, Inhabited

namespace Record

/-- The request of a record, if it succeeded. -/
def served (record : Record) : Option Served :=
  match record.step with
  | .request peer envelope =>
      if record.succeeded then
        (authorityRequest envelope).map fun (key, request) =>
          ⟨envelope.operation, key, ⟨peer.id, envelope.sessionId⟩,
            milliseconds request.leaseTtlMs, request.allowPreempt⟩
      else none
  | _ => none

/-- A successful claim of the holder. -/
def Claims (record : Record) (key : LeaseKey) (holder : SessionKey) : Prop :=
  ∃ served, record.served = some served ∧ served.key = key ∧ served.holder = holder ∧
    served.operation = AuthorityOperation.claim

/-- A successful claim or renewal of the holder, good for `leaseTtl`. -/
def Grants (record : Record) (key : LeaseKey) (holder : SessionKey) (leaseTtl : ℕ) : Prop :=
  ∃ served, record.served = some served ∧ served.key = key ∧ served.holder = holder ∧
    (served.operation = AuthorityOperation.claim ∨ served.operation = AuthorityOperation.renew) ∧
    served.leaseTtl = leaseTtl

/-- What takes authority away from a holder. -/
def Ends (record : Record) (key : LeaseKey) (holder : SessionKey) : Prop :=
  match record.step with
  | .request _ _ => ∃ served, record.served = some served ∧ served.key = key ∧
      (served.operation = AuthorityOperation.release ∧ served.holder = holder ∨
        served.operation = AuthorityOperation.claim ∧ served.holder ≠ holder)
  | .revoke peerId sessionId entityUids =>
      holder = ⟨peerId, sessionId⟩ ∧ (entityUids = [] ∨ key.entityUid ∈ entityUids)
  | .setEntities entities => record.succeeded = true ∧ key.entityUid ∉ entities
  | .dropPeer peer => holder.peerId = peer.id
  | .stop => True

end Record

/-- The holder made a successful claim, its latest grant lasts beyond `time`, and
nothing ended it since. -/
def Held (history : List Record) (key : LeaseKey) (holder : SessionKey) (time : ℕ) : Prop :=
  (∃ record ∈ history, record.Claims key holder) ∧
    Run.Since
      (fun record => ∃ leaseTtl, record.Grants key holder leaseTtl ∧ time < record.now + leaseTtl)
      (fun record => (∃ leaseTtl, record.Grants key holder leaseTtl) ∨ record.Ends key holder)
      history

/-- **The table agrees with the history**: from the last reading of the clock on,
the two queries answer what the history says, there is one holder at a time, and a
claim without preemption succeeded only where nobody else held the key. -/
structure RefinesHistory (run : LeaseRun) : Prop where
  hasAuthority_iff : ∀ key holder time, run.now ≤ time →
    (hasAuthority run.impl time holder.peerId holder.sessionId key.entityUid key.authorityScope =
      true ↔ Held run.history key holder time)
  authorized_iff : ∀ key (holder : SessionKey) time peer envelope, run.now ≤ time →
    isGoalOrCancel envelope = true → envelope.target = .ofEntity key.entityUid →
    authorityScope run.impl.config envelope.type = key.authorityScope →
    holder = ⟨peer.id, envelope.sessionId⟩ →
    (runtimeActionAuthorized run.impl time peer envelope = .ok () ↔
      Held run.history key holder time)
  unique : ∀ key holder holder' time, run.now ≤ time → Held run.history key holder time →
    Held run.history key holder' time → holder = holder'
  unpreempted : ∀ newer record older served holder, run.history = newer ++ record :: older →
    record.served = some served → served.operation = AuthorityOperation.claim →
    served.allowPreempt = false → Held older served.key holder record.now →
    holder = served.holder

/-! ### One more record -/

section cons

variable {record : Record} {older : List Record} {key : LeaseKey} {holder : SessionKey} {time : ℕ}

theorem Record.Claims.grants (h : record.Claims key holder) :
    ∃ leaseTtl, record.Grants key holder leaseTtl := by
  obtain ⟨served, hserved, hkey, hholder, hop⟩ := h
  exact ⟨served.leaseTtl, served, hserved, hkey, hholder, Or.inl hop, rfl⟩

/-- A grant replaces all that was before, but for the claim it rests on. -/
theorem held_cons_grants {leaseTtl : ℕ} (h : record.Grants key holder leaseTtl) :
    Held (record :: older) key holder time ↔
      (record.Claims key holder ∨ ∃ r ∈ older, r.Claims key holder) ∧
        time < record.now + leaseTtl := by
  have hsame : ∀ ttl, record.Grants key holder ttl → ttl = leaseTtl := by
    rintro ttl ⟨served, hserved, -, -, -, httl⟩
    obtain ⟨served', hserved', -, -, -, httl'⟩ := h
    obtain rfl := Option.some.inj (hserved.symm.trans hserved')
    exact httl.symm.trans httl'
  unfold Held
  rw [List.exists_mem_cons_iff, Run.since_cons]
  refine and_congr Iff.rfl ⟨?_, fun htime => Or.inl ⟨leaseTtl, h, htime⟩⟩
  rintro (⟨ttl, hgrants, htime⟩ | ⟨hnone, -⟩)
  · rwa [← hsame ttl hgrants]
  · exact absurd (Or.inl ⟨leaseTtl, h⟩) hnone

/-- A record that grants the holder nothing only may end what was before. -/
theorem held_cons_of_not_grants (h : ∀ leaseTtl, ¬ record.Grants key holder leaseTtl) :
    Held (record :: older) key holder time ↔
      ¬ record.Ends key holder ∧ Held older key holder time := by
  have hclaims : ¬ record.Claims key holder := by
    intro hclaim
    obtain ⟨leaseTtl, hgrants⟩ := hclaim.grants
    exact h leaseTtl hgrants
  unfold Held
  rw [List.exists_mem_cons_iff, Run.since_cons]
  constructor
  · rintro ⟨hclaim, ⟨ttl, hgrants, -⟩ | ⟨hends, hsince⟩⟩
    · exact absurd hgrants (h ttl)
    · exact ⟨fun hend => hends (Or.inr hend), hclaim.resolve_left hclaims, hsince⟩
  · rintro ⟨hends, hclaim, hsince⟩
    refine ⟨Or.inr hclaim, Or.inr ⟨?_, hsince⟩⟩
    rintro (⟨ttl, hgrants⟩ | hend)
    · exact h ttl hgrants
    · exact hends hend

/-! How the requests that succeed read in the history. -/

variable {served : Served}

theorem grants_iff_of_served (h : record.served = some served) {leaseTtl : ℕ} :
    record.Grants key holder leaseTtl ↔ served.key = key ∧ served.holder = holder ∧
      (served.operation = AuthorityOperation.claim ∨ served.operation = AuthorityOperation.renew) ∧
      served.leaseTtl = leaseTtl := by
  unfold Record.Grants
  simp [h]

theorem ends_iff_of_served (h : record.served = some served) :
    record.Ends key holder ↔ served.key = key ∧
      (served.operation = AuthorityOperation.release ∧ served.holder = holder ∨
        served.operation = AuthorityOperation.claim ∧ served.holder ≠ holder) := by
  cases hstep : record.step with
  | request peer envelope => simp [Record.Ends, hstep, h]
  | revoke peerId sessionId entityUids => simp [Record.served, hstep] at h
  | setEntities entities => simp [Record.served, hstep] at h
  | dropPeer peer => simp [Record.served, hstep] at h
  | stop => simp [Record.served, hstep] at h

theorem held_cons_release (h : record.served = some served)
    (hop : served.operation = AuthorityOperation.release) :
    Held (record :: older) served.key holder time ↔
      served.holder ≠ holder ∧ Held older served.key holder time := by
  rw [held_cons_of_not_grants, ends_iff_of_served h, hop]
  · simp [AuthorityOperation.release, AuthorityOperation.claim]
  · intro leaseTtl
    rw [grants_iff_of_served h, hop]
    simp [AuthorityOperation.release, AuthorityOperation.claim, AuthorityOperation.renew]

theorem held_cons_renew_self (h : record.served = some served)
    (hop : served.operation = AuthorityOperation.renew) :
    Held (record :: older) served.key served.holder time ↔
      (∃ r ∈ older, r.Claims served.key served.holder) ∧ time < record.now + served.leaseTtl := by
  have hgrants : record.Grants served.key served.holder served.leaseTtl :=
    (grants_iff_of_served h).mpr ⟨rfl, rfl, Or.inr hop, rfl⟩
  have hclaims : ¬ record.Claims served.key served.holder := by
    rintro ⟨served', hserved', -, -, hclaim⟩
    obtain rfl := Option.some.inj (h.symm.trans hserved')
    exact absurd (hop.symm.trans hclaim) (by decide)
  rw [held_cons_grants hgrants]
  simp only [hclaims, false_or]

theorem held_cons_renew_other (h : record.served = some served)
    (hop : served.operation = AuthorityOperation.renew) (hother : served.holder ≠ holder) :
    Held (record :: older) served.key holder time ↔ Held older served.key holder time := by
  rw [held_cons_of_not_grants, ends_iff_of_served h, hop]
  · simp [AuthorityOperation.release, AuthorityOperation.claim, AuthorityOperation.renew]
  · intro leaseTtl
    rw [grants_iff_of_served h]
    exact fun hgrants => hother hgrants.2.1

theorem held_cons_claim (h : record.served = some served)
    (hop : served.operation = AuthorityOperation.claim) :
    Held (record :: older) served.key holder time ↔
      time < record.now + served.leaseTtl ∧ served.holder = holder := by
  by_cases hself : served.holder = holder
  · subst hself
    have hgrants : record.Grants served.key served.holder served.leaseTtl :=
      (grants_iff_of_served h).mpr ⟨rfl, rfl, Or.inl hop, rfl⟩
    have hclaims : record.Claims served.key served.holder := ⟨served, h, rfl, rfl, hop⟩
    rw [held_cons_grants hgrants]
    simp only [hclaims, true_or, true_and, and_true]
  · rw [held_cons_of_not_grants, ends_iff_of_served h]
    · simp [hself, hop]
    · intro leaseTtl
      rw [grants_iff_of_served h]
      exact fun hgrants => hself hgrants.2.1

end cons

/-! ### The table as a summary -/

/-- The table has a lease of the holder that lasts beyond `time`. -/
def HolderAt (leases : LeaseTable) (time : ℕ) (key : LeaseKey) (holder : SessionKey) : Prop :=
  ∃ lease, leases.find? key = some lease ∧ time < lease.expiresAt ∧ lease.holder = holder

theorem HolderAt.unique {leases : LeaseTable} {time : ℕ} {key : LeaseKey}
    {holder holder' : SessionKey} (h : HolderAt leases time key holder)
    (h' : HolderAt leases time key holder') : holder = holder' := by
  obtain ⟨lease, hfind, -, rfl⟩ := h
  obtain ⟨lease', hfind', -, rfl⟩ := h'
  rw [Option.some.inj (hfind.symm.trans hfind')]

theorem holderAt_of_live {leases : LeaseTable} {now : ℕ} {key : LeaseKey} {lease : AuthorityLease}
    (h : liveLease leases now key = some lease) : HolderAt leases now key lease.holder := by
  obtain ⟨hfind, hlive⟩ := liveLease_eq_some.mp h
  exact ⟨lease, hfind, hlive, rfl⟩

/-- A holder beyond some time is the holder at that time. -/
theorem HolderAt.mono {leases : LeaseTable} {now time : ℕ} {key : LeaseKey} {holder : SessionKey}
    (h : HolderAt leases time key holder) (hle : now ≤ time) : HolderAt leases now key holder := by
  obtain ⟨lease, hfind, hlive, hholder⟩ := h
  exact ⟨lease, hfind, hle.trans_lt hlive, hholder⟩

/-- The table after the key was given to a holder. -/
theorem holderAt_insert_iff {leases : LeaseTable} {time expiresAt : ℕ} {key : LeaseKey}
    {holder holder' : SessionKey}
    (h : leases.find? key = some ⟨holder.peerId, holder.sessionId, expiresAt⟩) :
    HolderAt leases time key holder' ↔ time < expiresAt ∧ holder = holder' := by
  unfold HolderAt
  rw [h]
  constructor
  · rintro ⟨lease, hlease, hlive, hholder⟩
    obtain rfl := Option.some.inj hlease
    exact ⟨hlive, hholder⟩
  · rintro ⟨hlive, hholder⟩
    exact ⟨_, rfl, hlive, hholder⟩

/-- Purging an expired lease does not change who holds anything from now on. -/
theorem holderAt_purged_iff {leases leases' : LeaseTable} {now time : ℕ} {key k : LeaseKey}
    {holder : SessionKey} (htime : now ≤ time)
    (hfind : leases'.find? k = if k = key then liveLease leases now key else leases.find? k) :
    HolderAt leases' time k holder ↔ HolderAt leases time k holder := by
  unfold HolderAt
  rw [hfind]
  split
  · next hk =>
    subst hk
    simp only [liveLease_eq_some]
    constructor
    · rintro ⟨lease, ⟨hold, -⟩, hrest⟩
      exact ⟨lease, hold, hrest⟩
    · rintro ⟨lease, hold, hlive, hrest⟩
      exact ⟨lease, ⟨hold, htime.trans_lt hlive⟩, hlive, hrest⟩
  · exact Iff.rfl

section key

variable {leases leases' : LeaseTable} {record : Record} {older : List Record} {served : Served}
  {lease : AuthorityLease}

/-- At the key of a release, the table keeps to the history. -/
theorem holderAt_release_iff (hserved : record.served = some served)
    (hop : served.operation = AuthorityOperation.release)
    (hbefore : ∀ holder time, record.now ≤ time →
      (HolderAt leases time served.key holder ↔ Held older served.key holder time))
    (hlive : liveLease leases record.now served.key = some lease)
    (hholder : lease.holder = served.holder) (hfind : leases'.find? served.key = none)
    {holder : SessionKey} {time : ℕ} (htime : record.now ≤ time) :
    HolderAt leases' time served.key holder ↔
      Held (record :: older) served.key holder time := by
  rw [held_cons_release hserved hop, ← hbefore holder time htime]
  constructor
  · rintro ⟨lease', hnew, -⟩
    exact absurd (hfind.symm.trans hnew) (by simp)
  · rintro ⟨hother, hat⟩
    have hsame := (holderAt_of_live hlive).unique (hat.mono htime)
    exact absurd (hholder.symm.trans hsame) hother

/-- At the key of a renewal: the claim it rests on is in the history, since the lease
was held until now. -/
theorem holderAt_renew_iff (hserved : record.served = some served)
    (hop : served.operation = AuthorityOperation.renew)
    (hbefore : ∀ holder time, record.now ≤ time →
      (HolderAt leases time served.key holder ↔ Held older served.key holder time))
    (hlive : liveLease leases record.now served.key = some lease)
    (hholder : lease.holder = served.holder)
    (hfind : leases'.find? served.key =
      some ⟨served.holder.peerId, served.holder.sessionId, record.now + served.leaseTtl⟩)
    {holder : SessionKey} {time : ℕ} (htime : record.now ≤ time) :
    HolderAt leases' time served.key holder ↔
      Held (record :: older) served.key holder time := by
  rw [holderAt_insert_iff hfind]
  have hat := holderAt_of_live hlive
  rw [hholder] at hat
  by_cases hself : served.holder = holder
  · subst hself
    have hheld := (hbefore served.holder record.now le_rfl).mp hat
    rw [held_cons_renew_self hserved hop]
    exact ⟨fun hnew => ⟨hheld.1, hnew.1⟩, fun hold => ⟨hold.2, rfl⟩⟩
  · rw [held_cons_renew_other hserved hop hself, ← hbefore holder time htime]
    constructor
    · rintro ⟨-, hsame⟩
      exact absurd hsame hself
    · intro hother
      exact absurd (hat.unique (hother.mono htime)) hself

end key

/-- The invariant of runs without misdirected requests. -/
structure Summarizes (run : LeaseRun) : Prop where
  stopped : run.impl.running = false → ∀ key, run.impl.authorityLeases.find? key = none
  holder_iff : ∀ key holder time, run.now ≤ time →
    (HolderAt run.impl.authorityLeases time key holder ↔ Held run.history key holder time)
  unpreempted : ∀ newer record older served holder, run.history = newer ++ record :: older →
    record.served = some served → served.operation = AuthorityOperation.claim →
    served.allowPreempt = false → Held older served.key holder record.now →
    holder = served.holder

theorem summarizes_start (impl : Impl) :
    Summarizes { impl := { impl with running := true, authorityLeases := .empty } } where
  stopped := fun h => absurd h (by simp)
  holder_iff := by
    intro key holder time _
    constructor
    · rintro ⟨lease, hfind, -⟩
      exact absurd hfind (by simp)
    · rintro ⟨-, hsince⟩
      exact absurd hsince Run.not_since_nil
  unpreempted := by
    intro newer record older served holder h
    exact absurd h.symm (by simp)

section steps

variable {run : LeaseRun} {input : Clock × LeaseStep}

/-- A claim without preemption only has to be looked at when it is made. -/
theorem Summarizes.unpreempted_step (h : Summarizes run)
    (hnew : ∀ served holder, (run.record input).served = some served →
      served.operation = AuthorityOperation.claim → served.allowPreempt = false →
      Held run.history served.key holder input.1.steady → holder = served.holder) :
    ∀ newer record older served holder, (run.step input).history = newer ++ record :: older →
      record.served = some served → served.operation = AuthorityOperation.claim →
      served.allowPreempt = false → Held older served.key holder record.now →
      holder = served.holder := by
  intro newer record older served holder heq hserved hop hpreempt hheld
  -- The record in question is the new one, or an old one with the same past as before.
  cases newer with
  | nil =>
    obtain ⟨rfl, rfl⟩ := List.cons.inj heq
    exact hnew served holder hserved hop hpreempt hheld
  | cons first newer =>
    obtain ⟨-, heq⟩ := List.cons.inj heq
    exact h.unpreempted newer record older served holder heq hserved hop hpreempt hheld

/-- Steps that serve no request, and erase exactly the leases their record ends. -/
theorem summarizes_erase (h : Summarizes run) (hclock : run.now ≤ input.1.steady)
    (hserved : (run.record input).served = none) {p : LeaseKey → AuthorityLease → Bool}
    (hfind : ∀ key, (run.step input).impl.authorityLeases.find? key =
      (run.impl.authorityLeases.find? key).filter fun lease => !p key lease)
    (hends : ∀ key lease, p key lease = true ↔ (run.record input).Ends key lease.holder)
    (hstopped : (run.step input).impl.running = false →
      run.impl.running = false ∨ ∀ key lease, p key lease = true) :
    Summarizes (run.step input) where
  stopped := by
    intro hstop key
    rw [hfind]
    rcases hstopped hstop with hold | hall
    · rw [h.stopped hold]
      rfl
    · cases run.impl.authorityLeases.find? key <;> simp [hall]
  holder_iff := by
    intro key holder time htime
    have hnone : ∀ leaseTtl, ¬ (run.record input).Grants key holder leaseTtl := by
      rintro leaseTtl ⟨served, hsome, -⟩
      exact absurd (hserved.symm.trans hsome) (by simp)
    rw [show (run.step input).history = run.record input :: run.history from rfl,
      held_cons_of_not_grants hnone, ← h.holder_iff key holder time (hclock.trans htime)]
    constructor
    · rintro ⟨lease, hnew, hlive, rfl⟩
      rw [hfind, Option.filter_eq_some_iff] at hnew
      refine ⟨fun hend => ?_, lease, hnew.1, hlive, rfl⟩
      rw [(hends key lease).mpr hend] at hnew
      exact absurd hnew.2 (by simp)
    · rintro ⟨hend, lease, hold, hlive, rfl⟩
      refine ⟨lease, ?_, hlive, rfl⟩
      rw [hfind, Option.filter_eq_some_iff]
      refine ⟨hold, ?_⟩
      rw [Bool.not_eq_true', ← Bool.not_eq_true, hends]
      exact hend
  unpreempted := by
    refine h.unpreempted_step ?_
    intro served holder hsome
    exact absurd (hserved.symm.trans hsome) (by simp)

theorem summarizes_revoke (h : Summarizes run) {clock : Clock} (hclock : run.now ≤ clock.steady)
    (peerId : Text) (sessionId : UInt64) (entityUids : List Text) :
    Summarizes (run.step (clock, .revoke peerId sessionId entityUids)) := by
  refine summarizes_erase h hclock rfl (fun key => SortedMap.find?_eraseIf _ _ key) ?_ Or.inl
  intro key lease
  simp [Record.Ends, LeaseRun.record, AuthorityLease.holder, and_comm]

theorem summarizes_setEntities (h : Summarizes run) {clock : Clock}
    (hclock : run.now ≤ clock.steady) (entities : List Text) :
    Summarizes (run.step (clock, .setEntities entities)) := by
  by_cases hvalid : entities.all validUid = true
  · have hset : setEntities run.impl entities =
        ({ run.impl with
          authorityLeases := run.impl.authorityLeases.eraseIf fun key _ =>
            !entities.contains key.entityUid
          config.entities := entities }, .ok) := by
      simp [setEntities, hvalid]
    refine summarizes_erase h hclock rfl
      (p := fun key _ => !entities.contains key.entityUid) ?_ ?_ ?_
    · intro key
      simp only [LeaseRun.step, leaseStep, hset, SortedMap.find?_eraseIf]
    · intro key lease
      simp [Record.Ends, LeaseRun.record, leaseStep, hset]
    · intro hstop
      simp only [LeaseRun.step, leaseStep, hset] at hstop
      exact Or.inl hstop
  · -- A list with an invalid UID is refused, and no lease ends.
    have hset : setEntities run.impl entities = (run.impl, .invalidArgument) := by
      simp [setEntities, hvalid]
    refine summarizes_erase h hclock rfl (p := fun _ _ => false) ?_ ?_ ?_
    · intro key
      simp only [LeaseRun.step, leaseStep, hset]
      cases run.impl.authorityLeases.find? key <;> rfl
    · intro key lease
      simp [Record.Ends, LeaseRun.record, leaseStep, hset]
    · intro hstop
      simp only [LeaseRun.step, leaseStep, hset] at hstop
      exact Or.inl hstop

theorem summarizes_dropPeer (h : Summarizes run) {clock : Clock} (hclock : run.now ≤ clock.steady)
    {peer : Peer} (hcontrol : run.impl.laneOwner.find? peer.id = none) :
    Summarizes (run.step (clock, .dropPeer peer)) := by
  obtain ⟨-, -, hleases, hrunning⟩ := drop_control run.impl peer hcontrol
  refine summarizes_erase h hclock rfl (p := fun _ lease => lease.peerId = peer.id) ?_ ?_ ?_
  · intro key
    simp only [LeaseRun.step, leaseStep, hleases, SortedMap.find?_eraseIf]
  · intro key lease
    simp [Record.Ends, LeaseRun.record, AuthorityLease.holder]
  · intro hstop
    exact Or.inl (hrunning.symm.trans hstop)

theorem summarizes_stop (h : Summarizes run) {clock : Clock} (hclock : run.now ≤ clock.steady) :
    Summarizes (run.step (clock, .stop)) := by
  refine summarizes_erase h hclock rfl (p := fun _ _ => true) ?_ ?_ fun _ => Or.inr fun _ _ => rfl
  · intro key
    simp only [LeaseRun.step, leaseStep, stop]
    cases hrun : run.impl.running with
    | false => simp [h.stopped hrun key]
    | true => simp
  · intro key lease
    simp [Record.Ends, LeaseRun.record]

/-! ### Requests -/

/-- The parts of a request's step that matter here. -/
theorem leaseStep_request {impl : Impl} (clock : Clock) (peer : Peer) {envelope : Envelope}
    (hrun : impl.running = true) (hrequest : isAuthorityRequest envelope = true) :
    (leaseStep impl clock (.request peer envelope)).1.authorityLeases =
        (authorityOutcome impl.authorityLeases clock.steady peer.id envelope).1 ∧
      (leaseStep impl clock (.request peer envelope)).1.running = true ∧
      (leaseStep impl clock (.request peer envelope)).2 =
        decide ((authorityOutcome impl.authorityLeases clock.steady peer.id envelope).2.reasonCode =
          0) := by
  simp only [leaseStep, hrun, runtimeHandleAuthority, hrequest, if_true, Bool.not_true]
  exact ⟨rfl, rfl, rfl⟩

/-- A request that does not succeed, and at most purges an expired lease. -/
theorem summarizes_refused (h : Summarizes run) {clock : Clock} {peer : Peer} {envelope : Envelope}
    (hclock : run.now ≤ clock.steady)
    (hfailed : (leaseStep run.impl clock (.request peer envelope)).2 = false)
    (hstopped : (leaseStep run.impl clock (.request peer envelope)).1.running = false →
      ∀ key, (leaseStep run.impl clock (.request peer envelope)).1.authorityLeases.find? key = none)
    (hsame : ∀ key holder time, clock.steady ≤ time →
      (HolderAt (leaseStep run.impl clock (.request peer envelope)).1.authorityLeases time key
          holder ↔
        HolderAt run.impl.authorityLeases time key holder)) :
    Summarizes (run.step (clock, .request peer envelope)) := by
  have hserved : (run.record (clock, .request peer envelope)).served = none := by
    simp [Record.served, LeaseRun.record, hfailed]
  refine ⟨hstopped, ?_, h.unpreempted_step ?_⟩
  · intro key holder time htime
    have hnone : ∀ leaseTtl,
        ¬ (run.record (clock, .request peer envelope)).Grants key holder leaseTtl := by
      rintro leaseTtl ⟨served, hsome, -⟩
      exact absurd (hserved.symm.trans hsome) (by simp)
    have hend : ¬ (run.record (clock, .request peer envelope)).Ends key holder := by
      rintro ⟨served, hsome, -⟩
      exact absurd (hserved.symm.trans hsome) (by simp)
    rw [show (run.step (clock, .request peer envelope)).history = _ :: run.history from rfl,
      held_cons_of_not_grants hnone, ← h.holder_iff key holder time (hclock.trans htime)]
    exact (hsame key holder time htime).trans ⟨fun hat => ⟨hend, hat⟩, And.right⟩
  · intro served holder hsome
    exact absurd (hserved.symm.trans hsome) (by simp)

/-- A request that succeeds only concerns its key. -/
theorem summarizes_served (h : Summarizes run) {clock : Clock} {peer : Peer} {envelope : Envelope}
    {served : Served} (hclock : run.now ≤ clock.steady)
    (hserved : (run.record (clock, .request peer envelope)).served = some served)
    (hrunning : (leaseStep run.impl clock (.request peer envelope)).1.running = true)
    (hother : ∀ key, key ≠ served.key →
      (leaseStep run.impl clock (.request peer envelope)).1.authorityLeases.find? key =
        run.impl.authorityLeases.find? key)
    (hkey : ∀ holder time, clock.steady ≤ time →
      (HolderAt (leaseStep run.impl clock (.request peer envelope)).1.authorityLeases time
          served.key holder ↔
        Held (run.record (clock, .request peer envelope) :: run.history) served.key holder time))
    (hclaim : ∀ holder, served.operation = AuthorityOperation.claim → served.allowPreempt = false →
      Held run.history served.key holder clock.steady → holder = served.holder) :
    Summarizes (run.step (clock, .request peer envelope)) := by
  refine ⟨?_, ?_, h.unpreempted_step ?_⟩
  · intro hstop
    exact absurd (hrunning.symm.trans hstop) (by decide)
  · intro key holder time htime
    by_cases hne : key = served.key
    · subst hne
      exact hkey holder time htime
    -- The record of a request neither grants nor ends a hold of another key.
    have hnone : ∀ leaseTtl,
        ¬ (run.record (clock, .request peer envelope)).Grants key holder leaseTtl := by
      rintro leaseTtl ⟨served', hsome, hsame, -⟩
      obtain rfl := Option.some.inj (hserved.symm.trans hsome)
      exact hne hsame.symm
    have hend : ¬ (run.record (clock, .request peer envelope)).Ends key holder := by
      rintro ⟨served', hsome, hsame, -⟩
      obtain rfl := Option.some.inj (hserved.symm.trans hsome)
      exact hne hsame.symm
    rw [show (run.step (clock, .request peer envelope)).history = _ :: run.history from rfl,
      held_cons_of_not_grants hnone, ← h.holder_iff key holder time (hclock.trans htime)]
    unfold HolderAt
    rw [show (run.step (clock, .request peer envelope)).impl.authorityLeases.find? key = _ from
      hother key hne]
    exact ⟨fun hat => ⟨hend, hat⟩, And.right⟩
  · intro served' holder hsome hop hpreempt hheld
    obtain rfl := Option.some.inj (hserved.symm.trans hsome)
    exact hclaim holder hop hpreempt hheld

/-- A valid request of a running runtime that is not misdirected. -/
theorem summarizes_valid (h : Summarizes run) {clock : Clock} {peer : Peer} {envelope : Envelope}
    {key : LeaseKey} {request : AuthorityRequest} (hclock : run.now ≤ clock.steady)
    (hrun : run.impl.running = true) (hrequest : isAuthorityRequest envelope = true)
    (hvalid : authorityRequest envelope = some (key, request))
    (hok : misdirected run.impl.authorityLeases clock.steady ⟨peer.id, envelope.sessionId⟩
      envelope.operation key = false) :
    Summarizes (run.step (clock, .request peer envelope)) := by
  obtain ⟨hleases, hrunning, hsucceeded⟩ :=
    leaseStep_request clock peer hrun hrequest
  have heffect := authorityTransition_effect hok request
  simp only [authorityOutcome, hvalid] at hleases hsucceeded
  generalize hout : authorityTransition run.impl.authorityLeases clock.steady
    ⟨peer.id, envelope.sessionId⟩ envelope.operation key request = out at hleases hsucceeded heffect
  -- The request as the history tells it, if it succeeded.
  let served : Served := ⟨envelope.operation, key, ⟨peer.id, envelope.sessionId⟩,
    milliseconds request.leaseTtlMs, request.allowPreempt⟩
  have hserved : out.2.reasonCode = 0 →
      (run.record (clock, .request peer envelope)).served = some served := by
    intro hcode
    simp [Record.served, LeaseRun.record, hsucceeded, hcode, hvalid, served]
  have hbefore : ∀ holder time, clock.steady ≤ time →
      (HolderAt run.impl.authorityLeases time key holder ↔ Held run.history key holder time) :=
    fun holder time htime => h.holder_iff key holder time (hclock.trans htime)
  cases heffect with
  | refused hcode hfind =>
    refine summarizes_refused h hclock (by rw [hsucceeded, decide_eq_false hcode]) ?_ ?_
    · intro hstop
      exact absurd (hrunning.symm.trans hstop) (by decide)
    · intro k holder time htime
      rw [hleases]
      exact holderAt_purged_iff htime (hfind k)
  | released lease hop hlive hholder hcode hfind =>
    refine summarizes_served h hclock (hserved hcode) hrunning ?_ ?_ ?_
    · intro k hk
      rw [hleases, hfind, if_neg hk]
    · intro holder time htime
      refine holderAt_release_iff (hserved hcode) hop hbefore hlive hholder ?_ htime
      rw [hleases, hfind, if_pos rfl]
    · intro holder hclaim
      exact absurd (hop.symm.trans hclaim) (by decide)
  | renewed lease hop hlive hholder hcode hfind =>
    refine summarizes_served h hclock (hserved hcode) hrunning ?_ ?_ ?_
    · intro k hk
      rw [hleases, hfind, if_neg hk]
    · intro holder time htime
      refine holderAt_renew_iff (hserved hcode) hop hbefore hlive hholder ?_ htime
      rw [hleases, hfind, if_pos rfl]
      rfl
    · intro holder hclaim
      exact absurd (hop.symm.trans hclaim) (by decide)
  | claimed hop hallowed hcode hfind =>
    refine summarizes_served h hclock (hserved hcode) hrunning ?_ ?_ ?_
    · intro k hk
      rw [hleases, hfind, if_neg hk]
    · intro holder time htime
      have hinsert := hfind key
      rw [if_pos rfl, ← hleases] at hinsert
      rw [holderAt_insert_iff hinsert, held_cons_claim (hserved hcode) hop]
      exact Iff.rfl
    · intro holder hclaim hpreempt hheld
      obtain ⟨lease, hold, hlive, rfl⟩ := (hbefore holder clock.steady le_rfl).mpr hheld
      have hpermitted := hallowed lease (liveLease_eq_some.mpr ⟨hold, hlive⟩)
      exact hpermitted.resolve_right (Bool.eq_false_iff.mp hpreempt)

theorem summarizes_request (h : Summarizes run) {clock : Clock} {peer : Peer} {envelope : Envelope}
    (hclock : run.now ≤ clock.steady)
    (hok : misdirectedRequest run (clock, .request peer envelope) = false) :
    Summarizes (run.step (clock, .request peer envelope)) := by
  -- Everything that is not a valid request leaves the runtime as it is, or answers only.
  have hnothing : (leaseStep run.impl clock (.request peer envelope)).2 = false →
      (leaseStep run.impl clock (.request peer envelope)).1.authorityLeases =
        run.impl.authorityLeases →
      (leaseStep run.impl clock (.request peer envelope)).1.running = run.impl.running →
      Summarizes (run.step (clock, .request peer envelope)) := by
    intro hfailed hleases hrunning
    refine summarizes_refused h hclock hfailed ?_ ?_
    · rw [hleases, hrunning]
      exact h.stopped
    · intro key holder time _
      rw [hleases]
  cases hrun : run.impl.running with
  | false =>
    have hstep : leaseStep run.impl clock (.request peer envelope) = (run.impl, false) := by
      simp [leaseStep, hrun]
    rw [hstep] at hnothing
    exact hnothing rfl rfl rfl
  | true =>
    cases hrequest : isAuthorityRequest envelope with
    | false =>
      have hstep : leaseStep run.impl clock (.request peer envelope) = (run.impl, false) := by
        simp [leaseStep, runtimeHandleAuthority, hrequest]
      rw [hstep] at hnothing
      exact hnothing rfl rfl rfl
    | true =>
      cases hvalid : authorityRequest envelope with
      | none =>
        obtain ⟨hleases, hrunning, hsucceeded⟩ := leaseStep_request clock peer hrun hrequest
        simp only [authorityOutcome, hvalid] at hleases hsucceeded
        exact hnothing hsucceeded hleases (hrunning.trans hrun.symm)
      | some valid =>
        obtain ⟨key, request⟩ := valid
        refine summarizes_valid h hclock hrun hrequest hvalid ?_
        simpa [misdirectedRequest, hvalid] using hok

/-- **The step lemma.** -/
theorem summarizes_step (h : Summarizes run) (hadmissible : admissible run input = true)
    (hok : misdirectedRequest run input = false) : Summarizes (run.step input) := by
  obtain ⟨clock, step⟩ := input
  obtain ⟨hclock, hlane⟩ := Bool.and_eq_true_iff.mp hadmissible
  replace hclock : run.now ≤ clock.steady := of_decide_eq_true hclock
  cases step with
  | request peer envelope => exact summarizes_request h hclock hok
  | revoke peerId sessionId entityUids =>
    exact summarizes_revoke h hclock peerId sessionId entityUids
  | setEntities entities => exact summarizes_setEntities h hclock entities
  | dropPeer peer => exact summarizes_dropPeer h hclock (of_decide_eq_true hlane)
  | stop => exact summarizes_stop h hclock

end steps

/-! ### The table refines the history -/

theorem hasAuthority_iff_holderAt (impl : Impl) (time : ℕ) (key : LeaseKey) (holder : SessionKey) :
    hasAuthority impl time holder.peerId holder.sessionId key.entityUid key.authorityScope = true ↔
      HolderAt impl.authorityLeases time key holder := by
  unfold hasAuthority HolderAt
  cases hfind : impl.authorityLeases.find? ⟨key.entityUid, key.authorityScope⟩ with
  | none => simp
  | some lease =>
    obtain ⟨peerId, sessionId⟩ := holder
    simp [AuthorityLease.holder, and_comm]

theorem authorized_iff_holderAt {impl : Impl} {time : ℕ} {peer : Peer} {envelope : Envelope}
    {entityUid : Text} (haction : isGoalOrCancel envelope = true)
    (htarget : envelope.target = .ofEntity entityUid) :
    runtimeActionAuthorized impl time peer envelope = .ok () ↔
      HolderAt impl.authorityLeases time ⟨entityUid, authorityScope impl.config envelope.type⟩
        ⟨peer.id, envelope.sessionId⟩ := by
  have hone : ¬ (envelope.target.scope ≠ .entity ∨ envelope.target.uids.length ≠ 1) := by
    simp [htarget, TargetSelector.ofEntity]
  have huid : envelope.target.uids.headD [] = entityUid := by
    simp [htarget, TargetSelector.ofEntity]
  simp only [runtimeActionAuthorized, haction, Bool.not_true, Bool.false_eq_true, if_false,
    if_neg hone, huid]
  cases hlive : liveLease impl.authorityLeases time
      ⟨entityUid, authorityScope impl.config envelope.type⟩ with
  | none =>
    constructor
    · intro h
      exact absurd h (by simp)
    · rintro ⟨lease, hfind, hlt, -⟩
      exact absurd (hlive.symm.trans (liveLease_eq_some.mpr ⟨hfind, hlt⟩)) (by simp)
  | some lease =>
    simp only
    split
    · next hholder => exact ⟨fun _ => hholder ▸ holderAt_of_live hlive, fun _ => rfl⟩
    · next hholder =>
      constructor
      · intro h
        exact absurd h (by simp)
      · intro hat
        exact absurd ((holderAt_of_live hlive).unique hat) hholder

theorem Summarizes.refinesHistory {run : LeaseRun} (h : Summarizes run) : RefinesHistory run where
  hasAuthority_iff := by
    intro key holder time htime
    rw [hasAuthority_iff_holderAt, h.holder_iff key holder time htime]
  authorized_iff := by
    rintro key holder time peer envelope htime haction htarget hscope rfl
    rw [authorized_iff_holderAt haction htarget, hscope, h.holder_iff key _ time htime]
  unique := by
    intro key holder holder' time htime hheld hheld'
    rw [← h.holder_iff key _ time htime] at hheld hheld'
    exact hheld.unique hheld'
  unpreempted := h.unpreempted

/-- **Without misdirected requests the table of leases refines the history.** -/
theorem leaseRun_refinesHistory (impl : Impl) (inputs : List (Clock × LeaseStep))
    (hok : Run.Along LeaseRun.step
      (fun run input => admissible run input = true ∧ misdirectedRequest run input = false)
      { impl := { impl with running := true, authorityLeases := .empty } } inputs) :
    RefinesHistory (leaseRun impl inputs) := by
  have hsummary : Summarizes (leaseRun impl inputs) :=
    hok.invariant (fun _ _ h hstep => summarizes_step h hstep.1 hstep.2) (summarizes_start impl)
  exact hsummary.refinesHistory

/-- A request of session 1 on one connection, at some milliseconds, about a scope of
one entity. -/
def sampleRequest (ms : UInt32) (operation : UInt8) (scope : String) (leaseTtlMs : UInt32) :
    Clock × LeaseStep :=
  (⟨0, milliseconds ms⟩,
    .request ⟨ascii "tcp://10.0.0.2:5000", ascii "10.0.0.2", 5000⟩
      (authorityEnvelope {} 1 operation (ascii "entity.alpha") ⟨ascii scope, leaseTtlMs, false⟩))

/-- A claim, its renewal and its release, with a revocation and a change of the
entities between them. -/
theorem leaseRun_refinesHistory_sample :
    RefinesHistory (leaseRun {} [
      sampleRequest 0 AuthorityOperation.claim "camera" 1000,
      sampleRequest 500 AuthorityOperation.renew "camera" 1000,
      (⟨0, milliseconds 600⟩, .revoke (ascii "tcp://10.0.0.3:5000") 1 []),
      (⟨0, milliseconds 700⟩, .setEntities [ascii "entity.alpha"]),
      sampleRequest 800 AuthorityOperation.release "camera" 1000]) := by
  apply leaseRun_refinesHistory
  decide

/-- Two claims, and the release of the first when it has expired. -/
def releaseExpired : List (Clock × LeaseStep) :=
  [sampleRequest 0 AuthorityOperation.claim "camera" 1,
    sampleRequest 0 AuthorityOperation.claim "mobility" 3600000,
    sampleRequest 2 AuthorityOperation.release "camera" 1]

/-- The release takes the second lease away, which still is held by the history. -/
theorem releaseExpired_not_refinesHistory :
    Run.Along LeaseRun.step (fun run input => admissible run input = true)
        { impl := { running := true } } releaseExpired ∧
      ¬ RefinesHistory (leaseRun {} releaseExpired) := by
  refine ⟨by decide, fun h => ?_⟩
  let key : LeaseKey := ⟨ascii "entity.alpha", ascii "mobility"⟩
  let holder : SessionKey := ⟨ascii "tcp://10.0.0.2:5000", 1⟩
  have hlost : hasAuthority (leaseRun {} releaseExpired).impl 2000000 holder.peerId
      holder.sessionId key.entityUid key.authorityScope = false := by
    decide
  obtain ⟨claimed, released, earlier, hhistory, hclaimed, hreleased, hnow⟩ :
      ∃ claimed released earlier,
        (leaseRun {} releaseExpired).history = released :: claimed :: earlier ∧
        claimed.served =
          some ⟨AuthorityOperation.claim, key, holder, milliseconds 3600000, false⟩ ∧
        released.served = some ⟨AuthorityOperation.release, ⟨ascii "entity.alpha", ascii "camera"⟩,
          holder, milliseconds 1, false⟩ ∧ claimed.now = 0 :=
    ⟨_, _, _, rfl, by decide, by decide, rfl⟩
  have hheld : Held (leaseRun {} releaseExpired).history key holder 2000000 := by
    rw [hhistory, held_cons_of_not_grants, ends_iff_of_served hreleased]
    · refine ⟨by decide, ?_⟩
      exact (held_cons_claim hclaimed rfl).mpr ⟨by rw [hnow]; decide, rfl⟩
    · intro leaseTtl
      rw [grants_iff_of_served hreleased]
      exact fun hgrants => absurd hgrants.1 (by decide)
  have hkept := (h.hasAuthority_iff key holder 2000000 (by decide)).mpr hheld
  exact absurd (hlost.symm.trans hkept) (by decide)

end YunLink
