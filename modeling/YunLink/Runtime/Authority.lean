import YunLink.Runtime.State

/-!
# Authority over entities

`runtime_handle_authority`, `runtime_action_authorized`, `has_authority` and
`revoke_authority` (`authority.cpp`), with `set_entities` (`runtime_api.cpp`).  A
lease gives one session authority over one entity and scope until it expires;
leases are purged only when a request comes in for the same key.

The request handler keeps an iterator into the table.  When the lease of the key
has expired it erases that lease and goes on with what `erase` returns, the entry
*behind* the key: `purgeExpired` models this as the source has it, and
`misdirected` names the requests that then act on the wrong lease.

## Main definitions

* `authorityRequest` — the request in an envelope, if it is a valid one.
* `purgeExpired`, `authorityTransition`, `authorityOutcome` — the handler's effect
  on the leases and its reply.
* `runtimeHandleAuthority`, `runtimeActionAuthorized`, `hasAuthority`,
  `runtimeRevokeAuthority`, `setEntities` — the functions of the source.
* `misdirected` — a request that acts on the lease behind its key.

## Main results

* `AuthorityEffect`, `authorityTransition_effect` — what a request does, when it
  is not misdirected.
* `authorityTransition_table` — the three ways a request changes the table of leases.
* `find?_of_authorityTransition` — **the leases after a request.**
-/

namespace YunLink

namespace AuthorityOperation

/-- Asks for a lease. -/
def claim : UInt8 := 1

/-- Asks for more time. -/
def renew : UInt8 := 2

/-- Gives a lease back. -/
def release : UInt8 := 3

/-- The operation of the answers, which asks for nothing. -/
def status : UInt8 := 4

end AuthorityOperation

namespace ActionOperation

/-- Starts an action. -/
def goal : UInt8 := 1

/-- Reports on an action; needs no lease. -/
def update : UInt8 := 2

/-- Stops an action. -/
def cancel : UInt8 := 3

end ActionOperation

/-- `authority_leases`. -/
abbrev LeaseTable := SortedMap LeaseKey AuthorityLease

/-- One hour. -/
def kMaximumAuthorityLeaseMs : UInt32 := 60 * 60 * 1000

/-! ### Requests -/

/-- The status before a request is looked at. -/
def invalidRequest : AuthorityStatus where
  state := ascii "rejected"
  reasonCode := ErrorCode.invalidArgument.toUInt16
  detail := ascii "invalid authority request"

/-- The request in an envelope with the key it is about, if it passes the checks. -/
def authorityRequest (envelope : Envelope) : Option (LeaseKey × AuthorityRequest) :=
  match AuthorityRequest.decode envelope.payload with
  | none => none
  | some request =>
      if envelope.target.scope ≠ .entity ∨ envelope.target.uids.length ≠ 1 ∨
          request.authorityScope = [] ∨ request.leaseTtlMs = 0 ∨
          kMaximumAuthorityLeaseMs < request.leaseTtlMs then none
      else some (⟨envelope.target.uids.headD [], request.authorityScope⟩, request)

/-- The iterator `existing` of the handler, after it erased an expired lease of
the key: erasing leaves it at the entry behind. -/
def purgeExpired (leases : LeaseTable) (now : ℕ) (key : LeaseKey) :
    LeaseTable × Option (LeaseKey × AuthorityLease) :=
  match leases.find? key with
  | none => (leases, none)
  | some lease =>
      -- `existing = erase(existing)` is not `end()` unless the key was the last one.
      if lease.expiresAt ≤ now then (leases.erase key, leases.next? key)
      else (leases, some (key, lease))

/-- The part of the handler under the mutex. -/
def authorityTransition (leases : LeaseTable) (now : ℕ) (holder : SessionKey) (operation : UInt8)
    (key : LeaseKey) (request : AuthorityRequest) : LeaseTable × AuthorityStatus :=
  let (leases, existing) := purgeExpired leases now key
  let owned := existing.filter fun entry => entry.2.holder = holder
  let status : AuthorityStatus :=
    { invalidRequest with
      authorityScope := request.authorityScope, leaseTtlMs := request.leaseTtlMs }
  let expiresAt := now + milliseconds request.leaseTtlMs
  if operation = AuthorityOperation.release then
    match owned with
    | some (k, _) =>
        (leases.erase k,
          { status with
            state := ascii "released", reasonCode := 0, detail := ascii "authority released" })
    | none =>
        (leases,
          { status with
            reasonCode := ErrorCode.unauthorized.toUInt16
            detail := ascii "authority is not owned by this session" })
  else if operation = AuthorityOperation.renew then
    match owned with
    | some (k, lease) =>
        (leases.insert k { lease with expiresAt },
          { status with
            state := ascii "controller", reasonCode := 0, detail := ascii "authority renewed" })
    | none =>
        (leases,
          { status with
            reasonCode := ErrorCode.unauthorized.toUInt16
            detail := ascii "authority cannot be renewed by this session" })
  else if operation = AuthorityOperation.claim then
    -- A claim writes its own key, whatever entry `existing` stands at.
    if existing.isNone || owned.isSome || request.allowPreempt then
      (leases.insert key ⟨holder.peerId, holder.sessionId, expiresAt⟩,
        { status with
          state := ascii "controller"
          reasonCode := 0
          detail := ascii (if owned.isSome then "authority refreshed" else "authority granted") })
    else
      (leases,
        { status with
          reasonCode := ErrorCode.conflict.toUInt16
          detail := ascii "authority is held by another session" })
  else (leases, status)

/-- The leases after a request from a peer, and the status it is answered with. -/
def authorityOutcome (leases : LeaseTable) (now : ℕ) (peerId : Text) (envelope : Envelope) :
    LeaseTable × AuthorityStatus :=
  match authorityRequest envelope with
  | none => (leases, invalidRequest)
  | some (key, request) =>
      authorityTransition leases now ⟨peerId, envelope.sessionId⟩ envelope.operation key request

/-- `send_status`. -/
def sendStatus (impl : Impl) (clock : Clock) (peer : Peer) (request : Envelope)
    (status : AuthorityStatus) : Impl :=
  let (impl, messageId) := impl.takeMessageId
  let response : Envelope :=
    { family := .authority
      operation := AuthorityOperation.status
      sessionId := request.sessionId
      messageId
      correlationId := request.messageId
      source := ⟨impl.config.endpointUid,
        if request.target.scope = .entity ∧ request.target.uids.length = 1 then
          request.target.uids.headD [] else []⟩
      target := .ofEndpoint request.source.endpointUid
      type := ⟨ascii "yunlink.core", 2, 0, ascii "authority.status"⟩
      createdAtMs := clock.nowMs
      ttlMs := 5000
      payload := status.encode }
  impl.write peer.id (WireCodec.encode response true clock.nowMs)

/-- An Authority envelope other than a status is a request. -/
def isAuthorityRequest (envelope : Envelope) : Bool :=
  envelope.family = .authority && envelope.operation ≠ AuthorityOperation.status

/-- `runtime_handle_authority`; `none` where it returns false. -/
def runtimeHandleAuthority (impl : Impl) (clock : Clock) (peer : Peer) (envelope : Envelope) :
    Option Impl :=
  if isAuthorityRequest envelope then
    let (leases, status) :=
      authorityOutcome impl.authorityLeases clock.steady peer.id envelope
    some (sendStatus { impl with authorityLeases := leases } clock peer envelope status)
  else none

/-! ### Queries -/

/-- The lease of a key, unless it has expired. -/
def liveLease (leases : LeaseTable) (now : ℕ) (key : LeaseKey) : Option AuthorityLease :=
  (leases.find? key).filter fun lease => now < lease.expiresAt

/-- The actions that need a lease. -/
def isGoalOrCancel (envelope : Envelope) : Bool :=
  envelope.family = .action &&
    (envelope.operation = ActionOperation.goal || envelope.operation = ActionOperation.cancel)

/-- The scope whose lease an action of the type needs. -/
def authorityScope (config : RuntimeConfig) (type : TypeRef) : Text :=
  match config.actionAuthorityScopeResolver with
  | none => type.profileId
  | some resolver => if resolver type = [] then type.profileId else resolver type

/-- `runtime_action_authorized`, with the detail where it returns false. -/
def runtimeActionAuthorized (impl : Impl) (now : ℕ) (peer : Peer) (envelope : Envelope) :
    Except Text Unit :=
  if !isGoalOrCancel envelope then .ok ()
  else if envelope.target.scope ≠ .entity ∨ envelope.target.uids.length ≠ 1 then
    .error (ascii "actions require exactly one entity target")
  else
    let key : LeaseKey :=
      ⟨envelope.target.uids.headD [], authorityScope impl.config envelope.type⟩
    match liveLease impl.authorityLeases now key with
    | some lease =>
        if lease.holder = ⟨peer.id, envelope.sessionId⟩ then .ok ()
        else .error (ascii "no active authority lease for entity and profile scope")
    | none => .error (ascii "no active authority lease for entity and profile scope")

/-- `Runtime::has_authority`. -/
def hasAuthority (impl : Impl) (now : ℕ) (peerId : Text) (sessionId : UInt64)
    (entityUid authorityScope : Text) : Bool :=
  match impl.authorityLeases.find? ⟨entityUid, authorityScope⟩ with
  | some lease =>
      lease.peerId = peerId && lease.sessionId = sessionId && now < lease.expiresAt
  | none => false

/-! ### Leases taken away -/

/-- `runtime_revoke_authority`; no entities means all of them. -/
def runtimeRevokeAuthority (impl : Impl) (peerId : Text) (sessionId : UInt64)
    (entityUids : List Text) : Impl :=
  { impl with
    authorityLeases := impl.authorityLeases.eraseIf fun key lease =>
      (entityUids.isEmpty || entityUids.contains key.entityUid) &&
        (lease.peerId = peerId && lease.sessionId = sessionId) }

/-- `Runtime::set_entities`. -/
def setEntities (impl : Impl) (entities : List Text) : Impl × ErrorCode :=
  if !entities.all validUid then (impl, .invalidArgument)
  else
    ({ impl with
      authorityLeases := impl.authorityLeases.eraseIf fun key _ => !entities.contains key.entityUid
      config.entities := entities }, .ok)

/-! ### What a request does -/

/-- A renewal or release that finds the lease of its key expired, with a lease of
the same session behind it: it acts on that one. -/
def misdirected (leases : LeaseTable) (now : ℕ) (holder : SessionKey) (operation : UInt8)
    (key : LeaseKey) : Bool :=
  (operation = AuthorityOperation.renew || operation = AuthorityOperation.release) &&
    (leases.find? key).any (fun lease => lease.expiresAt ≤ now) &&
    (leases.next? key).any fun entry => entry.2.holder = holder

theorem liveLease_eq_some {leases : LeaseTable} {now : ℕ} {key : LeaseKey}
    {lease : AuthorityLease} :
    liveLease leases now key = some lease ↔
      leases.find? key = some lease ∧ now < lease.expiresAt := by
  rw [liveLease, Option.filter_eq_some_iff, decide_eq_true_iff]

/-- The three ways the handler finds the lease of its key. -/
theorem purgeExpired_cases (leases : LeaseTable) (now : ℕ) (key : LeaseKey) :
    (∃ lease, liveLease leases now key = some lease ∧
        purgeExpired leases now key = (leases, some (key, lease))) ∨
      (leases.find? key = none ∧ purgeExpired leases now key = (leases, none)) ∨
      ∃ lease, leases.find? key = some lease ∧ lease.expiresAt ≤ now ∧
        purgeExpired leases now key = (leases.erase key, leases.next? key) := by
  unfold purgeExpired
  cases hfind : leases.find? key with
  | none => exact Or.inr (Or.inl ⟨rfl, rfl⟩)
  | some lease =>
    by_cases hexp : lease.expiresAt ≤ now
    · exact Or.inr (Or.inr ⟨lease, rfl, hexp, if_pos hexp⟩)
    · exact Or.inl ⟨lease, liveLease_eq_some.mpr ⟨hfind, Nat.lt_of_not_le hexp⟩, if_neg hexp⟩

/-- Purging only turns an expired lease of the key into none. -/
theorem find?_purgeExpired (leases : LeaseTable) (now : ℕ) (key k : LeaseKey) :
    (purgeExpired leases now key).1.find? k =
      if k = key then liveLease leases now key else leases.find? k := by
  rcases purgeExpired_cases leases now key with
    ⟨lease, hlive, heq⟩ | ⟨hnone, heq⟩ | ⟨lease, hfind, hexp, heq⟩
  · rw [heq]
    split
    · next hk => rw [hk, hlive, (liveLease_eq_some.mp hlive).1]
    · rfl
  · rw [heq, liveLease, hnone]
    split
    · next hk => rw [hk, hnone]; rfl
    · rfl
  · have hdead : liveLease leases now key = none := by
      rw [liveLease, hfind, Option.filter_some, if_neg]
      rw [decide_eq_true_iff]
      omega
    rw [heq, hdead]
    exact SortedMap.find?_erase leases key k

/-- A live lease of the key is the entry the handler finds. -/
theorem entry_of_live {leases : LeaseTable} {now : ℕ} {key : LeaseKey} {lease : AuthorityLease}
    (hlive : liveLease leases now key = some lease) :
    (purgeExpired leases now key).2 = some (key, lease) := by
  rcases purgeExpired_cases leases now key with
    ⟨lease', hlive', heq⟩ | ⟨hnone, heq⟩ | ⟨lease', hfind, hexp, heq⟩
  · rw [heq, Option.some.inj (hlive.symm.trans hlive')]
  · rw [liveLease, hnone] at hlive
    exact absurd hlive (by simp)
  · obtain ⟨hfind', hlt⟩ := liveLease_eq_some.mp hlive
    obtain rfl := Option.some.inj (hfind.symm.trans hfind')
    omega

/-- What a request does to the leases, told by the lookups afterwards. -/
inductive AuthorityEffect (leases : LeaseTable) (now : ℕ) (holder : SessionKey) (operation : UInt8)
    (key : LeaseKey) (request : AuthorityRequest) : LeaseTable × AuthorityStatus → Prop
  | refused {out : LeaseTable × AuthorityStatus} (hcode : out.2.reasonCode ≠ 0)
      (hfind : ∀ k, out.1.find? k =
        if k = key then liveLease leases now key else leases.find? k) :
      AuthorityEffect leases now holder operation key request out
  | released {out : LeaseTable × AuthorityStatus} (lease : AuthorityLease)
      (hop : operation = AuthorityOperation.release)
      (hlive : liveLease leases now key = some lease) (hholder : lease.holder = holder)
      (hcode : out.2.reasonCode = 0)
      (hfind : ∀ k, out.1.find? k = if k = key then none else leases.find? k) :
      AuthorityEffect leases now holder operation key request out
  | renewed {out : LeaseTable × AuthorityStatus} (lease : AuthorityLease)
      (hop : operation = AuthorityOperation.renew)
      (hlive : liveLease leases now key = some lease) (hholder : lease.holder = holder)
      (hcode : out.2.reasonCode = 0)
      (hfind : ∀ k, out.1.find? k =
        if k = key then
          some ⟨holder.peerId, holder.sessionId, now + milliseconds request.leaseTtlMs⟩
        else leases.find? k) :
      AuthorityEffect leases now holder operation key request out
  | claimed {out : LeaseTable × AuthorityStatus} (hop : operation = AuthorityOperation.claim)
      (hallowed : ∀ lease, liveLease leases now key = some lease →
        lease.holder = holder ∨ request.allowPreempt = true)
      (hcode : out.2.reasonCode = 0)
      (hfind : ∀ k, out.1.find? k =
        if k = key then
          some ⟨holder.peerId, holder.sessionId, now + milliseconds request.leaseTtlMs⟩
        else leases.find? k) :
      AuthorityEffect leases now holder operation key request out

section effect

variable {leases : LeaseTable} {now : ℕ} {holder : SessionKey} {operation : UInt8} {key : LeaseKey}

/-- A renewal or release that is not misdirected only owns a live lease of its key. -/
theorem owned_of_not_misdirected (hok : misdirected leases now holder operation key = false)
    (hop : operation = AuthorityOperation.renew ∨ operation = AuthorityOperation.release)
    {entry : LeaseKey × AuthorityLease}
    (howned : (purgeExpired leases now key).2.filter (fun e => e.2.holder = holder) = some entry) :
    entry.1 = key ∧ entry.2.holder = holder ∧ liveLease leases now key = some entry.2 := by
  obtain ⟨hexisting, hholder⟩ := Option.filter_eq_some_iff.mp howned
  replace hholder : entry.2.holder = holder := of_decide_eq_true hholder
  rcases purgeExpired_cases leases now key with
    ⟨lease, hlive, heq⟩ | ⟨hnone, heq⟩ | ⟨lease, hfind, hexp, heq⟩
  · rw [heq] at hexisting
    obtain rfl := Option.some.inj hexisting
    exact ⟨rfl, hholder, hlive⟩
  · rw [heq] at hexisting
    exact absurd hexisting (by simp)
  · rw [heq] at hexisting
    replace hexisting : leases.next? key = some entry := hexisting
    have hbad : misdirected leases now holder operation key = true := by
      simp [misdirected, hop, hfind, hexp, hexisting, hholder]
    exact absurd (hok.symm.trans hbad) (by decide)

/-- **What a request does**, when it is not misdirected. -/
theorem authorityTransition_effect (hok : misdirected leases now holder operation key = false)
    (request : AuthorityRequest) :
    AuthorityEffect leases now holder operation key request
      (authorityTransition leases now holder operation key request) := by
  -- All that is needed of the purge: the lookups afterwards, that a live lease is found,
  -- and that an owned entry is one.  Then the purged table is a variable.
  have hpurge := find?_purgeExpired leases now key
  have hclaim := fun lease => @entry_of_live leases now key lease
  have howned := fun hop entry =>
    @owned_of_not_misdirected leases now holder operation key hok hop entry
  unfold authorityTransition
  generalize purgeExpired leases now key = purged at hpurge hclaim howned
  obtain ⟨leases', existing⟩ := purged
  simp only at hpurge hclaim howned ⊢
  split
  · next hop =>
    cases hown : existing.filter fun entry => decide (entry.2.holder = holder) with
    | none =>
      have hcode : ErrorCode.unauthorized.toUInt16 ≠ 0 := by decide
      exact .refused hcode hpurge
    | some entry =>
      obtain ⟨rfl, hholder, hlive⟩ := howned (Or.inr hop) entry hown
      refine .released entry.2 hop hlive hholder rfl ?_
      intro k
      simp only [SortedMap.find?_erase, hpurge]
      split <;> rfl
  split
  · next hop =>
    cases hown : existing.filter fun entry => decide (entry.2.holder = holder) with
    | none =>
      have hcode : ErrorCode.unauthorized.toUInt16 ≠ 0 := by decide
      exact .refused hcode hpurge
    | some entry =>
      obtain ⟨rfl, hholder, hlive⟩ := howned (Or.inl hop) entry hown
      refine .renewed entry.2 hop hlive hholder rfl ?_
      intro k
      simp only [SortedMap.find?_insert, hpurge, ← hholder]
      split <;> rfl
  split
  · next hop =>
    split
    · next hallow =>
      refine .claimed hop (fun lease hlive => ?_) rfl fun k => ?_
      · rw [hclaim lease hlive] at hallow
        by_cases hholder : lease.holder = holder
        · exact Or.inl hholder
        · exact Or.inr (by simpa [hholder] using hallow)
      · simp only [SortedMap.find?_insert, hpurge]
        split <;> rfl
    · have hcode : ErrorCode.conflict.toUInt16 ≠ 0 := by decide
      exact .refused hcode hpurge
  · have hcode : invalidRequest.reasonCode ≠ 0 := by decide
    exact .refused hcode hpurge

end effect

/-- The entry a request looks at is one of the table. -/
theorem find?_of_purgeExpired {leases : LeaseTable} {now : ℕ} {key : LeaseKey}
    {entry : LeaseKey × AuthorityLease} (h : (purgeExpired leases now key).2 = some entry) :
    leases.find? entry.1 = some entry.2 := by
  rcases purgeExpired_cases leases now key with
    ⟨lease, hlive, heq⟩ | ⟨-, heq⟩ | ⟨lease, -, -, heq⟩
  · rw [heq] at h
    rw [← Option.some.inj h]
    exact (liveLease_eq_some.mp hlive).1
  · rw [heq] at h
    exact absurd h (by simp)
  · rw [heq] at h
    exact SortedMap.mem_entries_iff.mp (List.mem_of_find?_eq_some h)

/-- A lease left by the purge was there before. -/
theorem find?_of_find?_purgeExpired {leases : LeaseTable} {now : ℕ} {key k : LeaseKey}
    {lease : AuthorityLease} (h : (purgeExpired leases now key).1.find? k = some lease) :
    leases.find? k = some lease := by
  rw [find?_purgeExpired] at h
  split at h
  · next hkey =>
    rw [hkey]
    exact (liveLease_eq_some.mp h).1
  · exact h

/-- A request purges its key, and then does nothing more, acts on an entry of its own
session, or claims the key. -/
theorem authorityTransition_table (leases : LeaseTable) (now : ℕ) (holder : SessionKey)
    (operation : UInt8) (key : LeaseKey) (request : AuthorityRequest) :
    let purged := purgeExpired leases now key
    let table := (authorityTransition leases now holder operation key request).1
    let expiresAt := now + milliseconds request.leaseTtlMs
    table = purged.1 ∨
      (∃ k lease, purged.2 = some (k, lease) ∧ lease.holder = holder ∧
        (table = purged.1.erase k ∨
          operation = AuthorityOperation.renew ∧
            table = purged.1.insert k { lease with expiresAt })) ∨
      operation = AuthorityOperation.claim ∧
        (∀ entry, purged.2 = some entry → entry.2.holder = holder ∨ request.allowPreempt = true) ∧
        table = purged.1.insert key ⟨holder.peerId, holder.sessionId, expiresAt⟩ := by
  unfold authorityTransition
  generalize purgeExpired leases now key = purged
  obtain ⟨leases', existing⟩ := purged
  -- The branches in the order of the source: release, renew, claim, and any other operation.
  dsimp only
  split
  · split
    · next k lease howned =>
      obtain ⟨hexisting, hholder⟩ := Option.filter_eq_some_iff.mp howned
      exact Or.inr (Or.inl ⟨k, lease, hexisting, of_decide_eq_true hholder, Or.inl rfl⟩)
    · exact Or.inl rfl
  split
  · next hrenew =>
    split
    · next k lease howned =>
      obtain ⟨hexisting, hholder⟩ := Option.filter_eq_some_iff.mp howned
      exact Or.inr (Or.inl ⟨k, lease, hexisting, of_decide_eq_true hholder,
        Or.inr ⟨hrenew, rfl⟩⟩)
    · exact Or.inl rfl
  split
  · next hclaim =>
    split
    · next hallowed =>
      refine Or.inr (Or.inr ⟨hclaim, ?_, rfl⟩)
      rintro entry rfl
      by_cases hholder : entry.2.holder = holder
      · exact Or.inl hholder
      · exact Or.inr (by simpa [hholder] using hallowed)
    · exact Or.inl rfl
  · exact Or.inl rfl

/-- Renewing a lease keeps its holder. -/
theorem AuthorityLease.holder_renewed (lease : AuthorityLease) (expiresAt : ℕ) :
    { lease with expiresAt }.holder = lease.holder := rfl

/-- **A lease after a request**: an old one, one of the session itself that was renewed, or the
one claimed. -/
theorem find?_of_authorityTransition {leases : LeaseTable} {now : ℕ} {holder : SessionKey}
    {operation : UInt8} {key k : LeaseKey} {request : AuthorityRequest} {lease : AuthorityLease}
    (h : (authorityTransition leases now holder operation key request).1.find? k = some lease) :
    leases.find? k = some lease ∨
      (operation = AuthorityOperation.renew ∧
        ∃ old, leases.find? k = some old ∧ old.holder = holder ∧
          lease = { old with expiresAt := now + milliseconds request.leaseTtlMs }) ∨
      operation = AuthorityOperation.claim ∧ k = key ∧
        lease = ⟨holder.peerId, holder.sessionId, now + milliseconds request.leaseTtlMs⟩ := by
  rcases authorityTransition_table leases now holder operation key request with
    htable | ⟨k', own, hentry, hown, htable | ⟨hrenew, htable⟩⟩ | ⟨hclaim, -, htable⟩
  · rw [htable] at h
    exact Or.inl (find?_of_find?_purgeExpired h)
  · rw [htable, SortedMap.find?_erase] at h
    split at h
    · exact absurd h (by simp)
    · exact Or.inl (find?_of_find?_purgeExpired h)
  · rw [htable, SortedMap.find?_insert] at h
    split at h
    · next hkey =>
      have hfind : leases.find? k = some own := hkey ▸ find?_of_purgeExpired hentry
      exact Or.inr (Or.inl ⟨hrenew, own, hfind, hown, (Option.some.inj h).symm⟩)
    · exact Or.inl (find?_of_find?_purgeExpired h)
  · rw [htable, SortedMap.find?_insert] at h
    split at h
    · next hkey => exact Or.inr (Or.inr ⟨hclaim, hkey, (Option.some.inj h).symm⟩)
    · exact Or.inl (find?_of_find?_purgeExpired h)

/-- A lease after a request has its old peer, or that of the claim. -/
theorem lease_authorityTransition {leases : LeaseTable} {now : ℕ} {holder : SessionKey}
    {operation : UInt8} {key k : LeaseKey} {request : AuthorityRequest} {lease : AuthorityLease}
    (h : (authorityTransition leases now holder operation key request).1.find? k = some lease) :
    (∃ old, leases.find? k = some old ∧ old.peerId = lease.peerId ∧
        (operation ≠ AuthorityOperation.renew → old = lease)) ∨
      operation = AuthorityOperation.claim ∧ lease.peerId = holder.peerId := by
  rcases find?_of_authorityTransition h with hold | ⟨hrenew, old, hold, -, rfl⟩ | ⟨hclaim, -, rfl⟩
  · exact Or.inl ⟨lease, hold, rfl, fun _ => rfl⟩
  · exact Or.inl ⟨old, hold, rfl, fun hne => absurd hrenew hne⟩
  · exact Or.inr ⟨hclaim, rfl⟩

end YunLink
