import Mathlib.Data.List.DropRight
import Mathlib.Logic.Relation
import YunLink.Net.SendLoop

/-!
# What a write reports

`write_frame_chunks` returns one of three results, and the send loop drops a frame or
gives a connection up on it.  The list of the calls that a write made is its transcript:
each call is what `send_chunk` answered right after a reading of `running` that was true.
The result is read off this transcript, for every `send_chunk` that keeps its contract
and every `running` that never turns true again.  The loop goes on only with a cleared
error, so a call that leaves its error argument alone has set none.

The counter of the loop is the number of refusals that the transcript ends with.  It never
passes the limit by more than one, and the number of bytes sent and the counter together
bound how long the loop runs.

## Main definitions

* `SendContract`, `StaysStopped` — what the two functions must keep.
* `CallsAnswered` — a transcript is what the functions answered.
* `sentBytes`, `trailingRefusals` — what the calls sent, and how many refusals end them.
* `ExactReport` — a result, against the transcript.

## Main results

* `writeChunk_pass` — what one pass adds to the transcript.
* `writeFrameChunks_exact` — **a write reports exactly what it did.**
-/

namespace YunLink

/-- A call found the socket congested and sent nothing. -/
def SendCall.refused (call : SendCall) : Bool :=
  call.sent = 0 ∧ call.error.any SocketError.retryable

theorem SendCall.sent_of_refused {call : SendCall} (h : call.refused = true) : call.sent = 0 :=
  (of_decide_eq_true h).1

/-- How many bytes the calls sent. -/
def sentBytes (calls : List SendCall) : ℕ := (calls.map SendCall.sent).sum

/-- The refusals since the last call that was not one. -/
def trailingRefusals (calls : List SendCall) : ℕ := (calls.rtakeWhile SendCall.refused).length

@[simp] theorem sentBytes_nil : sentBytes [] = 0 := rfl

@[simp] theorem sentBytes_concat (calls : List SendCall) (call : SendCall) :
    sentBytes (calls ++ [call]) = sentBytes calls + call.sent := by
  simp [sentBytes]

@[simp] theorem trailingRefusals_nil : trailingRefusals [] = 0 := rfl

theorem trailingRefusals_refused {call : SendCall} (h : call.refused = true)
    (calls : List SendCall) : trailingRefusals (calls ++ [call]) = trailingRefusals calls + 1 := by
  rw [trailingRefusals, List.rtakeWhile_concat_pos _ _ _ h, List.length_append]
  rfl

theorem trailingRefusals_not_refused {call : SendCall} (h : ¬ call.refused = true)
    (calls : List SendCall) : trailingRefusals (calls ++ [call]) = 0 := by
  rw [trailingRefusals, List.rtakeWhile_concat_neg _ _ _ h]
  rfl

section Report

variable {σ : Type} (sendChunk : Bytes → σ → SendOutcome × σ) (running : σ → Bool × σ)

/-- `send_chunk` sends at most the chunk, and nothing when it sets an error. -/
structure SendContract : Prop where
  sent_le : ∀ data env, (sendChunk data env).1.sent ≤ data.length
  sent_of_error : ∀ data env, (sendChunk data env).1.error ≠ none →
    (sendChunk data env).1.sent = 0

/-- One call of either function takes the first state to the second. -/
def Moves (env env' : σ) : Prop :=
  (running env).2 = env' ∨ ∃ data, (sendChunk data env).2 = env'

/-- Once `running` has returned false, it returns false after any further calls. -/
def StaysStopped : Prop :=
  ∀ env, (running env).1 = false →
    ∀ env', Relation.ReflTransGen (Moves sendChunk running) (running env).2 env' →
      (running env').1 = false

/-- The record of a call made in a state. -/
def callIn (data : Bytes) (env : σ) : SendCall :=
  ⟨data, (sendChunk data env).1.sent, (sendChunk data env).1.error⟩

/-- The calls are what `send_chunk` answered, each right after `running` returned true. -/
inductive CallsAnswered (start : σ) : List SendCall → σ → Prop
  | none : CallsAnswered start [] start
  | call {calls : List SendCall} {env : σ} (data : Bytes) :
      CallsAnswered start calls env → (running env).1 = true →
      CallsAnswered start (calls ++ [callIn sendChunk data (running env).2])
        (sendChunk data (running env).2).2

variable (bytes : Bytes) (retryLimit : ℕ)

/-- Each slice starts where the bytes sent before it end. -/
def OfferedInOrder (calls : List SendCall) : Prop :=
  ∀ before call, before ++ [call] <+: calls → call.data = nextChunk bytes (sentBytes before)

/-- The counter never gets further than one past the limit. -/
def RetriesBounded (calls : List SendCall) : Prop :=
  ∀ before, before <+: calls → trailingRefusals before ≤ retryLimit + 1

variable {bytes retryLimit}

theorem OfferedInOrder.concat {calls : List SendCall} {call : SendCall}
    (h : OfferedInOrder bytes calls) (hcall : call.data = nextChunk bytes (sentBytes calls)) :
    OfferedInOrder bytes (calls ++ [call]) := by
  intro before last hprefix
  rcases List.prefix_concat_iff.mp hprefix with heq | hprefix
  · obtain ⟨rfl, rfl⟩ := List.append_singleton_inj.mp heq
    exact hcall
  · exact h before last hprefix

theorem RetriesBounded.concat {calls : List SendCall} {call : SendCall}
    (h : RetriesBounded retryLimit calls) (hle : trailingRefusals calls ≤ retryLimit) :
    RetriesBounded retryLimit (calls ++ [call]) := by
  intro before hprefix
  rcases List.prefix_concat_iff.mp hprefix with rfl | hprefix
  · by_cases hrefused : call.refused = true
    · rw [trailingRefusals_refused hrefused]
      omega
    · rw [trailingRefusals_not_refused hrefused]
      exact Nat.zero_le _
  · exact h before hprefix

/-! ### One pass -/

variable (retryLimit) in
/-- What the answer to a write makes of the loop: it goes on with the counter that the
transcript gives, or returns without having sent anything. -/
inductive PassResult (s s' : WriterState σ) (call : SendCall) : Option SocketWriteResult → Prop
  | progress : 0 < call.sent → call.error = none → s'.retryCount = 0 → PassResult s s' call none
  | retry : call.refused = true → s'.retryCount = s.retryCount + 1 → s'.retryCount ≤ retryLimit →
      PassResult s s' call none
  | congested (text : Text) : call.refused = true → retryLimit < s.retryCount + 1 →
      PassResult s s' call (some ⟨.congested, s'.offset, text⟩)
  | disconnected (text : Text) : call.sent = 0 →
      PassResult s s' call (some ⟨.disconnected, s'.offset, text⟩)

/-- **What one pass does**: it adds one answer to the transcript. -/
theorem writeChunk_pass (hc : SendContract sendChunk) (s : WriterState σ) :
    let data := nextChunk bytes s.offset
    let call := callIn sendChunk data s.env
    let pass := writeChunk sendChunk bytes retryLimit s
    pass.1.env = (sendChunk data s.env).2 ∧ pass.1.calls = s.calls ++ [call] ∧
      pass.1.offset = s.offset + call.sent ∧ PassResult retryLimit s pass.1 call pass.2 := by
  have hsent := hc.sent_le (nextChunk bytes s.offset) s.env
  have herror := hc.sent_of_error (nextChunk bytes s.offset) s.env
  generalize hout : sendChunk (nextChunk bytes s.offset) s.env = outcome at hsent herror
  obtain ⟨⟨sent, error⟩, env⟩ := outcome
  simp only [writeChunk, callIn, hout, Nat.min_eq_left hsent]
  cases error with
  | none =>
    simp only
    split
    · next hzero => exact ⟨rfl, rfl, rfl, .disconnected _ hzero⟩
    · next hpos => exact ⟨rfl, rfl, rfl, .progress (Nat.pos_of_ne_zero hpos) rfl rfl⟩
  | some error =>
    -- An error comes with nothing sent, so the counter is not reset.
    have hzero : sent = 0 := herror (Option.some_ne_none error)
    simp only [hzero, retriesAfter, if_true]
    split
    · exact ⟨rfl, rfl, rfl, .disconnected _ rfl⟩
    · next hretry =>
      have hretryable : error.retryable = true := by simpa using hretry
      have hrefused : SendCall.refused ⟨nextChunk bytes s.offset, 0, some error⟩ = true := by
        simp [SendCall.refused, hretryable]
      split
      · next hlimit => exact ⟨rfl, rfl, rfl, .congested _ hrefused hlimit⟩
      · next hlimit => exact ⟨rfl, rfl, rfl, .retry hrefused rfl (Nat.le_of_not_lt hlimit)⟩

/-! ### The whole write -/

theorem OfferedInOrder.length_le {calls : List SendCall} (h : OfferedInOrder bytes calls)
    {call : SendCall} (hmem : call ∈ calls) : call.data.length ≤ kWriteQuantumBytes := by
  obtain ⟨before, after, rfl⟩ := List.append_of_mem hmem
  have hdata : call.data = nextChunk bytes (sentBytes before) :=
    h before call ⟨after, by simp⟩
  rw [hdata, nextChunk, List.length_take]
  exact Nat.min_le_left _ _

variable (bytes retryLimit) in
/-- The loop between two passes, against the transcript. -/
structure InReport (start : σ) (s : WriterState σ) : Prop where
  answered : CallsAnswered sendChunk running start s.calls s.env
  offered : OfferedInOrder bytes s.calls
  sent : sentBytes s.calls = s.offset
  offset_le : s.offset ≤ bytes.length
  counted : trailingRefusals s.calls = s.retryCount
  within : s.retryCount ≤ retryLimit
  retries : RetriesBounded retryLimit s.calls
  length_le : s.calls.length ≤ s.offset * (retryLimit + 1) + s.retryCount

variable (bytes retryLimit) in
/-- The result of a write, against the transcript of its calls. -/
structure ExactReport (start : σ) (result : SocketWriteResult) (calls : List SendCall) :
    Prop where
  answered : ∃ env, CallsAnswered sendChunk running start calls env
  offered : OfferedInOrder bytes calls
  quantum : ∀ call ∈ calls, call.data.length ≤ kWriteQuantumBytes
  bytesWritten : result.bytesWritten = sentBytes calls
  complete : result.status = .complete ↔ sentBytes calls = bytes.length
  congested : result.status = .congested → retryLimit < trailingRefusals calls
  retries : RetriesBounded retryLimit calls
  length_le : calls.length ≤ (bytes.length + 1) * (retryLimit + 1)

variable {sendChunk running} {start : σ} {s s' : WriterState σ}

/-- The loop ends between two passes, without a further call. -/
theorem InReport.exact (h : InReport sendChunk running bytes retryLimit start s)
    {result : SocketWriteResult} (hbytes : result.bytesWritten = s.offset)
    (hcomplete : result.status = .complete ↔ s.offset = bytes.length)
    (hcongested : result.status ≠ .congested) :
    ExactReport sendChunk running bytes retryLimit start result s.calls where
  answered := ⟨s.env, h.answered⟩
  offered := h.offered
  quantum := fun _ => h.offered.length_le
  bytesWritten := hbytes.trans h.sent.symm
  complete := by rw [h.sent, hcomplete]
  congested := fun hstatus => absurd hstatus hcongested
  retries := h.retries
  length_le := by
    have hlen := h.length_le
    have hmul := Nat.mul_le_mul_right (retryLimit + 1) h.offset_le
    have hwithin := h.within
    rw [Nat.succ_mul]
    omega

/-- One pass of the loop, taken after `running` returned true, either keeps the report or
returns an exact one. -/
theorem InReport.pass (hc : SendContract sendChunk)
    (h : InReport sendChunk running bytes retryLimit start s) (hlt : s.offset < bytes.length)
    {env : σ} (hread : running s.env = (true, env)) {result : Option SocketWriteResult}
    (hpass : writeChunk sendChunk bytes retryLimit { s with env } = (s', result)) :
    (result = none → InReport sendChunk running bytes retryLimit start s') ∧
      ∀ r, result = some r →
        ExactReport sendChunk running bytes retryLimit start r s'.calls := by
  obtain rfl : (running s.env).2 = env := by rw [hread]
  have halive : (running s.env).1 = true := by rw [hread]
  obtain ⟨henv, hcalls, hoffset, hresult⟩ :=
    @writeChunk_pass σ sendChunk bytes retryLimit hc { s with env := (running s.env).2 }
  have hle := (hc.sent_le (nextChunk bytes s.offset) (running s.env).2).trans
    (length_nextChunk_le bytes s.offset)
  have hmade := CallsAnswered.call (nextChunk bytes s.offset) h.answered halive
  rw [hpass] at henv hcalls hoffset hresult
  rw [← henv, ← hcalls] at hmade
  have hdata : (callIn sendChunk (nextChunk bytes s.offset) (running s.env).2).data =
    nextChunk bytes s.offset := rfl
  change (callIn sendChunk (nextChunk bytes s.offset) (running s.env).2).sent ≤ _ at hle
  simp only at hcalls hoffset hresult
  generalize callIn sendChunk (nextChunk bytes s.offset) (running s.env).2 = call
    at hdata hle hcalls hoffset hresult
  have hoffered : OfferedInOrder bytes s'.calls := by
    rw [hcalls]
    exact h.offered.concat (by rw [hdata, h.sent])
  have hretries : RetriesBounded retryLimit s'.calls := by
    rw [hcalls]
    exact h.retries.concat (h.counted.trans_le h.within)
  have htotal : sentBytes s'.calls = s'.offset := by
    rw [hcalls, sentBytes_concat, h.sent, hoffset]
  have hcount : s'.calls.length = s.calls.length + 1 := by
    rw [hcalls, List.length_append, List.length_singleton]
  have hlen := h.length_le
  have hwithin := h.within
  -- A pass that returns has sent nothing, so the write is not complete.
  have hreturns : call.sent = 0 → ∀ r : SocketWriteResult, r.status ≠ .complete →
      r.bytesWritten = s'.offset →
      (r.status = .congested → retryLimit < trailingRefusals s'.calls) →
      ExactReport sendChunk running bytes retryLimit start r s'.calls := by
    intro hzero r hstatus hbytes hcongested
    refine ⟨⟨_, hmade⟩, hoffered, fun _ => hoffered.length_le, hbytes.trans htotal.symm,
      ⟨fun hcomplete => absurd hcomplete hstatus, fun hall => ?_⟩, hcongested, hretries, ?_⟩
    · rw [htotal, hoffset, hzero] at hall
      omega
    · have hmul := Nat.mul_le_mul_right (retryLimit + 1) h.offset_le
      rw [hcount, Nat.succ_mul]
      omega
  cases hresult with
  | progress hpos hnone hretry =>
    refine ⟨fun _ => ?_, fun r hr => absurd hr (Option.some_ne_none r).symm⟩
    have hrefused : ¬ call.refused = true := fun hrefused =>
      absurd (SendCall.sent_of_refused hrefused) hpos.ne'
    refine ⟨hmade, hoffered, htotal, by omega, ?_, by omega, hretries, ?_⟩
    · rw [hcalls, trailingRefusals_not_refused hrefused, hretry]
    · have hgain : retryLimit + 1 ≤ call.sent * (retryLimit + 1) :=
        Nat.le_mul_of_pos_left _ hpos
      rw [hcount, hoffset, Nat.add_mul]
      omega
  | retry hrefused hretry hlimit =>
    refine ⟨fun _ => ?_, fun r hr => absurd hr (Option.some_ne_none r).symm⟩
    have hzero := SendCall.sent_of_refused hrefused
    refine ⟨hmade, hoffered, htotal, by omega, ?_, hlimit, hretries, ?_⟩
    · rw [hcalls, trailingRefusals_refused hrefused, h.counted, hretry]
    · have hretry : s'.retryCount = s.retryCount + 1 := hretry
      rw [hzero, Nat.add_zero] at hoffset
      rw [hcount, hoffset, hretry]
      omega
  | congested text hrefused hlimit =>
    refine ⟨fun hr => absurd hr (Option.some_ne_none _), fun r hr => ?_⟩
    obtain rfl := Option.some.inj hr
    refine hreturns (SendCall.sent_of_refused hrefused) _ (by simp) rfl fun _ => ?_
    rw [hcalls, trailingRefusals_refused hrefused, h.counted]
    exact hlimit
  | disconnected text hzero =>
    refine ⟨fun hr => absurd hr (Option.some_ne_none _), fun r hr => ?_⟩
    obtain rfl := Option.some.inj hr
    exact hreturns hzero _ (by simp) rfl (by simp)

/-- **The loop reports what it did**, from any pass on. -/
theorem writeFrameChunksLoop_exact (hc : SendContract sendChunk)
    (hstops : StaysStopped sendChunk running) (s : WriterState σ)
    (hs : InReport sendChunk running bytes retryLimit start s) :
    ExactReport sendChunk running bytes retryLimit start
      (writeFrameChunksLoop sendChunk running bytes retryLimit s).1
      (writeFrameChunksLoop sendChunk running bytes retryLimit s).2.calls := by
  fun_induction writeFrameChunksLoop sendChunk running bytes retryLimit s with
  | case1 s hlt env s₁ s' result hchunk halive =>
    exact (hs.pass hc hlt halive hchunk).2 result rfl
  | case2 s hlt env s₁ s' hchunk halive ih => exact ih ((hs.pass hc hlt halive hchunk).1 rfl)
  | case3 s hlt alive env hrun s₁ hdead alive' env' hrun' =>
    have hstopped : alive' = false := by
      have hread := hstops s.env (by rw [hrun]; simpa using hdead) _ .refl
      rw [hrun] at hread
      rwa [hrun'] at hread
    subst hstopped
    have hne : s.offset ≠ bytes.length := Nat.ne_of_lt hlt
    exact hs.exact rfl ⟨fun h => SocketWriteStatus.noConfusion h, fun h => absurd h hne⟩ (by simp)
  | case4 s hge =>
    have hall := Nat.le_antisymm hs.offset_le (Nat.le_of_not_lt hge)
    exact hs.exact rfl ⟨fun _ => hall, fun _ => rfl⟩ (by simp)

/-- **A write reports exactly what it did.**  It returns after boundedly many calls, each
made right after `running` returned true and offering at most a quantum from where the
bytes sent so far end.  It reports their total, is complete exactly when that is all the
bytes, and congested only after more than `retryLimit` refusals in a row.  The counter of
these, a `size_t`, never wraps. -/
theorem writeFrameChunks_exact (hc : SendContract sendChunk)
    (hstops : StaysStopped sendChunk running) (hne : bytes ≠ []) (hlimit : retryLimit < 2 ^ 64 - 1)
    (env : σ) :
    let out := writeFrameChunks sendChunk running bytes retryLimit env
    ExactReport sendChunk running bytes retryLimit (running env).2 out.1 out.2.calls ∧
      ∀ before, before <+: out.2.calls → trailingRefusals before < 2 ^ 64 := by
  have hstart : InReport sendChunk running bytes retryLimit (running env).2
      { env := (running env).2 } := by
    refine ⟨.none, fun before call hprefix => ?_, rfl, Nat.zero_le _, rfl, Nat.zero_le _,
      fun before hprefix => ?_, Nat.zero_le _⟩
    · exact absurd (List.prefix_nil.mp hprefix) (by simp)
    · rw [List.prefix_nil.mp hprefix]
      exact Nat.zero_le _
  have hexact : ExactReport sendChunk running bytes retryLimit (running env).2
      (writeFrameChunks sendChunk running bytes retryLimit env).1
      (writeFrameChunks sendChunk running bytes retryLimit env).2.calls := by
    have hlen : bytes.length ≠ 0 := fun h => hne (List.length_eq_zero_iff.mp h)
    unfold writeFrameChunks
    rw [if_neg (by simpa using hne)]
    simp only
    split
    · exact hstart.exact rfl
        ⟨fun h => SocketWriteStatus.noConfusion h, fun h => absurd h.symm hlen⟩ (by simp)
    · exact writeFrameChunksLoop_exact hc hstops _ hstart
  refine ⟨hexact, fun before hprefix => ?_⟩
  have hbound := hexact.retries before hprefix
  omega

end Report

/-- A socket with room for some bytes, which is congested from then on. -/
def sendRoom (data : Bytes) (env : ℕ × ℕ) : SendOutcome × (ℕ × ℕ) :=
  if env.1 = 0 then (⟨0, some ⟨true, ascii "Resource temporarily unavailable"⟩⟩, env)
  else (⟨min env.1 data.length, none⟩, (0, env.2))

/-- A flag that is set for some readings. -/
def countdown (env : ℕ × ℕ) : Bool × (ℕ × ℕ) := (0 < env.2, (env.1, env.2 - 1))

theorem sendRoom_contract : SendContract sendRoom where
  sent_le := fun data env => by
    unfold sendRoom
    split
    · exact Nat.zero_le _
    · exact Nat.min_le_right _ _
  sent_of_error := fun data env => by
    unfold sendRoom
    split
    · exact fun _ => rfl
    · exact fun h => absurd rfl h

theorem countdown_staysStopped : StaysStopped sendRoom countdown := by
  intro env hstopped env' hmoves
  have hzero : env'.2 = 0 := by
    induction hmoves with
    | refl =>
      simp only [countdown, decide_eq_false_iff_not] at hstopped ⊢
      omega
    | @tail env₁ env₂ _ hmove ih =>
      rcases hmove with rfl | ⟨data, rfl⟩
      · simp [countdown, ih]
      · unfold sendRoom
        split <;> exact ih
  simp [countdown, hzero]

theorem writeFrameChunks_exact_congested :
    let out := writeFrameChunks sendRoom countdown (List.replicate 20 0) 2 (10, 100)
    ExactReport sendRoom countdown (List.replicate 20 0) 2 (10, 99) out.1 out.2.calls ∧
      ∀ before, before <+: out.2.calls → trailingRefusals before < 2 ^ 64 :=
  writeFrameChunks_exact sendRoom_contract countdown_staysStopped (by decide) (by decide) (10, 100)

end YunLink
