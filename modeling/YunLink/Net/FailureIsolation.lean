import YunLink.Net.Receive
import YunLink.Net.SendLoop

/-!
# What may tear a connection down

Congestion is not a failure: a BestEffort or Bulk frame that meets it is dropped, and
the connection goes on.  The send loop gives a connection up for a frame that was
written in part or must not be dropped, and the receive loop does when its buffer
overflows at such a frame.  Both ask `qos_may_drop`, so a ReliableLatest frame counts
like a ReliableOrdered one.

Other ways to lose a connection are told apart first.  A call of `send_chunk` is *hard*
when it fails with an error that is not worth another try, or writes nothing without
one; and a connection that somebody else stops reads as not running.

## Main definitions

* `SendCall.Hard` — a call that ends the write for good.
* `Socket.Alive` — nobody else stops the connection.
* `Reliable` — the classes that are never dropped.

## Main results

* `writeSocket_disconnected` — only a hard call makes the writer report a loss.
* `recoverReceiveOverflow_false` — overflow recovery gives up at a reliable frame.
* `teardown_isolated` — **a connection is torn down without a hard call only for a
  frame written in part or for a reliable one.**
-/

namespace YunLink

/-- The classes that are never dropped. -/
def Reliable (qos : QosClass) : Prop := qos = .reliableOrdered ∨ qos = .reliableLatest

theorem reliable_iff {qos : QosClass} : Reliable qos ↔ qosMayDrop qos = false := by
  unfold Reliable
  cases qos <;> decide

/-! ### The writer -/

/-- A call that ends the write for good: a hard error, or a write of no bytes. -/
def SendCall.Hard (call : SendCall) : Prop :=
  match call.error with
  | none => call.sent = 0
  | some error => error.retryable = false

section Writer

variable {σ : Type} {sendChunk : Bytes → σ → SendOutcome × σ} {running : σ → Bool × σ}
  {bytes : Bytes} {retryLimit : ℕ}

theorem env_writeChunk (s : WriterState σ) :
    (writeChunk sendChunk bytes retryLimit s).1.env =
      (sendChunk (nextChunk bytes s.offset) s.env).2 := by
  generalize hout : sendChunk (nextChunk bytes s.offset) s.env = out
  obtain ⟨⟨reported, error⟩, env⟩ := out
  unfold writeChunk
  simp only [hout]
  cases error with
  | none =>
    dsimp only
    split <;> rfl
  | some error =>
    dsimp only
    split
    · rfl
    · split <;> rfl

/-- A pass that reports a loss has made a hard call. -/
theorem writeChunk_disconnected {s : WriterState σ} {result : SocketWriteResult}
    (h : (writeChunk sendChunk bytes retryLimit s).2 = some result)
    (hstatus : result.status = .disconnected) :
    ∃ call ∈ (writeChunk sendChunk bytes retryLimit s).1.calls, call.Hard := by
  generalize hout : sendChunk (nextChunk bytes s.offset) s.env = out at h
  obtain ⟨⟨reported, error⟩, env⟩ := out
  unfold writeChunk at h ⊢
  simp only [hout] at h ⊢
  cases error with
  | none =>
    dsimp only at h ⊢
    split at h
    · next hzero =>
      rw [if_pos hzero]
      exact ⟨_, List.mem_append_right _ (List.mem_singleton.mpr rfl), hzero⟩
    · exact absurd h (by simp)
  | some error =>
    dsimp only at h ⊢
    split at h
    · next hhard =>
      rw [if_pos hhard]
      refine ⟨_, List.mem_append_right _ (List.mem_singleton.mpr rfl), ?_⟩
      show error.retryable = false
      simpa using hhard
    split at h
    · rw [← Option.some.inj h] at hstatus
      exact absurd hstatus (by simp)
    · exact absurd h (by simp)

/-- The loop of the writer, on a connection that keeps running. -/
theorem writeFrameChunksLoop_disconnected {Alive : σ → Prop}
    (hrunning : ∀ env, Alive env → (running env).1 = true ∧ Alive (running env).2)
    (hsend : ∀ data env, Alive env → Alive (sendChunk data env).2) (s : WriterState σ)
    (hs : Alive s.env) :
    Alive (writeFrameChunksLoop sendChunk running bytes retryLimit s).2.env ∧
      ((writeFrameChunksLoop sendChunk running bytes retryLimit s).1.status = .disconnected →
        ∃ call ∈ (writeFrameChunksLoop sendChunk running bytes retryLimit s).2.calls,
          call.Hard) := by
  fun_induction writeFrameChunksLoop sendChunk running bytes retryLimit s with
  | case1 s hlt env s₁ s' result hchunk hrun =>
    have halive : Alive s₁.env := by
      have hread := (hrunning s.env hs).2
      rwa [hrun] at hread
    refine ⟨?_, fun hstatus => ?_⟩
    · have henv := @env_writeChunk σ sendChunk bytes retryLimit s₁
      rw [hchunk] at henv
      rw [henv]
      exact hsend _ _ halive
    · have hhard := @writeChunk_disconnected σ sendChunk bytes retryLimit s₁ result
      rw [hchunk] at hhard
      exact hhard rfl hstatus
  | case2 s hlt env s₁ s' hchunk hrun ih =>
    have halive : Alive s₁.env := by
      have hread := (hrunning s.env hs).2
      rwa [hrun] at hread
    apply ih
    have henv := @env_writeChunk σ sendChunk bytes retryLimit s₁
    rw [hchunk] at henv
    rw [henv]
    exact hsend _ _ halive
  | case3 s hlt alive env hrun s₁ hdead alive' env' hrun' =>
    -- A connection that is alive does not stop the loop here.
    have hread := (hrunning s.env hs).1
    rw [hrun] at hread
    exact absurd hread hdead
  | case4 s hge => exact ⟨hs, fun hstatus => absurd hstatus (by simp)⟩

end Writer

/-! ### The socket of a connection -/

/-- Nobody else stops the connection: `running` always reads true. -/
def Socket.Alive (s : Socket) : Prop := ∀ n, s.readings.get n = true

theorem Socket.Alive.running {s : Socket} (h : s.Alive) :
    s.running.1 = true ∧ s.running.2.Alive :=
  ⟨h 0, fun n => h (n + 1)⟩

theorem Socket.Alive.sendChunk {s : Socket} (h : s.Alive) (data : Bytes) :
    (Socket.sendChunk data s).2.Alive := by
  unfold Socket.sendChunk
  dsimp only
  split
  · exact h.running.2
  · exact h.running.2

/-- On such a connection the writer gets to its loop. -/
theorem writeSocket_of_alive {bytes : Bytes} (hbytes : bytes ≠ []) {s : Socket} (hs : s.Alive) :
    ∃ env : Socket, env.Alive ∧
      writeSocket bytes s =
        writeFrameChunksLoop Socket.sendChunk Socket.running bytes kCongestionRetryLimit { env } := by
  obtain ⟨hread, halive⟩ := hs.running
  unfold writeSocket
  generalize s.running = first at hread halive
  obtain ⟨alive, s₁⟩ := first
  dsimp only at hread halive ⊢
  obtain ⟨hread₁, halive₁⟩ := halive.running
  unfold writeFrameChunks
  generalize s₁.running = second at hread₁ halive₁
  obtain ⟨alive₁, s₂⟩ := second
  dsimp only at hread₁ halive₁ ⊢
  refine ⟨s₂, halive₁, ?_⟩
  rw [hread, hread₁, if_neg (by decide), if_neg (by simpa using hbytes), if_neg (by decide)]

/-- **Only a hard call makes the writer report a loss.** -/
theorem writeSocket_disconnected {bytes : Bytes} (hbytes : bytes ≠ []) {s : Socket}
    (hs : s.Alive) :
    (writeSocket bytes s).2.env.Alive ∧
      ((writeSocket bytes s).1.status = .disconnected →
        ∃ call ∈ (writeSocket bytes s).2.calls, call.Hard) := by
  obtain ⟨env, henv, hloop⟩ := writeSocket_of_alive hbytes hs
  rw [hloop]
  exact writeFrameChunksLoop_disconnected (fun _ h => h.running) (fun data _ h => h.sendChunk data)
    _ henv

/-! ### The send loop -/

/-- The invariant of the loop: what it has left for. -/
structure StoppedFor (s : SendLoop) : Prop where
  budget : WithinBudget s.queue.conn
  alive : s.socket.Alive
  stopped : s.phase = .left → ∃ w, s.writes.getLast? = some w ∧
    ((∃ call ∈ w.calls, call.Hard) ∨ w.wire ≠ [] ∨ Reliable w.frame.qos)

namespace StoppedFor

variable {s : SendLoop}

/-- Steps that do not leave the loop. -/
theorem of_phase {s' : SendLoop} (hbudget : WithinBudget s'.queue.conn) (halive : s'.socket.Alive)
    (hphase : s'.phase ≠ .left) : StoppedFor s' :=
  ⟨hbudget, halive, fun h => absurd h hphase⟩

/-- A frame that could not be written is dropped, or is one to stop for. -/
theorem write (h : StoppedFor s) (lossyChannel : Bool) {frame : OutboundFrame}
    (hbytes : frame.bytes ≠ []) : StoppedFor (s.write lossyChannel frame) := by
  have hrep := writeSocket_spec frame.bytes s.socket
  obtain ⟨halive, hhard⟩ := writeSocket_disconnected hbytes h.alive
  unfold SendLoop.write
  generalize writeSocket frame.bytes s.socket = out at hrep halive hhard
  obtain ⟨result, writer⟩ := out
  dsimp only at hrep halive hhard ⊢
  split
  · exact of_phase h.budget halive (by simp)
  next hcomplete =>
  split
  · exact of_phase h.budget halive (by simp)
  next hkept =>
  refine ⟨QueueRun.step_withinBudget h.budget (.setRunning false), halive, fun _ => ?_⟩
  refine ⟨⟨frame, writer.calls⟩, List.getLast?_concat, ?_⟩
  cases hstatus : result.status with
  | complete => exact absurd hstatus hcomplete
  | disconnected => exact Or.inl (hhard hstatus)
  | congested =>
    -- Congestion alone: something was written, or the class must not be dropped.
    rw [hstatus, decide_eq_true rfl, Bool.true_and, mayDropCongestedFrame, Bool.and_eq_true,
      not_and_or] at hkept
    rcases hkept with hpart | hclass
    · refine Or.inr (Or.inl ?_)
      have hoffset : writer.offset ≠ 0 := by
        rw [← hrep.bytesWritten]
        simpa using hpart
      show callsWire writer.calls ≠ []
      rw [hrep.wire]
      intro hnil
      rcases List.take_eq_nil_iff.mp hnil with hzero | hempty
      · exact hoffset hzero
      · exact hbytes hempty
    · exact Or.inr (Or.inr (reliable_iff.mpr (Bool.eq_false_iff.mpr hclass)))

theorem afterWait (h : StoppedFor s) (hphase : s.phase ≠ .left) (lossyChannel : Bool) :
    StoppedFor (s.afterWait lossyChannel) := by
  unfold SendLoop.afterWait
  dsimp only
  split
  · exact of_phase h.budget h.alive.running.2 (by simp)
  split
  · exact of_phase h.budget h.alive.running.2 (by simp)
  · next conn frame htake =>
    have hmem : frame.bytes ≠ [] := by
      rcases takeNextFrame_cases s.queue.conn with ⟨-, hnone⟩ | ⟨i, f, rest, hq, -, hsome⟩
      · rw [hnone] at htake
        exact absurd htake (by simp)
      · rw [hsome] at htake
        obtain ⟨-, hf⟩ := Prod.mk.inj htake
        rw [← Option.some.inj hf]
        exact h.budget.nonempty i f (by rw [hq]; exact List.mem_cons_self)
    have htaken : StoppedFor
        { s with queue := s.queue.step .take, socket := s.socket.running.2 } :=
      of_phase (QueueRun.step_withinBudget h.budget .take) h.alive.running.2 hphase
    exact htaken.write lossyChannel hmem

theorem wait (h : StoppedFor s) (hphase : s.phase ≠ .left) (lossyChannel : Bool) :
    StoppedFor (s.wait lossyChannel) := by
  unfold SendLoop.wait
  dsimp only
  split
  · exact of_phase h.budget h.alive.running.2 (by simp)
  · have hread : StoppedFor { s with socket := s.socket.running.2 } :=
      of_phase h.budget h.alive.running.2 hphase
    exact hread.afterWait hphase lossyChannel

theorem advance (h : StoppedFor s) (lossyChannel : Bool) : StoppedFor (s.advance lossyChannel) := by
  unfold SendLoop.advance
  split
  · exact h
  · next hphase => exact h.wait (by simp [hphase]) lossyChannel
  · next hphase =>
    have hne : s.phase ≠ .left := by simp [hphase]
    have hread : StoppedFor { s with socket := s.socket.running.2 } :=
      of_phase h.budget h.alive.running.2 hne
    dsimp only
    rw [h.alive.running.1]
    exact hread.wait hne lossyChannel

theorem produce (h : StoppedFor s) (producers : List ProducerOp) :
    StoppedFor (s.produce producers) := by
  refine ⟨?_, h.alive, h.stopped⟩
  exact List.foldlRecOn (motive := fun r : QueueRun => WithinBudget r.conn) _ QueueRun.step
    h.budget fun _ hr op _ => QueueRun.step_withinBudget hr op

end StoppedFor

theorem stoppedFor_sendLoopRun (peer : Peer) (running : Bool) (maxQueuedBytes : ℕ)
    (lossyChannel : Bool) {socket : Socket} (halive : socket.Alive)
    (rounds : List (List ProducerOp)) :
    StoppedFor (sendLoopRun peer running maxQueuedBytes lossyChannel socket rounds) := by
  refine List.foldlRecOn rounds (SendLoop.round lossyChannel) ?_ ?_
  · exact .of_phase (withinBudget_empty peer running maxQueuedBytes) halive (by simp)
  · intro s h producers _
    exact (h.produce producers).advance lossyChannel

/-! ### The receive loop -/

/-- **Overflow recovery gives up only at a reliable frame.** -/
theorem recoverReceiveOverflow_false {maxBytes : ℕ} {buffer : Bytes}
    (h : (recoverReceiveOverflow maxBytes buffer).2 = false) :
    ∃ headerLen payloadLen qos, Reliable qos ∧
      peekFrameHeader (recoverReceiveOverflow maxBytes buffer).1 =
        some (headerLen, payloadLen, qos) := by
  fun_induction recoverReceiveOverflow maxBytes buffer with
  | case1 buffer hover headerLen payloadLen qos hpeek hclass =>
    exact ⟨headerLen, payloadLen, qos, reliable_iff.mpr (by simpa using hclass), hpeek⟩
  | case2 buffer hover headerLen payloadLen qos hpeek hclass frameLen ih => exact ih h
  | case3 buffer hover hpeek magic hend => exact absurd h (by simp)
  | case4 buffer hover hpeek magic hend ih => exact ih h
  | case5 buffer hfits => exact absurd h (by simp)

/-- What a loop that was handed bytes only has left for. -/
def OverflowedFor (s : ReceiveLoop) : Prop :=
  s.left = true → ∃ headerLen payloadLen qos, Reliable qos ∧
    peekFrameHeader s.receiveBuffer = some (headerLen, payloadLen, qos)

theorem OverflowedFor.read {s : ReceiveLoop} (h : OverflowedFor s) (maxBufferBytes : ℕ)
    {outcome : ReadOutcome} (hread : outcome.Delivers) :
    OverflowedFor (s.read maxBufferBytes outcome) := by
  unfold ReceiveLoop.read
  split
  · exact h
  next hleft =>
  cases outcome with
  | retry => exact h
  | closed => exact absurd hread id
  | failed message => exact absurd hread id
  | stopped => exact absurd hread id
  | data chunk =>
    have hdrained : ∀ s' : ReceiveLoop, s'.left = s.left →
        OverflowedFor (s'.drained maxBufferBytes) := by
      intro s' hsame hleft'
      exact absurd (hsame.symm.trans hleft') hleft
    dsimp only
    split
    · have hfalse := @recoverReceiveOverflow_false maxBufferBytes (s.receiveBuffer ++ chunk)
      split
      · exact hdrained _ rfl
      · next buffer hrecover =>
        rw [hrecover] at hfalse
        intro _
        exact hfalse rfl
    · exact hdrained _ rfl

theorem overflowedFor_receiveRun (maxBufferBytes : ℕ) {reads : List ReadOutcome}
    (hreads : ∀ r ∈ reads, r.Delivers) : OverflowedFor (receiveRun maxBufferBytes reads) := by
  refine List.foldlRecOn reads (ReceiveLoop.read maxBufferBytes) ?_ ?_
  · intro hleft
    exact absurd hleft (by simp)
  · intro s h outcome hmem
    exact h.read maxBufferBytes (hreads outcome hmem)

/-! ### Teardown -/

/-- **A connection is torn down without a hard call only for a frame written in part
or for a reliable one.**  The send loop stops it for the frame it was writing; the
receive loop, handed any bytes, for the frame whose header its buffer starts with. -/
theorem teardown_isolated :
    (∀ (peer : Peer) (running : Bool) (maxQueuedBytes : ℕ) (lossyChannel : Bool) (socket : Socket)
        (rounds : List (List ProducerOp)),
      let s := sendLoopRun peer running maxQueuedBytes lossyChannel socket rounds
      socket.Alive → (∀ w ∈ s.writes, ∀ call ∈ w.calls, ¬ call.Hard) → s.phase = .left →
        ∃ w, s.writes.getLast? = some w ∧ (w.wire ≠ [] ∨ Reliable w.frame.qos)) ∧
      ∀ (maxBufferBytes : ℕ) (reads : List ReadOutcome),
        (∀ r ∈ reads, r.Delivers) → (receiveRun maxBufferBytes reads).left = true →
          ∃ headerLen payloadLen qos, Reliable qos ∧
            peekFrameHeader (receiveRun maxBufferBytes reads).receiveBuffer =
              some (headerLen, payloadLen, qos) := by
  constructor
  · intro peer running maxQueuedBytes lossyChannel socket rounds s halive hsoft hleft
    obtain ⟨w, hlast, hreason⟩ :=
      (stoppedFor_sendLoopRun peer running maxQueuedBytes lossyChannel halive rounds).stopped hleft
    refine ⟨w, hlast, hreason.resolve_left ?_⟩
    rintro ⟨call, hmem, hhard⟩
    exact hsoft w (List.mem_of_getLast? hlast) call hmem hhard
  · intro maxBufferBytes reads hreads hleft
    exact overflowedFor_receiveRun maxBufferBytes hreads hleft

/-! ### A congested connection -/

/-- A socket that answers every write with `would_block`. -/
def congestedSocket : Socket where
  readings := Stream'.const true
  outcomes := Stream'.const ⟨0, some ⟨true, ascii "Resource temporarily unavailable"⟩⟩

/-- One pass on such a socket. -/
theorem writeChunk_congested (bytes : Bytes) (retryLimit retryCount : ℕ) (calls : List SendCall) :
    let error : SocketError := ⟨true, ascii "Resource temporarily unavailable"⟩
    writeChunk Socket.sendChunk bytes retryLimit ⟨congestedSocket, 0, retryCount, calls⟩ =
      (⟨congestedSocket, 0, retryCount + 1, calls ++ [⟨nextChunk bytes 0, 0, some error⟩]⟩,
        if retryLimit < retryCount + 1 then some ⟨.congested, 0, error.message⟩ else none) := by
  intro error
  have hsend : Socket.sendChunk (nextChunk bytes 0) congestedSocket =
      (⟨0, some error⟩, congestedSocket) := rfl
  unfold writeChunk
  simp only [hsend, Nat.zero_min, retriesAfter, if_true, Nat.add_zero, error, Bool.not_true,
    Bool.false_eq_true, if_false]
  split <;> rfl

/-- One pass of the loop on such a socket. -/
theorem writeFrameChunksLoop_congested_step {bytes : Bytes} (hbytes : bytes ≠ [])
    {retryLimit retryCount : ℕ} {calls : List SendCall} {s' : WriterState Socket}
    {result : Option SocketWriteResult}
    (hchunk : writeChunk Socket.sendChunk bytes retryLimit
      ⟨congestedSocket, 0, retryCount, calls⟩ = (s', result)) :
    writeFrameChunksLoop Socket.sendChunk Socket.running bytes retryLimit
        ⟨congestedSocket, 0, retryCount, calls⟩ =
      match result with
      | some result => (result, s')
      | none => writeFrameChunksLoop Socket.sendChunk Socket.running bytes retryLimit s' := by
  have hread : congestedSocket.running.1 = true := rfl
  rw [writeFrameChunksLoop, if_pos (List.length_pos_iff.mpr hbytes)]
  simp only [hread, if_true]
  split
  · next next returned hnext =>
    obtain ⟨rfl, rfl⟩ := Prod.mk.inj (hchunk.symm.trans hnext)
    rfl
  · next next hnext =>
    obtain ⟨rfl, rfl⟩ := Prod.mk.inj (hchunk.symm.trans hnext)
    rfl

/-- On such a socket the writer gives up with nothing written and no hard call. -/
theorem writeFrameChunksLoop_congested {bytes : Bytes} (hbytes : bytes ≠ []) (retries : ℕ) :
    ∀ (retryCount : ℕ) (calls : List SendCall), retryCount + retries = kCongestionRetryLimit →
      (∀ call ∈ calls, ¬ call.Hard) →
      let out := writeFrameChunksLoop Socket.sendChunk Socket.running bytes kCongestionRetryLimit
        ⟨congestedSocket, 0, retryCount, calls⟩
      out.1.status = .congested ∧ out.1.bytesWritten = 0 ∧ ∀ call ∈ out.2.calls, ¬ call.Hard := by
  have hmore : ∀ {calls : List SendCall} {data : Bytes} {message : Text},
      (∀ call ∈ calls, ¬ call.Hard) →
      ∀ call ∈ calls ++ [⟨data, 0, some ⟨true, message⟩⟩], ¬ call.Hard := by
    intro calls data message hsoft call hcall
    rcases List.mem_append.mp hcall with hcall | hcall
    · exact hsoft call hcall
    · rw [List.mem_singleton.mp hcall]
      simp [SendCall.Hard]
  -- The induction is on the retries that are left before the limit.
  induction retries with
  | zero =>
    intro retryCount calls hretry hsoft
    have hchunk := writeChunk_congested bytes kCongestionRetryLimit retryCount calls
    dsimp only at hchunk
    rw [if_pos (by omega)] at hchunk
    rw [writeFrameChunksLoop_congested_step hbytes hchunk]
    exact ⟨rfl, rfl, hmore hsoft⟩
  | succ retries ih =>
    intro retryCount calls hretry hsoft
    have hchunk := writeChunk_congested bytes kCongestionRetryLimit retryCount calls
    dsimp only at hchunk
    rw [if_neg (by omega)] at hchunk
    rw [writeFrameChunksLoop_congested_step hbytes hchunk]
    exact ih (retryCount + 1) _ (by omega) (hmore hsoft)

/-- A frame enqueued on a connection with such a socket. -/
def congestedRun (qos : QosClass) : SendLoop :=
  sendLoopRun {} true 1024 false congestedSocket [[.enqueue [1, 2, 3] qos []]]

/-- The loop takes the frame and tries to write it. -/
theorem congestedRun_write {qos : QosClass} (hqos : Reliable qos) :
    ∃ s : SendLoop, s.socket = congestedSocket ∧ s.writes = [] ∧
      congestedRun qos = s.write false { bytes := [1, 2, 3], qos, latestKey := [], stamp := 0 } := by
  let frame : OutboundFrame := { bytes := [1, 2, 3], qos, latestKey := [], stamp := 0 }
  let queued : RuntimeConnection :=
    { running := true
      maxQueuedBytes := 1024
      queuedBytes := 3
      sendQueues := Function.update (fun _ => []) (qosIndex qos) [frame] }
  have henqueue : runtimeEnqueue { running := true, maxQueuedBytes := 1024 } [1, 2, 3] qos [] 0 =
      (queued, true) := by
    rcases hqos with rfl | rfl <;> decide +kernel
  have hstep : QueueRun.step { conn := { running := true, maxQueuedBytes := 1024 } }
      (.enqueue [1, 2, 3] qos []) = { conn := queued, accepted := [frame] } := by
    simp only [QueueRun.step, List.length_nil, henqueue]
    rfl
  let taken := QueueRun.step { conn := queued, accepted := [frame] } .take
  refine ⟨{ queue := taken, socket := congestedSocket }, rfl, rfl, ?_⟩
  simp only [congestedRun, sendLoopRun, List.foldl_cons, List.foldl_nil, SendLoop.round,
    SendLoop.produce, List.map_cons, List.map_nil, ProducerOp.toQueueOp, hstep]
  rcases hqos with rfl | rfl <;> rfl

/-- A reliable frame stops the connection, with nothing written and no hard call. -/
theorem congestedRun_left {qos : QosClass} (hqos : Reliable qos) :
    (congestedRun qos).phase = .left ∧ ∃ calls, (∀ call ∈ calls, ¬ call.Hard) ∧
      callsWire calls = [] ∧ (congestedRun qos).writes =
        [⟨{ bytes := [1, 2, 3], qos, latestKey := [], stamp := 0 }, calls⟩] := by
  obtain ⟨s, hsocket, hwrites, hrun⟩ := congestedRun_write hqos
  have hwrite : writeSocket [1, 2, 3] congestedSocket =
      writeFrameChunksLoop Socket.sendChunk Socket.running [1, 2, 3] kCongestionRetryLimit
        ⟨congestedSocket, 0, 0, []⟩ := rfl
  have hrep := writeSocket_spec [1, 2, 3] congestedSocket
  obtain ⟨hstatus, hzero, hsoft⟩ := @writeFrameChunksLoop_congested [1, 2, 3] (by simp)
    kCongestionRetryLimit 0 [] (Nat.zero_add _) (by simp)
  rw [← hwrite] at hstatus hzero hsoft
  rw [hrun, SendLoop.write, hsocket, hwrites]
  generalize writeSocket [1, 2, 3] congestedSocket = out at hrep hstatus hzero hsoft
  obtain ⟨result, writer⟩ := out
  dsimp only at hrep hstatus hzero hsoft ⊢
  rw [hstatus, if_neg (by decide), mayDropCongestedFrame, reliable_iff.mp hqos, Bool.and_false,
    Bool.and_false, if_neg (by decide)]
  refine ⟨rfl, writer.calls, hsoft, ?_, rfl⟩
  have hoffset : writer.offset = 0 := hrep.bytesWritten.symm.trans hzero
  rw [hrep.wire, hoffset, List.take_zero]

theorem congestedSocket_alive : congestedSocket.Alive := fun _ => rfl

/-- A ReliableOrdered frame on a congested connection, and one that overflows a
receive buffer. -/
theorem teardown_isolated_sample :
    (∃ w, (congestedRun .reliableOrdered).writes.getLast? = some w ∧
        (w.wire ≠ [] ∨ Reliable w.frame.qos)) ∧
      ∃ headerLen payloadLen qos, Reliable qos ∧
        peekFrameHeader
            (receiveRun 80 [.data (WireCodec.encode WireCodec.sampleEnvelope true 7)]).receiveBuffer =
          some (headerLen, payloadLen, qos) := by
  constructor
  · obtain ⟨hleft, calls, hsoft, -, hwrites⟩ := @congestedRun_left .reliableOrdered (Or.inl rfl)
    refine teardown_isolated.1 {} true 1024 false congestedSocket
      [[.enqueue [1, 2, 3] .reliableOrdered []]] congestedSocket_alive ?_ hleft
    intro w hw call hcall
    have hmem : w ∈ (congestedRun .reliableOrdered).writes := hw
    rw [hwrites, List.mem_singleton] at hmem
    exact hsoft call (by rwa [hmem] at hcall)
  · exact teardown_isolated.2 80 [.data (WireCodec.encode WireCodec.sampleEnvelope true 7)]
      (by decide +kernel) (by decide +kernel)

/-- A ReliableLatest frame tears the connection down too, with nothing of it written. -/
theorem congestedLatest_tornDown :
    congestedSocket.Alive ∧
      (∀ w ∈ (congestedRun .reliableLatest).writes, ∀ call ∈ w.calls, ¬ call.Hard) ∧
      (congestedRun .reliableLatest).phase = .left ∧
      ¬ ∃ w, (congestedRun .reliableLatest).writes.getLast? = some w ∧
        (w.wire ≠ [] ∨ w.frame.qos = .reliableOrdered) := by
  obtain ⟨hleft, calls, hsoft, hwire, hwrites⟩ := @congestedRun_left .reliableLatest (Or.inr rfl)
  rw [hwrites]
  refine ⟨congestedSocket_alive, ?_, hleft, ?_⟩
  · intro w hw call hcall
    rw [List.mem_singleton.mp hw] at hcall
    exact hsoft call hcall
  · rintro ⟨w, hlast, hreason⟩
    obtain rfl := Option.some.inj hlast
    rcases hreason with hpart | hclass
    · exact hpart hwire
    · exact QosClass.noConfusion hclass

end YunLink
