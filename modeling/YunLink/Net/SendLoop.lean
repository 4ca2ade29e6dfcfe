import Mathlib.Data.Stream.Defs
import YunLink.Net.QueueBudget
import YunLink.Wire.Codec

/-!
# The send loop

`write_frame_chunks`, `write_socket` and `runtime_send_loop`
(`runtime_network.cpp`).  What the socket answers to a write, and what each
reading of `running` returns, comes from outside the loop: the chunk writer takes
them as functions over an arbitrary state, as the source does, and the loop draws
them from the two streams of a `Socket`.

The loop sleeps in a condition variable while producers enqueue.  A *round* is
what they enqueue followed by one evaluation of the condition and, when it holds,
the rest of the loop's body; a run is a list of rounds.

## Main definitions

* `writeFrameChunks`, `writeSocket` — the chunk writer, with the calls it made.
* `SendLoop.round`, `sendLoopRun` — the loop, with what it wrote of each frame.
* `FrameWrite.wire`, `SendLoop.wire` — the bytes put on the socket.

## Main results

* `writeFrameChunks_spec` — **the writer reports what it wrote**: a prefix of the
  frame, the whole of it exactly when it reports that many bytes.
* `sendLoopRun_framing` — **framing is never torn**: whole frames, then at most
  one proper prefix after which nothing is written.
-/

namespace YunLink

/-- The most that one write is given. -/
def kWriteQuantumBytes : ℕ := 16 * 1024

/-- How often in a row a write may be refused. -/
def kCongestionRetryLimit : ℕ := 1000

/-! ### The chunk writer -/

/-- A `std::error_code`, as far as the writer tells them apart. -/
structure SocketError where
  /-- It is `would_block` or `try_again`. -/
  retryable : Bool
  message : Text
  deriving DecidableEq, Repr

/-- The answer to one write. -/
structure SendOutcome where
  sent : ℕ
  error : Option SocketError := none
  deriving DecidableEq, Repr

/-- Ghost: one call of `send_chunk` and what came of it. -/
structure SendCall where
  data : Bytes
  sent : ℕ
  error : Option SocketError
  deriving DecidableEq, Repr

/-- The bytes that calls put on the socket. -/
def callsWire (calls : List SendCall) : Bytes :=
  (calls.map fun call => call.data.take call.sent).flatten

/-- `SocketWriteStatus`. -/
inductive SocketWriteStatus
  | complete
  | congested
  | disconnected
  deriving DecidableEq, Repr, Inhabited

/-- `SocketWriteResult`. -/
structure SocketWriteResult where
  status : SocketWriteStatus
  bytesWritten : ℕ
  error : Text
  deriving DecidableEq, Repr

/-- The variables of `write_frame_chunks`; `env` is the state of its two
function arguments. -/
structure WriterState (σ : Type) where
  env : σ
  offset : ℕ := 0
  retryCount : ℕ := 0
  calls : List SendCall := []

section Writer

variable {σ : Type} (sendChunk : Bytes → σ → SendOutcome × σ) (running : σ → Bool × σ)
  (bytes : Bytes) (retryLimit : ℕ)

/-- The slice offered to the next write. -/
def nextChunk (offset : ℕ) : Bytes := (bytes.drop offset).take kWriteQuantumBytes

/-- `retry_count` after a pass that found the socket congested. -/
def retriesAfter (retryCount sent : ℕ) : ℕ := (if sent = 0 then retryCount else 0) + 1

/-- One pass of the loop, with the result it returns if it does.  A write never
reports more bytes than it was given. -/
def writeChunk (s : WriterState σ) : WriterState σ × Option SocketWriteResult :=
  let data := nextChunk bytes s.offset
  let (outcome, env) := sendChunk data s.env
  let sent := min outcome.sent data.length
  let s := { s with
    env, offset := s.offset + sent, calls := s.calls ++ [⟨data, sent, outcome.error⟩] }
  match outcome.error with
  | none =>
      if sent = 0 then (s, some ⟨.disconnected, s.offset, ascii "zero-byte write"⟩)
      else ({ s with retryCount := 0 }, none)
  | some error =>
      if !error.retryable then (s, some ⟨.disconnected, s.offset, error.message⟩)
      else
        let s := { s with retryCount := retriesAfter s.retryCount sent }
        if retryLimit < s.retryCount then (s, some ⟨.congested, s.offset, error.message⟩)
        else (s, none)

/-- What a pass did: it offered the next chunk, counted what was sent of it, and
either returned or came closer to one of its two limits. -/
structure ChunkWritten (s s' : WriterState σ) (result : Option SocketWriteResult) (sent : ℕ)
    (error : Option SocketError) : Prop where
  sent_le : sent ≤ (nextChunk bytes s.offset).length
  offset : s'.offset = s.offset + sent
  calls : s'.calls = s.calls ++ [⟨nextChunk bytes s.offset, sent, error⟩]
  returned : ∀ r, result = some r → r.status ≠ .complete ∧ r.bytesWritten = s'.offset
  progress : result = none → s.offset < s'.offset ∨
    s'.offset = s.offset ∧ s'.retryCount = s.retryCount + 1 ∧ s'.retryCount ≤ retryLimit

theorem writeChunk_spec (s : WriterState σ) : ∃ sent error,
    ChunkWritten bytes retryLimit s (writeChunk sendChunk bytes retryLimit s).1
      (writeChunk sendChunk bytes retryLimit s).2 sent error := by
  generalize hout : sendChunk (nextChunk bytes s.offset) s.env = out
  obtain ⟨⟨reported, error⟩, env⟩ := out
  refine ⟨min reported (nextChunk bytes s.offset).length, error, ?_⟩
  unfold writeChunk
  simp only [hout]
  cases error with
  | none =>
    simp only
    split
    · next hzero => exact ⟨Nat.min_le_right _ _, rfl, rfl, by simp, by simp⟩
    · next hpos =>
      refine ⟨Nat.min_le_right _ _, rfl, rfl, by simp, fun _ => Or.inl ?_⟩
      show s.offset < s.offset + _
      omega
  | some error =>
    simp only
    split
    · exact ⟨Nat.min_le_right _ _, rfl, rfl, by simp, by simp⟩
    · split
      · exact ⟨Nat.min_le_right _ _, rfl, rfl, by simp, by simp⟩
      · next hlimit =>
        refine ⟨Nat.min_le_right _ _, rfl, rfl, by simp, fun _ => ?_⟩
        -- Congestion behind some bytes is progress, and without any it counts as a retry.
        by_cases hzero : min reported (nextChunk bytes s.offset).length = 0
        · refine Or.inr ⟨by simp [hzero], ?_, Nat.le_of_not_lt hlimit⟩
          simp [retriesAfter, hzero]
        · refine Or.inl ?_
          show s.offset < s.offset + _
          omega

/-- The loop of `write_frame_chunks`, and what follows it. -/
def writeFrameChunksLoop (s : WriterState σ) : SocketWriteResult × WriterState σ :=
  if s.offset < bytes.length then
    let (alive, env) := running s.env
    let s := { s with env }
    if alive then
      match _h : writeChunk sendChunk bytes retryLimit s with
      | (s', some result) => (result, s')
      | (s', none) => writeFrameChunksLoop s'
    else
      let (alive, env) := running s.env
      (⟨if alive then .congested else .disconnected, s.offset,
        ascii "socket stopped during write"⟩, { s with env })
  else (⟨.complete, s.offset, []⟩, s)
termination_by (bytes.length - s.offset, retryLimit + 1 - s.retryCount)
decreasing_by
  obtain ⟨sent, error, hspec⟩ := writeChunk_spec sendChunk bytes retryLimit s
  rw [_h] at hspec
  rcases hspec.progress rfl with hlt | ⟨heq, hretry, hle⟩
  · refine Prod.Lex.left _ _ ?_
    simp only [s] at *
    omega
  · simp only [s] at *
    rw [heq]
    exact Prod.Lex.right _ (by omega)

/-- `write_frame_chunks`. -/
def writeFrameChunks (env : σ) : SocketWriteResult × WriterState σ :=
  if bytes.isEmpty then (⟨.disconnected, 0, ascii "socket unavailable"⟩, { env })
  else
    let (alive, env) := running env
    if !alive then (⟨.disconnected, 0, ascii "socket unavailable"⟩, { env })
    else writeFrameChunksLoop sendChunk running bytes retryLimit { env }

end Writer

/-! ### The socket of a connection -/

/-- What a connection's socket will answer and its `running` flag will read. -/
structure Socket where
  readings : Stream' Bool
  outcomes : Stream' SendOutcome

/-- One reading of the flag. -/
def Socket.running (s : Socket) : Bool × Socket :=
  (s.readings.head, { s with readings := s.readings.tail })

/-- `asio::error::operation_aborted`. -/
def operationAborted : SocketError := ⟨false, ascii "Operation canceled"⟩

/-- The `send_chunk` of `write_socket`. -/
def Socket.sendChunk (_data : Bytes) (s : Socket) : SendOutcome × Socket :=
  let (alive, s) := s.running
  if !alive then (⟨0, some operationAborted⟩, s)
  else (s.outcomes.head, { s with outcomes := s.outcomes.tail })

/-- `write_socket`. -/
def writeSocket (bytes : Bytes) (s : Socket) : SocketWriteResult × WriterState Socket :=
  let (alive, s) := s.running
  if !alive then (⟨.disconnected, 0, ascii "socket unavailable"⟩, { env := s })
  else writeFrameChunks Socket.sendChunk Socket.running bytes kCongestionRetryLimit s

/-! ### The loop -/

/-- Ghost: a frame taken by the loop, with the calls that wrote it. -/
structure FrameWrite where
  frame : OutboundFrame
  calls : List SendCall

/-- The bytes of a frame that reached the socket. -/
def FrameWrite.wire (w : FrameWrite) : Bytes := callsWire w.calls

/-- `may_drop_congested_frame`. -/
def mayDropCongestedFrame (qos : QosClass) (bytesWritten : ℕ) : Bool :=
  bytesWritten == 0 && qosMayDrop qos

/-- Where the loop stands between two rounds. -/
inductive SendPhase
  /-- At the head of the loop. -/
  | head
  /-- In the condition variable. -/
  | waiting
  | left
  deriving DecidableEq, Repr, Inhabited

/-- What other threads do to a connection while the loop runs. -/
inductive ProducerOp
  | enqueue (bytes : Bytes) (qos : QosClass) (latestKey : Text)
  | setRunning (running : Bool)
  deriving DecidableEq, Repr

/-- The operation on the queues. -/
def ProducerOp.toQueueOp : ProducerOp → QueueOp
  | .enqueue bytes qos latestKey => .enqueue bytes qos latestKey
  | .setRunning running => .setRunning running

/-- The connection, its socket and what the loop has written. -/
structure SendLoop where
  queue : QueueRun
  socket : Socket
  phase : SendPhase := .head
  writes : List FrameWrite := []
  /-- The text of the error event the loop left with. -/
  error : Option Text := none

/-- `std::to_string`. -/
def toText (n : ℕ) : Text := ascii (toString n)

/-- The text of the event for a frame that could not be written; `lossyChannel`
says whether the peer is a lane. -/
def writeFailure (lossyChannel : Bool) (queuedBytes : ℕ) (frame : OutboundFrame)
    (result : SocketWriteResult) : Text :=
  ascii "socket write failed: channel=" ++ ascii (if lossyChannel then "lossy" else "control") ++
    ascii " session_id=" ++
    toText (if 28 ≤ frame.bytes.length then (readU64 (frame.bytes.drop 20)).toNat else 0) ++
    ascii " bytes_written=" ++ toText result.bytesWritten ++
    ascii " frame_bytes=" ++ toText frame.bytes.length ++
    ascii " queued_bytes=" ++ toText queuedBytes ++
    ascii " qos=" ++ toText frame.qos.toUInt8.toNat ++ ascii " reason=" ++ result.error

namespace SendLoop

/-- Write the frame taken, and go on or give the connection up. -/
def write (s : SendLoop) (lossyChannel : Bool) (frame : OutboundFrame) : SendLoop :=
  let (result, writer) := writeSocket frame.bytes s.socket
  let s : SendLoop := { s with socket := writer.env, writes := s.writes ++ [⟨frame, writer.calls⟩] }
  if result.status = .complete then { s with phase := .head }
  else if result.status = .congested && mayDropCongestedFrame frame.qos result.bytesWritten then
    { s with phase := .head }
  else
    { s with
      phase := .left
      queue.conn.running := false
      error := some (writeFailure lossyChannel s.queue.conn.queuedBytes frame result) }

/-- The body of the loop behind the condition variable. -/
def afterWait (s : SendLoop) (lossyChannel : Bool) : SendLoop :=
  let (alive, socket) := s.socket.running
  let s := { s with socket }
  if !alive then { s with phase := .head }
  else
    match takeNextFrame s.queue.conn with
    | (_, none) => { s with phase := .head }
    | (_, some frame) => write { s with queue := s.queue.step .take } lossyChannel frame

/-- One evaluation of the condition. -/
def wait (s : SendLoop) (lossyChannel : Bool) : SendLoop :=
  let (alive, socket) := s.socket.running
  let s := { s with socket }
  if alive && s.queue.conn.queuedBytes = 0 then { s with phase := .waiting }
  else afterWait s lossyChannel

/-- The producers' calls. -/
def produce (s : SendLoop) (producers : List ProducerOp) : SendLoop :=
  { s with queue := (producers.map ProducerOp.toQueueOp).foldl QueueRun.step s.queue }

/-- The loop, from where it stands to the next time it waits or starts over. -/
def advance (s : SendLoop) (lossyChannel : Bool) : SendLoop :=
  match s.phase with
  | .left => s
  | .waiting => wait s lossyChannel
  | .head =>
      let (alive, socket) := s.socket.running
      let s := { s with socket }
      if !alive then { s with phase := .left }
      else wait s lossyChannel

/-- What other threads do, and then a pass of the loop. -/
def round (lossyChannel : Bool) (s : SendLoop) (producers : List ProducerOp) : SendLoop :=
  (s.produce producers).advance lossyChannel

/-- All bytes the loop put on the socket. -/
def wire (s : SendLoop) : Bytes := (s.writes.map FrameWrite.wire).flatten

end SendLoop

/-- The loop on a connection that starts empty. -/
def sendLoopRun (peer : Peer) (running : Bool) (maxQueuedBytes : ℕ) (lossyChannel : Bool)
    (socket : Socket) (rounds : List (List ProducerOp)) : SendLoop :=
  rounds.foldl (SendLoop.round lossyChannel)
    { queue := { conn := { peer, running, maxQueuedBytes } }, socket }

/-! ### What the writer wrote -/

theorem callsWire_concat (calls : List SendCall) (call : SendCall) :
    callsWire (calls ++ [call]) = callsWire calls ++ call.data.take call.sent := by
  simp [callsWire]

/-- The socket holds the bytes before the offset. -/
structure WrittenTo {σ : Type} (bytes : Bytes) (s : WriterState σ) : Prop where
  wire : callsWire s.calls = bytes.take s.offset
  offset_le : s.offset ≤ bytes.length

/-- The sent part of a chunk continues what was written before it. -/
theorem take_append_nextChunk {bytes : Bytes} {offset sent : ℕ}
    (h : sent ≤ (nextChunk bytes offset).length) :
    bytes.take offset ++ (nextChunk bytes offset).take sent = bytes.take (offset + sent) := by
  have hquantum : sent ≤ kWriteQuantumBytes := by
    refine h.trans ?_
    rw [nextChunk, List.length_take]
    exact Nat.min_le_left _ _
  rw [nextChunk, List.take_take, Nat.min_eq_left hquantum, ← List.take_add]

theorem length_nextChunk_le (bytes : Bytes) (offset : ℕ) :
    (nextChunk bytes offset).length ≤ bytes.length - offset := by
  rw [nextChunk, List.length_take, List.length_drop]
  exact Nat.min_le_right _ _

section Writer

variable {σ : Type} {sendChunk : Bytes → σ → SendOutcome × σ} {running : σ → Bool × σ}
  {bytes : Bytes} {retryLimit : ℕ}

theorem ChunkWritten.writtenTo {s s' : WriterState σ} {result : Option SocketWriteResult} {sent : ℕ}
    {error : Option SocketError} (hc : ChunkWritten bytes retryLimit s s' result sent error)
    (hs : WrittenTo bytes s) : WrittenTo bytes s' := by
  refine ⟨?_, ?_⟩
  · rw [hc.calls, callsWire_concat, hs.wire, hc.offset]
    exact take_append_nextChunk hc.sent_le
  · have hlen := hc.sent_le.trans (length_nextChunk_le bytes s.offset)
    have hle := hs.offset_le
    rw [hc.offset]
    omega

/-- The result of a write, against the state the writer ends in. -/
structure Reported (bytes : Bytes) (out : SocketWriteResult × WriterState σ) : Prop
    extends WrittenTo bytes out.2 where
  bytesWritten : out.1.bytesWritten = out.2.offset
  complete : out.1.status = .complete → out.2.offset = bytes.length

theorem writeFrameChunksLoop_reported (s : WriterState σ) (hs : WrittenTo bytes s) :
    Reported bytes (writeFrameChunksLoop sendChunk running bytes retryLimit s) := by
  fun_induction writeFrameChunksLoop sendChunk running bytes retryLimit s with
  | case1 s hlt env s₁ s' result hchunk halive =>
    obtain ⟨sent, error, hc⟩ := writeChunk_spec sendChunk bytes retryLimit s₁
    rw [hchunk] at hc
    obtain ⟨hstatus, hbytes⟩ := hc.returned result rfl
    exact ⟨hc.writtenTo ⟨hs.wire, hs.offset_le⟩, hbytes, fun h => absurd h hstatus⟩
  | case2 s hlt env s₁ s' hchunk halive ih =>
    obtain ⟨sent, error, hc⟩ := writeChunk_spec sendChunk bytes retryLimit s₁
    rw [hchunk] at hc
    exact ih (hc.writtenTo ⟨hs.wire, hs.offset_le⟩)
  | case3 s hlt alive env hrun s₁ hdead alive' env' hrun' =>
    refine ⟨⟨hs.wire, hs.offset_le⟩, rfl, fun h => absurd h ?_⟩
    cases alive' <;> simp
  | case4 s hge => exact ⟨hs, rfl, fun _ => Nat.le_antisymm hs.offset_le (Nat.le_of_not_lt hge)⟩

/-- **The writer reports what it wrote**: the socket got the first `bytesWritten`
bytes of the frame, and all of it when the write completed. -/
theorem writeFrameChunks_spec (env : σ) :
    Reported bytes (writeFrameChunks sendChunk running bytes retryLimit env) := by
  have hnothing : ∀ (env : σ) (error : Text),
      Reported bytes (⟨.disconnected, 0, error⟩, { env }) := fun env error =>
    ⟨⟨rfl, Nat.zero_le _⟩, rfl, fun h => SocketWriteStatus.noConfusion h⟩
  unfold writeFrameChunks
  split
  · exact hnothing _ _
  · simp only
    split
    · exact hnothing _ _
    · exact writeFrameChunksLoop_reported _ ⟨rfl, Nat.zero_le _⟩

end Writer

theorem writeSocket_spec (bytes : Bytes) (s : Socket) : Reported bytes (writeSocket bytes s) := by
  unfold writeSocket
  simp only
  split
  · exact ⟨⟨rfl, Nat.zero_le _⟩, rfl, fun h => SocketWriteStatus.noConfusion h⟩
  · exact writeFrameChunks_spec _

/-! ### Framing -/

namespace FrameWrite

/-- All of the frame reached the socket. -/
def Whole (w : FrameWrite) : Prop := w.wire = w.frame.bytes

instance : DecidablePred Whole := fun w => inferInstanceAs (Decidable (w.wire = w.frame.bytes))

/-- The frame was given up, and nothing of it reached the socket. -/
def Skipped (w : FrameWrite) : Prop := w.wire = [] ∧ qosMayDrop w.frame.qos = true

/-- A proper prefix of the frame reached the socket. -/
def Torn (w : FrameWrite) : Prop := w.wire <+: w.frame.bytes ∧ w.wire ≠ w.frame.bytes

end FrameWrite

/-- The invariant of the loop: only its last frame can be torn, and then it has
left. -/
structure Framing (s : SendLoop) : Prop where
  taken : s.queue.taken = s.writes.map FrameWrite.frame
  framed : ∃ done torn, s.writes = done ++ torn ∧ (∀ w ∈ done, w.Whole ∨ w.Skipped) ∧
    (torn = [] ∨ s.phase = .left ∧ ∃ w, torn = [w] ∧ w.Torn)

namespace Framing

variable {s : SendLoop}

/-- Before the loop leaves, no frame is torn. -/
theorem all_done (h : Framing s) (hphase : s.phase ≠ .left) :
    ∀ w ∈ s.writes, w.Whole ∨ w.Skipped := by
  obtain ⟨done, torn, hwrites, hdone, htorn⟩ := h.framed
  rcases htorn with rfl | ⟨hleft, -⟩
  · rw [hwrites, List.append_nil]
    exact hdone
  · exact absurd hleft hphase

/-- Steps that write nothing keep the framing. -/
theorem of_writes_eq {s' : SendLoop} (h : Framing s) (hphase : s.phase ≠ .left)
    (htaken : s'.queue.taken = s.queue.taken) (hwrites : s'.writes = s.writes) : Framing s' := by
  refine ⟨?_, s.writes, [], ?_, h.all_done hphase, Or.inl rfl⟩
  · rw [htaken, hwrites, h.taken]
  · rw [hwrites, List.append_nil]

/-- The frame just taken is written whole, skipped, or torn for good. -/
theorem write {frame : OutboundFrame} (lossyChannel : Bool)
    (htaken : s.queue.taken = s.writes.map FrameWrite.frame ++ [frame])
    (hdone : ∀ w ∈ s.writes, w.Whole ∨ w.Skipped) : Framing (s.write lossyChannel frame) := by
  have hrep := writeSocket_spec frame.bytes s.socket
  unfold SendLoop.write
  generalize writeSocket frame.bytes s.socket = out at hrep
  obtain ⟨result, writer⟩ := out
  have hwire : FrameWrite.wire ⟨frame, writer.calls⟩ = frame.bytes.take writer.offset := hrep.wire
  have htaken' : s.queue.taken =
      (s.writes ++ [FrameWrite.mk frame writer.calls]).map FrameWrite.frame := by
    rw [htaken, List.map_append]
    rfl
  have hall : ∀ w : FrameWrite, w.Whole ∨ w.Skipped →
      ∀ w' ∈ s.writes ++ [w], w'.Whole ∨ w'.Skipped := by
    intro w hw w' hw'
    rcases List.mem_append.mp hw' with hw' | hw'
    · exact hdone w' hw'
    · rw [List.mem_singleton.mp hw']
      exact hw
  simp only
  split
  · next hcomplete =>
    refine ⟨htaken', _, [], (List.append_nil _).symm, hall _ (Or.inl ?_), Or.inl rfl⟩
    show FrameWrite.wire _ = frame.bytes
    rw [hwire, hrep.complete hcomplete, List.take_length]
  split
  · next hcongested =>
    obtain ⟨-, hdrop⟩ := Bool.and_eq_true_iff.mp hcongested
    obtain ⟨hzero, hlossy⟩ := Bool.and_eq_true_iff.mp hdrop
    refine ⟨htaken', _, [], (List.append_nil _).symm, hall _ (Or.inr ⟨?_, hlossy⟩),
      Or.inl rfl⟩
    have hoffset : writer.offset = 0 := by
      rw [← hrep.bytesWritten]
      exact of_decide_eq_true hzero
    rw [hwire, hoffset, List.take_zero]
  · -- An error may still be reported after the last byte went out.
    by_cases hwhole : FrameWrite.Whole ⟨frame, writer.calls⟩
    · exact ⟨htaken', _, [], (List.append_nil _).symm, hall _ (Or.inl hwhole), Or.inl rfl⟩
    · refine ⟨htaken', s.writes, [⟨frame, writer.calls⟩], rfl, hdone,
        Or.inr ⟨rfl, _, rfl, ?_, hwhole⟩⟩
      rw [hwire]
      exact List.take_prefix _ _

theorem afterWait (h : Framing s) (hphase : s.phase ≠ .left) (lossyChannel : Bool) :
    Framing (s.afterWait lossyChannel) := by
  unfold SendLoop.afterWait
  simp only
  split
  · exact h.of_writes_eq hphase rfl rfl
  split
  · exact h.of_writes_eq hphase rfl rfl
  · next conn frame htake =>
    refine write lossyChannel ?_ (h.all_done hphase)
    simp only [QueueRun.step, htake]
    rw [h.taken]

theorem wait (h : Framing s) (hphase : s.phase ≠ .left) (lossyChannel : Bool) :
    Framing (s.wait lossyChannel) := by
  unfold SendLoop.wait
  simp only
  split
  · exact h.of_writes_eq hphase rfl rfl
  · have hread : Framing { s with socket := s.socket.running.2 } := h.of_writes_eq hphase rfl rfl
    exact hread.afterWait hphase lossyChannel

theorem advance (h : Framing s) (lossyChannel : Bool) : Framing (s.advance lossyChannel) := by
  unfold SendLoop.advance
  split
  · exact h
  · next hphase => exact h.wait (by simp [hphase]) lossyChannel
  · next hphase =>
    have hne : s.phase ≠ .left := by simp [hphase]
    simp only
    split
    · exact h.of_writes_eq hne rfl rfl
    · have hread : Framing { s with socket := s.socket.running.2 } := h.of_writes_eq hne rfl rfl
      exact hread.wait hne lossyChannel

end Framing

/-- Producers take nothing. -/
theorem taken_foldl_producers (producers : List ProducerOp) (r : QueueRun) :
    ((producers.map ProducerOp.toQueueOp).foldl QueueRun.step r).taken = r.taken := by
  induction producers generalizing r with
  | nil => rfl
  | cons op producers ih =>
    rw [List.map_cons, List.foldl_cons, ih]
    cases op with
    | enqueue bytes qos latestKey =>
      simp only [ProducerOp.toQueueOp, QueueRun.step]
      split <;> rfl
    | setRunning running => rfl

theorem Framing.round {s : SendLoop} (h : Framing s) (lossyChannel : Bool)
    (producers : List ProducerOp) : Framing (s.round lossyChannel producers) := by
  have hproduced : Framing (s.produce producers) :=
    ⟨(taken_foldl_producers producers s.queue).trans h.taken, h.framed⟩
  exact hproduced.advance lossyChannel

/-- A loop that has left writes nothing more. -/
theorem SendLoop.writes_of_left {s : SendLoop} (h : s.phase = .left) (lossyChannel : Bool)
    (rounds : List (List ProducerOp)) :
    (rounds.foldl (SendLoop.round lossyChannel) s).writes = s.writes := by
  induction rounds generalizing s with
  | nil => rfl
  | cons producers rounds ih =>
    have hround : (s.round lossyChannel producers).phase = .left ∧
        (s.round lossyChannel producers).writes = s.writes := by
      have hphase : (s.produce producers).phase = .left := h
      have hround : s.round lossyChannel producers = s.produce producers := by
        rw [SendLoop.round, SendLoop.advance, hphase]
      rw [hround]
      exact ⟨h, rfl⟩
    rw [List.foldl_cons, ih hround.1, hround.2]

theorem sendLoopRun_invariant (peer : Peer) (running : Bool) (maxQueuedBytes : ℕ)
    (lossyChannel : Bool) (socket : Socket) (rounds : List (List ProducerOp)) :
    Framing (sendLoopRun peer running maxQueuedBytes lossyChannel socket rounds) :=
  List.foldlRecOn rounds (SendLoop.round lossyChannel)
    ⟨rfl, [], [], rfl, fun _ hw => absurd hw List.not_mem_nil, Or.inl rfl⟩
    fun _ h producers _ => h.round lossyChannel producers

/-- Skipped frames add nothing to the wire. -/
theorem flatten_wire_of_done {done : List FrameWrite} (h : ∀ w ∈ done, w.Whole ∨ w.Skipped) :
    (done.map FrameWrite.wire).flatten =
      ((done.filter fun w => w.Whole).map fun w => w.frame.bytes).flatten := by
  induction done with
  | nil => rfl
  | cons w done ih =>
    have ih := ih fun w' hw' => h w' (List.mem_cons_of_mem w hw')
    by_cases hw : w.Whole
    · have hwire : w.wire = w.frame.bytes := hw
      rw [List.filter_cons_of_pos (by simpa using hw), List.map_cons, List.map_cons,
        List.flatten_cons, List.flatten_cons, ih, hwire]
    · have hskip : w.wire = [] := ((h w List.mem_cons_self).resolve_left hw).1
      rw [List.filter_cons_of_neg (by simpa using hw), List.map_cons, List.flatten_cons, hskip,
        List.nil_append, ih]

/-- **Framing is never torn.**  The frames are written in the order taken; the
bytes on the socket are whole frames, with only lossy frames skipped, followed by
at most one proper prefix, after which no further round writes anything. -/
theorem sendLoopRun_framing (peer : Peer) (running : Bool) (maxQueuedBytes : ℕ)
    (lossyChannel : Bool) (socket : Socket) (rounds : List (List ProducerOp)) :
    let s := sendLoopRun peer running maxQueuedBytes lossyChannel socket rounds
    s.queue.taken = s.writes.map FrameWrite.frame ∧
      ∃ done torn, s.writes = done ++ torn ∧ (∀ w ∈ done, w.Whole ∨ w.Skipped) ∧
        s.wire = ((done.filter fun w => w.Whole).map fun w => w.frame.bytes).flatten ++
          (torn.map FrameWrite.wire).flatten ∧
        (torn = [] ∨ ∃ w, torn = [w] ∧ w.Torn ∧
          ∀ more, (sendLoopRun peer running maxQueuedBytes lossyChannel socket
            (rounds ++ more)).writes = s.writes) := by
  intro s
  have h : Framing s := sendLoopRun_invariant peer running maxQueuedBytes lossyChannel socket rounds
  obtain ⟨done, torn, hwrites, hdone, htorn⟩ := h.framed
  refine ⟨h.taken, done, torn, hwrites, hdone, ?_, ?_⟩
  · rw [← flatten_wire_of_done hdone, ← List.flatten_append, ← List.map_append, ← hwrites]
    rfl
  · rcases htorn with htorn | ⟨hleft, w, htorn, hw⟩
    · exact Or.inl htorn
    · refine Or.inr ⟨w, htorn, hw, fun more => ?_⟩
      rw [sendLoopRun, List.foldl_append]
      exact SendLoop.writes_of_left hleft lossyChannel more

end YunLink
