import YunLink.Lib.Cutting
import YunLink.Net.FrameBoundaries
import YunLink.Wire.MemorySafety

/-!
# Segmentation

TCP hands over a stream in pieces of its own choosing.  `pop_frame` decides by the first
bytes of the buffer, which more input does not change, and waits where they are not all
there; so it is a cutter in the sense of `Cutting.Cutter`, and what it hands over does not
depend on the pieces, as long as it drops nothing while it waits.  It does: a buffer of
four bytes or more without a magic is cleared, with the first bytes of a magic that may
stand at its end.  A frame that arrives behind garbage is then lost if its magic is cut.

## Main definitions

* `frameCutter` — `pop_frame` as a cutter.
* `discardsMagic` — a buffer is cleared that ends in the middle of a magic.
* `KeepsMagics` — no pass of a run does that.

## Main results

* `popFrame_append` — a frame or an error popped is not changed by what follows.
* `lossless_of_discardsMagic` — **clearing a buffer loses nothing but a cut magic.**
* `outputs_receiveRun` — a run gives what the whole stream in one buffer would give.
* `receiveRun_segmentation` — **two runs on one stream deliver the same envelopes.**
-/

namespace YunLink

open WireCodec

/-! ### Scanning -/

/-- Up to where the scan stops there is no magic. -/
theorem hasMagic_of_lt_scanMagic {buffer : Bytes} {start i : ℕ} (hstart : start ≤ i)
    (hi : i < scanMagic buffer start) : hasMagic (buffer.drop i) = false := by
  fun_induction scanMagic buffer start with
  | case1 start h ih =>
    rcases Nat.eq_or_lt_of_le hstart with heq | hlt
    · rw [← heq]
      exact h.2
    · exact ih hlt hi
  | case2 start h => omega

/-- Fewer than four bytes hold no magic. -/
theorem hasMagic_of_short {data : Bytes} (h : data.length < 4) : hasMagic data = false := by
  unfold hasMagic
  rw [decide_eq_false (by omega)]
  rfl

/-- A scan that found a magic finds it in a longer buffer. -/
theorem scanMagic_append {buffer : Bytes} {start : ℕ}
    (h : scanMagic buffer start + 3 < buffer.length) (more : Bytes) :
    scanMagic (buffer ++ more) start = scanMagic buffer start := by
  fun_induction scanMagic buffer start with
  | case1 start hnone ih =>
    have hsame : hasMagic ((buffer ++ more).drop start) = false := by
      rw [List.drop_append_of_le_length (by omega),
        hasMagic_append (by rw [List.length_drop]; omega)]
      exact hnone.2
    rw [scanMagic, if_pos ⟨by rw [List.length_append]; omega, hsame⟩]
    exact ih h
  | case2 start hfound =>
    have hmagic : hasMagic (buffer.drop start) = true := by
      by_contra hnot
      exact hfound ⟨h, Bool.eq_false_iff.mpr hnot⟩
    rw [scanMagic, if_neg]
    rw [List.drop_append_of_le_length (by omega),
      hasMagic_append (by rw [List.length_drop]; omega), hmagic]
    simp

/-- A magic that the scan stops at. -/
theorem hasMagic_scanMagic {buffer : Bytes} {start : ℕ}
    (h : scanMagic buffer start + 3 < buffer.length) :
    hasMagic (buffer.drop (scanMagic buffer start)) = true := by
  fun_induction scanMagic buffer start with
  | case1 start hnone ih => exact ih h
  | case2 start hfound =>
    by_contra hnot
    exact hfound ⟨h, Bool.eq_false_iff.mpr hnot⟩

/-- Bytes in which no magic starts are skipped. -/
theorem scanMagic_skip {buffer : Bytes} {count : ℕ} (hfit : count + 3 ≤ buffer.length)
    (hnone : ∀ i < count, hasMagic (buffer.drop i) = false) :
    scanMagic buffer 0 = scanMagic buffer count := by
  induction count with
  | zero => rfl
  | succ count ih =>
    rw [ih (by omega) fun i hi => hnone i (by omega), scanMagic,
      if_pos ⟨by omega, hnone count (by omega)⟩]

/-- Behind skipped bytes the scan goes on as it would without them. -/
theorem scanMagic_shift (front more : Bytes) (start : ℕ) :
    scanMagic (front ++ more) (front.length + start) = front.length + scanMagic more start := by
  fun_induction scanMagic more start with
  | case1 start h ih =>
    rw [scanMagic, List.drop_length_add_append, if_pos ⟨by rw [List.length_append]; omega, h.2⟩]
    exact ih
  | case2 start h =>
    rw [scanMagic, List.drop_length_add_append, if_neg]
    rintro ⟨hlt, hmagic⟩
    rw [List.length_append] at hlt
    exact h ⟨by omega, hmagic⟩

/-! ### Popping -/

section popping

variable {maxBufferBytes : ℕ}

/-- What `pop_frame` does depends on what starts at the first magic. -/
theorem popFrame_congr {buffer other : Bytes} (hfound : scanMagic buffer 0 + 3 < buffer.length)
    (hfound' : scanMagic other 0 + 3 < other.length)
    (hsame : buffer.drop (scanMagic buffer 0) = other.drop (scanMagic other 0)) :
    popFrame maxBufferBytes buffer = popFrame maxBufferBytes other := by
  unfold popFrame
  simp only
  rw [if_pos (show 4 ≤ buffer.length by omega), if_pos (show 4 ≤ other.length by omega),
    if_neg (show ¬ buffer.length ≤ scanMagic buffer 0 + 3 by omega),
    if_neg (show ¬ other.length ≤ scanMagic other 0 + 3 by omega), hsame]

/-- A buffer in which no magic is found is cleared. -/
theorem popFrame_of_no_magic {buffer : Bytes} (hlen : 4 ≤ buffer.length)
    (hnone : buffer.length ≤ scanMagic buffer 0 + 3) :
    popFrame maxBufferBytes buffer = ([], none) := by
  unfold popFrame
  rw [if_pos hlen]
  exact if_pos hnone

theorem popFrame_of_short {buffer : Bytes} (hlen : buffer.length < 4) :
    popFrame maxBufferBytes buffer = (buffer, none) := by
  unfold popFrame
  exact if_neg (by omega)

/-- Where a magic is found and nothing is popped, only what stands before it is dropped. -/
theorem popFrame_waits {buffer left : Bytes} (hfound : scanMagic buffer 0 + 3 < buffer.length)
    (h : popFrame maxBufferBytes buffer = (left, none)) :
    left = buffer.drop (scanMagic buffer 0) := by
  unfold popFrame at h
  rw [if_pos (show 4 ≤ buffer.length by omega)] at h
  simp only at h
  rw [if_neg (show ¬ buffer.length ≤ scanMagic buffer 0 + 3 by omega)] at h
  split_ifs at h
  · exact (Prod.mk.inj h).1.symm
  · cases (Prod.mk.inj h).2
  · exact (Prod.mk.inj h).1.symm
  · cases (Prod.mk.inj h).2
  · cases (Prod.mk.inj h).2

/-- **A frame or an error popped is not changed by what follows.** -/
theorem popFrame_append {buffer left : Bytes} {result : Except ErrorCode Envelope}
    (h : popFrame maxBufferBytes buffer = (left, some result)) (more : Bytes) :
    popFrame maxBufferBytes (buffer ++ more) = (left ++ more, some result) := by
  have hlen : 4 ≤ buffer.length := by
    by_contra hshort
    rw [popFrame_of_short (by omega)] at h
    cases (Prod.mk.inj h).2
  have hfound : scanMagic buffer 0 + 3 < buffer.length := by
    by_contra hnone
    rw [popFrame_of_no_magic hlen (by omega)] at h
    cases (Prod.mk.inj h).2
  unfold popFrame at h ⊢
  rw [if_pos hlen] at h
  rw [if_pos (show 4 ≤ (buffer ++ more).length by rw [List.length_append]; omega)]
  simp only [scanMagic_append hfound] at h ⊢
  rw [if_neg (by omega)] at h
  rw [if_neg (by rw [List.length_append]; omega), List.drop_append_of_le_length (by omega)]
  -- from here on both look at the bytes from the magic on
  generalize buffer.drop (scanMagic buffer 0) = front at h ⊢
  have hfront : (front ++ more).length = front.length + more.length := List.length_append
  by_cases h14 : front.length < 14
  · rw [if_pos h14] at h
    cases (Prod.mk.inj h).2
  rw [if_neg h14] at h
  rw [if_neg (by omega), readU16_drop_append (by omega), readU32_drop_append (by omega)]
  by_cases hheader : (readU16 (front.drop 8)).toNat < kFixedHeaderSize ∨ maxBufferBytes <
      (readU16 (front.drop 8)).toNat + (readU32 (front.drop 10)).toNat + kTrailerSize
  · rw [if_pos hheader] at h ⊢
    obtain ⟨rfl, hresult⟩ := Prod.mk.inj h
    rw [hresult, List.drop_append_of_le_length (by omega)]
  rw [if_neg hheader] at h ⊢
  generalize (readU16 (front.drop 8)).toNat + (readU32 (front.drop 10)).toNat + kTrailerSize =
    frameLen at h ⊢
  by_cases hwhole : front.length < frameLen
  · rw [if_pos hwhole] at h
    cases (Prod.mk.inj h).2
  rw [if_neg hwhole] at h
  rw [if_neg (by omega), List.take_append_of_le_length (by omega)]
  have hconsumed := consumed_le_length (front.take frameLen)
  rw [List.length_take] at hconsumed
  by_cases hcode : (decode (front.take frameLen)).code ≠ .ok
  · rw [if_pos hcode] at h ⊢
    obtain ⟨rfl, hresult⟩ := Prod.mk.inj h
    rw [hresult, List.drop_append_of_le_length (by omega)]
  · rw [if_neg hcode] at h ⊢
    obtain ⟨rfl, hresult⟩ := Prod.mk.inj h
    rw [hresult, List.drop_append_of_le_length (by omega)]

/-- `pop_frame` as a cutter of frames and errors. -/
def frameCutter (maxBufferBytes : ℕ) : Cutting.Cutter UInt8 (Except ErrorCode Envelope) where
  pop := popFrame maxBufferBytes
  shorter := length_lt_of_popFrame
  stable := popFrame_append

/-- The inner loop of the receiver is the cutter at work. -/
theorem drain_eq (maxBufferBytes : ℕ) (buffer : Bytes) :
    drain maxBufferBytes buffer =
      ((frameCutter maxBufferBytes).rest buffer,
        ((frameCutter maxBufferBytes).outputs buffer).map popped) := by
  induction hn : buffer.length using Nat.strongRecOn generalizing buffer with
  | ind n ih =>
    rw [drain]
    split
    · next left hpop =>
      have hpop' : (frameCutter maxBufferBytes).pop buffer = (left, none) := hpop
      rw [Cutting.Cutter.rest_of_none hpop', Cutting.Cutter.outputs_of_none hpop']
      rfl
    · next left result hpop =>
      have hpop' : (frameCutter maxBufferBytes).pop buffer = (left, some result) := hpop
      have hleft := ih left.length (by have := length_lt_of_popFrame hpop; omega) left rfl
      rw [hleft, Cutting.Cutter.rest_of_some hpop', Cutting.Cutter.outputs_of_some hpop']
      rfl

end popping

/-! ### What clearing a buffer loses -/

/-- `pop_frame` clears the buffer, although a magic begins in its last three bytes that
`more` completes. -/
def discardsMagic (buffer more : Bytes) : Bool :=
  4 ≤ buffer.length && buffer.length ≤ scanMagic buffer 0 + 3 &&
    [1, 2, 3].any fun k => hasMagic ((buffer ++ more).drop (buffer.length - k))

section lossless

variable {maxBufferBytes : ℕ} {buffer more : Bytes}

/-- Nothing follows that could complete a magic. -/
theorem discardsMagic_nil (buffer : Bytes) : discardsMagic buffer [] = false := by
  unfold discardsMagic
  rw [Bool.and_eq_false_iff]
  refine Or.inr (List.any_eq_false.mpr fun k hk => ?_)
  rw [Bool.not_eq_true, List.append_nil]
  refine hasMagic_of_short ?_
  have hle : k ≤ 3 := by
    revert k
    decide
  rw [List.length_drop]
  omega

/-- A buffer that is cleared without a cut magic at its end holds no start of a magic. -/
theorem hasMagic_of_cleared (hnone : buffer.length ≤ scanMagic buffer 0 + 3)
    (hlen : 4 ≤ buffer.length) (hcut : discardsMagic buffer more = false) {i : ℕ}
    (hi : i < buffer.length) : hasMagic ((buffer ++ more).drop i) = false := by
  by_cases hinside : i + 3 < buffer.length
  · rw [List.drop_append_of_le_length (by omega),
      hasMagic_append (by rw [List.length_drop]; omega)]
    exact hasMagic_of_lt_scanMagic (Nat.zero_le i) (by omega)
  · simp only [discardsMagic, decide_eq_true hlen, decide_eq_true hnone, Bool.true_and,
      List.any_eq_false, Bool.not_eq_true] at hcut
    have hmem : buffer.length - i ∈ [1, 2, 3] := by
      simp only [List.mem_cons, List.not_mem_nil, or_false]
      omega
    have hlast := hcut (buffer.length - i) hmem
    rwa [Nat.sub_sub_self (by omega)] at hlast

/-- Behind a cleared buffer, input too short for a magic completes none. -/
theorem scanMagic_of_cleared (hnone : buffer.length ≤ scanMagic buffer 0 + 3)
    (hlen : 4 ≤ buffer.length) (hcut : discardsMagic buffer more = false)
    (hmore : more.length < 4) :
    (buffer ++ more).length ≤ scanMagic (buffer ++ more) 0 + 3 := by
  have htotal : (buffer ++ more).length = buffer.length + more.length := List.length_append
  by_contra hnot
  have hmagic := hasMagic_scanMagic (Nat.lt_of_not_le hnot)
  by_cases hi : scanMagic (buffer ++ more) 0 < buffer.length
  · rw [hasMagic_of_cleared hnone hlen hcut hi] at hmagic
    cases hmagic
  · rw [hasMagic_of_short (by rw [List.length_drop]; omega)] at hmagic
    cases hmagic

/-- What follows a cleared buffer is cut as if the buffer still stood in front of it. -/
theorem outputs_of_cleared (hnone : buffer.length ≤ scanMagic buffer 0 + 3)
    (hlen : 4 ≤ buffer.length) (hcut : discardsMagic buffer more = false) :
    (frameCutter maxBufferBytes).outputs more =
      (frameCutter maxBufferBytes).outputs (buffer ++ more) := by
  have htotal : (buffer ++ more).length = buffer.length + more.length := List.length_append
  by_cases hmore : more.length < 4
  · have hend := scanMagic_of_cleared hnone hlen hcut hmore
    have hboth : popFrame maxBufferBytes (buffer ++ more) = ([], none) :=
      popFrame_of_no_magic (by omega) hend
    have hwait : popFrame maxBufferBytes more = (more, none) := popFrame_of_short hmore
    exact (Cutting.Cutter.outputs_of_none hwait).trans
      (Cutting.Cutter.outputs_of_none hboth).symm
  · have hskip (i : ℕ) (hi : i < buffer.length) := hasMagic_of_cleared hnone hlen hcut hi
    have hshift := scanMagic_shift buffer more 0
    rw [Nat.add_zero, ← scanMagic_skip (by omega) hskip] at hshift
    by_cases hmagic : scanMagic more 0 + 3 < more.length
    · refine Cutting.Cutter.outputs_congr (popFrame_congr hmagic (by omega) ?_)
      rw [hshift, List.drop_length_add_append]
    · have hboth : popFrame maxBufferBytes (buffer ++ more) = ([], none) :=
        popFrame_of_no_magic (by omega) (by omega)
      have hwait : popFrame maxBufferBytes more = ([], none) :=
        popFrame_of_no_magic (by omega) (by omega)
      exact (Cutting.Cutter.outputs_of_none hwait).trans
        (Cutting.Cutter.outputs_of_none hboth).symm

/-- What follows the bytes kept from a magic on is cut as if the others still stood before it:
the next call looks at these only. -/
theorem outputs_of_found (hfound : scanMagic buffer 0 + 3 < buffer.length) :
    (frameCutter maxBufferBytes).outputs (buffer.drop (scanMagic buffer 0) ++ more) =
      (frameCutter maxBufferBytes).outputs (buffer ++ more) := by
  have hscan := scanMagic_of_hasMagic (hasMagic_scanMagic hfound)
  have hlong : (buffer.drop (scanMagic buffer 0)).length = buffer.length - scanMagic buffer 0 :=
    List.length_drop
  refine Cutting.Cutter.outputs_congr (popFrame_congr ?_ ?_ ?_)
  · rw [scanMagic_append (by omega), List.length_append]
    omega
  · rw [scanMagic_append hfound, List.length_append]
    omega
  · rw [scanMagic_append (by omega), scanMagic_append hfound, hscan, List.drop_zero,
      List.drop_append_of_le_length (by omega)]

/-- **Clearing a buffer loses nothing but a cut magic**, and waiting loses nothing. -/
theorem lossless_of_discardsMagic {left : Bytes}
    (hnothing : (frameCutter maxBufferBytes).pop buffer = (left, none))
    (hcut : discardsMagic buffer more = false) :
    (frameCutter maxBufferBytes).Lossless buffer more := by
  have hpop : popFrame maxBufferBytes buffer = (left, none) := hnothing
  unfold Cutting.Cutter.Lossless
  rw [hnothing]
  change (frameCutter maxBufferBytes).outputs (left ++ more) = _
  by_cases hshort : buffer.length < 4
  · rw [popFrame_of_short hshort] at hpop
    rw [(Prod.mk.inj hpop).1]
  have hlen : 4 ≤ buffer.length := by omega
  by_cases hfound : scanMagic buffer 0 + 3 < buffer.length
  · rw [popFrame_waits hfound hpop]
    exact outputs_of_found hfound
  · have hnone : buffer.length ≤ scanMagic buffer 0 + 3 := by omega
    rw [popFrame_of_no_magic hlen hnone] at hpop
    rw [← (Prod.mk.inj hpop).1, List.nil_append]
    exact outputs_of_cleared hnone hlen hcut

end lossless

/-! ### Runs -/

/-- A pass whose last call of `pop_frame` discards the beginning of a magic that the
bytes `later` complete. -/
def cutsMagic (maxBufferBytes : ℕ) (s : ReceiveLoop) (later : Bytes) : ReadOutcome → Bool
  | .data chunk =>
      discardsMagic ((frameCutter maxBufferBytes).last (s.receiveBuffer ++ chunk)) later
  | _ => false

/-- No pass discards the beginning of a magic that later reads complete. -/
def KeepsMagics (maxBufferBytes : ℕ) : ReceiveLoop → List ReadOutcome → Prop
  | _, [] => True
  | s, r :: reads =>
      cutsMagic maxBufferBytes s (reads.map ReadOutcome.bytes).flatten r = false ∧
        KeepsMagics maxBufferBytes (s.read maxBufferBytes r) reads

instance (maxBufferBytes : ℕ) : (s : ReceiveLoop) → (reads : List ReadOutcome) →
    Decidable (KeepsMagics maxBufferBytes s reads)
  | _, [] => .isTrue trivial
  | s, r :: reads =>
      have : Decidable (KeepsMagics maxBufferBytes (s.read maxBufferBytes r) reads) :=
        instDecidableKeepsMagics maxBufferBytes _ reads
      inferInstanceAs (Decidable (_ ∧ _))

section runs

variable {maxBufferBytes : ℕ} {s : ReceiveLoop} {reads : List ReadOutcome}

/-- An overflow is not forgotten. -/
theorem overflowed_of_read {outcome : ReadOutcome}
    (h : (s.read maxBufferBytes outcome).overflowed = false) : s.overflowed = false := by
  unfold ReceiveLoop.read at h
  split at h
  · exact h
  cases outcome with
  | retry => exact h
  | closed => exact h
  | failed message => exact h
  | stopped => exact h
  | data chunk =>
    simp only at h
    split at h
    · split at h
      · exact absurd h (by simp [ReceiveLoop.drained, ReceiveLoop.emit])
      · exact absurd h (by simp [ReceiveLoop.leave, ReceiveLoop.emit])
    · exact h

theorem overflowed_of_foldl
    (h : (reads.foldl (ReceiveLoop.read maxBufferBytes) s).overflowed = false) :
    s.overflowed = false := by
  induction reads generalizing s with
  | nil => exact h
  | cons r reads ih => exact overflowed_of_read (ih h)

/-- A pass that does not overflow drains what was left and what was read. -/
theorem read_of_not_overflowed {chunk : Bytes} (hleft : s.left = false)
    (h : (s.read maxBufferBytes (.data chunk)).overflowed = false) :
    s.read maxBufferBytes (.data chunk) =
      { s with
        receiveBuffer := (frameCutter maxBufferBytes).rest (s.receiveBuffer ++ chunk)
        outputs := s.outputs ++
          ((frameCutter maxBufferBytes).outputs (s.receiveBuffer ++ chunk)).map popped } := by
  unfold ReceiveLoop.read at h ⊢
  rw [if_neg (by rw [hleft]; decide)] at h ⊢
  simp only at h ⊢
  split at h
  · split at h
    · exact absurd h (by simp [ReceiveLoop.drained, ReceiveLoop.emit])
    · exact absurd h (by simp [ReceiveLoop.leave, ReceiveLoop.emit])
  · next hfits =>
    rw [if_neg hfits, ReceiveLoop.drained, drain_eq]

/-- What is left after a pass holds nothing that could be handed over. -/
theorem outputs_rest (buffer : Bytes) :
    (frameCutter maxBufferBytes).outputs ((frameCutter maxBufferBytes).rest buffer) = [] :=
  Cutting.Cutter.outputs_rest
    (lossless_of_discardsMagic (Cutting.Cutter.pop_last buffer) (discardsMagic_nil _))

/-- **A run gives what the whole stream in one buffer would give**: what it has put out,
and then all that the bytes in its buffer and those still to be read hold. -/
theorem outputs_foldl_read (hleft : s.left = false)
    (hquiet : (frameCutter maxBufferBytes).outputs s.receiveBuffer = [])
    (hreads : ∀ r ∈ reads, r.Delivers) (hkeeps : KeepsMagics maxBufferBytes s reads)
    (hfits : (reads.foldl (ReceiveLoop.read maxBufferBytes) s).overflowed = false) :
    (reads.foldl (ReceiveLoop.read maxBufferBytes) s).outputs = s.outputs ++
      ((frameCutter maxBufferBytes).outputs
        (s.receiveBuffer ++ (reads.map ReadOutcome.bytes).flatten)).map popped := by
  induction reads generalizing s with
  | nil =>
    rw [List.map_nil, List.flatten_nil, List.append_nil, hquiet, List.map_nil, List.append_nil]
    rfl
  | cons r reads ih =>
    have hrest : ∀ r' ∈ reads, r'.Delivers := fun r' hr' => hreads r' (List.mem_cons_of_mem r hr')
    obtain ⟨hcut, hkeeps⟩ := hkeeps
    rw [List.foldl_cons] at hfits ⊢
    rw [List.map_cons, List.flatten_cons]
    cases r with
    | closed => exact absurd (hreads _ List.mem_cons_self) id
    | failed message => exact absurd (hreads _ List.mem_cons_self) id
    | stopped => exact absurd (hreads _ List.mem_cons_self) id
    | retry =>
      have hsame : s.read maxBufferBytes .retry = s := by
        unfold ReceiveLoop.read
        rw [if_neg (by rw [hleft]; decide)]
      rw [hsame] at hfits hkeeps ⊢
      exact ih hleft hquiet hrest hkeeps hfits
    | data chunk =>
      have hread := read_of_not_overflowed hleft (overflowed_of_foldl hfits)
      have hstays : (s.read maxBufferBytes (.data chunk)).left = false := by
        rw [hread]
        exact hleft
      have hdrained : (frameCutter maxBufferBytes).outputs
          (s.read maxBufferBytes (.data chunk)).receiveBuffer = [] := by
        rw [hread]
        exact outputs_rest _
      rw [ih hstays hdrained hrest hkeeps hfits, hread]
      -- the items of this pass, and then those of what it left and what follows
      have hsplit := Cutting.Cutter.outputs_append_of_lossless
        (lossless_of_discardsMagic (Cutting.Cutter.pop_last (s.receiveBuffer ++ chunk)) hcut)
      rw [ReadOutcome.bytes, ← List.append_assoc, hsplit, List.map_append, List.append_assoc]

/-- A fresh connection hands over what the whole stream holds. -/
theorem outputs_receiveRun (hreads : ∀ r ∈ reads, r.Delivers)
    (hkeeps : KeepsMagics maxBufferBytes {} reads)
    (hfits : (receiveRun maxBufferBytes reads).overflowed = false) :
    (receiveRun maxBufferBytes reads).outputs = ((frameCutter maxBufferBytes).outputs
      (reads.map ReadOutcome.bytes).flatten).map popped := by
  have hempty : (frameCutter maxBufferBytes).pop [] = ([], none) :=
    @popFrame_of_short maxBufferBytes [] (by decide)
  have hquiet : (frameCutter maxBufferBytes).outputs [] = [] :=
    Cutting.Cutter.outputs_of_none hempty
  exact outputs_foldl_read rfl hquiet hreads hkeeps hfits

end runs

/-- **Two runs on one stream deliver the same envelopes**, however the stream is cut for
each, as long as neither overflows and neither discards the beginning of a magic. -/
theorem receiveRun_segmentation (maxBufferBytes : ℕ) (reads reads' : List ReadOutcome)
    (hreads : ∀ r ∈ reads, r.Delivers) (hreads' : ∀ r ∈ reads', r.Delivers)
    (hstream : (reads.map ReadOutcome.bytes).flatten = (reads'.map ReadOutcome.bytes).flatten)
    (hfits : (receiveRun maxBufferBytes reads).overflowed = false)
    (hfits' : (receiveRun maxBufferBytes reads').overflowed = false)
    (hkeeps : KeepsMagics maxBufferBytes {} reads)
    (hkeeps' : KeepsMagics maxBufferBytes {} reads') :
    delivered (receiveRun maxBufferBytes reads).outputs =
      delivered (receiveRun maxBufferBytes reads').outputs := by
  rw [outputs_receiveRun hreads hkeeps hfits, outputs_receiveRun hreads' hkeeps' hfits', hstream]

/-- A damaged byte in front of a frame, cut behind it and inside the frame. -/
theorem receiveRun_segmentation_smallFrame :
    let stream := 0 :: smallFrame .reliableOrdered [8, 1]
    let reads := [ReadOutcome.data stream]
    let reads' := [ReadOutcome.data (stream.take 1), .retry, .data ((stream.drop 1).take 20),
      .data (stream.drop 21)]
    delivered (receiveRun 250 reads).outputs = delivered (receiveRun 250 reads').outputs := by
  intro stream reads reads'
  refine receiveRun_segmentation 250 reads reads' ?_ ?_ ?_ ?_ ?_ ?_ ?_
  · decide +kernel
  · decide +kernel
  · decide +kernel
  · decide +kernel
  · decide +kernel
  · decide +kernel
  · decide +kernel

/-- The same stream, cut inside the magic of the frame: the frame is lost. -/
theorem cutMagic_lost :
    let stream := 0 :: smallFrame .reliableOrdered [8, 1]
    let reads := [ReadOutcome.data stream]
    let reads' := [ReadOutcome.data (stream.take 4), .data (stream.drop 4)]
    (∀ r ∈ reads, r.Delivers) ∧ (∀ r ∈ reads', r.Delivers) ∧
      (reads.map ReadOutcome.bytes).flatten = (reads'.map ReadOutcome.bytes).flatten ∧
      (receiveRun 250 reads).overflowed = false ∧ (receiveRun 250 reads').overflowed = false ∧
      delivered (receiveRun 250 reads).outputs ≠ delivered (receiveRun 250 reads').outputs := by
  decide +kernel

end YunLink
