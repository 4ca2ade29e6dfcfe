import Mathlib.Algebra.Order.BigOperators.Group.Finset
import Mathlib.Logic.Relation
import YunLink.Net.QueueBudget

/-!
# What each QoS class is promised

The queues are compared with an abstract history in which single frames move:
one is pushed, replaced, dropped or taken.  Every operation of the source is a
sequence of such moves (`QueueRun.step_moves`), so that the promises of the four
classes are invariants of moves and the byte budget plays no part in them.

## Main definitions

* `QueueHistory`, `Move` — the abstract queues and their moves.
* `inChannel qos key` — the frames that keep their order among each other.
* `Faithful` — the invariant of moves.
* `DeliveryGuarantee` — what the classes are promised.

## Main results

* `QueueRun.step_moves` — an operation is a sequence of moves.
* `Move.faithful` — a move keeps the invariant.
* `queueRun_deliveryGuarantee` — **every run keeps the promises.**
-/

namespace YunLink

open Relation

/-! ### Histories and moves -/

/-- The queues, with what passed through them and what left them untaken. -/
structure QueueHistory where
  queues : Fin 4 → List OutboundFrame
  accepted : List OutboundFrame
  taken : List OutboundFrame
  dropped : List Drop
  replaced : List (OutboundFrame × OutboundFrame)

namespace QueueHistory

variable (h : QueueHistory)

/-- A frame enters the queue of its class. -/
def push (f : OutboundFrame) : QueueHistory :=
  { h with
    queues := Function.update h.queues (qosIndex f.qos) (h.queues (qosIndex f.qos) ++ [f])
    accepted := h.accepted ++ [f] }

/-- A queued frame gives its place to a newer one. -/
def replace (pre : List OutboundFrame) (f g : OutboundFrame) (post : List OutboundFrame) :
    QueueHistory :=
  { h with
    queues := Function.update h.queues 1 (pre ++ g :: post)
    accepted := h.accepted ++ [g]
    replaced := h.replaced ++ [(f, g)] }

/-- The front of a queue is evicted. -/
def drop (i : Fin 4) (f : OutboundFrame) (rest : List OutboundFrame) : QueueHistory :=
  { h with
    queues := Function.update h.queues i rest
    dropped := h.dropped ++ [⟨i, f, (h.queues 3).length⟩] }

/-- The front of a queue is taken. -/
def take (i : Fin 4) (f : OutboundFrame) (rest : List OutboundFrame) : QueueHistory :=
  { h with
    queues := Function.update h.queues i rest
    taken := h.taken ++ [f] }

end QueueHistory

/-- One frame moves. -/
inductive Move (h : QueueHistory) : QueueHistory → Prop
  | push (f : OutboundFrame) (hstamp : f.stamp = h.accepted.length)
      (hkey : f.qos = .reliableLatest → f.latestKey ≠ [] →
        ∀ g ∈ h.queues 1, g.latestKey ≠ f.latestKey) : Move h (h.push f)
  | replace (pre : List OutboundFrame) (f g : OutboundFrame) (post : List OutboundFrame)
      (hq : h.queues 1 = pre ++ f :: post) (hstamp : g.stamp = h.accepted.length)
      (hqos : g.qos = f.qos) (hkey : g.latestKey = f.latestKey) (hne : f.latestKey ≠ []) :
      Move h (h.replace pre f g post)
  | drop (i : Fin 4) (f : OutboundFrame) (rest : List OutboundFrame)
      (hq : h.queues i = f :: rest) (hi : i = 3 ∨ i = 2 ∧ h.queues 3 = []) :
      Move h (h.drop i f rest)
  | take (i : Fin 4) (f : OutboundFrame) (rest : List OutboundFrame)
      (hq : h.queues i = f :: rest) : Move h (h.take i f rest)

/-- The history of a run. -/
def QueueRun.history (r : QueueRun) : QueueHistory where
  queues := r.conn.sendQueues
  accepted := r.accepted
  taken := r.taken
  dropped := r.conn.log.dropped
  replaced := r.conn.log.replaced

/-! ### The operations are sequences of moves -/

/-- Evictions are drops, seen in any history around them. -/
theorem Evicts.moves {c c' : RuntimeConnection} (hev : Evicts c c')
    (accepted taken : List OutboundFrame) :
    ReflTransGen Move (QueueRun.history ⟨c, accepted, taken⟩)
      (QueueRun.history ⟨c', accepted, taken⟩) := by
  induction hev with
  | refl c => exact .refl
  | @bulk c c' frame rest hq _ ih => exact .head (.drop 3 frame rest hq (Or.inl rfl)) ih
  | @bestEffort c c' frame rest h3 hq _ ih =>
    exact .head (.drop 2 frame rest hq (Or.inr ⟨rfl, h3⟩)) ih

/-- **An operation is a sequence of moves.** -/
theorem QueueRun.step_moves {r : QueueRun}
    (hclass : ∀ f ∈ r.conn.sendQueues 1, f.qos = .reliableLatest) (op : QueueOp) :
    ReflTransGen Move r.history (r.step op).history := by
  cases op with
  | enqueue bytes qos latestKey =>
    have hout := runtimeEnqueue_outcome r.conn bytes qos latestKey r.accepted.length
    simp only [QueueRun.step]
    generalize runtimeEnqueue r.conn bytes qos latestKey r.accepted.length = out at hout ⊢
    cases hout with
    | ignored => exact .refl
    | refused hev => exact hev.moves r.accepted r.taken
    | kept hqos hmem hev => exact hev.moves (c := r.conn.subQueuedBytes _) r.accepted r.taken
    | @replaced c' frame pre post hbytes hqos hkey hne hq hpre hev hroom =>
      have hframe : frame.qos = qos := by
        rw [hqos]
        exact hclass frame (by rw [hq]; simp)
      have hq' : c'.sendQueues 1 = pre ++ frame :: post := by
        rw [hev.sendQueues_eq (Or.inr rfl)]
        exact hq
      subst hkey hframe
      refine (hev.moves (c := r.conn.subQueuedBytes _) r.accepted r.taken).tail ?_
      exact .replace pre frame { frame with bytes, stamp := r.accepted.length } post hq' rfl rfl
        rfl hne
    | @pushed c' hbytes hkey hev hroom =>
      refine (hev.moves r.accepted r.taken).tail ?_
      refine .push { bytes, qos, latestKey, stamp := r.accepted.length } rfl ?_
      intro hqos hne g hg
      refine hkey hqos hne g ?_
      rw [← hev.sendQueues_eq (Or.inr rfl)]
      exact hg
  | take =>
    simp only [QueueRun.step]
    rcases takeNextFrame_cases r.conn with ⟨-, heq⟩ | ⟨i, frame, rest, hq, -, heq⟩
    · rw [heq]
    · rw [heq]
      exact .single (.take i frame rest hq)
  | setRunning running => exact .refl

/-! ### The invariant of moves -/

/-- The frames that keep their order among each other: a class, or the frames of
one key of ReliableLatest. -/
def inChannel (qos : QosClass) (key : Text) (f : OutboundFrame) : Bool :=
  f.qos == qos && (qos != .reliableLatest || f.latestKey == key)

/-- The invariant of moves. -/
structure Faithful (h : QueueHistory) : Prop where
  classed : ∀ i, ∀ f ∈ h.queues i, qosIndex f.qos = i
  stamps : h.accepted.map OutboundFrame.stamp = List.range h.accepted.length
  conserved : ∀ f, h.accepted.count f = h.taken.count f + ∑ i, (h.queues i).count f +
    (h.dropped.map Drop.frame).count f + (h.replaced.map Prod.fst).count f
  dropped : ∀ d ∈ h.dropped, qosIndex d.frame.qos = d.queue ∧
    (d.queue = 3 ∨ d.queue = 2 ∧ d.bulkQueued = 0)
  replaced : ∀ p ∈ h.replaced, p.2 ∈ h.accepted ∧ p.1.stamp < p.2.stamp ∧
    p.2.qos = p.1.qos ∧ p.2.latestKey = p.1.latestKey ∧ p.1.latestKey ≠ []
  single : ∀ key ≠ [], ((h.queues 1).filter (inChannel .reliableLatest key)).length ≤ 1
  ordered : h.taken.filter (fun f => f.qos = .reliableOrdered) ++ h.queues 0 =
    h.accepted.filter fun f => f.qos = .reliableOrdered
  channels : ∀ qos key, ∃ gone,
    h.accepted.filter (inChannel qos key) =
      gone ++ (h.queues (qosIndex qos)).filter (inChannel qos key) ∧
    (h.taken.filter (inChannel qos key)).Sublist gone

theorem inChannel_iff {qos : QosClass} {key : Text} {f : OutboundFrame} :
    inChannel qos key f = true ↔ f.qos = qos ∧ (qos = .reliableLatest → f.latestKey = key) := by
  simp only [inChannel, Bool.and_eq_true, beq_iff_eq, Bool.or_eq_true, bne_iff_ne, ne_eq]
  refine and_congr_right fun _ => ⟨fun h hqos => ?_, fun h => ?_⟩
  · exact h.resolve_left (not_not_intro hqos)
  · by_cases hqos : qos = .reliableLatest
    · exact Or.inr (h hqos)
    · exact Or.inl hqos

theorem inChannel_congr {f g : OutboundFrame} (hqos : g.qos = f.qos)
    (hkey : g.latestKey = f.latestKey) (qos : QosClass) (key : Text) :
    inChannel qos key g = inChannel qos key f := by
  simp only [inChannel, hqos, hkey]

/-- A frame of another queue is in no channel of this class. -/
theorem filter_inChannel_of_ne {f : OutboundFrame} {qos : QosClass}
    (hne : qosIndex f.qos ≠ qosIndex qos) (key : Text) : [f].filter (inChannel qos key) = [] := by
  refine List.filter_eq_nil_iff.mpr fun g hg hin => hne ?_
  rw [← List.mem_singleton.mp hg, (inChannel_iff.mp hin).1]

theorem qosIndex_injective : Function.Injective qosIndex := by
  intro a b
  cases a <;> cases b <;> decide

namespace Faithful

variable {h h' : QueueHistory}

/-- Distinct acceptances have distinct stamps, so no frame is accepted twice. -/
theorem accepted_nodup (hf : Faithful h) : h.accepted.Nodup := by
  refine List.Nodup.of_map OutboundFrame.stamp ?_
  rw [hf.stamps]
  exact List.nodup_range

theorem stamp_lt (hf : Faithful h) {f : OutboundFrame} (hmem : f ∈ h.accepted) :
    f.stamp < h.accepted.length := by
  have hstamp : f.stamp ∈ h.accepted.map OutboundFrame.stamp := List.mem_map_of_mem hmem
  rw [hf.stamps] at hstamp
  exact List.mem_range.mp hstamp

theorem mem_accepted_of_mem_queue (hf : Faithful h) {i : Fin 4} {f : OutboundFrame}
    (hmem : f ∈ h.queues i) : f ∈ h.accepted := by
  have hcount := hf.conserved f
  have hpos : 0 < (h.queues i).count f := List.count_pos_iff.mpr hmem
  have hle : (h.queues i).count f ≤ ∑ j, (h.queues j).count f :=
    Finset.single_le_sum (f := fun j => (h.queues j).count f) (fun _ _ => Nat.zero_le _)
      (Finset.mem_univ i)
  exact List.count_pos_iff.mp (by omega)

theorem mem_accepted_of_mem_taken (hf : Faithful h) {f : OutboundFrame} (hmem : f ∈ h.taken) :
    f ∈ h.accepted := by
  have hcount := hf.conserved f
  have hpos : 0 < h.taken.count f := List.count_pos_iff.mpr hmem
  exact List.count_pos_iff.mp (by omega)

end Faithful

/-! ### A move keeps the invariant -/

namespace Move

variable {h h' : QueueHistory}

theorem classed (hf : Faithful h) (hm : Move h h') :
    ∀ i, ∀ f ∈ h'.queues i, qosIndex f.qos = i := by
  cases hm with
  | push f hstamp hkey =>
    refine forall_mem_update hf.classed ?_
    intro g hg
    rcases List.mem_append.mp hg with hg | hg
    · exact hf.classed _ g hg
    · rw [List.mem_singleton.mp hg]
  | replace pre f g post hq hstamp hqos hkey hne =>
    have hold : ∀ f' ∈ pre ++ f :: post, qosIndex f'.qos = 1 := hq ▸ hf.classed 1
    refine forall_mem_update hf.classed ?_
    intro f' hf'
    rcases List.mem_append.mp hf' with hf' | hf'
    · exact hold f' (List.mem_append_left _ hf')
    · rcases List.mem_cons.mp hf' with rfl | hf'
      · rw [hqos]
        exact hold f (by simp)
      · exact hold f' (List.mem_append_right _ (List.mem_cons_of_mem _ hf'))
  | drop i f rest hq hi =>
    refine forall_mem_update hf.classed fun g hg => hf.classed i g ?_
    rw [hq]
    exact List.mem_cons_of_mem f hg
  | take i f rest hq =>
    refine forall_mem_update hf.classed fun g hg => hf.classed i g ?_
    rw [hq]
    exact List.mem_cons_of_mem f hg

theorem stamps (hf : Faithful h) (hm : Move h h') :
    h'.accepted.map OutboundFrame.stamp = List.range h'.accepted.length := by
  have happend : ∀ f : OutboundFrame, f.stamp = h.accepted.length →
      (h.accepted ++ [f]).map OutboundFrame.stamp = List.range (h.accepted ++ [f]).length := by
    intro f hstamp
    rw [List.map_append, hf.stamps, List.length_append, List.length_singleton, List.range_succ]
    simp [hstamp]
  cases hm with
  | push f hstamp hkey => exact happend f hstamp
  | replace pre f g post hq hstamp hqos hkey hne => exact happend g hstamp
  | drop i f rest hq hi => exact hf.stamps
  | take i f rest hq => exact hf.stamps

theorem conserved (hf : Faithful h) (hm : Move h h') (x : OutboundFrame) :
    h'.accepted.count x = h'.taken.count x + ∑ i, (h'.queues i).count x +
      (h'.dropped.map Drop.frame).count x + (h'.replaced.map Prod.fst).count x := by
  have hold := hf.conserved x
  -- A move changes one queue; the other counts are read off the lists it extends.
  have hsum := fun i queue => sum_update (fun q => q.count x) h.queues i queue
  cases hm with
  | push f hstamp hkey =>
    have hsum := hsum (qosIndex f.qos) (h.queues (qosIndex f.qos) ++ [f])
    simp only [QueueHistory.push, List.count_append] at hsum ⊢
    omega
  | replace pre f g post hq hstamp hqos hkey hne =>
    have hsum := hsum 1 (pre ++ g :: post)
    rw [hq] at hsum
    simp only [QueueHistory.replace, List.count_append, List.count_cons, List.count_nil,
      List.map_append, List.map_cons, List.map_nil] at hsum ⊢
    omega
  | drop i f rest hq hi =>
    have hsum := hsum i rest
    rw [hq] at hsum
    simp only [QueueHistory.drop, List.count_append, List.count_cons, List.count_nil,
      List.map_append, List.map_cons, List.map_nil] at hsum ⊢
    omega
  | take i f rest hq =>
    have hsum := hsum i rest
    rw [hq] at hsum
    simp only [QueueHistory.take, List.count_append, List.count_cons, List.count_nil] at hsum ⊢
    omega

theorem dropped (hf : Faithful h) (hm : Move h h') : ∀ d ∈ h'.dropped,
    qosIndex d.frame.qos = d.queue ∧ (d.queue = 3 ∨ d.queue = 2 ∧ d.bulkQueued = 0) := by
  cases hm with
  | push f hstamp hkey => exact hf.dropped
  | replace pre f g post hq hstamp hqos hkey hne => exact hf.dropped
  | drop i f rest hq hi =>
    intro d hd
    rcases List.mem_append.mp hd with hd | hd
    · exact hf.dropped d hd
    · obtain rfl := List.mem_singleton.mp hd
      refine ⟨hf.classed i f (by rw [hq]; exact List.mem_cons_self), ?_⟩
      rcases hi with hi | ⟨hi, h3⟩
      · exact Or.inl hi
      · exact Or.inr ⟨hi, by simp [h3]⟩
  | take i f rest hq => exact hf.dropped

theorem replaced (hf : Faithful h) (hm : Move h h') : ∀ p ∈ h'.replaced,
    p.2 ∈ h'.accepted ∧ p.1.stamp < p.2.stamp ∧ p.2.qos = p.1.qos ∧
      p.2.latestKey = p.1.latestKey ∧ p.1.latestKey ≠ [] := by
  cases hm with
  | push f hstamp hkey =>
    intro p hp
    obtain ⟨hmem, hrest⟩ := hf.replaced p hp
    exact ⟨List.mem_append_left _ hmem, hrest⟩
  | replace pre f g post hq hstamp hqos hkey hne =>
    intro p hp
    rcases List.mem_append.mp hp with hp | hp
    · obtain ⟨hmem, hrest⟩ := hf.replaced p hp
      exact ⟨List.mem_append_left _ hmem, hrest⟩
    · obtain rfl := List.mem_singleton.mp hp
      have hmem : f ∈ h.accepted := hf.mem_accepted_of_mem_queue (i := 1) (by rw [hq]; simp)
      have hlt : f.stamp < g.stamp := by
        rw [hstamp]
        exact hf.stamp_lt hmem
      exact ⟨List.mem_append_right _ (List.mem_singleton_self g), hlt, hqos, hkey, hne⟩
  | drop i f rest hq hi => exact hf.replaced
  | take i f rest hq => exact hf.replaced

theorem single (hf : Faithful h) (hm : Move h h') : ∀ key ≠ [],
    ((h'.queues 1).filter (inChannel .reliableLatest key)).length ≤ 1 := by
  intro key hkeyne
  have hold := hf.single key hkeyne
  cases hm with
  | push f hstamp hkey =>
    by_cases hi : (1 : Fin 4) = qosIndex f.qos
    · have hqos : f.qos = .reliableLatest := qosIndex_injective hi.symm
      simp only [QueueHistory.push, ← hi, Function.update_self, List.filter_append]
      by_cases hfkey : f.latestKey = key
      · -- No queued frame has the key, or the new one would have replaced it.
        have hnone : (h.queues 1).filter (inChannel .reliableLatest key) = [] := by
          refine List.filter_eq_nil_iff.mpr ?_
          intro g hg hin
          exact hkey hqos (hfkey ▸ hkeyne) g hg (((inChannel_iff.mp hin).2 rfl).trans hfkey.symm)
        rw [hnone, List.nil_append]
        exact List.length_filter_le _ [f]
      · have hnot : ¬ inChannel .reliableLatest key f = true := fun hin =>
          hfkey ((inChannel_iff.mp hin).2 rfl)
        rw [List.filter_cons_of_neg hnot, List.filter_nil, List.append_nil]
        exact hold
    · simp only [QueueHistory.push, Function.update_of_ne hi]
      exact hold
  | replace pre f g post hq hstamp hqos hkey hne =>
    rw [hq] at hold
    simp only [QueueHistory.replace, Function.update_self, List.filter_append, List.filter_cons,
      inChannel_congr hqos hkey] at hold ⊢
    by_cases hin : inChannel .reliableLatest key f = true
    · simpa only [hin, if_true, List.length_append, List.length_cons] using hold
    · rw [if_neg hin] at hold ⊢
      exact hold
  | drop i f rest hq hi =>
    have hne : (1 : Fin 4) ≠ i := by rcases hi with rfl | ⟨rfl, -⟩ <;> decide
    simp only [QueueHistory.drop, Function.update_of_ne hne]
    exact hold
  | take i f rest hq =>
    by_cases hi : (1 : Fin 4) = i
    · subst hi
      simp only [QueueHistory.take, Function.update_self]
      rw [hq] at hold
      exact (((List.sublist_cons_self f rest).filter _).length_le).trans hold
    · simp only [QueueHistory.take, Function.update_of_ne hi]
      exact hold

theorem ordered (hf : Faithful h) (hm : Move h h') :
    h'.taken.filter (fun f => f.qos = .reliableOrdered) ++ h'.queues 0 =
      h'.accepted.filter fun f => f.qos = .reliableOrdered := by
  have hold := hf.ordered
  cases hm with
  | push f hstamp hkey =>
    simp only [QueueHistory.push, List.filter_append]
    rw [← hold]
    by_cases hi : f.qos = .reliableOrdered
    · simp [hi, qosIndex]
    · have hne : (0 : Fin 4) ≠ qosIndex f.qos := fun h0 => hi (qosIndex_injective h0.symm)
      simp [hi, Function.update_of_ne hne]
  | replace pre f g post hq hstamp hqos hkey hne =>
    have hclass : qosIndex f.qos = 1 := hf.classed 1 f (by rw [hq]; simp)
    -- The new frame has the class of the replaced one, which stood in queue 1.
    have hg : g.qos ≠ .reliableOrdered := by
      intro hg
      rw [← hqos, hg] at hclass
      exact absurd hclass (by decide)
    simp only [QueueHistory.replace, List.filter_append]
    rw [← hold, Function.update_of_ne (by decide)]
    simp [hg]
  | drop i f rest hq hi =>
    have hne : (0 : Fin 4) ≠ i := by rcases hi with rfl | ⟨rfl, -⟩ <;> decide
    simp only [QueueHistory.drop, Function.update_of_ne hne]
    exact hold
  | take i f rest hq =>
    have hclass : qosIndex f.qos = i := hf.classed i f (by rw [hq]; exact List.mem_cons_self)
    simp only [QueueHistory.take, List.filter_append]
    rw [← hold]
    by_cases hi : (0 : Fin 4) = i
    · have hqos : f.qos = .reliableOrdered := qosIndex_injective (hclass.trans hi.symm)
      subst hi
      simp [hq, hqos]
    · have hqos : f.qos ≠ .reliableOrdered := by
        intro hqos
        rw [hqos] at hclass
        exact hi hclass
      simp [hqos, Function.update_of_ne hi]

/-- The front of a queue leaves, taken or not: it joins the frames that are gone. -/
theorem gone_front {i : Fin 4} {f : OutboundFrame} {rest : List OutboundFrame} {qos : QosClass}
    {key : Text} {gone accepted : List OutboundFrame} (hclass : qosIndex f.qos = i)
    (hq : h.queues i = f :: rest)
    (hacc : accepted = gone ++ (h.queues (qosIndex qos)).filter (inChannel qos key)) :
    accepted = (gone ++ [f].filter (inChannel qos key)) ++
      (Function.update h.queues i rest (qosIndex qos)).filter (inChannel qos key) := by
  rw [hacc]
  by_cases hi : qosIndex qos = i
  · rw [hi, hq, Function.update_self, List.append_assoc, ← List.filter_append]
    rfl
  · rw [Function.update_of_ne hi, filter_inChannel_of_ne (by rw [hclass]; exact Ne.symm hi) key,
      List.append_nil]

theorem channels (hf : Faithful h) (hm : Move h h') : ∀ qos key, ∃ gone,
    h'.accepted.filter (inChannel qos key) =
      gone ++ (h'.queues (qosIndex qos)).filter (inChannel qos key) ∧
    (h'.taken.filter (inChannel qos key)).Sublist gone := by
  intro qos key
  obtain ⟨gone, hacc, htaken⟩ := hf.channels qos key
  cases hm with
  | push f hstamp hkey =>
    refine ⟨gone, ?_, htaken⟩
    simp only [QueueHistory.push, List.filter_append]
    rw [hacc]
    by_cases hi : qosIndex qos = qosIndex f.qos
    · rw [hi, Function.update_self, List.filter_append, List.append_assoc]
    · rw [Function.update_of_ne hi, filter_inChannel_of_ne (Ne.symm hi), List.append_nil]
  | replace pre f g post hq hstamp hqos hkey hne =>
    have hclass : qosIndex f.qos = 1 := hf.classed 1 f (by rw [hq]; simp)
    have hlatest : f.qos = .reliableLatest := qosIndex_injective hclass
    have hcongr := inChannel_congr hqos hkey qos key
    simp only [QueueHistory.replace, List.filter_append]
    rw [hacc]
    by_cases hin : inChannel qos key f = true
    · -- The replaced frame was the only one of its channel in the queue.
      obtain ⟨rfl, hfkey⟩ := inChannel_iff.mp hin
      have hkey' : f.latestKey = key := hfkey hlatest
      have hsingle := hf.single key (hkey' ▸ hne)
      rw [← hlatest, hq, List.filter_append, List.filter_cons_of_pos hin, List.length_append,
        List.length_cons] at hsingle
      have hpre : pre.filter (inChannel f.qos key) = [] := List.length_eq_zero_iff.mp (by omega)
      have hpost : post.filter (inChannel f.qos key) = [] := List.length_eq_zero_iff.mp (by omega)
      have hgin : inChannel f.qos key g = true := hcongr.trans hin
      refine ⟨gone ++ [f], ?_, htaken.trans (List.sublist_append_left _ _)⟩
      rw [hclass, hq, Function.update_self]
      simp only [List.filter_append, List.filter_cons_of_pos hin, List.filter_cons_of_pos hgin,
        List.filter_nil, hpre, hpost, List.nil_append, List.append_assoc]
    · have hgin : ¬ inChannel qos key g = true := by rwa [hcongr]
      refine ⟨gone, ?_, htaken⟩
      rw [List.filter_cons_of_neg hgin, List.filter_nil, List.append_nil]
      by_cases hi : qosIndex qos = 1
      · rw [hi, hq, Function.update_self, List.filter_append, List.filter_append,
          List.filter_cons_of_neg hin, List.filter_cons_of_neg hgin]
      · rw [Function.update_of_ne hi]
  | drop i f rest hq hi =>
    -- What leaves the front of a queue is gone from its channel, dropped here and taken below.
    have hclass : qosIndex f.qos = i := hf.classed i f (by rw [hq]; exact List.mem_cons_self)
    exact ⟨_, gone_front hclass hq hacc, htaken.trans (List.sublist_append_left _ _)⟩
  | take i f rest hq =>
    have hclass : qosIndex f.qos = i := hf.classed i f (by rw [hq]; exact List.mem_cons_self)
    refine ⟨_, gone_front hclass hq hacc, ?_⟩
    simp only [QueueHistory.take, List.filter_append]
    exact htaken.append (List.Sublist.refl _)

/-- **A move keeps the invariant.** -/
theorem faithful (hf : Faithful h) (hm : Move h h') : Faithful h' :=
  ⟨hm.classed hf, hm.stamps hf, hm.conserved hf, hm.dropped hf, hm.replaced hf, hm.single hf,
    hm.ordered hf, hm.channels hf⟩

end Move

theorem Faithful.moves {h h' : QueueHistory} (hf : Faithful h) (hm : ReflTransGen Move h h') :
    Faithful h' := by
  induction hm with
  | refl => exact hf
  | tail _ hm ih => exact hm.faithful ih

theorem QueueRun.step_faithful {r : QueueRun} (hf : Faithful r.history) (op : QueueOp) :
    Faithful (r.step op).history := by
  refine hf.moves (QueueRun.step_moves (fun f hmem => ?_) op)
  exact qosIndex_injective (hf.classed 1 f hmem)

theorem queueRun_faithful (peer : Peer) (running : Bool) (maxQueuedBytes : ℕ) (ops : List QueueOp) :
    Faithful (queueRun peer running maxQueuedBytes ops).history := by
  refine queueRun_induction (motive := fun r => Faithful r.history) peer running maxQueuedBytes ops
    ?_ fun r op hf => QueueRun.step_faithful hf op
  refine ⟨?_, rfl, ?_, ?_, ?_, ?_, rfl, ?_⟩
  · exact fun i f hmem => absurd hmem List.not_mem_nil
  · exact fun f => by simp [QueueRun.history]
  · exact fun d hd => absurd hd List.not_mem_nil
  · exact fun p hp => absurd hp List.not_mem_nil
  · exact fun key _ => Nat.zero_le _
  · exact fun qos key => ⟨[], rfl, List.Sublist.slnil⟩

/-! ### The promises -/

/-- What the classes are promised.  Frames are told apart by their stamps. -/
structure DeliveryGuarantee (r : QueueRun) : Prop where
  /-- ReliableOrdered frames are taken, or wait, in the order of acceptance. -/
  ordered : r.taken.filter (fun f => f.qos = .reliableOrdered) ++ r.conn.sendQueues 0 =
    r.accepted.filter fun f => f.qos = .reliableOrdered
  /-- A ReliableLatest frame is taken, waits, or gave way to a later one of its key. -/
  latest : ∀ f ∈ r.accepted, f.qos = .reliableLatest →
    f ∈ r.taken ∨ f ∈ r.conn.sendQueues 1 ∨
      ∃ g ∈ r.accepted, (f, g) ∈ r.conn.log.replaced ∧ f.stamp < g.stamp ∧
        g.qos = .reliableLatest ∧ g.latestKey = f.latestKey ∧ f.latestKey ≠ []
  latest_unique : ∀ key ≠ [],
    ((r.conn.sendQueues 1).filter fun f => f.latestKey = key).length ≤ 1
  /-- A queued frame of a key is the newest one accepted. -/
  latest_newest : ∀ f ∈ r.conn.sendQueues 1, f.latestKey ≠ [] →
    (r.accepted.filter fun g => g.qos = .reliableLatest ∧ g.latestKey = f.latestKey).getLast? =
      some f
  latest_inOrder : ∀ key,
    (r.taken.filter fun f => f.qos = .reliableLatest ∧ f.latestKey = key).Sublist
      (r.accepted.filter fun f => f.qos = .reliableLatest ∧ f.latestKey = key)
  /-- The lossy classes lose their oldest frames. -/
  lossy : ∀ qos, qosMayDrop qos = true →
    r.conn.sendQueues (qosIndex qos) <:+ r.accepted.filter (fun f => f.qos = qos) ∧
    (r.taken.filter fun f => f.qos = qos).Sublist (r.accepted.filter fun f => f.qos = qos)
  bestEffort_dropped : ∀ d ∈ r.conn.log.dropped, d.frame.qos = .bestEffort → d.bulkQueued = 0
  taken_nodup : (r.taken.map OutboundFrame.stamp).Nodup
  /-- Nothing is lost beyond what the log holds. -/
  conserved : ∀ f, r.accepted.count f = r.taken.count f + ∑ i, (r.conn.sendQueues i).count f +
    (r.conn.log.dropped.map Drop.frame).count f + (r.conn.log.replaced.map Prod.fst).count f

theorem inChannel_reliableLatest (key : Text) :
    inChannel .reliableLatest key =
      fun f => decide (f.qos = .reliableLatest ∧ f.latestKey = key) := by
  funext f
  rw [Bool.eq_iff_iff, inChannel_iff, decide_eq_true_iff]
  simp

theorem inChannel_lossy {qos : QosClass} (hqos : qosMayDrop qos = true) (key : Text) :
    inChannel qos key = fun f => decide (f.qos = qos) := by
  have hne : qos ≠ .reliableLatest := by
    rintro rfl
    exact absurd hqos (by decide)
  funext f
  rw [Bool.eq_iff_iff, inChannel_iff, decide_eq_true_iff]
  exact ⟨And.left, fun hf => ⟨hf, fun hlatest => absurd hlatest hne⟩⟩

namespace Faithful

variable {h : QueueHistory}

/-- A ReliableLatest frame is never dropped, so the counts leave three places for it. -/
theorem latest (hf : Faithful h) {f : OutboundFrame} (hmem : f ∈ h.accepted)
    (hqos : f.qos = .reliableLatest) :
    f ∈ h.taken ∨ f ∈ h.queues 1 ∨
      ∃ g ∈ h.accepted, (f, g) ∈ h.replaced ∧ f.stamp < g.stamp ∧
        g.qos = .reliableLatest ∧ g.latestKey = f.latestKey ∧ f.latestKey ≠ [] := by
  have hcount := hf.conserved f
  have hpos : 0 < h.accepted.count f := List.count_pos_iff.mpr hmem
  have hdropped : (h.dropped.map Drop.frame).count f = 0 := by
    refine List.count_eq_zero.mpr ?_
    intro hdrop
    obtain ⟨d, hd, rfl⟩ := List.mem_map.mp hdrop
    obtain ⟨hclass, hqueue⟩ := hf.dropped d hd
    rw [← hclass, hqos] at hqueue
    exact absurd hqueue (by simp [qosIndex])
  have hqueues : ∑ i, (h.queues i).count f = (h.queues 1).count f := by
    refine Finset.sum_eq_single_of_mem 1 (Finset.mem_univ 1) ?_
    intro i _ hi
    refine List.count_eq_zero.mpr fun hq => hi ?_
    rw [← hf.classed i f hq, hqos]
    rfl
  by_cases htaken : f ∈ h.taken
  · exact Or.inl htaken
  by_cases hqueued : f ∈ h.queues 1
  · exact Or.inr (Or.inl hqueued)
  have htaken0 := List.count_eq_zero.mpr htaken
  have hqueued0 := List.count_eq_zero.mpr hqueued
  -- The frame is counted where accepted frames go, and in no other place than this one.
  have hreplaced : f ∈ h.replaced.map Prod.fst := List.count_pos_iff.mp (by omega)
  obtain ⟨⟨f', g⟩, hp, rfl⟩ := List.mem_map.mp hreplaced
  obtain ⟨hacc, hstamp, hgqos, hgkey, hne⟩ := hf.replaced _ hp
  exact Or.inr (Or.inr ⟨g, hacc, hp, hstamp, hgqos.trans hqos, hgkey, hne⟩)

theorem latest_newest (hf : Faithful h) {f : OutboundFrame} (hmem : f ∈ h.queues 1)
    (hne : f.latestKey ≠ []) :
    (h.accepted.filter (inChannel .reliableLatest f.latestKey)).getLast? = some f := by
  have hin : inChannel .reliableLatest f.latestKey f = true :=
    inChannel_iff.mpr ⟨qosIndex_injective (hf.classed 1 f hmem), fun _ => rfl⟩
  have hmem' : f ∈ (h.queues 1).filter (inChannel .reliableLatest f.latestKey) :=
    List.mem_filter.mpr ⟨hmem, hin⟩
  have hqueue : (h.queues 1).filter (inChannel .reliableLatest f.latestKey) = [f] := by
    have hpos := List.length_pos_of_mem hmem'
    have hone : ((h.queues 1).filter (inChannel .reliableLatest f.latestKey)).length = 1 := by
      have hle := hf.single f.latestKey hne
      omega
    obtain ⟨g, hg⟩ := List.length_eq_one_iff.mp hone
    rw [hg] at hmem'
    rw [hg, List.mem_singleton.mp hmem']
  obtain ⟨gone, hacc, -⟩ := hf.channels .reliableLatest f.latestKey
  replace hacc : _ = gone ++ (h.queues 1).filter _ := hacc
  rw [hacc, hqueue, List.getLast?_concat]

/-- In a channel the taken frames are a subsequence of the accepted ones. -/
theorem inOrder (hf : Faithful h) (qos : QosClass) (key : Text) :
    (h.taken.filter (inChannel qos key)).Sublist (h.accepted.filter (inChannel qos key)) := by
  obtain ⟨gone, hacc, htaken⟩ := hf.channels qos key
  rw [hacc]
  exact htaken.trans (List.sublist_append_left _ _)

theorem taken_nodup (hf : Faithful h) : (h.taken.map OutboundFrame.stamp).Nodup := by
  have hinj : ∀ f ∈ h.accepted, ∀ g ∈ h.accepted, f.stamp = g.stamp → f = g := by
    have hnodup : (h.accepted.map OutboundFrame.stamp).Nodup := by
      rw [hf.stamps]
      exact List.nodup_range
    intro f hfm g hgm
    exact List.inj_on_of_nodup_map hnodup hfm hgm
  refine List.Nodup.map_on (fun f hfm g hgm => ?_) ?_
  · exact hinj f (hf.mem_accepted_of_mem_taken hfm) g (hf.mem_accepted_of_mem_taken hgm)
  · refine List.nodup_iff_count_le_one.mpr ?_
    intro f
    have hcount := hf.conserved f
    have hone := List.nodup_iff_count_le_one.mp hf.accepted_nodup f
    omega

end Faithful

/-- **Every run keeps the promises** of the four classes. -/
theorem queueRun_deliveryGuarantee (peer : Peer) (running : Bool) (maxQueuedBytes : ℕ)
    (ops : List QueueOp) : DeliveryGuarantee (queueRun peer running maxQueuedBytes ops) := by
  have hf := queueRun_faithful peer running maxQueuedBytes ops
  generalize queueRun peer running maxQueuedBytes ops = r at hf
  refine ⟨hf.ordered, fun f hmem hqos => hf.latest hmem hqos, ?_, ?_, ?_, ?_, ?_, hf.taken_nodup,
    hf.conserved⟩
  · intro key hne
    have hsingle := hf.single key hne
    -- Every frame of the queue is of the class, so only the key selects.
    have hsame : ∀ f ∈ r.conn.sendQueues 1,
        inChannel .reliableLatest key f = decide (f.latestKey = key) := by
      intro f hmem
      have hqos : f.qos = .reliableLatest := qosIndex_injective (hf.classed 1 f hmem)
      rw [inChannel_reliableLatest]
      simp [hqos]
    rw [← List.filter_congr hsame]
    exact hsingle
  · intro f hmem hne
    rw [← inChannel_reliableLatest]
    exact hf.latest_newest hmem hne
  · intro key
    rw [← inChannel_reliableLatest]
    exact hf.inOrder .reliableLatest key
  · intro qos hqos
    have hall : (r.conn.sendQueues (qosIndex qos)).filter (inChannel qos []) =
        r.conn.sendQueues (qosIndex qos) := by
      refine List.filter_eq_self.mpr ?_
      intro f hmem
      rw [inChannel_lossy hqos]
      exact decide_eq_true (qosIndex_injective (hf.classed _ f hmem))
    rw [← inChannel_lossy hqos []]
    refine ⟨?_, hf.inOrder qos []⟩
    obtain ⟨gone, hacc, -⟩ := hf.channels qos []
    exact ⟨gone, by rw [← hall]; exact hacc.symm⟩
  · intro d hd hqos
    obtain ⟨hclass, hqueue⟩ := hf.dropped d hd
    rw [← hclass, hqos] at hqueue
    rcases hqueue with h3 | ⟨-, hzero⟩
    · exact absurd h3 (by decide)
    · exact hzero

end YunLink
