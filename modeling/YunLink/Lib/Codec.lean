import Mathlib.Data.List.Basic

/-!
# Writers and readers

A hand-written format is a writer and a reader that have to agree.  The writer appends
tokens to a buffer and may invalidate it on the way; the reader takes tokens from the
front of its input and may fail.  The two are programs of their own here, and what they
have to do with each other is said by two relations between the steps of one and of the
other, which compose as the programs do.

## Main definitions

* `Buffer` — what a writer writes to.
* `Reader`, `Reader.times` — a reader, and a reader repeated.
* `Yields` — what a reader makes of the tokens written between two states of a buffer.
* `Restores` — the tokens written between two states of a buffer are those between two
  positions of an input.
* `Agrees`, `Recovers` — the two laws of a writer and a reader: **what is written is read
  back**, and **what is read is written back**.
* `Relays` — what is read is written back when it fits, and invalidates the buffer when it
  does not.
* `Mirrors` — one reader accepts of what another accepts the values that are good.
* `Lags` — one writer writes fewer tokens than another, or the same.
* `Simulates`, `Emulates` — readers and writers of values that are related.

## Main results

* `Yields.bind`, `Yields.refuse`, `Yields.times` — the rules for what is written.
* `Restores.trans`, `Recovers.times` — the rules for what is read.
* `Relays.trans`, `Relays.times` — the rules for what is read and may not fit.
* `Mirrors.bind`, `Mirrors.times` — the rules for two readers of one format.
* `Lags.bind`, `Lags.foldl` — the rules for two writers of one format.
* `Simulates.times`, `Emulates.foldl` — the rules for lists of related values.
-/

namespace Codec

variable {σ α β : Type}

/-! ### Buffers -/

/-- The tokens written so far, and whether they are to be used. -/
structure Buffer (σ : Type) where
  data : List σ := []
  valid : Bool := true

namespace Buffer

/-- More tokens. -/
def put (w : Buffer σ) (tokens : List σ) : Buffer σ := { w with data := w.data ++ tokens }

/-- The value cannot be written. -/
def invalidate (w : Buffer σ) : Buffer σ := { w with valid := false }

/-- What was written; nothing when the buffer was invalidated. -/
def take (w : Buffer σ) : List σ := if w.valid then w.data else []

theorem put_nil (w : Buffer σ) : w.put [] = w := by
  rw [put, List.append_nil]

theorem put_put (w : Buffer σ) (s t : List σ) : (w.put s).put t = w.put (s ++ t) := by
  simp only [put, List.append_assoc]

theorem valid_of_take_ne_nil {w : Buffer σ} (h : w.take ≠ []) : w.valid = true := by
  by_contra hvalid
  exact h (if_neg hvalid)

theorem take_of_valid {w : Buffer σ} (h : w.valid = true) : w.take = w.data := if_pos h

/-- The later buffer was written from the earlier one. -/
def Extends (w w' : Buffer σ) : Prop :=
  w'.valid = true → w.valid = true ∧ ∃ written, w'.data = w.data ++ written

namespace Extends

theorem refl (w : Buffer σ) : Extends w w := fun h => ⟨h, [], (List.append_nil _).symm⟩

theorem trans {w w' w'' : Buffer σ} (h : Extends w w') (h' : Extends w' w'') : Extends w w'' := by
  intro hvalid
  obtain ⟨hmid, t, ht⟩ := h' hvalid
  obtain ⟨hfirst, s, hs⟩ := h hmid
  exact ⟨hfirst, s ++ t, by rw [ht, hs, List.append_assoc]⟩

end Extends

end Buffer

/-! ### Readers -/

/-- A reader: the value it made and the tokens it left. -/
abbrev Reader (σ α : Type) := StateT (List σ) Option α

namespace Reader

/-- `count` values in a row. -/
def times (item : Reader σ α) : ℕ → Reader σ (List α)
  | 0 => pure []
  | count + 1 => do
      let value ← item
      let values ← times item count
      pure (value :: values)

variable {r : Reader σ α} {next : α → Reader σ β} {input rest : List σ}

theorem pure_eq_some {a b : α} :
    (pure a : Reader σ α) input = some (b, rest) ↔ a = b ∧ input = rest := by
  show some (a, input) = some (b, rest) ↔ _
  rw [Option.some.injEq, Prod.mk.injEq]

theorem bind_eq_some {b : β} :
    (r >>= next) input = some (b, rest) ↔
      ∃ a middle, r input = some (a, middle) ∧ next a middle = some (b, rest) := by
  show (r input).bind (fun out => next out.1 out.2) = _ ↔ _
  rw [Option.bind_eq_some_iff]
  exact Prod.exists

theorem guard_true {p : Prop} [Decidable p] (h : p) : (guard p : Reader σ Unit) = pure () :=
  if_pos h

theorem guard_false {p : Prop} [Decidable p] (h : ¬p) :
    (guard p : Reader σ Unit) input = none := by
  rw [guard, if_neg h]
  rfl

theorem guard_eq_some {p : Prop} [Decidable p] {u : Unit} :
    (guard p : Reader σ Unit) input = some (u, rest) ↔ p ∧ input = rest := by
  by_cases h : p
  · rw [guard_true h, pure_eq_some]
    simp [h]
  · rw [guard_false h]
    simp [h]

end Reader

/-! ### What is written is read back -/

/-- The reader makes this of what was written: a value, or nothing when it refuses.  The
tokens that follow do not matter. -/
def Yields (r : Reader σ α) (w w' : Buffer σ) (out : Option α) : Prop :=
  w'.valid = true → w.valid = true ∧ ∃ written, w'.data = w.data ++ written ∧
    ∀ rest, r (written ++ rest) = out.map fun a => (a, rest)

namespace Yields

variable {r : Reader σ α} {next : α → Reader σ β} {w w' w'' : Buffer σ}

theorem pure (a : α) (w : Buffer σ) : Yields (pure a : Reader σ α) w w (some a) :=
  fun h => ⟨h, [], (List.append_nil _).symm, fun _ => rfl⟩

theorem put {a : α} {tokens : List σ} (h : ∀ rest, r (tokens ++ rest) = some (a, rest))
    (w : Buffer σ) : Yields r w (w.put tokens) (some a) :=
  fun hvalid => ⟨hvalid, tokens, rfl, h⟩

theorem invalidate (w : Buffer σ) (out : Option α) : Yields r w w.invalidate out :=
  fun hvalid => Bool.noConfusion hvalid

/-- **Readers in a row read what was written in a row.** -/
theorem bind {a : α} {out : Option β} (h : Yields r w w' (some a))
    (h' : Yields (next a) w' w'' out) : Yields (r >>= next) w w'' out := by
  intro hvalid
  obtain ⟨hmid, t, ht, hnext⟩ := h' hvalid
  obtain ⟨hfirst, s, hs, hread⟩ := h hmid
  refine ⟨hfirst, s ++ t, by rw [ht, hs, List.append_assoc], fun rest => ?_⟩
  show (r (s ++ t ++ rest)).bind (fun out => next out.1 out.2) = _
  rw [List.append_assoc, hread]
  exact hnext rest

/-- What one reader refuses, whatever is written behind it is refused. -/
theorem refuse (h : Yields r w w' none) (h' : w'.Extends w'') :
    Yields (r >>= next) w w'' none := by
  intro hvalid
  obtain ⟨hmid, t, ht⟩ := h' hvalid
  obtain ⟨hfirst, s, hs, hread⟩ := h hmid
  refine ⟨hfirst, s ++ t, by rw [ht, hs, List.append_assoc], fun rest => ?_⟩
  show (r (s ++ t ++ rest)).bind (fun out => next out.1 out.2) = _
  rw [List.append_assoc, hread]
  rfl

theorem toExtends {out : Option α} (h : Yields r w w' out) : w.Extends w' := by
  intro hvalid
  obtain ⟨hfirst, s, hs, -⟩ := h hvalid
  exact ⟨hfirst, s, hs⟩

/-- A check that passes. -/
theorem check {p : Prop} [Decidable p] {next : Unit → Reader σ β} {out : Option β} (hp : p)
    (h : Yields (next ()) w w' out) : Yields (guard p >>= next) w w' out := by
  rw [Reader.guard_true hp]
  exact (pure () w).bind h

/-- A check that fails. -/
theorem fail {p : Prop} [Decidable p] {next : Unit → Reader σ β} (hp : ¬p) (h : w.Extends w') :
    Yields (guard p >>= next) w w' none := by
  have hguard : Yields (guard p : Reader σ Unit) w w none := fun hvalid =>
    ⟨hvalid, [], (List.append_nil _).symm, fun _ => Reader.guard_false hp⟩
  exact hguard.refuse h

/-- **Values written one by one are read one by one**, up to the first that is refused. -/
theorem times {item : Reader σ β} {write : Buffer σ → α → Buffer σ} {out : α → Option β} :
    ∀ (values : List α) (w : Buffer σ),
      (∀ a ∈ values, ∀ w, Yields item w (write w a) (out a)) →
      Yields (item.times values.length) w (values.foldl write w) (values.mapM out) := by
  intro values
  induction values with
  | nil => exact fun w _ => pure [] w
  | cons a values ih =>
    intro w h
    obtain ⟨ha, hvalues⟩ := List.forall_mem_cons.mp h
    have hrest := ih (write w a) hvalues
    have hhead := ha w
    rw [List.mapM_cons]
    cases hout : out a with
    | none =>
      rw [hout] at hhead
      exact hhead.refuse hrest.toExtends
    | some b =>
      rw [hout] at hhead
      refine hhead.bind ?_
      cases hothers : values.mapM out with
      | none =>
        rw [hothers] at hrest
        exact hrest.refuse (.refl _)
      | some bs =>
        rw [hothers] at hrest
        exact hrest.bind (pure (b :: bs) _)

end Yields

/-- What is read of values one of which is refused is nothing. -/
theorem mapM_ite {P : α → Prop} [DecidablePred P] (f : α → β) (values : List α) :
    (values.mapM fun a => if P a then some (f a) else none) =
      if ∀ a ∈ values, P a then some (values.map f) else none := by
  induction values with
  | nil => simp
  | cons a values ih =>
    rw [List.mapM_cons, ih]
    by_cases ha : P a
    · by_cases hvalues : ∀ a ∈ values, P a
      · rw [if_pos ha, if_pos hvalues, if_pos (List.forall_mem_cons.mpr ⟨ha, hvalues⟩)]
        rfl
      · rw [if_pos ha, if_neg hvalues, if_neg fun h => hvalues (List.forall_mem_cons.mp h).2]
        rfl
    · rw [if_neg ha, if_neg fun h => ha (List.forall_mem_cons.mp h).1]
      rfl

/-- The values of a list correspond one by one. -/
theorem forall₂_of_mapM {f : β → Option α} :
    ∀ {values : List β} {outs : List α}, values.mapM f = some outs →
      List.Forall₂ (fun a b => f b = some a) outs values := by
  intro values
  induction values with
  | nil =>
    intro outs houts
    obtain rfl := Option.some.inj houts
    exact .nil
  | cons b values ih =>
    intro outs houts
    rw [List.mapM_cons] at houts
    obtain ⟨a, ha, hmore⟩ := Option.bind_eq_some_iff.mp houts
    obtain ⟨others, hothers, hdone⟩ := Option.bind_eq_some_iff.mp hmore
    obtain rfl := Option.some.inj hdone
    exact .cons ha (ih hothers)

theorem exists_of_mapM {f : β → Option α} {values : List β} {outs : List α}
    (h : values.mapM f = some outs) : ∀ b ∈ values, ∃ a, f b = some a := by
  have hall := forall₂_of_mapM h
  clear h
  induction hall with
  | nil => simp
  | cons hfirst _ ih => exact List.forall_mem_cons.mpr ⟨⟨_, hfirst⟩, ih⟩

theorem exists_mapM {f : β → Option α} {values : List β}
    (h : ∀ b ∈ values, ∃ a, f b = some a) : ∃ outs, values.mapM f = some outs := by
  induction values with
  | nil => exact ⟨[], rfl⟩
  | cons b values ih =>
    obtain ⟨⟨a, ha⟩, hvalues⟩ := List.forall_mem_cons.mp h
    obtain ⟨outs, houts⟩ := ih hvalues
    refine ⟨a :: outs, ?_⟩
    rw [List.mapM_cons, ha, houts]
    rfl

/-- What the writer writes of a good value, the reader reads as this value. -/
def Agrees (r : Reader σ α) (write : Buffer σ → α → Buffer σ) (P : α → Prop) : Prop :=
  ∀ a, P a → ∀ w, Yields r w (write w a) (some a)

/-! ### What is read is written back -/

/-- What was written between the two states of the buffer stands for what was read between
the two positions of the input; the tokens are the same when `exact` holds. -/
def Restores (exact : Prop) (w w' : Buffer σ) (input rest : List σ) : Prop :=
  ∃ read written, input = read ++ rest ∧ w' = w.put written ∧ (exact → written = read)

namespace Restores

variable {exact : Prop} {w w' w'' : Buffer σ} {input middle rest : List σ}

theorem refl (w : Buffer σ) (input : List σ) : Restores exact w w input input :=
  ⟨[], [], rfl, w.put_nil.symm, fun _ => rfl⟩

theorem put (w : Buffer σ) (tokens rest : List σ) :
    Restores exact w (w.put tokens) (tokens ++ rest) rest :=
  ⟨tokens, tokens, rfl, rfl, fun _ => rfl⟩

theorem trans (h : Restores exact w w' input middle) (h' : Restores exact w' w'' middle rest) :
    Restores exact w w'' input rest := by
  obtain ⟨s, s', rfl, rfl, hs⟩ := h
  obtain ⟨t, t', rfl, rfl, ht⟩ := h'
  refine ⟨s ++ t, s' ++ t', (List.append_assoc _ _ _).symm, w.put_put s' t', fun he => ?_⟩
  rw [hs he, ht he]

end Restores

/-- Every value the reader makes is a good one, and the writer writes it back. -/
def Recovers (exact : Prop) (r : Reader σ α) (write : Buffer σ → α → Buffer σ) (P : α → Prop) :
    Prop :=
  ∀ {input a rest}, r input = some (a, rest) → P a ∧ ∀ w, Restores exact w (write w a) input rest

/-- **Values read one by one are written back one by one.** -/
theorem Recovers.times {exact : Prop} {item : Reader σ α} {write : Buffer σ → α → Buffer σ}
    {P : α → Prop} (h : Recovers exact item write P) :
    ∀ (count : ℕ) {input : List σ} {values : List α} {rest : List σ},
      item.times count input = some (values, rest) → values.length = count ∧
        (∀ a ∈ values, P a) ∧ ∀ w, Restores exact w (values.foldl write w) input rest := by
  intro count
  induction count with
  | zero =>
    intro input values rest hread
    obtain ⟨rfl, rfl⟩ := Reader.pure_eq_some.mp hread
    exact ⟨rfl, by simp, fun w => .refl w input⟩
  | succ count ih =>
    intro input values rest hread
    obtain ⟨a, middle, ha, hmore⟩ := Reader.bind_eq_some.mp hread
    obtain ⟨others, last, hothers, hdone⟩ := Reader.bind_eq_some.mp hmore
    obtain ⟨rfl, rfl⟩ := Reader.pure_eq_some.mp hdone
    obtain ⟨hgood, hrestored⟩ := h ha
    obtain ⟨hcount, hall, hrest⟩ := ih hothers
    refine ⟨by rw [List.length_cons, hcount], List.forall_mem_cons.mpr ⟨hgood, hall⟩, ?_⟩
    exact fun w => (hrestored w).trans (hrest (write w a))

/-! ### What is read is written back, if it fits -/

/-- What was read between the two positions of the input is written between the two states
of the buffer if it fits; the buffer is not valid if it does not. -/
def Relays (fits : Prop) (w w' : Buffer σ) (input rest : List σ) : Prop :=
  ∃ read, input = read ++ rest ∧ (fits → w' = w.put read) ∧
    (w'.valid = true → w.valid = true ∧ fits)

namespace Relays

variable {fits fits' : Prop} {w w' w'' : Buffer σ} {input middle rest : List σ}

theorem refl (w : Buffer σ) (input : List σ) : Relays True w w input input :=
  ⟨[], rfl, fun _ => w.put_nil.symm, fun h => ⟨h, trivial⟩⟩

theorem of_restores (h : Restores True w w' input rest) : Relays True w w' input rest := by
  obtain ⟨read, written, rfl, rfl, hsame⟩ := h
  obtain rfl := hsame trivial
  exact ⟨written, rfl, fun _ => rfl, fun h => ⟨h, trivial⟩⟩

/-- **Parts in a row are written back in a row**, if all of them fit. -/
theorem trans (h : Relays fits w w' input middle) (h' : Relays fits' w' w'' middle rest) :
    Relays (fits ∧ fits') w w'' input rest := by
  obtain ⟨s, rfl, hs, hvalid⟩ := h
  obtain ⟨t, rfl, ht, hvalid'⟩ := h'
  refine ⟨s ++ t, (List.append_assoc _ _ _).symm, fun hfits => ?_, fun hwritten => ?_⟩
  · rw [ht hfits.2, hs hfits.1, Buffer.put_put]
  · obtain ⟨hmiddle, hsecond⟩ := hvalid' hwritten
    obtain ⟨hstart, hfirst⟩ := hvalid hmiddle
    exact ⟨hstart, hfirst, hsecond⟩

theorem congr (hiff : fits ↔ fits') (h : Relays fits w w' input rest) :
    Relays fits' w w' input rest := by
  rwa [propext hiff] at h

/-- **Values read one by one are written back one by one**, if all of them fit. -/
theorem times {item : Reader σ α} {write : Buffer σ → α → Buffer σ} {good : α → Prop}
    (h : ∀ {input a rest}, item input = some (a, rest) →
      ∀ w, Relays (good a) w (write w a) input rest) :
    ∀ (count : ℕ) {input : List σ} {values : List α} {rest : List σ},
      item.times count input = some (values, rest) → values.length = count ∧
        ∀ w, Relays (∀ a ∈ values, good a) w (values.foldl write w) input rest := by
  intro count
  induction count with
  | zero =>
    intro input values rest hread
    obtain ⟨rfl, rfl⟩ := Reader.pure_eq_some.mp hread
    exact ⟨rfl, fun w => (refl w input).congr (by simp)⟩
  | succ count ih =>
    intro input values rest hread
    obtain ⟨a, middle, ha, hmore⟩ := Reader.bind_eq_some.mp hread
    obtain ⟨others, last, hothers, hdone⟩ := Reader.bind_eq_some.mp hmore
    obtain ⟨rfl, rfl⟩ := Reader.pure_eq_some.mp hdone
    obtain ⟨hcount, hrest⟩ := ih hothers
    refine ⟨by rw [List.length_cons, hcount], fun w => ?_⟩
    exact ((h ha w).trans (hrest (write w a))).congr List.forall_mem_cons.symm

end Relays

/-! ### Two readers of one format -/

/-- Under the condition, `r` accepts what `s` accepts as a good value, and makes the image
of it.  The condition collects what has to be good of the parts that were read before. -/
def Mirrors (condition : Prop) (r : Reader σ α) (s : Reader σ β) (good : β → Prop) (image : β → α) :
    Prop :=
  ∀ input a rest, (condition ∧ r input = some (a, rest)) ↔
    ∃ b, s input = some (b, rest) ∧ good b ∧ image b = a

namespace Mirrors

variable {γ δ : Type} {condition condition' : Prop} {r : Reader σ α} {s : Reader σ β}
  {good : β → Prop} {image : β → α}

theorem pure {a : α} {b : β} (hgood : condition ↔ good b) (himage : image b = a) :
    Mirrors condition (pure a : Reader σ α) (pure b : Reader σ β) good image := by
  intro input a' rest
  simp only [Reader.pure_eq_some, hgood, ← himage]
  constructor
  · rintro ⟨hb, rfl, rfl⟩
    exact ⟨b, ⟨rfl, rfl⟩, hb, rfl⟩
  · rintro ⟨_, ⟨rfl, rfl⟩, hb, rfl⟩
    exact ⟨hb, rfl, rfl⟩

theorem refl (r : Reader σ α) : Mirrors True r r (fun _ => True) id := by
  intro input a rest
  simp

/-- **Readers in a row mirror readers in a row.** -/
theorem bind {next : α → Reader σ γ} {next' : β → Reader σ δ} {good' : δ → Prop}
    {image' : δ → γ} (h : Mirrors True r s good image)
    (h' : ∀ b, Mirrors (condition ∧ good b) (next (image b)) (next' b) good' image') :
    Mirrors condition (r >>= next) (s >>= next') good' image' := by
  intro input c rest
  simp only [Reader.bind_eq_some]
  constructor
  · rintro ⟨hcondition, a, middle, ha, hc⟩
    obtain ⟨b, hb, hgood, rfl⟩ := (h _ _ _).mp ⟨trivial, ha⟩
    obtain ⟨d, hd, hgood', himage⟩ := (h' b _ _ _).mp ⟨⟨hcondition, hgood⟩, hc⟩
    exact ⟨d, ⟨b, middle, hb, hd⟩, hgood', himage⟩
  · rintro ⟨d, ⟨b, middle, hb, hd⟩, hgood', himage⟩
    obtain ⟨⟨hcondition, hgood⟩, hc⟩ := (h' b _ _ _).mpr ⟨d, hd, hgood', himage⟩
    exact ⟨hcondition, image b, middle, ((h _ _ _).mpr ⟨b, hb, hgood, rfl⟩).2, hc⟩

/-- The second reader goes on to compute with what it read. -/
theorem compute {f : β → γ} {image : γ → α}
    (h : Mirrors True r s (fun _ => True) fun b => image (f b)) :
    Mirrors True r (s >>= fun b => Pure.pure (f b)) (fun _ => True) image := by
  intro input a rest
  simp only [h input a rest, Reader.bind_eq_some, Reader.pure_eq_some, true_and]
  constructor
  · rintro ⟨b, hb, himage⟩
    exact ⟨f b, ⟨b, rest, hb, rfl, rfl⟩, himage⟩
  · rintro ⟨_, ⟨b, _, hb, rfl, rfl⟩, himage⟩
    exact ⟨b, hb, himage⟩

/-- A check of the second reader that is part of the condition already. -/
theorem check {q : Prop} [Decidable q] {next : Unit → Reader σ β} (hchecked : condition → q)
    (h : q → Mirrors condition r (next ()) good image) :
    Mirrors condition r (guard q >>= next) good image := by
  intro input a rest
  by_cases hq : q
  · rw [Reader.guard_true hq]
    exact h hq input a rest
  · constructor
    · rintro ⟨hcondition, -⟩
      exact absurd (hchecked hcondition) hq
    · rintro ⟨b, hb, -⟩
      obtain ⟨_, _, hguard, -⟩ := Reader.bind_eq_some.mp hb
      exact absurd (Reader.guard_eq_some.mp hguard).1 hq

theorem congr (hiff : condition ↔ condition') (h : Mirrors condition r s good image) :
    Mirrors condition' r s good image := by
  rwa [propext hiff] at h

/-- **Repeated readers mirror each other.** -/
theorem times (h : Mirrors True r s good image) :
    ∀ count, Mirrors True (r.times count) (s.times count) (fun values => ∀ b ∈ values, good b)
      (List.map image) := by
  intro count
  induction count with
  | zero =>
    exact pure (by simp) rfl
  | succ count ih =>
    refine h.bind fun b => ?_
    refine ih.bind fun values => ?_
    exact pure (by simp) rfl

end Mirrors

/-! ### Two writers of one format -/

/-- Where the writer `write'` ends valid, the writer `write`, which appends to a list or
fails, writes at least `gap` tokens less if it does not fail.  When `exact` holds it does
not fail and writes the same tokens. -/
def Lags (exact : Prop) (gap : ℕ) (write : List σ → Option (List σ))
    (write' : Buffer σ → Buffer σ) : Prop :=
  ∀ (d : List σ) (w : Buffer σ), (write' w).valid = true → w.valid = true ∧
    ∃ written written', (write' w).data = w.data ++ written' ∧
      written.length + gap ≤ written'.length ∧
      (∀ d', write d = some d' → d' = d ++ written) ∧
      (exact → written = written' ∧ write d = some (d ++ written))

namespace Lags

variable {exact : Prop} {gap gap' : ℕ} {write next : List σ → Option (List σ)}
  {write' next' : Buffer σ → Buffer σ}

theorem put (tokens : List σ) :
    Lags exact 0 (fun d => some (d ++ tokens)) fun w => w.put tokens := by
  intro d w hvalid
  refine ⟨hvalid, tokens, tokens, rfl, Nat.le_refl _, ?_, fun _ => ⟨rfl, rfl⟩⟩
  intro d' hd'
  exact (Option.some.inj hd').symm

theorem mono (hle : gap' ≤ gap) (h : Lags exact gap write write') :
    Lags exact gap' write write' := by
  intro d w hvalid
  obtain ⟨hstart, s, s', hs', hgap, hs, hsame⟩ := h d w hvalid
  exact ⟨hstart, s, s', hs', Nat.le_trans (Nat.add_le_add_left hle _) hgap, hs, hsame⟩

/-- The second writer writes nothing that is valid. -/
theorem of_invalid (h : ∀ w, (write' w).valid = false) : Lags exact gap write write' := by
  intro d w hvalid
  rw [h w] at hvalid
  exact absurd hvalid Bool.false_ne_true

/-- A part that only the second writer knows. -/
theorem skip (h : ∀ w, (write' w).valid = true → w.valid = true ∧
    ∃ written', (write' w).data = w.data ++ written' ∧ gap ≤ written'.length) :
    Lags False gap some write' := by
  intro d w hvalid
  obtain ⟨hstart, written', hdata, hgap⟩ := h w hvalid
  refine ⟨hstart, [], written', hdata, by simpa using hgap, ?_, False.elim⟩
  intro d' hd'
  rw [List.append_nil]
  exact (Option.some.inj hd').symm

/-- **Writers in a row lag behind writers in a row.** -/
theorem bind (h : Lags exact gap write write') (h' : Lags exact gap' next next') :
    Lags exact (gap + gap') (fun d => write d >>= next) fun w => next' (write' w) := by
  intro d w hvalid
  obtain ⟨hmiddle, -⟩ := h' d (write' w) hvalid
  obtain ⟨hstart, s, s', hs', hgap, hs, hsame⟩ := h d w hmiddle
  obtain ⟨-, t, t', ht', hgap', ht, hsame'⟩ := h' (d ++ s) (write' w) hvalid
  refine ⟨hstart, s ++ t, s' ++ t', by rw [ht', hs', List.append_assoc], ?_, ?_, fun hexact => ?_⟩
  · rw [List.length_append, List.length_append]
    omega
  · intro d' hd'
    obtain ⟨middle, hmid, hnext⟩ := Option.bind_eq_some_iff.mp hd'
    obtain rfl := hs middle hmid
    rw [ht d' hnext, List.append_assoc]
  · obtain ⟨rfl, hwrite⟩ := hsame hexact
    obtain ⟨rfl, hnext⟩ := hsame' hexact
    refine ⟨rfl, ?_⟩
    show (write d).bind next = _
    rw [hwrite, Option.bind_some, hnext, List.append_assoc]

theorem of_extends (h : ∀ w : Buffer σ, w.Extends (write' w)) : Lags False 0 some write' := by
  refine skip fun w hvalid => ?_
  obtain ⟨hstart, written', hdata⟩ := h w hvalid
  exact ⟨hstart, written', hdata, Nat.zero_le _⟩

/-- The second writer goes on where the first one ends. -/
theorem behind (h : Lags exact gap write write') (h' : Lags exact gap' some next') :
    Lags exact (gap + gap') write fun w => next' (write' w) := by
  have hall := h.bind h'
  have hsame : (fun d => write d >>= some) = write := by
    funext d
    exact Option.bind_fun_some (write d)
  rwa [hsame] at hall

/-- **Items written one by one lag behind items written one by one.** -/
theorem foldl {item : List σ → α → Option (List σ)} {item' : Buffer σ → β → Buffer σ}
    {values : List α} {values' : List β}
    (h : List.Forall₂ (fun a b => Lags exact gap (fun d => item d a) fun w => item' w b)
      values values') :
    Lags exact (gap * values'.length) (fun d => values.foldlM item d)
      fun w => values'.foldl item' w := by
  induction h with
  | nil =>
    intro d w hvalid
    refine ⟨hvalid, [], [], by simp, by simp, fun d' hd' => ?_, fun _ => ⟨rfl, by simp⟩⟩
    rw [List.append_nil]
    exact (Option.some.inj hd').symm
  | cons hfirst _ ih =>
    have hall := hfirst.bind ih
    rw [List.length_cons, Nat.mul_succ, Nat.add_comm]
    simp only [List.foldlM_cons, List.foldl_cons]
    exact hall

end Lags

/-! ### Values that are related -/

/-- The reader `r` accepts what `s` accepts as a good value, and makes a value of it that is
related to that one. -/
def Simulates (related : α → β → Prop) (r : Reader σ α) (s : Reader σ β) (good : β → Prop) :
    Prop :=
  ∀ input b rest, s input = some (b, rest) → good b → ∃ a, related a b ∧ r input = some (a, rest)

/-- **Repeated readers simulate each other**, value by value. -/
theorem Simulates.times {related : α → β → Prop} {r : Reader σ α} {s : Reader σ β}
    {good : β → Prop} (h : Simulates related r s good) :
    ∀ count, Simulates (List.Forall₂ related) (r.times count) (s.times count)
      fun values => ∀ b ∈ values, good b := by
  intro count
  induction count with
  | zero =>
    intro input values rest hread _
    obtain ⟨rfl, rfl⟩ := Reader.pure_eq_some.mp hread
    exact ⟨[], .nil, rfl⟩
  | succ count ih =>
    intro input values rest hread hgood
    obtain ⟨b, middle, hb, hmore⟩ := Reader.bind_eq_some.mp hread
    obtain ⟨others, last, hothers, hdone⟩ := Reader.bind_eq_some.mp hmore
    obtain ⟨rfl, rfl⟩ := Reader.pure_eq_some.mp hdone
    obtain ⟨hfirst, hrest⟩ := List.forall_mem_cons.mp hgood
    obtain ⟨a, ha, hra⟩ := h _ _ _ hb hfirst
    obtain ⟨as, has, hras⟩ := ih _ _ _ hothers hrest
    refine ⟨a :: as, .cons ha has, Reader.bind_eq_some.mpr ⟨a, middle, hra, ?_⟩⟩
    exact Reader.bind_eq_some.mpr ⟨as, _, hras, rfl⟩

/-- What `write`, which appends to a list or fails, writes of a value, the other writer
writes of a value that is related to it. -/
def Emulates (related : α → β → Prop) (write : List σ → α → Option (List σ))
    (write' : Buffer σ → β → Buffer σ) : Prop :=
  ∀ d a d', write d a = some d' → ∃ b, related a b ∧ write' ⟨d, true⟩ b = ⟨d', true⟩

/-- **Items written one by one are emulated**, value by value. -/
theorem Emulates.foldl {related : α → β → Prop} {write : List σ → α → Option (List σ)}
    {write' : Buffer σ → β → Buffer σ} (h : Emulates related write write') :
    Emulates (List.Forall₂ related) (fun d values => values.foldlM write d)
      fun w values => values.foldl write' w := by
  intro d values d' hwrite
  dsimp only at hwrite ⊢
  induction values generalizing d with
  | nil =>
    obtain rfl := Option.some.inj hwrite
    exact ⟨[], .nil, rfl⟩
  | cons a values ih =>
    rw [List.foldlM_cons] at hwrite
    obtain ⟨middle, hfirst, hmore⟩ := Option.bind_eq_some_iff.mp hwrite
    obtain ⟨b, hab, hb⟩ := h _ _ _ hfirst
    obtain ⟨others, hothers, hrest⟩ := ih middle hmore
    refine ⟨b :: others, .cons hab hothers, ?_⟩
    rw [List.foldl_cons, hb, hrest]

end Codec
