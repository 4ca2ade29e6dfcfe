import Mathlib.Data.List.Dedup

/-!
# Checks

A check accepts a value or says what is wrong with it.  Programs that check the same values are
compared by what they accept, not by what they say.

## Main definitions

* `rejectIf`, `require`, `okOr` — one test, read as what is wrong or as what has to hold.
* `eachFresh` — the loop that checks every value and keeps the keys it has seen.
* `Unanimous` — all programs accept, or all reject.

## Main results

* `isOk_eachFresh` — **the loop accepts exactly the lists that it accepts value by value and
  whose keys are distinct.**
* `unanimous_iff` — **programs that are between a strictest and a most lenient one are unanimous
  exactly where these two are.**
-/

namespace Checks

variable {ε α κ ι : Type}

/-! ### Verdicts -/

/-- Reject when the test finds something wrong. -/
def rejectIf (wrong : Bool) (error : ε) : Except ε Unit :=
  if wrong then .error error else .ok ()

/-- Reject when the test does not pass. -/
def require (passed : Bool) (error : ε) : Except ε Unit :=
  if passed then .ok () else .error error

/-- `ok_or`: reject when there is no value. -/
def okOr (value : Option α) (error : ε) : Except ε α :=
  match value with
  | some a => .ok a
  | none => .error error

@[simp] theorem isOk_ok (u : Unit) : (Except.ok u : Except ε Unit).isOk = true := rfl

@[simp] theorem isOk_pure (u : Unit) : (pure u : Except ε Unit).isOk = true := rfl

@[simp] theorem isOk_error (error : ε) : (Except.error error : Except ε Unit).isOk = false := rfl

@[simp] theorem isOk_rejectIf (wrong : Bool) (error : ε) :
    (rejectIf wrong error).isOk = !wrong := by
  cases wrong <;> rfl

@[simp] theorem isOk_require (passed : Bool) (error : ε) :
    (require passed error).isOk = passed := by
  cases passed <;> rfl

@[simp] theorem isOk_bind (first : Except ε Unit) (second : Unit → Except ε Unit) :
    (first >>= second).isOk = (first.isOk && (second ()).isOk) := by
  cases first <;> rfl

@[simp] theorem isOk_okOr_bind (value : Option α) (error : ε) (rest : α → Except ε Unit) :
    (okOr value error >>= rest).isOk = value.any fun a => (rest a).isOk := by
  cases value <;> rfl

theorem isOk_forM (check : α → Except ε Unit) (values : List α) :
    (values.forM check).isOk = values.all fun a => (check a).isOk := by
  induction values with
  | nil => rfl
  | cons a values ih =>
    rw [List.all_cons, ← ih]
    exact isOk_bind (check a) fun _ => values.forM check

@[simp] theorem isOk_mapError (f : ε → ε) (check : Except ε Unit) :
    (check.mapError f).isOk = check.isOk := by
  cases check <;> rfl

/-! ### Lists with distinct keys -/

/-- The loop over a list that keeps the keys it has seen.  The body is told whether the key of
the value is new. -/
def eachFresh [BEq κ] (key : α → κ) (body : α → Bool → Except ε Unit) :
    List κ → List α → Except ε Unit
  | _, [] => .ok ()
  | seen, a :: rest => do
    body a (!seen.contains (key a))
    eachFresh key body (key a :: seen) rest

section eachFresh

variable [BEq κ] [LawfulBEq κ] {key : α → κ} {body : α → Bool → Except ε Unit}
  {passes : α → Bool}

/-- What the loop accepts behind the keys it has seen. -/
theorem isOk_eachFresh_seen (h : ∀ a fresh, (body a fresh).isOk = (passes a && fresh))
    (seen : List κ) (values : List α) :
    (eachFresh key body seen values).isOk = true ↔
      (∀ a ∈ values, passes a = true) ∧ (values.map key).Nodup ∧
        ∀ a ∈ values, key a ∉ seen := by
  induction values generalizing seen with
  | nil => simp [eachFresh]
  | cons a values ih =>
    simp only [eachFresh, isOk_bind, Bool.and_eq_true, h, ih, List.forall_mem_cons,
      List.map_cons, List.nodup_cons, List.mem_map, not_exists, not_and, Bool.not_eq_true',
      List.contains_eq_mem, decide_eq_false_iff_not]
    simp only [List.mem_cons, not_or]
    constructor
    · rintro ⟨⟨ha, hseen⟩, hpasses, hnodup, hrest⟩
      exact ⟨⟨ha, hpasses⟩, ⟨fun b hb => (hrest b hb).1, hnodup⟩, hseen,
        fun b hb => (hrest b hb).2⟩
    · rintro ⟨⟨ha, hpasses⟩, ⟨hne, hnodup⟩, hseen, hrest⟩
      exact ⟨⟨ha, hseen⟩, hpasses, hnodup, fun b hb => ⟨hne b hb, hrest b hb⟩⟩

/-- **The loop accepts what passes value by value and has distinct keys.** -/
theorem isOk_eachFresh (h : ∀ a fresh, (body a fresh).isOk = (passes a && fresh))
    (values : List α) :
    (eachFresh key body [] values).isOk = true ↔
      (∀ a ∈ values, passes a = true) ∧ (values.map key).Nodup := by
  simp [isOk_eachFresh_seen h]

/-- A body that rejects what is not new, and is left to judge the rest. -/
theorem isOk_eachFresh_of_reject (h : ∀ a, (body a false).isOk = false) (values : List α) :
    (eachFresh key body [] values).isOk = true ↔
      (∀ a ∈ values, (body a true).isOk = true) ∧ (values.map key).Nodup := by
  have hbody : ∀ a fresh, (body a fresh).isOk = ((body a true).isOk && fresh) := by
    intro a fresh
    cases fresh with
    | false => rw [h, Bool.and_false]
    | true => rw [Bool.and_true]
  exact isOk_eachFresh hbody values

end eachFresh

/-- Two loops that check the same and take the same values for equal accept the same lists. -/
theorem isOk_eachFresh_congr {κ' : Type} [BEq κ] [LawfulBEq κ] [BEq κ'] [LawfulBEq κ']
    {key : α → κ} {key' : α → κ'} {body body' : α → Bool → Except ε Unit}
    (hbody : ∀ a fresh, (body a fresh).isOk = (body' a fresh).isOk)
    (hkey : ∀ a b, key a = key b ↔ key' a = key' b) (values : List α) :
    (eachFresh key body [] values).isOk = (eachFresh key' body' [] values).isOk := by
  suffices h : ∀ checked : List α, (eachFresh key body (checked.map key) values).isOk =
      (eachFresh key' body' (checked.map key') values).isOk from h []
  induction values with
  | nil => exact fun checked => rfl
  | cons a values ih =>
    intro checked
    have hseen : (checked.map key).contains (key a) = (checked.map key').contains (key' a) := by
      rw [Bool.eq_iff_iff, List.contains_iff_mem, List.contains_iff_mem, List.mem_map,
        List.mem_map]
      exact exists_congr fun b => and_congr_right fun _ => hkey b a
    have htail := ih (a :: checked)
    rw [List.map_cons, List.map_cons] at htail
    simp only [eachFresh, isOk_bind, hseen, hbody, htail]

/-- A list that is as long as the set of its values has no value twice. -/
theorem length_dedup_eq [DecidableEq α] (values : List α) :
    values.dedup.length = values.length ↔ values.Nodup := by
  constructor
  · intro h
    exact List.dedup_eq_self.mp ((List.dedup_sublist values).eq_of_length h)
  · intro h
    rw [List.dedup_eq_self.mpr h]

/-! ### Programs that check the same values -/

/-- All programs accept, or all reject. -/
def Unanimous (verdict : ι → Except ε Unit) : Prop :=
  (∀ i, (verdict i).isOk = true) ∨ ∀ i, (verdict i).isOk = false

section unanimous

variable {verdict : ι → Except ε Unit}

/-- **Where what the most lenient program accepts is what the strictest does.** -/
theorem unanimous_iff {accepted : ι → Prop} (strictest lenient : ι)
    (h : ∀ i, (verdict i).isOk = true ↔ accepted i)
    (hstrictest : ∀ i, accepted strictest → accepted i)
    (hlenient : ∀ i, accepted i → accepted lenient) :
    Unanimous verdict ↔ (accepted lenient → accepted strictest) := by
  constructor
  · rintro (hall | hnone) haccepted
    · exact (h strictest).mp (hall strictest)
    · exact absurd ((h lenient).mpr haccepted) (Bool.eq_false_iff.mp (hnone lenient))
  · intro himp
    by_cases haccepted : accepted lenient
    · exact Or.inl fun i => (h i).mpr (hstrictest i (himp haccepted))
    · exact Or.inr fun i =>
        Bool.eq_false_iff.mpr fun hi => haccepted (hlenient i ((h i).mp hi))

end unanimous

end Checks
