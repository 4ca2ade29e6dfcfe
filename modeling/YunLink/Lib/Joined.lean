import Mathlib.Data.List.Basic

/-!
# Fields joined by a separator

A key made of fields with a separator between them tells the fields only as far as the
separators can be told apart from those inside the fields.  Cut at every separator, the
key is the list of the pieces of its fields; which pieces belong to which field is what
gets lost.  So two lists of fields with one key are the same list exactly when their
fields hold the same numbers of separators.

## Main definitions

* `Joined.pieces` — the fields, each cut at its separators.

## Main results

* `Joined.intercalate_eq_iff` — one key is the same as one list of pieces.
* `Joined.intercalate_separates_iff` — **when a key tells two lists of fields apart.**
* `Joined.flatMap_terminated_injective` — items that end with a terminator they do not
  hold are told apart.
-/

namespace Joined

variable {α : Type} [DecidableEq α] {sep : α}

/-- The fields, each cut at its separators. -/
def pieces (sep : α) (fields : List (List α)) : List (List α) :=
  fields.flatMap fun field => field.splitOn sep

/-- Texts in front of a separator that hold the same number of separators. -/
theorem append_cons_inj {front other rest rest' : List α}
    (h : front ++ sep :: rest = other ++ sep :: rest')
    (hcount : front.count sep = other.count sep) : front = other ∧ rest = rest' := by
  rcases List.append_eq_append_iff.mp h with ⟨x, hother, hrest⟩ | ⟨x, hfront, hrest⟩
  · cases x with
    | nil =>
      rw [List.append_nil] at hother
      exact ⟨hother.symm, (List.cons.inj hrest).2⟩
    | cons a x =>
      rw [List.cons_append] at hrest
      obtain ⟨rfl, -⟩ := List.cons.inj hrest
      rw [hother, List.count_append, List.count_cons_self] at hcount
      omega
  · cases x with
    | nil =>
      rw [List.append_nil] at hfront
      exact ⟨hfront, (List.cons.inj hrest).2.symm⟩
    | cons a x =>
      rw [List.cons_append] at hrest
      obtain ⟨rfl, -⟩ := List.cons.inj hrest
      rw [hfront, List.count_append, List.count_cons_self] at hcount
      omega

/-- **Fields with the same numbers of separators** are told by their key. -/
theorem intercalate_inj {fields others : List (List α)}
    (h : [sep].intercalate fields = [sep].intercalate others)
    (hcount : fields.map (List.count sep) = others.map (List.count sep)) : fields = others := by
  induction fields generalizing others with
  | nil => exact (List.map_eq_nil_iff.mp hcount.symm).symm
  | cons field fields ih =>
    cases others with
    | nil => cases hcount
    | cons other others =>
      rw [List.map_cons, List.map_cons] at hcount
      obtain ⟨hfield, hrest⟩ := List.cons.inj hcount
      cases fields with
      | nil =>
        obtain rfl := List.map_eq_nil_iff.mp hrest.symm
        rw [List.intercalate_singleton, List.intercalate_singleton] at h
        rw [h]
      | cons next fields =>
        cases others with
        | nil => cases hrest
        | cons next' others =>
          rw [List.intercalate_cons_cons, List.intercalate_cons_cons, List.append_assoc,
            List.append_assoc] at h
          obtain ⟨rfl, htail⟩ := append_cons_inj h hfield
          rw [ih htail hrest]

/-- A key is cut into the pieces of its fields. -/
theorem splitOn_intercalate {fields : List (List α)} (hne : fields ≠ []) :
    ([sep].intercalate fields).splitOn sep = pieces sep fields := by
  induction fields with
  | nil => exact absurd rfl hne
  | cons field fields ih =>
    cases fields with
    | nil => rw [List.intercalate_singleton, pieces, List.flatMap_singleton]
    | cons next fields =>
      rw [List.intercalate_cons_cons, List.append_assoc, List.singleton_append,
        List.splitOn_append_cons_self, ih (List.cons_ne_nil _ _)]
      rfl

/-- One key is the same as one list of pieces. -/
theorem intercalate_eq_iff {fields others : List (List α)} (hne : fields ≠ []) (hne' : others ≠ []) :
    [sep].intercalate fields = [sep].intercalate others ↔ pieces sep fields = pieces sep others := by
  constructor
  · intro h
    rw [← splitOn_intercalate hne, h, splitOn_intercalate hne']
  · intro h
    rw [← splitOn_intercalate hne, ← splitOn_intercalate hne'] at h
    have hjoin : ∀ key : List α, [sep].intercalate (key.splitOn sep) = key := fun key =>
      List.intercalate_splitOn sep
    rw [← hjoin ([sep].intercalate fields), h, hjoin]

/-- **When a key tells two lists of fields apart**: unless they have the same pieces, and
these are spread differently over the fields. -/
theorem intercalate_separates_iff {fields others : List (List α)} (hne : fields ≠ [])
    (hne' : others ≠ []) :
    ([sep].intercalate fields = [sep].intercalate others → fields = others) ↔
      ¬ (pieces sep fields = pieces sep others ∧
        fields.map (List.count sep) ≠ others.map (List.count sep)) := by
  rw [intercalate_eq_iff hne hne']
  constructor
  · rintro h ⟨hpieces, hcount⟩
    rw [h hpieces] at hcount
    exact hcount rfl
  · intro h hpieces
    by_contra hdiffer
    refine h ⟨hpieces, fun hcount => hdiffer ?_⟩
    exact intercalate_inj ((intercalate_eq_iff hne hne').mpr hpieces) hcount

/-- **Items that end with a terminator they do not hold** are told apart. -/
theorem flatMap_terminated_injective {items others : List (List α)}
    (hitems : ∀ item ∈ items, sep ∉ item) (hothers : ∀ item ∈ others, sep ∉ item)
    (h : items.flatMap (· ++ [sep]) = others.flatMap (· ++ [sep])) : items = others := by
  induction items generalizing others with
  | nil =>
    cases others with
    | nil => rfl
    | cons other others => simp at h
  | cons item items ih =>
    cases others with
    | nil => simp at h
    | cons other others =>
      rw [List.flatMap_cons, List.flatMap_cons, List.append_assoc, List.append_assoc] at h
      have hitem : item.count sep = 0 := List.count_eq_zero.mpr (hitems item List.mem_cons_self)
      have hother : other.count sep = 0 :=
        List.count_eq_zero.mpr (hothers other List.mem_cons_self)
      obtain ⟨rfl, hrest⟩ := append_cons_inj h (hitem.trans hother.symm)
      rw [ih (fun i hi => hitems i (List.mem_cons_of_mem _ hi))
        (fun i hi => hothers i (List.mem_cons_of_mem _ hi)) hrest]

end Joined
