import Mathlib.Order.Lattice
import Mathlib.Data.List.Nodup
import Mathlib.Data.List.Perm.Basic

/-!
# Ordered maps

Finite maps kept as association lists in strictly ascending key order, the
order in which an ordered container is walked.  The order is a field of the
structure, so a map is determined by its lookups (`SortedMap.ext_find?`) and a
loop over the map is a recursion over `entries`.

## Main definitions

* `find?`, `insert`, `erase` — the operations at one key.
* `eraseIf`, `mapVal` — the loops that erase or update entries as they walk.
* `adjust` — an update of the entry at one key, if there is one.
* `next?` — the first entry behind a key.

## Main results

* `mem_entries_iff` — an entry is in the walk exactly when its key finds it.
* `find?_insert`, `find?_erase`, `find?_eraseIf`, `find?_mapVal`, `find?_adjust` —
  the specification of each operation by the lookups of its result.
-/

/-- A finite map with its entries in strictly ascending key order. -/
structure SortedMap (κ ν : Type*) [LinearOrder κ] where
  /-- The entries, in the order of a walk. -/
  entries : List (κ × ν)
  sorted : entries.Pairwise fun a b => a.1 < b.1

namespace SortedMap

variable {κ ν : Type*} [LinearOrder κ]

instance [DecidableEq ν] : DecidableEq (SortedMap κ ν) := fun a b =>
  decidable_of_iff (a.entries = b.entries) (by cases a; cases b; simp)

/-- The map with no entries. -/
def empty : SortedMap κ ν := ⟨[], List.Pairwise.nil⟩

instance : Inhabited (SortedMap κ ν) := ⟨empty⟩

/-- The value at a key. -/
def find? (m : SortedMap κ ν) (k : κ) : Option ν :=
  (m.entries.find? fun e => decide (e.1 = k)).map Prod.snd

/-- Put an entry at its place, over an older entry of the same key. -/
def insertEntry (k : κ) (v : ν) : List (κ × ν) → List (κ × ν)
  | [] => [(k, v)]
  | e :: rest =>
      if k < e.1 then (k, v) :: e :: rest
      else if k = e.1 then (k, v) :: rest
      else e :: insertEntry k v rest

/-- An entry of the result is the new one or an old one of another key. -/
theorem mem_insertEntry {k : κ} {v : ν} {e : κ × ν} :
    ∀ {l : List (κ × ν)}, (l.Pairwise fun a b => a.1 < b.1) →
      (e ∈ insertEntry k v l ↔ e = (k, v) ∨ (e.1 ≠ k ∧ e ∈ l)) := by
  intro l
  induction l with
  | nil => simp [insertEntry]
  | cons d rest ih =>
    intro hs
    obtain ⟨hd, hrest⟩ := List.pairwise_cons.mp hs
    simp only [insertEntry]
    split
    · next hlt =>
      -- The new entry goes in front, and all others have larger keys.
      have hne : ∀ x ∈ d :: rest, x.1 ≠ k := by
        intro x hx
        rcases List.mem_cons.mp hx with rfl | hx
        · exact (ne_of_lt hlt).symm
        · exact (ne_of_lt (hlt.trans (hd x hx))).symm
      constructor
      · intro h
        rcases List.mem_cons.mp h with rfl | h
        · exact Or.inl rfl
        · exact Or.inr ⟨hne e h, h⟩
      · rintro (rfl | ⟨-, h⟩)
        · exact List.mem_cons_self
        · exact List.mem_cons_of_mem _ h
    · split
      · next hnlt heq =>
        -- The new entry takes the place of the old one of its key.
        subst heq
        constructor
        · intro h
          rcases List.mem_cons.mp h with rfl | h
          · exact Or.inl rfl
          · exact Or.inr ⟨(ne_of_lt (hd e h)).symm, List.mem_cons_of_mem _ h⟩
        · rintro (rfl | ⟨hne, h⟩)
          · exact List.mem_cons_self
          · rcases List.mem_cons.mp h with rfl | h
            · exact absurd rfl hne
            · exact List.mem_cons_of_mem _ h
      · next hnlt hne =>
        -- The key belongs somewhere behind the first entry.
        rw [List.mem_cons, List.mem_cons, ih hrest]
        constructor
        · rintro (rfl | h | ⟨hk, h⟩)
          · exact Or.inr ⟨Ne.symm hne, Or.inl rfl⟩
          · exact Or.inl h
          · exact Or.inr ⟨hk, Or.inr h⟩
        · rintro (h | ⟨hk, h | h⟩)
          · exact Or.inr (Or.inl h)
          · exact Or.inl h
          · exact Or.inr (Or.inr ⟨hk, h⟩)

theorem pairwise_insertEntry (k : κ) (v : ν) :
    ∀ {l : List (κ × ν)}, (l.Pairwise fun a b => a.1 < b.1) →
      (insertEntry k v l).Pairwise fun a b => a.1 < b.1 := by
  intro l
  induction l with
  | nil => intro _; simp [insertEntry]
  | cons d rest ih =>
    intro hs
    obtain ⟨hd, hrest⟩ := List.pairwise_cons.mp hs
    simp only [insertEntry]
    split
    · next hlt =>
      refine List.pairwise_cons.mpr ⟨?_, hs⟩
      intro x hx
      rcases List.mem_cons.mp hx with rfl | hx
      · exact hlt
      · exact hlt.trans (hd x hx)
    · split
      · next heq => exact List.pairwise_cons.mpr ⟨fun x hx => heq ▸ hd x hx, hrest⟩
      · next hnlt hne =>
        refine List.pairwise_cons.mpr ⟨?_, ih hrest⟩
        intro x hx
        rcases (mem_insertEntry hrest).mp hx with rfl | ⟨-, hx⟩
        · exact lt_of_le_of_ne (not_lt.mp hnlt) (Ne.symm hne)
        · exact hd x hx

/-- The map with `v` at `k`. -/
def insert (m : SortedMap κ ν) (k : κ) (v : ν) : SortedMap κ ν :=
  ⟨insertEntry k v m.entries, pairwise_insertEntry k v m.sorted⟩

/-- The walk that erases every entry satisfying `p`. -/
def eraseIf (m : SortedMap κ ν) (p : κ → ν → Bool) : SortedMap κ ν :=
  ⟨m.entries.filter fun e => !p e.1 e.2, m.sorted.filter _⟩

/-- The map without an entry at `k`. -/
def erase (m : SortedMap κ ν) (k : κ) : SortedMap κ ν := m.eraseIf fun k' _ => decide (k' = k)

/-- The walk that rewrites every value in place. -/
def mapVal (m : SortedMap κ ν) (f : κ → ν → ν) : SortedMap κ ν :=
  ⟨m.entries.map fun e => (e.1, f e.1 e.2), by
    rw [List.pairwise_map]
    exact m.sorted⟩

/-- The update of the entry at `k`; nothing when there is none. -/
def adjust (m : SortedMap κ ν) (k : κ) (f : ν → ν) : SortedMap κ ν :=
  m.mapVal fun k' v => if k' = k then f v else v

/-- The first entry behind a key: where a walk goes on after erasing there. -/
def next? (m : SortedMap κ ν) (k : κ) : Option (κ × ν) := m.entries.find? fun e => decide (k < e.1)

/-! ### Entries and lookups -/

/-- A walk meets each key once. -/
theorem nodup_keys (m : SortedMap κ ν) : (m.entries.map Prod.fst).Nodup := by
  rw [List.Nodup, List.pairwise_map]
  exact m.sorted.imp fun hab => ne_of_lt hab

/-- **An entry is in the walk exactly when its key finds it.** -/
theorem mem_entries_iff {m : SortedMap κ ν} {k : κ} {v : ν} :
    (k, v) ∈ m.entries ↔ m.find? k = some v := by
  unfold find?
  constructor
  · intro h
    cases hf : m.entries.find? fun e => decide (e.1 = k) with
    | none =>
      have := List.find?_eq_none.mp hf (k, v) h
      simp at this
    | some e =>
      have hmem := List.mem_of_find?_eq_some hf
      have hkey : e.1 = k := by simpa using List.find?_some hf
      have hsame : e = (k, v) := List.inj_on_of_nodup_map m.nodup_keys hmem h hkey
      simp [hsame]
  · intro h
    obtain ⟨e, hf, hv⟩ := Option.map_eq_some_iff.mp h
    have hmem := List.mem_of_find?_eq_some hf
    have hkey : e.1 = k := by simpa using List.find?_some hf
    obtain ⟨k', v'⟩ := e
    simp only at hkey hv
    rwa [← hkey, ← hv]

/-- Two maps with the same lookups are the same map. -/
theorem ext_find? {m n : SortedMap κ ν} (h : ∀ k, m.find? k = n.find? k) : m = n := by
  have hmem : ∀ e, e ∈ m.entries ↔ e ∈ n.entries := by
    rintro ⟨k, v⟩
    rw [mem_entries_iff, mem_entries_iff, h k]
  have hperm : m.entries.Perm n.entries :=
    (List.perm_ext_iff_of_nodup m.nodup_keys.of_map n.nodup_keys.of_map).mpr hmem
  have heq : m.entries = n.entries :=
    hperm.eq_of_pairwise (fun a b _ _ hab hba => absurd (hab.trans hba) (lt_irrefl _))
      m.sorted n.sorted
  cases m; cases n; simp only at heq; simp [heq]

/-- Two maps with the same entries are the same map. -/
theorem eq_iff_find?_eq_some {m n : SortedMap κ ν} :
    m = n ↔ ∀ k v, m.find? k = some v ↔ n.find? k = some v := by
  constructor
  · rintro rfl k v
    exact Iff.rfl
  · intro h
    exact ext_find? fun k => Option.ext (h k)

@[simp] theorem find?_empty (k : κ) : (empty : SortedMap κ ν).find? k = none := rfl

@[simp] theorem find?_insert (m : SortedMap κ ν) (k k' : κ) (v : ν) :
    (m.insert k v).find? k' = if k' = k then some v else m.find? k' := by
  ext v'
  rw [← mem_entries_iff, insert, mem_insertEntry m.sorted]
  by_cases hk : k' = k
  · simp [hk, eq_comm]
  · simp [hk, mem_entries_iff]

/-- A new entry is one more. -/
theorem perm_insert {m : SortedMap κ ν} {k : κ} (h : m.find? k = none) (v : ν) :
    (m.insert k v).entries.Perm ((k, v) :: m.entries) := by
  have hfresh : ∀ v', (k, v') ∉ m.entries := fun v' hmem => by
    rw [mem_entries_iff, h] at hmem
    exact absurd hmem (by simp)
  refine (List.perm_ext_iff_of_nodup (m.insert k v).nodup_keys.of_map ?_).mpr fun e => ?_
  · exact List.nodup_cons.mpr ⟨hfresh v, m.nodup_keys.of_map⟩
  · rw [insert, mem_insertEntry m.sorted, List.mem_cons]
    constructor
    · rintro (he | ⟨-, he⟩)
      · exact Or.inl he
      · exact Or.inr he
    · rintro (he | he)
      · exact Or.inl he
      · refine Or.inr ⟨fun hk => ?_, he⟩
        rw [← hk] at hfresh
        exact hfresh e.2 he

/-- A key behind all others goes to the end of the walk. -/
theorem entries_insert_of_lt {m : SortedMap κ ν} {k : κ} (h : ∀ e ∈ m.entries, e.1 < k) (v : ν) :
    m.find? k = none ∧ (m.insert k v).entries = m.entries ++ [(k, v)] := by
  have hnone : m.find? k = none := by
    refine Option.eq_none_iff_forall_ne_some.mpr fun v' hv => ?_
    exact absurd (h _ (mem_entries_iff.mpr hv)) (lt_irrefl k)
  refine ⟨hnone, ?_⟩
  refine ((perm_insert hnone v).trans (List.perm_append_singleton _ _).symm).eq_of_pairwise
    (fun a b _ _ hab hba => absurd (hab.trans hba) (lt_irrefl _)) (m.insert k v).sorted ?_
  refine List.pairwise_append.mpr ⟨m.sorted, List.pairwise_singleton _ _, fun a ha b hb => ?_⟩
  rw [List.mem_singleton.mp hb]
  exact h a ha

theorem mem_eraseIf {m : SortedMap κ ν} {p : κ → ν → Bool} {e : κ × ν} :
    e ∈ (m.eraseIf p).entries ↔ e ∈ m.entries ∧ p e.1 e.2 = false := by
  simp [eraseIf]

@[simp] theorem find?_eraseIf (m : SortedMap κ ν) (p : κ → ν → Bool) (k : κ) :
    (m.eraseIf p).find? k = (m.find? k).filter fun v => !p k v := by
  ext v
  rw [← mem_entries_iff, mem_eraseIf, mem_entries_iff, Option.filter_eq_some_iff]
  simp

theorem find?_eraseIf_eq_some {m : SortedMap κ ν} {p : κ → ν → Bool} {k : κ} {v : ν} :
    (m.eraseIf p).find? k = some v ↔ m.find? k = some v ∧ p k v = false := by
  rw [← mem_entries_iff, mem_eraseIf, mem_entries_iff]

@[simp] theorem find?_erase (m : SortedMap κ ν) (k k' : κ) :
    (m.erase k).find? k' = if k' = k then none else m.find? k' := by
  rw [erase, find?_eraseIf]
  by_cases hk : k' = k
  · cases m.find? k' <;> simp [hk]
  · cases m.find? k' <;> simp [hk]

/-- Erasing an entry that is there leaves fewer. -/
theorem length_entries_erase_lt {m : SortedMap κ ν} {k : κ} {v : ν} (h : m.find? k = some v) :
    (m.erase k).entries.length < m.entries.length := by
  refine List.length_filter_lt_length_iff_exists.mpr ⟨(k, v), mem_entries_iff.mpr h, ?_⟩
  simp

/-- The entries left by a walk over keys that erases each. -/
theorem find?_foldl_erase_eq_some {ks : List κ} {m : SortedMap κ ν} {k : κ} {v : ν} :
    (ks.foldl erase m).find? k = some v ↔ m.find? k = some v ∧ k ∉ ks := by
  induction ks generalizing m with
  | nil => simp
  | cons k' ks ih =>
    rw [List.foldl_cons, ih, find?_erase, List.mem_cons]
    by_cases hk : k = k'
    · simp [hk]
    · simp [hk]

/-- Erasing keys brings none back. -/
theorem find?_foldl_erase {m : SortedMap κ ν} {k : κ} (h : m.find? k = none) (ks : List κ) :
    (ks.foldl erase m).find? k = none := by
  refine Option.eq_none_iff_forall_ne_some.mpr fun v hv => ?_
  exact absurd (h.symm.trans (find?_foldl_erase_eq_some.mp hv).1) (by simp)

@[simp] theorem find?_mapVal (m : SortedMap κ ν) (f : κ → ν → ν) (k : κ) :
    (m.mapVal f).find? k = (m.find? k).map (f k) := by
  ext v
  rw [← mem_entries_iff, Option.map_eq_some_iff]
  simp only [mapVal, List.mem_map, Prod.mk.injEq, Prod.exists]
  constructor
  · rintro ⟨k', v', hmem, rfl, rfl⟩
    exact ⟨v', mem_entries_iff.mp hmem, rfl⟩
  · rintro ⟨v', hfind, rfl⟩
    exact ⟨k, v', mem_entries_iff.mpr hfind, rfl, rfl⟩

@[simp] theorem find?_adjust (m : SortedMap κ ν) (k k' : κ) (f : ν → ν) :
    (m.adjust k f).find? k' = if k' = k then (m.find? k').map f else m.find? k' := by
  rw [adjust, find?_mapVal]
  by_cases hk : k' = k
  · simp [hk]
  · simp [hk]

/-- Updates that commute may be made in either order. -/
theorem adjust_comm {m : SortedMap κ ν} {k k' : κ} {f g : ν → ν} (h : ∀ v, g (f v) = f (g v)) :
    (m.adjust k f).adjust k' g = (m.adjust k' g).adjust k f := by
  apply ext_find?
  intro k''
  rw [find?_adjust, find?_adjust, find?_adjust, find?_adjust]
  cases m.find? k'' with
  | none => simp
  | some v => split_ifs <;> simp [h]

end SortedMap
