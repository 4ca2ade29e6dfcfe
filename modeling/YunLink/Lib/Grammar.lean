import Mathlib.Computability.Language

/-!
# Classes of symbols

The regular languages that identifiers are written with: a symbol of a class, and a word of
symbols of a class, which is the star of the first.

## Main definitions

* `Grammar.symbol` — the words of one symbol of a class.

## Main results

* `Grammar.mem_symbol_mul` — a word that starts with a symbol of the class.
* `Grammar.mem_kstar_symbol` — **the words of symbols of the class.**
-/

namespace Grammar

variable {α : Type*} {p : α → Bool} {w : List α}

/-- The words of one symbol of the class. -/
def symbol (p : α → Bool) : Language α := {w | ∃ a, p a = true ∧ w = [a]}

theorem mem_symbol_mul {l : Language α} :
    w ∈ symbol p * l ↔ ∃ a rest, w = a :: rest ∧ p a = true ∧ rest ∈ l := by
  rw [Language.mem_mul]
  constructor
  · rintro ⟨_, ⟨a, ha, rfl⟩, rest, hrest, rfl⟩
    exact ⟨a, rest, rfl, ha, hrest⟩
  · rintro ⟨a, rest, rfl, ha, hrest⟩
    exact ⟨[a], ⟨a, ha, rfl⟩, rest, hrest, rfl⟩

/-- **The words of symbols of the class.** -/
theorem mem_kstar_symbol : w ∈ KStar.kstar (symbol p) ↔ ∀ a ∈ w, p a = true := by
  rw [Language.mem_kstar]
  constructor
  · rintro ⟨pieces, rfl, hpieces⟩ a ha
    obtain ⟨piece, hpiece, hmem⟩ := List.mem_flatten.mp ha
    obtain ⟨b, hb, rfl⟩ := hpieces piece hpiece
    rw [List.mem_singleton.mp hmem]
    exact hb
  · intro h
    refine ⟨w.map fun a => [a], ?_, fun piece hpiece => ?_⟩
    · rw [← List.flatMap_def, List.flatMap_singleton']
    · obtain ⟨a, ha, rfl⟩ := List.mem_map.mp hpiece
      exact ⟨a, h a ha, rfl⟩

end Grammar
