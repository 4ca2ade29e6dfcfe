import YunLink.Lib.Paths
import YunLink.Profiles.MediaFileAgreement

/-!
# Relative paths stay inside

`valid_relative_path` (`media_validation.cpp`) decides which paths a storage accepts.  A
path is resolved segment by segment: an empty segment and `.` leave the position as it is,
`..` goes to the parent, and any other segment names a child.  Whatever the directory tree
is, an accepted path never leads out of the directory that it is relative to; in the tree
of names it leads to exactly the names that it lists.  Without a backslash, a system that
splits paths at backslashes too sees the same segments.

## Main definitions

* `segmentOf` — what a segment of a path does.
* `resolve` — the position after the first segments of a path.

## Main results

* `validRelativePath_inside` — **the accepted paths, and that they stay inside.**
* `validateMediaFilePutOpen_below` — an upload ends strictly below its root.
-/

namespace YunLink.Media

namespace Cpp

open Paths (Tree Segment names)

/-- What a segment of a path does to a directory. -/
def segmentOf (segment : Text) : Segment Text :=
  if segment = [] ∨ segment = [dot] then .stay
  else if segment = [dot, dot] then .up
  else .down segment

/-- The position after the first `count` segments of a path, from a root. -/
def resolve {P : Type} (tree : Tree P Text) (root : P) (value : Text) (count : ℕ) : P :=
  tree.walk root (((value.splitOn slash).take count).map segmentOf)

theorem badSegment_eq_false_iff {segment : Text} :
    badSegment segment = false ↔ segment ≠ [] ∧ segment ≠ [dot] ∧ segment ≠ [dot, dot] := by
  simp [badSegment, and_assoc]

/-- A segment that a path may have names a child. -/
theorem segmentOf_of_good {segment : Text} (h : badSegment segment = false) :
    segmentOf segment = .down segment := by
  obtain ⟨hempty, hdot, hdots⟩ := badSegment_eq_false_iff.mp h
  rw [segmentOf, if_neg (by simp [hempty, hdot]), if_neg hdots]

/-- The segments of an accepted path: it is empty, or each names a child. -/
theorem segments_of_valid {value : Text} {allowEmpty : Bool}
    (h : validRelativePath value allowEmpty = true) :
    value = [] ∨ ∀ segment ∈ value.splitOn slash, badSegment segment = false := by
  rcases (validRelativePath_iff value allowEmpty).mp h with ⟨hempty, -⟩ | ⟨-, -, hsegments⟩
  · exact Or.inl hempty
  · exact Or.inr hsegments

/-- An accepted path has no segment that goes up. -/
theorem up_not_mem_of_valid {value : Text} {allowEmpty : Bool}
    (h : validRelativePath value allowEmpty = true) :
    Segment.up ∉ (value.splitOn slash).map segmentOf := by
  rcases segments_of_valid h with rfl | hsegments
  · decide
  · intro hup
    obtain ⟨segment, hmem, heq⟩ := List.mem_map.mp hup
    rw [segmentOf_of_good (hsegments segment hmem)] at heq
    exact absurd heq (by simp)

/-- Every position on the way of an accepted path is at or below the root. -/
theorem below_resolve_of_valid {P : Type} {value : Text} {allowEmpty : Bool}
    (h : validRelativePath value allowEmpty = true) (tree : Tree P Text) (root : P) (count : ℕ) :
    tree.Below root (resolve tree root value count) := by
  refine Tree.below_walk (fun hup => up_not_mem_of_valid h ?_) .refl
  rw [List.map_take] at hup
  exact List.mem_of_mem_take hup

/-- In the tree of names such a position has the root in front. -/
theorem prefix_resolve_of_valid {value : Text} {allowEmpty : Bool}
    (h : validRelativePath value allowEmpty = true) (root : List Text) (count : ℕ) :
    root <+: resolve (names Text) root value count :=
  Paths.names_below_iff.mp (below_resolve_of_valid h (names Text) root count)

/-- **Relative paths stay inside.**  The empty path is accepted when it may be; any other
path exactly when it has no backslash and every segment between its slashes, the first
and the last included, is neither empty nor `.` nor `..`.  In every directory tree, each
position on the way of an accepted path is at or below the root. -/
theorem validRelativePath_inside (value : Text) (allowEmpty : Bool) :
    (validRelativePath value allowEmpty = true ↔
      (value = [] ∧ allowEmpty = true) ∨
        (backslash ∉ value ∧ ∀ segment ∈ value.splitOn slash,
          segment ≠ [] ∧ segment ≠ [dot] ∧ segment ≠ [dot, dot])) ∧
      (validRelativePath value allowEmpty = true →
        ∀ {P : Type} (tree : Tree P Text) (root : P) (count : ℕ),
          tree.Below root (resolve tree root value count)) := by
  refine ⟨?_, fun h P tree root count => ?_⟩
  · rw [validRelativePath_iff]
    simp only [badSegment_eq_false_iff]
    refine or_congr_right ⟨fun h => h.2, fun h => ⟨?_, h⟩⟩
    -- The empty path has one segment, which is empty.
    rintro rfl
    exact (h.2 [] (by simp)).1 rfl
  · exact below_resolve_of_valid h tree root count

theorem validRelativePath_inside_nested :
    (names Text).Below [ascii "media"]
      (resolve (names Text) [ascii "media"] (ascii "flight-7/clip.mp4") 2) :=
  (validRelativePath_inside (ascii "flight-7/clip.mp4") false).2 (by decide +kernel) _ _ 2

/-- A system that splits paths at backslashes too sees the segments of an accepted path as
they are. -/
theorem splitOnP_separators_of_valid {value : Text} {allowEmpty : Bool}
    (h : validRelativePath value allowEmpty = true) :
    value.splitOnP (fun b => b == slash || b == backslash) = value.splitOn slash := by
  have hnone : backslash ∉ value := by
    rcases (validRelativePath_iff value allowEmpty).mp h with ⟨rfl, -⟩ | ⟨-, hnone, -⟩
    · exact List.not_mem_nil
    · exact hnone
  rw [List.splitOn_eq_splitOnP]
  refine Paths.splitOnP_congr fun b hb => ?_
  have hne : b ≠ backslash := ne_of_mem_of_not_mem hb hnone
  simp [hne]

/-- **An upload ends strictly below its root**: at the names of its path, of which there
is one at least. -/
theorem validateMediaFilePutOpen_below {request : MediaFilePutOpen}
    (h : (validateMediaFilePutOpen request).isOk = true) (root : List Text) :
    let segments := request.relativePath.bytes.splitOn slash
    segments ≠ [] ∧ resolve (names Text) root request.relativePath.bytes segments.length =
      root ++ segments := by
  obtain ⟨hshared, -, hconfined⟩ := (isOk_validateMediaFilePutOpen request).mp h
  have hne : request.relativePath.bytes ≠ [] := by
    intro hnil
    have hempty := request.relativePath.isEmpty_bytes
    rw [hnil] at hempty
    exact hshared.2.2.1 (List.isEmpty_iff.mp hempty.symm)
  have hgood := (segments_of_valid hconfined).resolve_left hne
  refine ⟨List.splitOn_ne_nil slash _, ?_⟩
  have hdown : (request.relativePath.bytes.splitOn slash).map segmentOf =
      (request.relativePath.bytes.splitOn slash).map .down :=
    List.map_congr_left fun segment hmem => segmentOf_of_good (hgood segment hmem)
  rw [resolve, List.take_length, hdown, Paths.names_walk_down]

end Cpp

end YunLink.Media
