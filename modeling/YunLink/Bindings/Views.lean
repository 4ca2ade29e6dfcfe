import YunLink.Bindings.PythonCore
import YunLink.Lib.Access
import YunLink.Wire.Types

/-!
# Views across the C boundary

A binding hands a list to the C ABI as a pointer and a count (`yunlink_v2.h`), and the
functions of `runtime.cpp` check that the pointer is null exactly when the count is zero
before they copy it.  The profiles of a configuration are passed so: a binding passes a
null pointer for an empty list.  The targets of `publish` are not: both bindings pass the
pointer of the list as it is, and the pointer of an empty Rust `Vec` or of a `ctypes` array
of length zero is not null.  A broadcast, which has no uids, is therefore refused.

A pointer is what can be read from it on (`Access.Pointer`), and reads are checked: none of
the copies reads outside what the binding built.

## Main definitions

* `C.copyTarget`, `C.copyProfiles` — the copies that the C ABI makes.
* `Rust.Target.view`, `Python.Target.view` — the views that `publish` builds.
* `Rust.profilesView` — the views that the start of a runtime builds.

## Main results

* `C.copyTarget_nonNull` — what becomes of a target whose pointer is not null.
* `copyProfiles_profilesView` — every list of profiles survives, the empty one included.
* `target_survives_iff` — **a target survives exactly when it names a uid.**
-/

namespace YunLink

/-! ### The C side -/

namespace C

open Access (Pointer)

/-- `yunlink_v2_string_view_t`. -/
structure StringView where
  data : Pointer UInt8
  len : ℕ
  deriving DecidableEq

/-- `yunlink_v2_profile_view_t`. -/
structure ProfileView where
  profileId : StringView
  major : UInt16
  minor : UInt16
  schemaDigest : StringView
  deriving DecidableEq

/-- `yunlink_v2_target_view_t`. -/
structure TargetView where
  scope : UInt8
  uids : Pointer StringView
  uidCount : ℕ

/-- `copy`. -/
def copy (value : StringView) : Access Text :=
  if value.data.isNone || value.len == 0 then .ok []
  else value.data.readRange value.len

/-- The loop body that copies a profile. -/
def copyProfile (value : ProfileView) : Access ProfileDescriptor := do
  return {
    profileId := ← copy value.profileId
    major := value.major
    minor := value.minor
    schemaDigest := ← copy value.schemaDigest }

/-- `(values == nullptr) != (count == 0)`. -/
def mismatched {α : Type} (values : Pointer α) (count : ℕ) : Bool :=
  values.isNone != (count == 0)

/-- `copy_profiles`; `none` is `false`, and `out` may be null. -/
def copyProfiles (values : Pointer ProfileView) (count : ℕ)
    (out : Option (List ProfileDescriptor)) : Access (Option (List ProfileDescriptor)) :=
  match out with
  | none => .ok none
  | some out =>
      if mismatched values count then .ok none
      else do return some (← Access.collect copyProfile values count out)

/-- `copy_target`; `none` is `false`, and `out` may be null. -/
def copyTarget (value : TargetView) (out : Option TargetSelector) :
    Access (Option TargetSelector) :=
  match out with
  | none => .ok none
  | some out =>
      if value.scope < 1 || 4 < value.scope || mismatched value.uids value.uidCount then .ok none
      else do
        let uids ← Access.collect copy value.uids value.uidCount out.uids
        return some ⟨TargetScope.ofUInt8 value.scope, uids⟩

/-- A string whose bytes stand behind its pointer is copied as it is. -/
theorem copy_of_prefix {text : Text} {block : Bytes} (h : text <+: block) :
    copy ⟨some block, text.length⟩ = .ok text := by
  unfold copy
  split
  · next hempty =>
    have hlen : text.length = 0 := by simpa using hempty
    rw [List.length_eq_zero_iff.mp hlen]
  · exact Access.Pointer.readRange_of_prefix h

theorem mismatched_some {α : Type} (block : List α) :
    mismatched (some block) block.length = block.isEmpty := by
  cases block with
  | nil => rfl
  | cons a block => simp [mismatched]

/-- A target whose pointer is not null is refused when there is nothing behind it. -/
theorem copyTarget_nonNull {scope : TargetScope} {views : List StringView} {uids : List Text}
    (h : List.Forall₂ (fun view uid => copy view = .ok uid) views uids) :
    copyTarget ⟨scope.toUInt8, some views, views.length⟩ (some {}) =
      .ok (if uids.isEmpty then none else some ⟨scope, uids⟩) := by
  have hscope : (scope.toUInt8 < 1 || 4 < scope.toUInt8) = false := by
    cases scope <;> decide
  have hempty : views.isEmpty = uids.isEmpty := by
    cases h with
    | nil => rfl
    | cons _ _ => rfl
  unfold copyTarget
  simp only [hscope, mismatched_some, hempty, Bool.false_or, TargetScope.ofUInt8_toUInt8]
  split
  · rfl
  · rw [Access.collect_eq h]
    rfl

end C

/-! ### The Rust side -/

namespace Rust

/-- `Target`. -/
inductive Target
  | endpoint (uids : List Text)
  | entity (uids : List Text)
  | group (uids : List Text)
  | broadcast
  deriving DecidableEq, Repr

/-- `Target::scope`. -/
def Target.scope : Target → TargetScope
  | endpoint _ => .endpoint
  | entity _ => .entity
  | group _ => .group
  | broadcast => .broadcast

/-- `Target::uids`. -/
def Target.uids : Target → List Text
  | endpoint values | entity values | group values => values
  | broadcast => []

/-- `string_view`. -/
def stringView (value : Text) : C.StringView := ⟨some value, value.length⟩

/-- The `native_target` of `publish`; `as_ptr` of an empty `Vec` is not null. -/
def Target.view (target : Target) : C.TargetView :=
  let uidViews := target.uids.map stringView
  ⟨target.scope.toUInt8, some uidViews, uidViews.length⟩

/-- A profile, as C sees it. -/
def profileView (value : ProfileDescriptor) : C.ProfileView :=
  ⟨stringView value.profileId, value.major, value.minor, stringView value.schemaDigest⟩

/-- The pointer and the count that `start` passes for a list of profiles. -/
def profilesView (profiles : List ProfileDescriptor) : Access.Pointer C.ProfileView × ℕ :=
  let views := profiles.map profileView
  (if views.isEmpty then none else some views, views.length)

end Rust

/-! ### The Python side -/

namespace Python

/-- `Target`. -/
structure Target where
  scope : TargetScope
  uids : List Str
  deriving DecidableEq

/-- `view`: the pointer of a `bytes` object, whose buffer ends with a zero. -/
def view (value : Bytes) : C.StringView := ⟨some (value ++ [0]), value.length⟩

/-- The `_TargetView` of `publish`, unless a uid cannot be encoded. -/
def Target.view (target : Target) : Option C.TargetView := do
  let uidBytes ← target.uids.mapM Str.encode
  let uidViews := uidBytes.map Python.view
  return ⟨target.scope.toUInt8, some uidViews, uidViews.length⟩

end Python

/-! ### What survives -/

/-- The copy has the scope and the uids of the target, in order. -/
def Rust.Target.Survives (target : Rust.Target) : Prop :=
  C.copyTarget target.view (some {}) = .ok (some ⟨target.scope, target.uids⟩)

/-- The view is built, and the copy has the scope and the encoded uids of the target. -/
def Python.Target.Survives (target : Python.Target) : Prop :=
  ∃ view uids, target.view = some view ∧ target.uids.mapM Str.encode = some uids ∧
    C.copyTarget view (some {}) = .ok (some ⟨target.scope, uids⟩)

theorem Rust.copy_stringView (text : Text) : C.copy (stringView text) = .ok text :=
  C.copy_of_prefix List.prefix_rfl

theorem Python.copy_view (text : Text) : C.copy (Python.view text) = .ok text :=
  C.copy_of_prefix (List.prefix_append text [0])

theorem Rust.copyProfile_profileView (value : ProfileDescriptor) :
    C.copyProfile (profileView value) = .ok value := by
  simp only [C.copyProfile, profileView, copy_stringView]
  rfl

/-- What is copied from the views of values is the values. -/
theorem forall₂_copies {α β : Type} {copy : β → Access α} {view : α → β}
    (h : ∀ a, copy (view a) = .ok a) (values : List α) :
    List.Forall₂ (fun b a => copy b = .ok a) (values.map view) values :=
  List.forall₂_map_left_iff.mpr (List.forall₂_same.mpr fun a _ => h a)

/-- **Every list of profiles survives**, the empty one included. -/
theorem copyProfiles_profilesView (profiles : List ProfileDescriptor) :
    C.copyProfiles (Rust.profilesView profiles).1 (Rust.profilesView profiles).2 (some []) =
      .ok (some profiles) := by
  cases profiles with
  | nil => rfl
  | cons profile rest =>
    have hcopies := forall₂_copies Rust.copyProfile_profileView (profile :: rest)
    have hviews : ((profile :: rest).map Rust.profileView).isEmpty = false := rfl
    simp only [C.copyProfiles, Rust.profilesView, hviews, Bool.false_eq_true, if_false,
      C.mismatched_some, Access.collect_eq hcopies]
    rfl

theorem Rust.Target.survives_iff (target : Rust.Target) :
    target.Survives ↔ target.uids ≠ [] := by
  unfold Rust.Target.Survives Rust.Target.view
  rw [C.copyTarget_nonNull (forall₂_copies copy_stringView target.uids)]
  cases target.uids with
  | nil => simp
  | cons uid uids => simp

theorem Python.Target.survives_iff (target : Python.Target) :
    target.Survives ↔ target.uids ≠ [] ∧ ∀ uid ∈ target.uids, ∃ text, uid.encode = some text := by
  have hview : ∀ texts, target.uids.mapM Str.encode = some texts → target.view =
      some ⟨target.scope.toUInt8, some (texts.map Python.view), (texts.map Python.view).length⟩ := by
    intro texts htexts
    rw [Python.Target.view, htexts]
    rfl
  constructor
  · rintro ⟨view, texts, hbuilt, htexts, hcopied⟩
    refine ⟨?_, Codec.exists_of_mapM htexts⟩
    intro hnil
    rw [hview texts htexts] at hbuilt
    obtain rfl := Option.some.inj hbuilt
    rw [C.copyTarget_nonNull (forall₂_copies copy_view texts)] at hcopied
    rw [hnil] at htexts
    obtain rfl : [] = texts := Option.some.inj htexts
    simp at hcopied
  · rintro ⟨hne, hencodes⟩
    obtain ⟨texts, htexts⟩ := Codec.exists_mapM hencodes
    refine ⟨_, texts, hview texts htexts, htexts, ?_⟩
    rw [C.copyTarget_nonNull (forall₂_copies copy_view texts)]
    have hlen := (Codec.forall₂_of_mapM htexts).length_eq
    cases texts with
    | nil => exact absurd (List.length_eq_zero_iff.mp hlen.symm) hne
    | cons text texts => rfl

/-- **A target survives exactly when it names a uid.**  A Python uid must also be a string
that can be encoded. -/
theorem target_survives_iff (rust : Rust.Target) (python : Python.Target) :
    (rust.Survives ↔ rust.uids ≠ []) ∧
      (python.Survives ↔
        python.uids ≠ [] ∧ ∀ uid ∈ python.uids, ∃ text, uid.encode = some text) :=
  ⟨rust.survives_iff, python.survives_iff⟩

/-- The broadcast of neither binding survives. -/
theorem broadcast_not_survives : ¬ Rust.Target.broadcast.Survives ∧
    ¬ Python.Target.Survives ⟨.broadcast, []⟩ := by
  constructor
  · intro h
    have hrefused : C.copyTarget Rust.Target.broadcast.view (some {}) = .ok none := rfl
    rw [Rust.Target.Survives, hrefused] at h
    exact absurd h (by simp)
  · rintro ⟨view, uids, hview, -, hcopied⟩
    obtain rfl := Option.some.inj hview
    have hrefused : C.copyTarget ⟨4, some [], 0⟩ (some {}) = .ok none := rfl
    exact absurd (hrefused.symm.trans hcopied) (by simp)

end YunLink
