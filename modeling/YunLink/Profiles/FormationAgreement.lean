import Mathlib.Tactic.Tauto
import YunLink.Profiles.Formation

/-!
# The validators of formations and mapping compared

C++ rejects a request with a field that was removed from the schema, since dropping the field
would change what is commanded; the bindings do not look at unknown fields.  Rust does not check
the formation target of a state, and of the numbers of a lidar it only asks that they are
numbers.

## Main definitions

* `FormationSetRequest.WellFormed`, `FormationState.WellFormed`, `MappingState.WellFormed` —
  what every language asks for.
* `FormationMessage.Current`, `FormationMessage.Finite` — what some of them ask for beyond it.

## Main results

* `Cpp.isOk_collectAgents_bind` — the loop over the slots of the agents.
* `FormationMessage.isOk_validate` — what each language accepts.
* `FormationMessage.formationValidators_unanimous_iff` — **the validators agree exactly where
  what they share implies the rest.**
-/

namespace YunLink.Formation

open Profiles Checks

/-! ### Poses -/

theorem Rust.finitePose_eq (validNorm : Quaternion → Bool) (pose : Pose) :
    Rust.finitePose validNorm pose = Cpp.finitePose validNorm pose := by
  obtain ⟨position, orientation⟩ := pose
  cases position with
  | none => rfl
  | some position => cases orientation <;> rfl

theorem Python.finitePose_eq (validNorm : Quaternion → Bool) (pose : Pose) :
    Python.finitePose validNorm pose = Cpp.finitePose validNorm pose := by
  obtain ⟨position, orientation⟩ := pose
  cases position with
  | none => rfl
  | some position =>
    cases orientation with
    | none => rfl
    | some orientation =>
      simp [Python.finitePose, Cpp.finitePose, Python.finiteVector, Cpp.finiteVector3,
        Bool.and_assoc]

/-- The target that a state declares to be valid: it is there, and it is finite. -/
def TargetFinite (validNorm : Quaternion → Bool) (valid : Bool) (target : Option Pose) : Prop :=
  valid = true → ∃ pose, target = some pose ∧ Cpp.finitePose validNorm pose = true

/-! ### Requests -/

/-- The layout of a formation with a leader. -/
def FormationLeader.WellFormed (leader : FormationLeader) : Prop :=
  leader.agentSlots.length = 25 ∧ leader.virtualLeaderSlots.length = 25 ∧
    Cpp.positive leader.spacingM = true ∧
    leader.agentSlots.filter (· != 0) ≠ [] ∧ (∀ slot ∈ leader.agentSlots, slot ≤ 255) ∧
    (leader.agentSlots.filter (· != 0)).Nodup ∧ leader.virtualLeaderSlots.count true = 1

/-- What a request asks for is there, by the type of its formation. -/
def FormationSetRequest.WellFormed (request : FormationSetRequest) : Prop :=
  match request.formationType with
  | 1 | 2 => True
  | 10 => ∃ line, request.line = some line ∧
      Cpp.positive line.spacingM = true ∧ isFinite line.angleDeg = true
  | 11 => ∃ polygon, request.polygon = some polygon ∧
      Cpp.positive polygon.sideLengthM = true
  | 12 => ∃ leader, request.leader = some leader ∧ leader.WellFormed
  | 20 => ∃ polygon, request.polygon = some polygon ∧
      Cpp.positive polygon.sideLengthM = true ∧ Cpp.moving polygon.moveSpeedMps = true
  | 21 => ∃ ring, request.ring = some ring ∧
      Cpp.positive ring.radiusM = true ∧ Cpp.moving ring.moveSpeedMps = true
  | 22 => ∃ lemniscate, request.lemniscate = some lemniscate ∧
      Cpp.positive lemniscate.xScaleM = true ∧ Cpp.positive lemniscate.yScaleM = true ∧
      Cpp.moving lemniscate.moveSpeedMps = true
  | _ => False

/-- The loop over the slots gathers the agents if they are in range and distinct. -/
theorem Cpp.isOk_collectAgents_bind (rest : List ℕ → Except String Unit)
    (agents slots : List ℕ) :
    (Cpp.collectAgents agents slots >>= rest).isOk = true ↔
      (∀ slot ∈ slots, slot ≤ 255) ∧ (slots.filter (· != 0)).Nodup ∧
        (∀ slot ∈ slots.filter (· != 0), slot ∉ agents) ∧
        (rest ((slots.filter (· != 0)).reverse ++ agents)).isOk = true := by
  induction slots generalizing agents with
  | nil => simp [Cpp.collectAgents, bind, Except.bind]
  | cons slot slots ih =>
    by_cases hzero : slot = 0
    · subst hzero
      simp [Cpp.collectAgents, ih]
    · by_cases hrange : 255 < slot
      · have hnot : ¬ slot ≤ 255 := Nat.not_le.mpr hrange
        simp [Cpp.collectAgents, hrange, hnot, bind, Except.bind]
      · have hle : slot ≤ 255 := Nat.not_lt.mp hrange
        by_cases hseen : slot ∈ agents
        · simp [Cpp.collectAgents, hseen, hzero, bind, Except.bind]
        · -- The slot is in range and new, and joins the agents.
          have hcollect : Cpp.collectAgents agents (slot :: slots) =
              Cpp.collectAgents (slot :: agents) slots := by
            simp [Cpp.collectAgents, hrange, hseen, hzero]
          have hfilter : (slot :: slots).filter (· != 0) = slot :: slots.filter (· != 0) := by
            simp [hzero]
          rw [hcollect, ih, hfilter, List.forall_mem_cons, List.nodup_cons, List.forall_mem_cons,
            List.reverse_cons, List.append_assoc, List.singleton_append]
          simp only [List.mem_cons, not_or]
          constructor
          · rintro ⟨hall, hnodup, hfresh, hrest⟩
            exact ⟨⟨hle, hall⟩, ⟨fun hmem => (hfresh slot hmem).1 rfl, hnodup⟩,
              ⟨hseen, fun other hmem => (hfresh other hmem).2⟩, hrest⟩
          · rintro ⟨⟨-, hall⟩, ⟨hslot, hnodup⟩, ⟨-, hfresh⟩, hrest⟩
            refine ⟨hall, hnodup, fun other hmem => ⟨?_, hfresh other hmem⟩, hrest⟩
            rintro rfl
            exact hslot hmem

/-- The numbers of the slots that are set add up to how many there are. -/
theorem sum_slots (slots : List Bool) :
    (slots.map fun slot => if slot then 1 else 0).sum = slots.count true := by
  induction slots with
  | nil => rfl
  | cons slot slots ih => cases slot <;> simp [ih, Nat.add_comm]

theorem sum_toNat (slots : List Bool) : (slots.map Bool.toNat).sum = slots.count true := by
  rw [← sum_slots]
  congr 2
  funext slot
  cases slot <;> rfl

theorem Cpp.isOk_validateLeader (request : FormationSetRequest) :
    (Cpp.validateLeader request).isOk = true ↔
      ∃ leader, request.leader = some leader ∧ leader.WellFormed := by
  cases hleader : request.leader with
  | none => simp [Cpp.validateLeader, hleader]
  | some leader =>
    simp only [Cpp.validateLeader, hleader, isOk_bind, Bool.and_eq_true,
      Cpp.isOk_collectAgents_bind, sum_slots]
    simp [FormationLeader.WellFormed]
    tauto

/-- An empty slot is in range. -/
theorem forall_nonzero_le (slots : List ℕ) :
    (∀ slot ∈ slots, ¬ slot = 0 → slot ≤ 255) ↔ ∀ slot ∈ slots, slot ≤ 255 := by
  constructor
  · intro h slot hslot
    by_cases hzero : slot = 0
    · exact hzero ▸ Nat.zero_le 255
    · exact h slot hslot hzero
  · exact fun h slot hslot _ => h slot hslot

theorem Rust.isOk_validateLeader (request : FormationSetRequest) :
    (Rust.validateLeader request).isOk = true ↔
      ∃ leader, request.leader = some leader ∧ leader.WellFormed := by
  cases hleader : request.leader with
  | none => simp [Rust.validateLeader, hleader]
  | some leader =>
    simp only [Rust.validateLeader, hleader, isOk_okOr_bind, Option.any_some, isOk_bind,
      Bool.and_eq_true]
    simp only [FormationLeader.WellFormed, ← length_dedup_eq]
    simp [Rust.positive, Cpp.positive, forall_nonzero_le]
    tauto

/-- A type without a name is not well formed. -/
theorem Cpp.isOk_validateFormation (request : FormationSetRequest) :
    (Cpp.validateFormation request).isOk = true ↔ request.WellFormed := by
  unfold FormationSetRequest.WellFormed
  split <;> rename_i htype
  · simp [Cpp.validateFormation, htype]
  · simp [Cpp.validateFormation, htype]
  · cases hline : request.line <;> simp [Cpp.validateFormation, htype, hline]
  · cases hpolygon : request.polygon <;> simp [Cpp.validateFormation, htype, hpolygon]
  · simp [Cpp.validateFormation, htype, Cpp.isOk_validateLeader]
  · cases hpolygon : request.polygon <;> simp [Cpp.validateFormation, htype, hpolygon]
  · cases hring : request.ring <;> simp [Cpp.validateFormation, htype, hring]
  · cases hlemniscate : request.lemniscate <;>
      simp [Cpp.validateFormation, htype, hlemniscate, and_assoc]
  · next hnot1 hnot2 hnot10 hnot11 hnot12 hnot20 hnot21 =>
    have hnot22 := htype
    unfold Cpp.validateFormation
    split_ifs with hground hring
    · exact absurd hground (not_or.mpr ⟨hnot1, hnot2⟩)
    · simp
    · simp

theorem Rust.isOk_validateFormationSetRequest (request : FormationSetRequest) :
    (Rust.validateFormationSetRequest request).isOk = true ↔ request.WellFormed := by
  unfold FormationSetRequest.WellFormed
  split <;> rename_i htype
  · simp [Rust.validateFormationSetRequest, htype]
  · simp [Rust.validateFormationSetRequest, htype]
  · cases hline : request.line <;>
      simp [Rust.validateFormationSetRequest, htype, hline, Rust.positive, Cpp.positive]
  · cases hpolygon : request.polygon <;>
      simp [Rust.validateFormationSetRequest, htype, hpolygon, Rust.positive, Cpp.positive]
  · simp [Rust.validateFormationSetRequest, htype, Rust.isOk_validateLeader]
  · cases hpolygon : request.polygon <;>
      simp [Rust.validateFormationSetRequest, htype, hpolygon, Rust.positive, Cpp.positive,
        Rust.moving, Cpp.moving]
  · cases hring : request.ring <;>
      simp [Rust.validateFormationSetRequest, htype, hring, Rust.positive, Cpp.positive,
        Rust.moving, Cpp.moving]
  · cases hlemniscate : request.lemniscate <;>
      simp [Rust.validateFormationSetRequest, htype, hlemniscate, Rust.positive, Cpp.positive,
        Rust.moving, Cpp.moving, and_assoc]
  · next hnot1 hnot2 hnot10 hnot11 hnot12 hnot20 hnot21 =>
    have hnot22 := htype
    unfold Rust.validateFormationSetRequest
    split <;> first | contradiction | simp

theorem Python.isOk_validateFormationSetRequest (request : FormationSetRequest) :
    (Python.validateFormationSetRequest request).isOk = true ↔ request.WellFormed := by
  unfold FormationSetRequest.WellFormed
  split <;> rename_i htype
  · simp [Python.validateFormationSetRequest, htype]
  · simp [Python.validateFormationSetRequest, htype]
  · cases hline : request.line <;>
      simp [Python.validateFormationSetRequest, htype, hline, Python.positive, Cpp.positive]
  · cases hpolygon : request.polygon <;>
      simp [Python.validateFormationSetRequest, htype, hpolygon, Python.positive, Cpp.positive]
  · cases hleader : request.leader with
    | none => simp [Python.validateFormationSetRequest, htype, hleader]
    | some leader =>
      simp only [FormationLeader.WellFormed, ← length_dedup_eq]
      simp [Python.validateFormationSetRequest, htype, hleader, Python.positive, Cpp.positive,
        sum_toNat]
      simp only [or_iff_not_imp_left, forall_nonzero_le]
      tauto
  · cases hpolygon : request.polygon <;>
      simp [Python.validateFormationSetRequest, htype, hpolygon, Python.positive, Cpp.positive,
        Python.moving, Cpp.moving]
  · cases hring : request.ring <;>
      simp [Python.validateFormationSetRequest, htype, hring, Python.positive, Cpp.positive,
        Python.moving, Cpp.moving]
  · cases hlemniscate : request.lemniscate <;>
      simp [Python.validateFormationSetRequest, htype, hlemniscate, Python.positive,
        Cpp.positive, Python.moving, Cpp.moving, and_assoc]
  · next hnot1 hnot2 hnot10 hnot11 hnot12 hnot20 hnot21 =>
    -- The type is none of the named ones.
    have hnot22 := htype
    unfold Python.validateFormationSetRequest
    split_ifs with hground hring hleader
    · simp_all
    · simp
    · simp_all
    · simp_all

theorem Cpp.isOk_validateFormationSetRequest (request : FormationSetRequest) :
    (Cpp.validateFormationSetRequest request).isOk = true ↔
      request.WellFormed ∧ ∀ number ∈ request.unknownFields, number ∉ [8, 9, 10] := by
  rw [Cpp.validateFormationSetRequest, isOk_bind, Bool.and_eq_true,
    Cpp.isOk_validateFormation, isOk_rejectIf, and_comm]
  simp [and_assoc]

/-! ### States -/

/-- The named types of formations. -/
def namedTypes : List ℤ := [0, 1, 2, 10, 11, 12, 20, 21, 22]

/-- What every language asks of a state: its phase and type, and the target of the leader. -/
def FormationState.WellFormed (validNorm : Quaternion → Bool) (state : FormationState) : Prop :=
  (0 ≤ state.phase ∧ state.phase ≤ 4) ∧
    state.formationType ∈ namedTypes ∧
    TargetFinite validNorm state.virtualLeaderTargetValid state.virtualLeaderTarget

theorem targetFinite_iff (validNorm : Quaternion → Bool) (valid : Bool) (target : Option Pose) :
    TargetFinite validNorm valid target ↔
      (!valid || target.any (Cpp.finitePose validNorm)) = true := by
  cases valid <;> cases target <;> simp [TargetFinite]

theorem Cpp.target_eq (validNorm : Quaternion → Bool) (valid : Bool) (target : Option Pose) :
    (valid && (target.isNone || !Cpp.finitePose validNorm (target.getD {}))) =
      !(!valid || target.any (Cpp.finitePose validNorm)) := by
  cases valid <;> cases target <;> simp

theorem Python.target_eq (validNorm : Quaternion → Bool) (valid : Bool)
    (target : Option Pose) :
    (!valid || (target.isSome && Python.finitePose validNorm (target.getD {}))) =
      (!valid || target.any (Cpp.finitePose validNorm)) := by
  cases valid <;> cases target <;> simp [Python.finitePose_eq]

theorem Cpp.isOk_validateFormationState (validNorm : Quaternion → Bool)
    (state : FormationState) :
    (Cpp.validateFormationState validNorm state).isOk = true ↔
      state.WellFormed validNorm ∧
        TargetFinite validNorm state.formationTargetValid state.formationTarget := by
  simp only [FormationState.WellFormed, targetFinite_iff, Cpp.validateFormationState,
    isOk_rejectIf, Cpp.target_eq, namedTypes]
  simp [and_assoc, or_assoc]

theorem Rust.isOk_validateFormationState (validNorm : Quaternion → Bool)
    (state : FormationState) :
    (Rust.validateFormationState validNorm state).isOk = true ↔ state.WellFormed validNorm := by
  have hpose : Rust.finitePose validNorm = Cpp.finitePose validNorm :=
    funext (Rust.finitePose_eq validNorm)
  simp only [FormationState.WellFormed, targetFinite_iff, Rust.validateFormationState, hpose,
    namedTypes]
  simp [and_assoc]

theorem Python.isOk_validateFormationState (validNorm : Quaternion → Bool)
    (state : FormationState) :
    (Python.validateFormationState validNorm state).isOk = true ↔
      state.WellFormed validNorm ∧
        TargetFinite validNorm state.formationTargetValid state.formationTarget := by
  simp only [FormationState.WellFormed, targetFinite_iff, Python.validateFormationState,
    isOk_rejectIf, Python.target_eq, namedTypes]
  simp [and_assoc]

/-! ### Mapping -/

/-- The numbers of a lidar. -/
def MappingLidarState.numbers (lidar : MappingLidarState) : List UInt64 :=
  [lidar.lidarRateHz, lidar.imuRateHz, lidar.lidarAgeSec, lidar.imuAgeSec]

/-- What every language asks of a mapping: a status, and numbers that are numbers. -/
def MappingState.WellFormed (state : MappingState) : Prop :=
  state.status ∈ mappingStatuses ∧
    ∀ lidar ∈ state.lidars, ∀ value ∈ lidar.numbers, isNan value = false

/-- All its numbers are finite. -/
def MappingState.Finite (state : MappingState) : Prop :=
  ∀ lidar ∈ state.lidars, ∀ value ∈ lidar.numbers, isFinite value = true

/-- A mapping with finite numbers needs its status only. -/
theorem MappingState.wellFormed_and_finite_iff (state : MappingState) :
    state.WellFormed ∧ state.Finite ↔ state.status ∈ mappingStatuses ∧ state.Finite := by
  constructor
  · exact fun h => ⟨h.1.1, h.2⟩
  · intro h
    exact ⟨⟨h.1, fun lidar hlidar value hvalue =>
      isNan_eq_false (h.2 lidar hlidar value hvalue)⟩, h.2⟩

theorem any_statuses (status : ProtoString) :
    (mappingStatuses.any fun named => status.bytes == named.bytes) =
      mappingStatuses.contains status := by
  rw [Bool.eq_iff_iff, List.any_eq_true, List.contains_iff_mem]
  simp only [beq_iff_eq, ProtoString.bytes_inj]
  exact ⟨fun ⟨named, hmem, heq⟩ => heq ▸ hmem, fun hmem => ⟨status, hmem, rfl⟩⟩

theorem Cpp.isOk_validateMappingState (state : MappingState) :
    (Cpp.validateMappingState state).isOk = true ↔ state.WellFormed ∧ state.Finite := by
  have hstatus : (mappingStatuses.all fun named => state.status.bytes != named.bytes) =
      !mappingStatuses.contains state.status := by
    rw [← any_statuses, List.not_any_eq_all_not]
    rfl
  rw [MappingState.wellFormed_and_finite_iff, Cpp.validateMappingState, isOk_bind, isOk_forM,
    hstatus]
  simp [MappingState.Finite, MappingLidarState.numbers, and_assoc]

theorem Rust.isOk_validateMappingState (state : MappingState) :
    (Rust.validateMappingState state).isOk = true ↔ state.WellFormed := by
  simp only [Rust.validateMappingState, any_statuses]
  simp [MappingState.WellFormed, MappingLidarState.numbers, and_assoc]

theorem Python.isOk_validateMappingState (state : MappingState) :
    (Python.validateMappingState state).isOk = true ↔ state.WellFormed ∧ state.Finite := by
  rw [MappingState.wellFormed_and_finite_iff, Python.validateMappingState, isOk_bind, isOk_forM]
  simp [MappingState.Finite, MappingLidarState.numbers]

/-! ### All messages -/

/-- The messages with a validator. -/
inductive FormationMessage
  | setRequest (request : FormationSetRequest)
  | formationState (report : FormationState)
  | mappingState (report : MappingState)
  deriving DecidableEq, Repr

namespace FormationMessage

/-- The validator that a language has for the message. -/
def validate (validNorm : Quaternion → Bool) : FormationMessage → Language → Except String Unit
  | setRequest request, .cpp => Cpp.validateFormationSetRequest request
  | setRequest request, .rust => Rust.validateFormationSetRequest request
  | setRequest request, .python => Python.validateFormationSetRequest request
  | formationState report, .cpp =>
    Cpp.validateFormationState validNorm report
  | formationState report, .rust =>
    Rust.validateFormationState validNorm report
  | formationState report, .python =>
    Python.validateFormationState validNorm report
  | mappingState report, .cpp => Cpp.validateMappingState report
  | mappingState report, .rust => Rust.validateMappingState report
  | mappingState report, .python => Python.validateMappingState report

/-- What every language asks for. -/
def WellFormed (validNorm : Quaternion → Bool) : FormationMessage → Prop
  | setRequest request => request.WellFormed
  | formationState report => report.WellFormed validNorm
  | mappingState report => report.WellFormed

/-- What only C++ asks for: no field that was removed from the schema. -/
def Current : FormationMessage → Prop
  | setRequest request => ∀ number ∈ request.unknownFields, number ∉ [8, 9, 10]
  | formationState _ | mappingState _ => True

/-- What C++ and Python ask for, and Rust does not: finite numbers. -/
def Finite (validNorm : Quaternion → Bool) : FormationMessage → Prop
  | setRequest _ => True
  | formationState report =>
    TargetFinite validNorm report.formationTargetValid report.formationTarget
  | mappingState report => report.Finite

variable (validNorm : Quaternion → Bool)

/-- What each language accepts. -/
theorem isOk_validate (message : FormationMessage) (l : Language) :
    (message.validate validNorm l).isOk = true ↔
      message.WellFormed validNorm ∧ (l = .cpp → message.Current) ∧
        (l ≠ .rust → message.Finite validNorm) := by
  cases l with
  | cpp =>
    cases message <;>
      simp [validate, WellFormed, Current, Finite, Cpp.isOk_validateFormationSetRequest,
        Cpp.isOk_validateFormationState, Cpp.isOk_validateMappingState]
  | rust =>
    cases message <;>
      simp [validate, WellFormed, Rust.isOk_validateFormationSetRequest,
        Rust.isOk_validateFormationState, Rust.isOk_validateMappingState]
  | python =>
    cases message <;>
      simp [validate, WellFormed, Finite, Python.isOk_validateFormationSetRequest,
        Python.isOk_validateFormationState, Python.isOk_validateMappingState]

/-- **The validators agree exactly on the messages that no language accepts, and on those that
carry no removed field and whose targets and rates are finite.** -/
theorem formationValidators_unanimous_iff (message : FormationMessage) :
    Unanimous (message.validate validNorm) ↔
      (message.WellFormed validNorm → message.Current ∧ message.Finite validNorm) := by
  rw [unanimous_iff .cpp .rust (message.isOk_validate validNorm)]
  · constructor
    · intro h hwell
      obtain ⟨-, hcurrent, hfinite⟩ := h ⟨hwell, fun h => (nomatch h), fun h => absurd rfl h⟩
      exact ⟨hcurrent rfl, hfinite (by decide)⟩
    · intro h hrust
      obtain ⟨hcurrent, hfinite⟩ := h hrust.1
      exact ⟨hrust.1, fun _ => hcurrent, fun _ => hfinite⟩
  · intro l hcpp
    exact ⟨hcpp.1, fun _ => hcpp.2.1 rfl, fun _ => hcpp.2.2 (by decide)⟩
  · intro l haccepted
    exact ⟨haccepted.1, fun h => (nomatch h), fun h => absurd rfl h⟩

/-- A takeoff that carries the height of an older schema. -/
def oldTakeoff : FormationMessage := setRequest { formationType := 1, unknownFields := [8] }

/-- A state that declares a target and has none. -/
def missingTarget : FormationMessage := formationState { formationTargetValid := true }

/-- A lidar with an infinite rate. -/
def infiniteRate : FormationMessage :=
  mappingState { lidars := [{ lidarRateHz := 0x7ff0000000000000 }] }

/-- Each kind of message has one that C++ rejects and Rust accepts. -/
theorem oldTakeoff_not_unanimous :
    ¬ Unanimous (oldTakeoff.validate fun _ => true) ∧
      ¬ Unanimous (missingTarget.validate fun _ => true) ∧
      ¬ Unanimous (infiniteRate.validate fun _ => true) := by
  have hsplit : ∀ message : FormationMessage,
      (message.validate (fun _ => true) .cpp).isOk = false →
      (message.validate (fun _ => true) .rust).isOk = true →
      ¬ Unanimous (message.validate fun _ => true) := by
    rintro message hcpp hrust (hall | hnone)
    · exact Bool.false_ne_true (hcpp.symm.trans (hall .cpp))
    · exact Bool.false_ne_true ((hnone .rust).symm.trans hrust)
  exact ⟨hsplit _ (by decide) (by decide),
    hsplit _ (by decide) (by decide),
    hsplit _ (by decide) (by decide)⟩

end FormationMessage

end YunLink.Formation
