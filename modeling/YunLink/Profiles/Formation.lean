import YunLink.Profiles.Proto

/-!
# Formations and mapping

The messages of the Sunray profile that set a formation, report it, and report the mapping, with
their validators in C++, Rust and Python.  A quaternion passes by its norm, which the three
languages compute alike: that test is a parameter.

## Main definitions

* `FormationType` — the named formations.
* `FormationSetRequest`, `FormationState`, `MappingState` — the messages, with the fields that a
  validator reads and, for a request, the numbers of its unknown fields.
* `Cpp.validateFormationSetRequest`, … — the validators of `control_validation.cpp`.
* `Rust.validateFormationSetRequest`, … — those of `validation_sunray_extra.rs`.
* `Python.validateFormationSetRequest`, … — those of `validation_sunray.py`.
-/

namespace YunLink.Formation

open Profiles Checks

/-! ### Messages -/

/-- `FormationType`, without the numbers that were taken back. -/
inductive FormationType
  | unknown
  | takeoff
  | land
  | staticLine
  | staticPolygon
  | leader
  | dynamicPolygon
  | dynamicRing
  | dynamicLemniscate
  deriving DecidableEq, Repr

/-- The number of a formation in `sunray.proto`. -/
@[simp, reducible] def FormationType.number : FormationType → ℤ
  | .unknown => 0
  | .takeoff => 1
  | .land => 2
  | .staticLine => 10
  | .staticPolygon => 11
  | .leader => 12
  | .dynamicPolygon => 20
  | .dynamicRing => 21
  | .dynamicLemniscate => 22

/-- The coordinates are the bits of doubles, here and below. -/
structure Vector3 where
  x : UInt64 := 0
  y : UInt64 := 0
  z : UInt64 := 0
  deriving DecidableEq, Repr

/-- A rotation. -/
structure Quaternion where
  x : UInt64 := 0
  y : UInt64 := 0
  z : UInt64 := 0
  w : UInt64 := 0
  deriving DecidableEq, Repr

/-- Where something is and how it is turned. -/
structure Pose where
  position : Option Vector3 := none
  orientation : Option Quaternion := none
  deriving DecidableEq, Repr

/-- The parameters of a line. -/
structure FormationLine where
  spacingM : UInt64 := 0
  angleDeg : UInt64 := 0
  deriving DecidableEq, Repr

/-- The parameters of a polygon. -/
structure FormationPolygon where
  sideLengthM : UInt64 := 0
  moveSpeedMps : UInt64 := 0
  deriving DecidableEq, Repr

/-- The parameters of a ring. -/
structure FormationRing where
  radiusM : UInt64 := 0
  moveSpeedMps : UInt64 := 0
  deriving DecidableEq, Repr

/-- The parameters of a lemniscate. -/
structure FormationLemniscate where
  xScaleM : UInt64 := 0
  yScaleM : UInt64 := 0
  moveSpeedMps : UInt64 := 0
  deriving DecidableEq, Repr

/-- The slots of a formation with a leader, row by row. -/
structure FormationLeader where
  agentSlots : List ℕ := []
  spacingM : UInt64 := 0
  virtualLeaderSlots : List Bool := []
  deriving DecidableEq, Repr

/-- The request for a formation. -/
structure FormationSetRequest where
  formationType : ℤ := 0
  line : Option FormationLine := none
  polygon : Option FormationPolygon := none
  ring : Option FormationRing := none
  lemniscate : Option FormationLemniscate := none
  leader : Option FormationLeader := none
  /-- The numbers of the fields that the message carries and the schema does not have. -/
  unknownFields : List ℕ := []
  deriving DecidableEq, Repr

/-- The report on a formation, as far as a validator reads it. -/
structure FormationState where
  phase : ℤ := 0
  formationType : ℤ := 0
  virtualLeaderTargetValid : Bool := false
  virtualLeaderTarget : Option Pose := none
  formationTargetValid : Bool := false
  formationTarget : Option Pose := none
  deriving DecidableEq, Repr

/-- The rates and ages of a lidar; doubles, by their bits. -/
structure MappingLidarState where
  lidarRateHz : UInt64 := 0
  imuRateHz : UInt64 := 0
  lidarAgeSec : UInt64 := 0
  imuAgeSec : UInt64 := 0
  deriving DecidableEq, Repr

/-- The report on the mapping, as far as a validator reads it. -/
structure MappingState where
  status : ProtoString := []
  lidars : List MappingLidarState := []
  deriving DecidableEq, Repr

/-- The statuses a mapping may have. -/
def mappingStatuses : List ProtoString :=
  ["".toList, "UNAVAILABLE".toList, "IDLE".toList, "ACCUMULATING".toList, "ERROR".toList]

/-! ### C++ -/

namespace Cpp

/-- The lambda `positive` of the set request. -/
def positive (value : UInt64) : Bool := isFinite value && greaterThanZero value

/-- The lambda `moving`. -/
def moving (value : UInt64) : Bool := isFinite value && absGreaterThanZero value

/-- `finite` of a vector. -/
def finiteVector3 (value : Vector3) : Bool :=
  isFinite value.x && isFinite value.y && isFinite value.z

/-- `finite` of a pose, with the test on the norm of the quaternion. -/
def finitePose (validNorm : Quaternion → Bool) (value : Pose) : Bool :=
  value.position.isSome && value.orientation.isSome &&
    finiteVector3 (value.position.getD {}) && validNorm (value.orientation.getD {})

/-- The agents of the slots, in the order of their insertion. -/
def collectAgents : List ℕ → List ℕ → Except String (List ℕ)
  | agents, [] => .ok agents
  | agents, slot :: rest =>
    if 255 < slot || (slot != 0 && agents.contains slot) then
      .error "formation leader agent slots are invalid"
    else collectAgents (if slot != 0 then slot :: agents else agents) rest

/-- The case of `FORMATION_LEADER`. -/
def validateLeader (request : FormationSetRequest) : Except String Unit := do
  let leader := request.leader.getD {}
  rejectIf
    (request.leader.isNone || leader.agentSlots.length != 25 ||
      leader.virtualLeaderSlots.length != 25 || !positive leader.spacingM)
    "formation leader layout is invalid"
  let agents ← collectAgents [] leader.agentSlots
  rejectIf agents.isEmpty "formation leader has no agent slots"
  let leaderSlots := (leader.virtualLeaderSlots.map fun slot => if slot then 1 else 0).sum
  require (leaderSlots == 1) "formation leader target slot is invalid"

/-- The `switch` on the type of the formation. -/
def validateFormation (request : FormationSetRequest) : Except String Unit :=
  let line := request.line.getD {}
  let polygon := request.polygon.getD {}
  let ring := request.ring.getD {}
  let lemniscate := request.lemniscate.getD {}
  if request.formationType = FormationType.takeoff.number ∨
      request.formationType = FormationType.land.number then .ok ()
  else if request.formationType = FormationType.staticLine.number then
    rejectIf (request.line.isNone || !positive line.spacingM || !isFinite line.angleDeg)
      "formation line is invalid"
  else if request.formationType = FormationType.staticPolygon.number then
    rejectIf (request.polygon.isNone || !positive polygon.sideLengthM)
      "formation polygon is invalid"
  else if request.formationType = FormationType.dynamicPolygon.number then
    rejectIf
      (request.polygon.isNone || !positive polygon.sideLengthM || !moving polygon.moveSpeedMps)
      "dynamic formation polygon is invalid"
  else if request.formationType = FormationType.dynamicRing.number then
    rejectIf (request.ring.isNone || !positive ring.radiusM || !moving ring.moveSpeedMps)
      "dynamic formation ring is invalid"
  else if request.formationType = FormationType.dynamicLemniscate.number then
    rejectIf
      (request.lemniscate.isNone || !positive lemniscate.xScaleM ||
        !positive lemniscate.yScaleM || !moving lemniscate.moveSpeedMps)
      "dynamic formation lemniscate is invalid"
  else if request.formationType = 13 ∨ request.formationType = 23 then
    .error "double-ring formations were removed"
  else if request.formationType = FormationType.leader.number then validateLeader request
  else .error "formation type is invalid"

/-- `validate_formation_set_request`; only here are the unknown fields looked at. -/
def validateFormationSetRequest (request : FormationSetRequest) : Except String Unit := do
  rejectIf (request.unknownFields.any fun number => number == 8 || number == 9 || number == 10)
    "removed formation height or double-ring fields are not supported"
  validateFormation request

/-- `validate_formation_state`. -/
def validateFormationState (validNorm : Quaternion → Bool) (state : FormationState) :
    Except String Unit :=
  let validType := state.formationType == FormationType.unknown.number ||
    state.formationType == FormationType.takeoff.number ||
    state.formationType == FormationType.land.number ||
    state.formationType == FormationType.staticLine.number ||
    state.formationType == FormationType.staticPolygon.number ||
    state.formationType == FormationType.leader.number ||
    state.formationType == FormationType.dynamicPolygon.number ||
    state.formationType == FormationType.dynamicRing.number ||
    state.formationType == FormationType.dynamicLemniscate.number
  rejectIf
    (state.phase < 0 || 4 < state.phase || !validType ||
      (state.virtualLeaderTargetValid &&
        (state.virtualLeaderTarget.isNone ||
          !finitePose validNorm (state.virtualLeaderTarget.getD {}))) ||
      (state.formationTargetValid &&
        (state.formationTarget.isNone ||
          !finitePose validNorm (state.formationTarget.getD {}))))
    "formation state is invalid"

/-- `validate_mapping_state`; infinity is refused. -/
def validateMappingState (state : MappingState) : Except String Unit := do
  rejectIf (mappingStatuses.all fun status => state.status.bytes != status.bytes)
    "mapping state status is invalid"
  state.lidars.forM fun lidar =>
    rejectIf
      (!isFinite lidar.lidarRateHz || !isFinite lidar.imuRateHz ||
        !isFinite lidar.lidarAgeSec || !isFinite lidar.imuAgeSec)
      "mapping state contains a non-finite value"

end Cpp

/-! ### Rust -/

namespace Rust

/-- The closure `positive`. -/
def positive (value : UInt64) : Bool := isFinite value && greaterThanZero value

/-- The closure `moving`. -/
def moving (value : UInt64) : Bool := isFinite value && absGreaterThanZero value

/-- `finite_vector3`. -/
def finiteVector3 (value : Vector3) : Bool :=
  isFinite value.x && isFinite value.y && isFinite value.z

/-- `finite_pose`. -/
def finitePose (validNorm : Quaternion → Bool) (value : Pose) : Bool :=
  match value.position, value.orientation with
  | some position, some orientation => finiteVector3 position && validNorm orientation
  | _, _ => false

/-- The arm of the type 12. -/
def validateLeader (request : FormationSetRequest) : Except String Unit := do
  let leader ← okOr request.leader "formation leader layout is invalid"
  rejectIf
    (leader.agentSlots.length != 25 || leader.virtualLeaderSlots.length != 25 ||
      !positive leader.spacingM)
    "formation leader layout is invalid"
  let agents := leader.agentSlots.filter (· != 0)
  rejectIf
    (agents.isEmpty || (agents.any fun slot => 255 < slot) ||
      agents.dedup.length != agents.length)
    "formation leader agent slots are invalid"
  require (leader.virtualLeaderSlots.count true == 1) "formation leader target slot is invalid"

/-- `validate_formation_set_request`. -/
def validateFormationSetRequest (request : FormationSetRequest) : Except String Unit :=
  match request.formationType with
  | 1 | 2 => .ok ()
  | 10 =>
    require (request.line.any fun value => positive value.spacingM && isFinite value.angleDeg)
      "formation line is invalid"
  | 11 =>
    require (request.polygon.any fun value => positive value.sideLengthM)
      "formation polygon is invalid"
  | 20 =>
    require
      (request.polygon.any fun value => positive value.sideLengthM && moving value.moveSpeedMps)
      "dynamic formation polygon is invalid"
  | 21 =>
    require (request.ring.any fun value => positive value.radiusM && moving value.moveSpeedMps)
      "dynamic formation ring is invalid"
  | 22 =>
    require
      (request.lemniscate.any fun value =>
        positive value.xScaleM && positive value.yScaleM && moving value.moveSpeedMps)
      "dynamic formation lemniscate is invalid"
  | 13 | 23 => .error "double-ring formations were removed"
  | 12 => validateLeader request
  | _ => .error "formation type is invalid"

/-- `validate_formation_state`; the formation target is not looked at. -/
def validateFormationState (validNorm : Quaternion → Bool) (state : FormationState) :
    Except String Unit :=
  let validType := [0, 1, 2, 10, 11, 12, 20, 21, 22].contains state.formationType
  let validTarget := !state.virtualLeaderTargetValid ||
    state.virtualLeaderTarget.any (finitePose validNorm)
  require ((0 ≤ state.phase && state.phase ≤ 4) && validType && validTarget)
    "formation state is invalid"

/-- `validate_mapping_state`; infinity passes. -/
def validateMappingState (state : MappingState) : Except String Unit :=
  let validStatus := mappingStatuses.any fun status => state.status.bytes == status.bytes
  let validLidars := state.lidars.all fun lidar =>
    !isNan lidar.lidarRateHz && !isNan lidar.imuRateHz && !isNan lidar.lidarAgeSec &&
      !isNan lidar.imuAgeSec
  require (validStatus && validLidars) "mapping state is invalid"

end Rust

/-! ### Python -/

namespace Python

/-- The local `positive`. -/
def positive (value : UInt64) : Bool := isFinite value && greaterThanZero value

/-- The local `moving`. -/
def moving (value : UInt64) : Bool := isFinite value && absGreaterThanZero value

/-- `_finite_vector`. -/
def finiteVector (value : Vector3) : Bool := [value.x, value.y, value.z].all isFinite

/-- `_finite_pose`. -/
def finitePose (validNorm : Quaternion → Bool) (pose : Pose) : Bool :=
  if pose.position.isNone || pose.orientation.isNone then false
  else finiteVector (pose.position.getD {}) && validNorm (pose.orientation.getD {})

/-- `validate_formation_set_request`. -/
def validateFormationSetRequest (request : FormationSetRequest) : Except String Unit :=
  let line := request.line.getD {}
  let polygon := request.polygon.getD {}
  let ring := request.ring.getD {}
  let lemniscate := request.lemniscate.getD {}
  let leader := request.leader.getD {}
  let agents := leader.agentSlots.filter (· != 0)
  let invalid := "formation request is invalid"
  if [FormationType.takeoff.number, FormationType.land.number].contains
      request.formationType then .ok ()
  else if request.formationType = FormationType.staticLine.number then
    require (request.line.isSome && positive line.spacingM && isFinite line.angleDeg) invalid
  else if request.formationType = FormationType.staticPolygon.number then
    require (request.polygon.isSome && positive polygon.sideLengthM) invalid
  else if request.formationType = FormationType.dynamicPolygon.number then
    require
      (request.polygon.isSome && positive polygon.sideLengthM && moving polygon.moveSpeedMps)
      invalid
  else if request.formationType = FormationType.dynamicRing.number then
    require (request.ring.isSome && positive ring.radiusM && moving ring.moveSpeedMps) invalid
  else if request.formationType = FormationType.dynamicLemniscate.number then
    require
      (request.lemniscate.isSome && positive lemniscate.xScaleM &&
        positive lemniscate.yScaleM && moving lemniscate.moveSpeedMps)
      invalid
  else if [13, 23].contains request.formationType then
    .error "double-ring formations were removed"
  else if request.formationType = FormationType.leader.number ∧ request.leader.isSome then
    require
      (leader.agentSlots.length == 25 && leader.virtualLeaderSlots.length == 25 &&
        positive leader.spacingM && !agents.isEmpty && (agents.all fun slot => slot ≤ 255) &&
        agents.dedup.length == agents.length &&
        (leader.virtualLeaderSlots.map Bool.toNat).sum == 1)
      invalid
  else .error invalid

/-- `validate_formation_state`. -/
def validateFormationState (validNorm : Quaternion → Bool) (state : FormationState) :
    Except String Unit :=
  let validType :=
    [FormationType.unknown.number, FormationType.takeoff.number, FormationType.land.number,
      FormationType.staticLine.number, FormationType.staticPolygon.number,
      FormationType.leader.number, FormationType.dynamicPolygon.number,
      FormationType.dynamicRing.number, FormationType.dynamicLemniscate.number].contains
      state.formationType
  let validTarget := !state.virtualLeaderTargetValid ||
    (state.virtualLeaderTarget.isSome &&
      finitePose validNorm (state.virtualLeaderTarget.getD {}))
  let validFormationTarget := !state.formationTargetValid ||
    (state.formationTarget.isSome && finitePose validNorm (state.formationTarget.getD {}))
  rejectIf
    (!(0 ≤ state.phase && state.phase ≤ 4) || !validType || !validTarget ||
      !validFormationTarget)
    "formation state is invalid"

/-- `validate_mapping_state`. -/
def validateMappingState (state : MappingState) : Except String Unit := do
  rejectIf (!mappingStatuses.contains state.status) "mapping state status is invalid"
  state.lidars.forM fun lidar =>
    rejectIf
      (!([lidar.lidarRateHz, lidar.imuRateHz, lidar.lidarAgeSec, lidar.imuAgeSec].all isFinite))
      "mapping state contains a non-finite value"

end Python

end YunLink.Formation
