import CanopenRtt.Cia402.Mode
/-!
# The Device axis record and what one pass may ask of its surroundings

`CO_402_device.h`, `CO_402_drive.h` and the runtime records they embed. The
product behind DriveIF, SyncIF and DiagIF, and the generated Object Dictionary,
lie outside the Device core: every answer they give during one call of the core
is a field of `PassInputs` or `SyncInputs`. A call site is consulted at most
once in a call, so an arbitrary record of answers is an arbitrary environment.
-/

namespace CanopenRtt.Cia402.Device

/-- The PDS callbacks of `CO_402_drive_if_t`. -/
inductive DriveOperation where
  | shutdown
  | switchOn
  | enableOperation
  | disableVoltage
  | disableOperation
  | quickStop
  | faultReaction
  | faultReset
  deriving DecidableEq, Repr

/-- Result of a non-blocking PDS transition or operation-mode request. -/
inductive DriveResult where
  | busy
  | done
  | error
  deriving DecidableEq, Repr

structure ProfilePositionCommand where
  targetPosition : BitVec 32 := 0
  profileVelocity : BitVec 32 := 0
  profileAcceleration : BitVec 32 := 0
  profileDeceleration : BitVec 32 := 0
  quickStopDeceleration : BitVec 32 := 0
  motionProfileType : BitVec 16 := 0
  newSetPoint : Bool := false
  changeImmediately : Bool := false
  relative : Bool := false
  halt : Bool := false
  deriving DecidableEq, Repr

structure ProfileVelocityCommand where
  targetVelocity : BitVec 32
  profileAcceleration : BitVec 32
  profileDeceleration : BitVec 32
  quickStopDeceleration : BitVec 32
  halt : Bool
  deriving DecidableEq, Repr

structure HomingCommand where
  homeOffset : BitVec 32 := 0
  homingMethod : BitVec 8 := 0
  speedSwitch : BitVec 32 := 0
  speedZero : BitVec 32 := 0
  acceleration : BitVec 32 := 0
  start : Bool := false
  startEdge : Bool := false
  halt : Bool := false
  deriving DecidableEq, Repr

/-- Which callbacks of a DriveIF are non-NULL. -/
structure DriveIf where
  operation : DriveOperation → Bool
  getPosition : Bool
  getVelocity : Bool
  getTorque : Bool
  modeEnter : Bool
  modeExit : Bool
  profilePosition : Bool
  profileVelocity : Bool
  homing : Bool

/-- A DriveIF that passed `driveInterfaceValid`: no PDS callback is NULL. -/
structure ValidDriveIf extends DriveIf where
  operation_present : ∀ op, operation op = true

/-- One cyclic command generation published to motor control. -/
structure SyncCommand where
  sequence : BitVec 32 := 0
  mode : Mode := .none
  targetPosition : BitVec 32 := 0
  targetVelocity : BitVec 32 := 0
  targetTorque : BitVec 16 := 0
  deriving DecidableEq, Repr

/-- One motor-feedback generation returned to the process image. -/
structure SyncFeedback where
  sequence : BitVec 32 := 0
  positionActual : BitVec 32 := 0
  velocityActual : BitVec 32 := 0
  torqueActual : BitVec 16 := 0
  driveFollowsCommand : Bool := false
  deriving DecidableEq, Repr

/-- Which callbacks of a SyncIF are non-NULL, and the modes it advertises. -/
structure SyncIf where
  supportedModes : BitVec 32
  publishCommand : Bool
  readFeedback : Bool
  deriving DecidableEq, Repr

/-- Fast-path-owned generation state of one axis. -/
structure SyncRuntime where
  command : SyncCommand := {}
  feedback : SyncFeedback := {}
  active : Bool := false
  commandPublished : Bool := false
  feedbackFresh : Bool := false
  deriving DecidableEq, Repr

/-- Origin which transferred an axis into fault ownership. -/
inductive FaultOrigin where
  | product
  | controlwordOD
  | pdsOperation
  | modeOperation
  | faultReset
  | internalState
  deriving DecidableEq, Repr

structure FaultInfo where
  pdsErrorCode : BitVec 16 := 0
  emcyCode : BitVec 16 := 0
  infoCode : BitVec 32 := 0
  deriving DecidableEq, Repr

inductive DiagEventType where
  | none
  | report
  | reset
  deriving DecidableEq, Repr

structure DiagEvent where
  type : DiagEventType := .none
  logicalDevice : BitVec 8 := 0
  errorBit : BitVec 8 := 0
  fault : FaultInfo := {}
  deriving DecidableEq, Repr

/-- Persistent diagnostic state, retained across Communication Reset. -/
structure DiagRuntime where
  active : Bool := false
  contractFailed : Bool := false
  origin : FaultOrigin := .product
  fault : FaultInfo := {}
  pending : Bool := false
  event : DiagEvent := {}
  deriving DecidableEq, Repr

structure PPRuntime where
  acceptedCommand : ProfilePositionCommand := {}
  previousNewSetPoint : Bool := false
  commandActive : Bool := false
  setPointAcknowledge : Bool := false
  targetReached : Bool := false
  followingError : Bool := false
  deriving DecidableEq, Repr

structure PVRuntime where
  targetReached : Bool := false
  deriving DecidableEq, Repr

structure HMRuntime where
  acceptedCommand : HomingCommand := {}
  previousStart : Bool := false
  active : Bool := false
  aborting : Bool := false
  attained : Bool := false
  error : Bool := false
  targetReached : Bool := false
  deriving DecidableEq, Repr

/-- The `OD_entry_t *` members of `CO_402_device_od_t`. -/
inductive ObjectSlot where
  | errorCode
  | controlword
  | statusword
  | modesOfOperation
  | modesOfOperationDisplay
  | positionActualValue
  | velocityActualValue
  | targetPosition
  | targetVelocity
  | supportedDriveModes
  | homeOffset
  | profileVelocity
  | profileAcceleration
  | profileDeceleration
  | quickStopDeceleration
  | motionProfileType
  | homingMethod
  | homingSpeeds
  | homingAcceleration
  | targetTorque
  | torqueActualValue
  deriving DecidableEq, Repr

/-- Cached entry pointers: the index of the cached entry, or NULL. -/
abbrev ODCache := ObjectSlot → Option Nat

/-- The generated objects of one logical device that the Device core writes. -/
structure ODImage where
  errorCode : BitVec 16 := 0
  statusword : Word := 0
  modesOfOperationDisplay : ModeRaw := 0
  positionActualValue : BitVec 32 := 0
  velocityActualValue : BitVec 32 := 0
  torqueActualValue : BitVec 16 := 0
  supportedDriveModes : BitVec 32 := 0
  deriving DecidableEq, Repr

/-- One thing an axis did: a product callback it invoked, with what the product
returned, or a successful transition of its diagnostic latch. -/
inductive Action where
  | operation (op : DriveOperation) (result : DriveResult)
  | modeEnter (mode : Mode) (result : DriveResult)
  | modeExit (mode : Mode) (result : DriveResult)
  | profilePosition (command : ProfilePositionCommand) (result : DriveResult)
  | profileVelocity (command : ProfileVelocityCommand) (result : DriveResult)
  | homing (command : HomingCommand) (result : DriveResult)
  | getPosition
  | getVelocity
  | getTorque
  | getFaultInfo (origin : FaultOrigin) (info : Option FaultInfo)
  | latched (event : DiagEvent)
  | cleared (event : DiagEvent)
  deriving DecidableEq, Repr

/-- A logical-device slot of the CANopen device. -/
abbrev LogicalDevice := Fin 8

/-- Logical device 0 exists. -/
instance neZero_logicalDevice : NeZero 8 := ⟨by decide⟩

/-- Runtime state of one local axis (`CO_402_device_axis_t`). `image` holds the
axis's own Object Dictionary values, and `trace` lists what the axis did so far,
oldest first; no function of the core reads `trace`. -/
structure Axis where
  logicalDevice : LogicalDevice
  state : State
  mode : Mode
  requestedModeRaw : ModeRaw
  requestedModeRecognized : Bool
  od : ODCache
  drive : ValidDriveIf
  faultResetBitPrevious : Bool
  faultResetInProgress : Bool
  pendingExitMode : Mode
  pendingEnterMode : Mode
  supportedModes : BitVec 32
  pp : PPRuntime
  pv : PVRuntime
  hm : HMRuntime
  sync : Option SyncIf
  syncRuntime : SyncRuntime
  pdsTransitionOperation : Option DriveOperation
  pdsTransitionTargetState : State
  diagnosis : DiagRuntime
  image : ODImage
  trace : List Action

/-- The places of one supervisor pass that read Controlword or 0x6060. -/
inductive ReadSite where
  | snapshot
  | fsa
  | feedback
  | statusword
  deriving DecidableEq, Repr

/-- What the surroundings answer in one supervisor pass over one axis. A read
that fails is `none`, a write that fails is `false`. -/
structure PassInputs where
  controlword : ReadSite → Option Word := fun _ => some 0
  modesOfOperation : ReadSite → Option ModeRaw := fun _ => some 0
  getFaultInfo : FaultOrigin → Option FaultInfo := fun _ => none
  latchErrorCode : FaultOrigin → Bool := fun _ => true
  clearErrorCode : Bool := true
  operation : DriveOperation → DriveResult := fun _ => .done
  modeEnter : Mode → DriveResult := fun _ => .done
  modeExit : Mode → DriveResult := fun _ => .done
  profilePosition : ProfilePositionCommand → DriveResult := fun _ => .done
  profileVelocity : ProfileVelocityCommand → DriveResult := fun _ => .done
  homing : HomingCommand → DriveResult := fun _ => .done
  targetPosition : Option (BitVec 32) := some 0
  targetVelocity : Option (BitVec 32) := some 0
  profileVelocityLimit : Option (BitVec 32) := some 0
  profileAcceleration : Option (BitVec 32) := some 0
  profileDeceleration : Option (BitVec 32) := some 0
  quickStopDeceleration : Option (BitVec 32) := some 0
  motionProfileType : Option (BitVec 16) := some 0
  homeOffset : Option (BitVec 32) := some 0
  homingMethod : Option (BitVec 8) := some 0
  speedSwitch : Option (BitVec 32) := some 0
  speedZero : Option (BitVec 32) := some 0
  homingAcceleration : Option (BitVec 32) := some 0
  getPosition : BitVec 32 := 0
  getVelocity : BitVec 32 := 0
  getTorque : BitVec 16 := 0
  setPositionActualValue : Bool := true
  setVelocityActualValue : Bool := true
  setTorqueActualValue : Bool := true
  setStatusword : Bool := true
  setModesOfOperationDisplay : Bool := true

/-- Append one action to the record of the axis. -/
def Axis.record (axis : Axis) (action : Action) : Axis :=
  { axis with trace := axis.trace ++ [action] }

/-- A BUSY modeEnter/modeExit callback owns DriveIF. -/
def modeTransitionPending (axis : Axis) : Bool :=
  axis.pendingExitMode != .none || axis.pendingEnterMode != .none

end CanopenRtt.Cia402.Device
