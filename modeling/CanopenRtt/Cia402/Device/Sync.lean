import CanopenRtt.Cia402.Device.Supervisor
/-!
# The cyclic synchronous bridge

`CO_402_device_sync.c`, one function per phase and axis; `Manager.lean` runs the
phases over all axes.
-/

namespace CanopenRtt.Cia402.Device

/-- What the surroundings answer for one axis in one SYNC generation. -/
structure SyncInputs where
  controlword : Option Word := some 0
  modesOfOperation : Option ModeRaw := some 0
  targetPosition : Option (BitVec 32) := some 0
  targetVelocity : Option (BitVec 32) := some 0
  targetTorque : Option (BitVec 16) := some 0
  publishCommand : SyncCommand → Bool := fun _ => true
  readFeedback : Option SyncFeedback := none
  statuswordPtr : Bool := true
  statuswordPtrRetry : Bool := true
  positionActualPtr : Bool := true
  velocityActualPtr : Bool := true
  torqueActualPtr : Bool := true

/-- What one axis does in one SYNC generation, in the order it does it. -/
inductive SyncEvent where
  | snapshot (axis : LogicalDevice) (command : SyncCommand) (taken : Bool)
  | publishCommand (axis : LogicalDevice) (command : SyncCommand) (accepted : Bool)
  | readFeedback (axis : LogicalDevice) (feedback : Option SyncFeedback)
  deriving DecidableEq, Repr

/-- `snapshotCommand`: the command of this generation and whether its read succeeded. -/
def snapshotCommand (inputs : SyncInputs) (sequence : BitVec 32) (mode : Mode) :
    SyncCommand × Bool :=
  let command : SyncCommand := { sequence := sequence, mode := mode }
  match mode with
  | .cyclicSyncPosition =>
      match inputs.targetPosition with
      | some targetPosition => ({ command with targetPosition := targetPosition }, true)
      | none => (command, false)
  | .cyclicSyncVelocity =>
      match inputs.targetVelocity with
      | some targetVelocity => ({ command with targetVelocity := targetVelocity }, true)
      | none => (command, false)
  | .cyclicSyncTorque =>
      match inputs.targetTorque with
      | some targetTorque => ({ command with targetTorque := targetTorque }, true)
      | none => (command, false)
  | .none | .profilePosition | .profileVelocity | .homing => (command, false)

/-- The phase-1 body. -/
def syncSnapshot (inputs : SyncInputs) (sequence : BitVec 32) (axis : Axis) :
    Axis × List SyncEvent :=
  let runtime :=
    { axis.syncRuntime with active := false, commandPublished := false, feedbackFresh := false }
  if !syncFastPathEligible inputs.controlword inputs.modesOfOperation axis then
    ({ axis with syncRuntime := runtime }, [])
  else
    let (command, active) := snapshotCommand inputs sequence axis.mode
    ({ axis with syncRuntime := { runtime with command := command, active := active } },
      [.snapshot axis.logicalDevice command active])

/-- The phase-2 body. -/
def syncPublish (inputs : SyncInputs) (axis : Axis) : Axis × List SyncEvent :=
  let runtime := axis.syncRuntime
  if !runtime.active then (axis, [])
  else
    let accepted := inputs.publishCommand runtime.command
    ({ axis with syncRuntime := { runtime with commandPublished := accepted } },
      [.publishCommand axis.logicalDevice runtime.command accepted])

/-- The phase-3 body. -/
def syncFeedback (inputs : SyncInputs) (sequence : BitVec 32) (axis : Axis) :
    Axis × List SyncEvent :=
  let runtime := axis.syncRuntime
  if !runtime.active || !runtime.commandPublished then (axis, [])
  else
    match inputs.readFeedback with
    | none => (axis, [.readFeedback axis.logicalDevice none])
    | some feedback =>
        ({ axis with
            syncRuntime :=
              { runtime with
                feedback := feedback
                feedbackFresh := decide (feedback.sequence = sequence) } },
          [.readFeedback axis.logicalDevice (some feedback)])

/-- `publishSyncImage`; `statuswordPtr` is the outcome of this call's own lookup. -/
def publishSyncImage (inputs : SyncInputs) (statuswordPtr publishActuals : Bool) (axis : Axis) :
    Axis × Bool :=
  let feedback := axis.syncRuntime.feedback
  let torqueOwned := axis.mode = .cyclicSyncTorque
  if !statuswordPtr then (axis, false)
  else if publishActuals && (!inputs.positionActualPtr || !inputs.velocityActualPtr ||
      (torqueOwned && !inputs.torqueActualPtr)) then (axis, false)
  else
    let statusword :=
      (axis.image.statusword &&& ~~~statuswordDriveFollowsCommand) |||
        syncStatuswordBits axis.syncRuntime
    let image :=
      if publishActuals then
        { axis.image with
          positionActualValue := feedback.positionActual
          velocityActualValue := feedback.velocityActual
          torqueActualValue :=
            if torqueOwned then feedback.torqueActual else axis.image.torqueActualValue }
      else axis.image
    ({ axis with image := { image with statusword := statusword } }, true)

/-- The phase-4 body. -/
def syncImage (inputs : SyncInputs) (axis : Axis) : Axis :=
  if !isCyclicMode axis.mode then axis
  else
    let publishActuals := axis.syncRuntime.active && axis.syncRuntime.feedbackFresh
    match publishSyncImage inputs inputs.statuswordPtr publishActuals axis with
    | (axis, true) => axis
    | (axis, false) =>
        if publishActuals then
          -- Preflight failed: withdraw the generation and clear bit 12 if possible.
          (publishSyncImage inputs inputs.statuswordPtrRetry false
            { axis with syncRuntime := { axis.syncRuntime with feedbackFresh := false } }).1
        else axis

/-- One axis through the four phases of one SYNC generation. -/
def syncAxis (inputs : SyncInputs) (sequence : BitVec 32) (axis : Axis) : Axis :=
  syncImage inputs
    (syncFeedback inputs sequence (syncPublish inputs (syncSnapshot inputs sequence axis).1).1).1

/-- Communication Reset clears the cyclic snapshots of an axis. -/
def syncReset (axis : Axis) : Axis :=
  { axis with syncRuntime := {} }

end CanopenRtt.Cia402.Device
