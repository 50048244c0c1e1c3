import CanopenRtt.Cia402.Device.Fsa
import CanopenRtt.Cia402.Device.ModeRuntimes
/-!
# One supervisor pass over one axis

The loop body of `CO_402_device_process` and the mode machinery of
`CO_402_device.c`.
-/

namespace CanopenRtt.Cia402.Device

def resetModeRuntime (mode : Mode) (controlword : Word) (axis : Axis) : Axis :=
  match mode with
  | .profilePosition => { axis with pp := ppReset controlword }
  | .profileVelocity => { axis with pv := pvReset }
  | .homing => { axis with hm := hmReset controlword }
  | .none | .cyclicSyncPosition | .cyclicSyncVelocity | .cyclicSyncTorque => axis

def modeSupported (axis : Axis) (mode : Mode) : Bool :=
  mode = .none ||
    (modeCapabilityBit mode != 0 && axis.supportedModes &&& modeCapabilityBit mode != 0)

def modeTransitionAllowed : State → Bool
  | .switchOnDisabled | .readyToSwitchOn | .switchedOn | .operationEnabled => true
  | _ => false

def continueModeExit (inputs : PassInputs) (controlword : Word) (axis : Axis) : Axis × Bool :=
  if axis.pendingExitMode = .none || !modeTransitionAllowed axis.state then (axis, true)
  else
    let result := inputs.modeExit axis.pendingExitMode
    let axis := axis.record (.modeExit axis.pendingExitMode result)
    match result with
    | .error => ({ axis with pendingExitMode := .none }, false)
    | .busy => (axis, true)
    | .done =>
        let axis :=
          if axis.mode = axis.pendingExitMode then
            { resetModeRuntime axis.mode controlword axis with mode := .none }
          else axis
        ({ axis with pendingExitMode := .none }, true)

def continueModeEnter (inputs : PassInputs) (controlword : Word) (axis : Axis) : Axis × Bool :=
  if axis.pendingEnterMode = .none || !modeTransitionAllowed axis.state then (axis, true)
  else
    let enteringMode := axis.pendingEnterMode
    let result := inputs.modeEnter enteringMode
    let axis := axis.record (.modeEnter enteringMode result)
    match result with
    | .error => ({ axis with pendingEnterMode := .none }, false)
    | .busy => (axis, true)
    | .done =>
        (resetModeRuntime enteringMode controlword
          { axis with mode := enteringMode, pendingEnterMode := .none }, true)

/-- The mode an ordinary request selects, when the request may be served now. -/
def selectedMode (axis : Axis) : Option Mode :=
  if !axis.requestedModeRecognized then none
  else
    match modeFromRaw axis.requestedModeRaw with
    | none => none
    | some requestedMode =>
        if !modeSupported axis requestedMode || !modeTransitionAllowed axis.state then none
        else some requestedMode

/-- Axis, `runActiveMode` and validity, in this order. -/
def processModeSelection (inputs : PassInputs) (controlword : Word) (axis : Axis) :
    Axis × Bool × Bool :=
  if axis.pendingExitMode ≠ .none then
    let (axis, ok) := continueModeExit inputs controlword axis
    (axis, false, ok)
  else if axis.pendingEnterMode ≠ .none then
    let (axis, ok) := continueModeEnter inputs controlword axis
    (axis, false, ok)
  else
    match selectedMode axis with
    | none => (axis, true, true)
    | some requestedMode =>
        if axis.mode = requestedMode then (axis, true, true)
        else if axis.mode ≠ .none then
          let (axis, ok) :=
            continueModeExit inputs controlword { axis with pendingExitMode := axis.mode }
          (axis, false, ok)
        else if requestedMode ≠ .none then
          let (axis, ok) :=
            continueModeEnter inputs controlword { axis with pendingEnterMode := requestedMode }
          (axis, false, ok)
        else (axis, false, true)

def processActiveMode (inputs : PassInputs) (controlword : Word) (axis : Axis) : Axis × Bool :=
  if axis.mode = .none then (axis, true)
  else if axis.state ≠ .operationEnabled then
    (resetModeRuntime axis.mode controlword axis, true)
  else
    match axis.mode with
    | .profilePosition => ppProcess inputs controlword axis
    | .profileVelocity => pvProcess inputs controlword axis
    | .homing => hmProcess inputs controlword axis
    | .cyclicSyncPosition | .cyclicSyncVelocity | .cyclicSyncTorque => (axis, true)
    | .none => (axis, false)

/-! ## The SYNC fast path as the supervisor sees it -/

/-- `CO_402_device_syncControlPlaneStable` on the live reads of one call site. -/
def syncControlPlaneStable (controlword : Option Word) (modesOfOperation : Option ModeRaw)
    (axis : Axis) : Bool :=
  match controlword, modesOfOperation with
  | some controlword, some requestedModeRaw =>
      pdsCommand controlword = .enableOperation && modeFromRaw requestedModeRaw = some axis.mode
  | _, _ => false

/-- A SyncIF with both callbacks present. -/
def syncComplete (sync : Option SyncIf) : Bool :=
  match sync with
  | some sync => sync.publishCommand && sync.readFeedback
  | none => false

def syncFastPathEligible (controlword : Option Word) (modesOfOperation : Option ModeRaw)
    (axis : Axis) : Bool :=
  axis.state = .operationEnabled && axis.pdsTransitionOperation.isNone &&
    !modeTransitionPending axis && syncComplete axis.sync && isCyclicMode axis.mode &&
    syncControlPlaneStable controlword modesOfOperation axis

def syncStatuswordBits (runtime : SyncRuntime) : Word :=
  if runtime.active && runtime.commandPublished && runtime.feedbackFresh &&
      runtime.feedback.driveFollowsCommand then statuswordDriveFollowsCommand
  else 0

def modeStatusword (inputs : PassInputs) (axis : Axis) : Word :=
  match axis.mode with
  | .profilePosition => ppStatusword axis.pp
  | .profileVelocity => pvStatusword axis.pv
  | .homing => hmStatusword axis.hm
  | .cyclicSyncPosition | .cyclicSyncVelocity | .cyclicSyncTorque =>
      if syncFastPathEligible (inputs.controlword .statusword)
          (inputs.modesOfOperation .statusword) axis then
        syncStatuswordBits axis.syncRuntime
      else 0
  | .none => 0

/-! ## The pass -/

def updateModeRequest (inputs : PassInputs) (axis : Axis) : Axis :=
  match inputs.modesOfOperation .snapshot with
  | none => { axis with requestedModeRecognized := false }
  | some raw =>
      { axis with
        requestedModeRaw := raw
        requestedModeRecognized := (modeFromRaw raw).isSome }

def updatePosition (inputs : PassInputs) (axis : Axis) : Axis :=
  if !axis.drive.getPosition then axis
  else if !inputs.setPositionActualValue then axis.record .getPosition
  else
    { axis.record .getPosition with
      image := { axis.image with positionActualValue := inputs.getPosition } }

def updateVelocity (inputs : PassInputs) (axis : Axis) : Axis :=
  if !axis.drive.getVelocity then axis
  else if !inputs.setVelocityActualValue then axis.record .getVelocity
  else
    { axis.record .getVelocity with
      image := { axis.image with velocityActualValue := inputs.getVelocity } }

def updateTorque (inputs : PassInputs) (axis : Axis) : Axis :=
  if axis.mode ≠ .cyclicSyncTorque || (axis.od .torqueActualValue).isNone ||
      !axis.drive.getTorque then axis
  else if !inputs.setTorqueActualValue then axis.record .getTorque
  else
    { axis.record .getTorque with
      image := { axis.image with torqueActualValue := inputs.getTorque } }

def updateFeedback (inputs : PassInputs) (axis : Axis) : Axis :=
  if syncFastPathEligible (inputs.controlword .feedback) (inputs.modesOfOperation .feedback) axis
  then axis
  else updateTorque inputs (updateVelocity inputs (updatePosition inputs axis))

/-- The pass after `CO_402_device_axisProcess` returned. -/
def processModes (inputs : PassInputs) (controlword : Word) (axis : Axis) : Axis :=
  if axis.pdsTransitionOperation.isSome then
    -- A BUSY PDS transition owns the drive; only protocol state is reset.
    if axis.mode ≠ .none then resetModeRuntime axis.mode controlword axis else axis
  else
    let (axis, runActiveMode, ok) := processModeSelection inputs controlword axis
    if !ok then axisEnterFaultReaction inputs .modeOperation none axis
    else if runActiveMode then
      let (axis, ok) := processActiveMode inputs controlword axis
      if !ok then axisEnterFaultReaction inputs .modeOperation none axis else axis
    else if axis.state ≠ .operationEnabled && axis.mode ≠ .none then
      resetModeRuntime axis.mode controlword axis
    else axis

/-- Poll the product, and give a present fault the axis. -/
def pollProduct (inputs : PassInputs) (axis : Axis) : Axis :=
  match pollProductFault inputs axis with
  | (axis, none) => axis
  | (axis, some productFault) => axisEnterFaultReaction inputs .product (some productFault) axis

/-- The FSA and the mode machinery of one pass. -/
def supervise (inputs : PassInputs) (axis : Axis) : Axis :=
  match inputs.controlword .snapshot with
  | none => axisControlwordReadFailed inputs axis
  | some controlword => processModes inputs controlword (axisProcess inputs axis)

/-- Publish Statusword and 0x6061. -/
def publishStatus (inputs : PassInputs) (axis : Axis) : Axis :=
  let statusword := statuswordForState axis.state ||| modeStatusword inputs axis
  let image :=
    if inputs.setStatusword then { axis.image with statusword := statusword } else axis.image
  let image :=
    if inputs.setModesOfOperationDisplay then
      { image with modesOfOperationDisplay := axis.mode.raw }
    else image
  { axis with image := image }

/-- The loop body of `CO_402_device_process`. -/
def processAxis (inputs : PassInputs) (axis : Axis) : Axis :=
  publishStatus inputs (updateFeedback inputs
    (supervise inputs (updateModeRequest inputs (pollProduct inputs axis))))

end CanopenRtt.Cia402.Device
