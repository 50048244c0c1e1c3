import CanopenRtt.Cia402.Device.Diag
/-!
# The PDS state supervisor of one axis

`CO_402_device_fsa.c`. A latched callback is named by its DriveIF slot, so two
slots that share one product function stay apart, as `activePdsSafetyPriority`
keeps them apart by target.
-/

namespace CanopenRtt.Cia402.Device

def setState (axis : Axis) (targetState : State) : Axis :=
  { axis with state := targetState }

inductive SafetyPriority where
  | none
  | quickStop
  | disableVoltage
  deriving DecidableEq, Repr

/-- The enumerator values, which the source compares. -/
def SafetyPriority.value : SafetyPriority → Nat
  | .none => 0
  | .quickStop => 1
  | .disableVoltage => 2

def releaseOwnerForSafetyTransfer (axis : Axis) : Axis :=
  { axis with
    pdsTransitionOperation := none
    pdsTransitionTargetState := .unknown
    faultResetInProgress := false
    pendingExitMode := .none
    pendingEnterMode := .none }

def axisEnterFaultReaction (inputs : PassInputs) (origin : FaultOrigin)
    (fault : Option FaultInfo) (axis : Axis) : Axis :=
  let axis := releaseOwnerForSafetyTransfer axis
  let axis := (diagLatch inputs origin fault axis).1
  setState axis .faultReactionActive

/-- `callDrive`: the PDS slots of a valid DriveIF are never NULL. -/
def callDrive (inputs : PassInputs) (operation : DriveOperation) (axis : Axis) : Axis :=
  axis.record (.operation operation (inputs.operation operation))

def continuePdsTransition (inputs : PassInputs) (axis : Axis) : Axis :=
  match axis.pdsTransitionOperation with
  | none => axis
  | some operation =>
      let targetState := axis.pdsTransitionTargetState
      let axis := callDrive inputs operation axis
      match inputs.operation operation with
      | .busy => axis
      | .done =>
          setState
            { axis with
              pdsTransitionOperation := none
              pdsTransitionTargetState := .unknown } targetState
      | .error =>
          axisEnterFaultReaction inputs .pdsOperation none
            { axis with
              pdsTransitionOperation := none
              pdsTransitionTargetState := .unknown }

def startPdsTransition (inputs : PassInputs) (operation : DriveOperation) (targetState : State)
    (axis : Axis) : Axis :=
  continuePdsTransition inputs
    { axis with
      pdsTransitionOperation := some operation
      pdsTransitionTargetState := targetState }

def activePdsSafetyPriority (axis : Axis) : SafetyPriority :=
  if axis.pdsTransitionTargetState = .switchOnDisabled then .disableVoltage
  else if axis.pdsTransitionTargetState = .quickStopActive then .quickStop
  else .none

def processFaultReactionActive (inputs : PassInputs) (axis : Axis) : Axis :=
  let axis := callDrive inputs .faultReaction axis
  match inputs.operation .faultReaction with
  | .busy => axis
  | .done | .error => setState axis .fault

/-- The safety callback, target and priority a Controlword command asks for. -/
def requestedSafety (axis : Axis) (command : Command) :
    Option (DriveOperation × State × SafetyPriority) :=
  if command = .disableVoltage then
    some (.disableVoltage, .switchOnDisabled, .disableVoltage)
  else if command = .quickStop ∧ (axis.state = .operationEnabled ∨
      axis.pdsTransitionTargetState = .operationEnabled) then
    some (.quickStop, .quickStopActive, .quickStop)
  else none

/-- The guards of `preemptOwnerForSafetyCommand`: the callback and target that
overtake the BUSY owner, if the command overtakes it. -/
def overtakingRequest (axis : Axis) (command : Command) : Option (DriveOperation × State) :=
  match requestedSafety axis command with
  | none => none
  | some (operation, targetState, requestedPriority) =>
      if !(axis.pdsTransitionOperation.isSome || modeTransitionPending axis) then none
      else if (activePdsSafetyPriority axis).value ≥ requestedPriority.value then none
      else some (operation, targetState)

/-- The transfer itself; a failed takeover runs the fault reaction at once. -/
def takeOver (inputs : PassInputs) (operation : DriveOperation) (targetState : State)
    (axis : Axis) : Axis :=
  let axis := startPdsTransition inputs operation targetState (releaseOwnerForSafetyTransfer axis)
  if axis.state = .faultReactionActive then processFaultReactionActive inputs axis else axis

def preemptOwnerForSafetyCommand (inputs : PassInputs) (command : Command) (axis : Axis) :
    Axis × Bool :=
  match overtakingRequest axis command with
  | none => (axis, false)
  | some (operation, targetState) => (takeOver inputs operation targetState axis, true)

def processSwitchOnDisabled (inputs : PassInputs) (command : Command) (axis : Axis) : Axis :=
  match command with
  | .shutdown => startPdsTransition inputs .shutdown .readyToSwitchOn axis
  | _ => axis

def processReadyToSwitchOn (inputs : PassInputs) (command : Command) (axis : Axis) : Axis :=
  match command with
  | .disableVoltage => startPdsTransition inputs .disableVoltage .switchOnDisabled axis
  | .switchOnOrDisableOperation => startPdsTransition inputs .switchOn .switchedOn axis
  | _ => axis

def processSwitchedOn (inputs : PassInputs) (command : Command) (axis : Axis) : Axis :=
  match command with
  | .disableVoltage => startPdsTransition inputs .disableVoltage .switchOnDisabled axis
  | .shutdown => startPdsTransition inputs .shutdown .readyToSwitchOn axis
  | .enableOperation => startPdsTransition inputs .enableOperation .operationEnabled axis
  | _ => axis

def processOperationEnabled (inputs : PassInputs) (command : Command) (axis : Axis) : Axis :=
  match command with
  | .quickStop => startPdsTransition inputs .quickStop .quickStopActive axis
  | .disableVoltage => startPdsTransition inputs .disableVoltage .switchOnDisabled axis
  | .shutdown => startPdsTransition inputs .shutdown .readyToSwitchOn axis
  | .switchOnOrDisableOperation => startPdsTransition inputs .disableOperation .switchedOn axis
  | _ => axis

def processQuickStopActive (inputs : PassInputs) (command : Command) (axis : Axis) : Axis :=
  match command with
  | .disableVoltage => startPdsTransition inputs .disableVoltage .switchOnDisabled axis
  | _ => axis

/-- The part of `processFault` after a transaction has been accepted. -/
def continueFaultReset (inputs : PassInputs) (axis : Axis) : Axis :=
  let axis := callDrive inputs .faultReset axis
  match inputs.operation .faultReset with
  | .busy => axis
  | .done =>
      let (axis, cleared) := diagClear inputs { axis with faultResetInProgress := false }
      if !cleared then axisEnterFaultReaction inputs .faultReset none axis
      else setState axis .switchOnDisabled
  | .error =>
      axisEnterFaultReaction inputs .faultReset none { axis with faultResetInProgress := false }

def processFault (inputs : PassInputs) (faultResetRisingEdge : Bool) (axis : Axis) : Axis :=
  if axis.faultResetInProgress then continueFaultReset inputs axis
  else if !faultResetRisingEdge then axis
  else continueFaultReset inputs { axis with faultResetInProgress := true }

def axisControlwordReadFailed (inputs : PassInputs) (axis : Axis) : Axis :=
  if axis.state = .fault ∧ axis.faultResetInProgress = false ∧
      axis.pdsTransitionOperation = none ∧ modeTransitionPending axis = false then axis
  else
    processFaultReactionActive inputs (axisEnterFaultReaction inputs .controlwordOD none axis)

/-- The state handler that runs when no owner is BUSY. -/
def processState (inputs : PassInputs) (command : Command) (faultResetRisingEdge : Bool)
    (axis : Axis) : Axis :=
  match axis.state with
  | .notReadyToSwitchOn => setState axis .switchOnDisabled
  | .switchOnDisabled => processSwitchOnDisabled inputs command axis
  | .readyToSwitchOn => processReadyToSwitchOn inputs command axis
  | .switchedOn => processSwitchedOn inputs command axis
  | .operationEnabled => processOperationEnabled inputs command axis
  | .quickStopActive => processQuickStopActive inputs command axis
  | .faultReactionActive => processFaultReactionActive inputs axis
  | .fault => processFault inputs faultResetRisingEdge axis
  | .unknown => axisEnterFaultReaction inputs .internalState none axis

/-- `CO_402_device_axisProcess` after a successful Controlword snapshot. -/
def axisProcessControlword (inputs : PassInputs) (controlword : Word) (axis : Axis) : Axis :=
  let faultResetRisingEdge := faultResetBit controlword && !axis.faultResetBitPrevious
  let axis := { axis with faultResetBitPrevious := faultResetBit controlword }
  let command := pdsCommand controlword
  match preemptOwnerForSafetyCommand inputs command axis with
  | (axis, true) => axis
  | (axis, false) =>
      if modeTransitionPending axis then axis
      else if axis.pdsTransitionOperation.isSome then continuePdsTransition inputs axis
      else processState inputs command faultResetRisingEdge axis

def axisProcess (inputs : PassInputs) (axis : Axis) : Axis :=
  if (axis.od .controlword).isNone || (axis.od .statusword).isNone then axis
  else
    match inputs.controlword .fsa with
    | none => axisControlwordReadFailed inputs axis
    | some controlword => axisProcessControlword inputs controlword axis

end CanopenRtt.Cia402.Device
