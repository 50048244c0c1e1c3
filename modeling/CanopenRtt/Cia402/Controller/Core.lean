import CanopenRtt.Cia402.State
/-!
# The Controller core

`controller/CO_402_controller.c`: a sequencer that observes the Statusword of
one remote axis and returns the next update of the PDS-owned Controlword bits.
A call with a NULL axis has no state to act on and is left out.
-/

namespace CanopenRtt.Cia402.Controller

def pdsControlwordMask : Word := 0x008F
def timeoutDisabled : UInt32 := 0

/-- User-requestable remote PDS targets (`CO_402_controller_target_t`). -/
inductive Target where
  | switchOnDisabled
  | readyToSwitchOn
  | switchedOn
  | operationEnabled
  | quickStopActive
  deriving DecidableEq, Repr

/-- Result of one processing step (`CO_402_controller_result_t`). -/
inductive Result where
  | idle
  | inProgress
  | targetReached
  | remoteFault
  | waitFaultReaction
  | statusUnknown
  | feedbackTimeout
  | transitionTimeout
  | policyBlocked
  deriving DecidableEq, Repr

/-- Caller-provided timeout policy, in microseconds. -/
structure Config where
  transitionTimeout : UInt32
  feedbackTimeout : UInt32
  deriving DecidableEq, Repr

/-- One remote Statusword observation. -/
structure Feedback where
  statuswordValid : Bool
  statusword : Word
  deriving DecidableEq, Repr

/-- PDS-owned Controlword update. -/
structure ControlwordUpdate where
  value : Word := 0
  mask : Word := 0
  valid : Bool := false
  deriving DecidableEq, Repr

/-- Runtime of one remote axis (`CO_402_controller_axis_t`). -/
structure Axis where
  config : Config
  remoteState : State := .unknown
  remoteStatusword : Word := 0
  remoteStateValid : Bool := false
  remoteStatuswordInvalid : Bool := false
  target : Target := .switchOnDisabled
  targetValid : Bool := false
  faultResetRequested : Bool := false
  faultResetPulseHigh : Bool := false
  transitionElapsed : UInt32 := 0
  feedbackElapsed : UInt32 := 0
  transitionFrom : State := .unknown
  pendingCommand : Command := .unknown
  result : Result := .idle
  deriving DecidableEq, Repr

def uint32Max : UInt32 := 0xFFFFFFFF

def saturatingAddU32 (value increment : UInt32) : UInt32 :=
  if uint32Max - value < increment then uint32Max else value + increment

/-- A target argument is a C enumeration: `targetValid`, with the target it names. -/
def targetOfCode : Int → Option Target
  | 0 => some .switchOnDisabled
  | 1 => some .readyToSwitchOn
  | 2 => some .switchedOn
  | 3 => some .operationEnabled
  | 4 => some .quickStopActive
  | _ => none

def targetState : Target → State
  | .switchOnDisabled => .switchOnDisabled
  | .readyToSwitchOn => .readyToSwitchOn
  | .switchedOn => .switchedOn
  | .operationEnabled => .operationEnabled
  | .quickStopActive => .quickStopActive

def commandValue : Command → Option Word
  | .disableVoltage => some 0x0000
  | .quickStop => some 0x0002
  | .shutdown => some 0x0006
  | .switchOnOrDisableOperation => some 0x0007
  | .enableOperation => some 0x000F
  | .faultReset => some 0x0080
  | .unknown => none

/-- The update of a command; `update` is left as it is for an unknown one. -/
def commandUpdate (command : Command) (update : ControlwordUpdate) : ControlwordUpdate :=
  match commandValue command with
  | some value => { value := value, mask := pdsControlwordMask, valid := true }
  | none => update

/-- The next command towards a target, and whether policy blocks the path. -/
def commandForTarget (state : State) (target : Target) : Command × Bool :=
  match state with
  | .notReadyToSwitchOn => (.unknown, false)
  | .switchOnDisabled =>
      match target with
      | .readyToSwitchOn | .switchedOn | .operationEnabled => (.shutdown, false)
      | _ => (.unknown, true)
  | .readyToSwitchOn =>
      match target with
      | .switchOnDisabled => (.disableVoltage, false)
      | .switchedOn | .operationEnabled => (.switchOnOrDisableOperation, false)
      | _ => (.unknown, true)
  | .switchedOn =>
      match target with
      | .switchOnDisabled => (.disableVoltage, false)
      | .readyToSwitchOn => (.shutdown, false)
      | .operationEnabled => (.enableOperation, false)
      | _ => (.unknown, true)
  | .operationEnabled =>
      match target with
      | .switchOnDisabled => (.disableVoltage, false)
      | .readyToSwitchOn => (.shutdown, false)
      | .switchedOn => (.switchOnOrDisableOperation, false)
      | .quickStopActive => (.quickStop, false)
      | .operationEnabled => (.unknown, true)
  | .quickStopActive =>
      match target with
      | .switchOnDisabled => (.disableVoltage, false)
      | _ => (.unknown, true)
  | .faultReactionActive | .fault | .unknown => (.unknown, false)

def clearTargetRuntime (axis : Axis) : Axis :=
  { axis with
    targetValid := false
    transitionElapsed := 0
    transitionFrom := .unknown
    pendingCommand := .unknown }

def setResult (axis : Axis) (result : Result) : Axis :=
  { axis with result := result }

def init (config : Config) : Axis :=
  { config := config }

/-- A published Fault Reset high still owes its low update after a reset. -/
def reset (axis : Axis) : Axis :=
  { init axis.config with faultResetPulseHigh := axis.faultResetPulseHigh }

/-- `CO_402_controller_setTarget`, with its return value. -/
def setTarget (axis : Axis) (code : Int) : Axis × Bool :=
  match targetOfCode code with
  | none => (axis, false)
  | some target =>
      if axis.faultResetRequested || axis.faultResetPulseHigh
          || (axis.remoteStateValid && axis.remoteState.faulted) then
        (axis, false)
      else if axis.targetValid && axis.target = target then
        -- a repeated target is no timeout keepalive
        (axis, true)
      else
        ({ axis with
            target := target
            targetValid := true
            transitionElapsed := 0
            transitionFrom := if axis.remoteStateValid then axis.remoteState else .unknown
            pendingCommand := .unknown
            result := .inProgress }, true)

def clearTarget (axis : Axis) : Axis :=
  setResult (clearTargetRuntime axis) .idle

/-- `CO_402_controller_requestFaultReset`, with its return value. -/
def requestFaultReset (axis : Axis) : Axis × Bool :=
  if !axis.remoteStateValid || axis.remoteState ≠ .fault
      || axis.faultResetRequested || axis.faultResetPulseHigh then
    (axis, false)
  else ({ axis with faultResetRequested := true }, true)

/-- The feedback part of a process call, and its `stateChanged`. -/
def observe (axis : Axis) (feedback : Feedback) (timeDifference : UInt32) : Axis × Bool :=
  if feedback.statuswordValid then
    let axis := { axis with feedbackElapsed := 0, remoteStatusword := feedback.statusword }
    let decodedState := decodeStatusword feedback.statusword
    if decodedState = .unknown then
      ({ axis with
          remoteState := .unknown
          remoteStateValid := false
          remoteStatuswordInvalid := true
          transitionElapsed := saturatingAddU32 axis.transitionElapsed timeDifference }, false)
    else
      let stateChanged := !axis.remoteStateValid || axis.remoteState ≠ decodedState
      let axis :=
        { axis with
          remoteState := decodedState
          remoteStateValid := true
          remoteStatuswordInvalid := false }
      if stateChanged then
        ({ axis with
            transitionElapsed := 0
            transitionFrom := decodedState
            pendingCommand := .unknown }, true)
      else (axis, false)
  else
    ({ axis with
        feedbackElapsed := saturatingAddU32 axis.feedbackElapsed timeDifference }, false)

def feedbackTimedOut (axis : Axis) : Bool :=
  axis.config.feedbackTimeout ≠ timeoutDisabled
    && axis.config.feedbackTimeout ≤ axis.feedbackElapsed

/-- The explicit low update after a Fault Reset high. -/
def lowUpdate : ControlwordUpdate :=
  { value := 0x0000, mask := pdsControlwordMask, valid := true }

/-- The branch of a process call that ends a Fault Reset pulse. -/
def deassertPulse (axis : Axis) : Axis × ControlwordUpdate :=
  let axis := { axis with faultResetPulseHigh := false, pendingCommand := .disableVoltage }
  if feedbackTimedOut axis then (setResult axis .feedbackTimeout, lowUpdate)
  else if axis.remoteStatuswordInvalid then (setResult axis .statusUnknown, lowUpdate)
  else if axis.remoteStateValid && axis.remoteState = .fault then
    (setResult axis .remoteFault, lowUpdate)
  else (setResult axis .idle, lowUpdate)

/-- The last part of a process call: a valid target and a remote state outside the
fault path. -/
def sequenceTarget (axis : Axis) (stateChanged : Bool) (timeDifference : UInt32) :
    Axis × ControlwordUpdate :=
  let desiredState := targetState axis.target
  if axis.remoteState = desiredState then
    (setResult { axis with transitionElapsed := 0, pendingCommand := .unknown } .targetReached, {})
  else
    let (command, policyBlocked) := commandForTarget axis.remoteState axis.target
    if policyBlocked then
      (setResult { axis with pendingCommand := .unknown } .policyBlocked, {})
    else
      let axis :=
        if stateChanged then axis
        else
          { axis with
            transitionElapsed := saturatingAddU32 axis.transitionElapsed timeDifference }
      if axis.config.transitionTimeout ≠ timeoutDisabled
          ∧ axis.config.transitionTimeout ≤ axis.transitionElapsed then
        (setResult { axis with pendingCommand := .unknown } .transitionTimeout, {})
      else
        (setResult { axis with pendingCommand := command } .inProgress, commandUpdate command {})

/-- `CO_402_controller_process` after its feedback part. -/
def processObserved (axis : Axis) (stateChanged : Bool) (timeDifference : UInt32) :
    Axis × ControlwordUpdate :=
  if axis.faultResetPulseHigh then deassertPulse axis
  else if feedbackTimedOut axis then (setResult axis .feedbackTimeout, {})
  else if axis.remoteStatuswordInvalid then (setResult axis .statusUnknown, {})
  else if !axis.remoteStateValid then
    (setResult axis (if axis.targetValid then .inProgress else .idle), {})
  else if axis.remoteState = .faultReactionActive then
    (setResult { clearTargetRuntime axis with faultResetRequested := false }
      .waitFaultReaction, {})
  else if axis.remoteState = .fault then
    let axis := clearTargetRuntime axis
    if axis.faultResetRequested then
      (setResult { axis with
          faultResetRequested := false
          faultResetPulseHigh := true
          pendingCommand := .faultReset } .inProgress, commandUpdate .faultReset {})
    else (setResult axis .remoteFault, {})
  else
    let axis := { axis with faultResetRequested := false }
    if !axis.targetValid then
      (setResult { axis with transitionElapsed := 0, pendingCommand := .unknown } .idle, {})
    else sequenceTarget axis stateChanged timeDifference

/-- `CO_402_controller_process` with valid arguments: the axis, which records the
returned result, and the update. -/
def process (axis : Axis) (feedback : Feedback) (timeDifference : UInt32) :
    Axis × ControlwordUpdate :=
  let (axis, stateChanged) := observe axis feedback timeDifference
  processObserved axis stateChanged timeDifference

/-- `CO_402_controller_process` with pointers that may be NULL: `none` is a NULL
feedback, and `updateGiven` says that the update pointer is not NULL. -/
def processCall (axis : Axis) (feedback : Option Feedback) (timeDifference : UInt32)
    (updateGiven : Bool) : Axis × ControlwordUpdate :=
  match feedback with
  | some feedback =>
      if updateGiven then process axis feedback timeDifference
      else (setResult axis .statusUnknown, {})
  | none => (setResult axis .statusUnknown, {})

def getRemoteState (axis : Axis) : State :=
  if !axis.remoteStateValid then .unknown else axis.remoteState

def getResult (axis : Axis) : Result := axis.result

/-- Merge one PDS update into a complete Controlword. -/
def applyControlwordUpdate (currentControlword : Word) (update : ControlwordUpdate) : Word :=
  if !update.valid then currentControlword
  else (currentControlword &&& ~~~update.mask) ||| (update.value &&& update.mask)

/-! ## Updates -/

/-- Only Fault Reset asserts bit 7. -/
theorem faultResetBit_commandUpdate (command : Command) :
    faultResetBit (commandUpdate command {}).value = true ↔ command = .faultReset := by
  cases command <;> decide

theorem commandUpdate_mask (command : Command) (hvalid : (commandUpdate command {}).valid = true) :
    (commandUpdate command {}).mask = pdsControlwordMask := by
  cases command <;> first | rfl | exact absurd hvalid (by decide)

/-- The sequencer never selects Fault Reset: that command has its own request. -/
theorem commandForTarget_ne_faultReset (state : State) (target : Target) :
    (commandForTarget state target).1 ≠ .faultReset := by
  cases state <;> cases target <;> decide

/-- The bit 7 of a merged Controlword is that of its update. -/
theorem faultResetBit_apply (controlword : Word) {update : ControlwordUpdate}
    (hvalid : update.valid = true) (hmask : update.mask = pdsControlwordMask) :
    faultResetBit (applyControlwordUpdate controlword update) = faultResetBit update.value := by
  obtain ⟨value, mask, valid⟩ := update
  subst hvalid hmask
  have hbits : (controlword &&& ~~~pdsControlwordMask ||| value &&& pdsControlwordMask) &&&
      controlFaultReset = value &&& controlFaultReset := by
    rw [BitVec.and_or_distrib_right, BitVec.and_assoc, BitVec.and_assoc]
    have hclear : ~~~pdsControlwordMask &&& controlFaultReset = 0 := by decide
    have hkeep : pdsControlwordMask &&& controlFaultReset = controlFaultReset := by decide
    rw [hclear, hkeep]
    simp
  unfold faultResetBit applyControlwordUpdate
  simp [hbits]

end CanopenRtt.Cia402.Controller
