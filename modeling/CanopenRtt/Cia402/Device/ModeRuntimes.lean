import CanopenRtt.Cia402.Device.Axis
/-!
# Profile Position, Profile Velocity and Homing supervisors

`modes/CO_402_mode_pp.c`, `CO_402_mode_pv.c` and `CO_402_mode_hm.c`. A mode step
returns the axis and whether the step is valid; `false` requests fault reaction.
-/

namespace CanopenRtt.Cia402.Device

/-! ## Profile Position -/

/-- The parameter reads of a set-point edge, in source order: a failing read
leaves the fields before it overwritten. -/
def ppReadCommand (inputs : PassInputs) (controlword : Word)
    (command : ProfilePositionCommand) : ProfilePositionCommand × Bool :=
  match inputs.targetPosition with
  | none => (command, false)
  | some targetPosition =>
  let command := { command with targetPosition := targetPosition }
  match inputs.profileVelocityLimit with
  | none => (command, false)
  | some profileVelocity =>
  let command := { command with profileVelocity := profileVelocity }
  match inputs.profileAcceleration with
  | none => (command, false)
  | some profileAcceleration =>
  let command := { command with profileAcceleration := profileAcceleration }
  match inputs.profileDeceleration with
  | none => (command, false)
  | some profileDeceleration =>
  let command := { command with profileDeceleration := profileDeceleration }
  match inputs.quickStopDeceleration with
  | none => (command, false)
  | some quickStopDeceleration =>
  let command := { command with quickStopDeceleration := quickStopDeceleration }
  match inputs.motionProfileType with
  | none => (command, false)
  | some motionProfileType =>
  ({ command with
      motionProfileType := motionProfileType
      newSetPoint := false
      changeImmediately := bitSet controlword controlwordPPChangeImmediately
      relative := bitSet controlword controlwordPPRelative
      halt := bitSet controlword controlwordHalt }, true)

def ppReset (controlword : Word) : PPRuntime :=
  { previousNewSetPoint := bitSet controlword controlwordModeBit4 }

/-- The tail of `CO_402_mode_pp_process`: the DriveIF call and its result. -/
def ppExecute (inputs : PassInputs) (controlword : Word) (risingEdge : Bool) (axis : Axis) :
    Axis × Bool :=
  let command :=
    { axis.pp.acceptedCommand with
      newSetPoint := risingEdge
      halt := bitSet controlword controlwordHalt }
  let result := inputs.profilePosition command
  let axis := axis.record (.profilePosition command result)
  if result = .error then
    ({ axis with
        pp :=
          { axis.pp with
            followingError := true
            targetReached := false
            setPointAcknowledge := false
            commandActive := false } }, false)
  else
    ({ axis with
        pp :=
          { axis.pp with
            setPointAcknowledge := risingEdge || axis.pp.setPointAcknowledge
            commandActive := decide (result = .busy)
            targetReached := decide (result = .done) } }, true)

def ppProcess (inputs : PassInputs) (controlword : Word) (axis : Axis) : Axis × Bool :=
  if !axis.drive.profilePosition then (axis, false)
  else
    let newSetPoint := bitSet controlword controlwordModeBit4
    let risingEdge := newSetPoint && !axis.pp.previousNewSetPoint
    let runtime :=
      { axis.pp with
        setPointAcknowledge := newSetPoint && axis.pp.setPointAcknowledge
        previousNewSetPoint := newSetPoint
        followingError := false }
    if risingEdge then
      let (acceptedCommand, ok) := ppReadCommand inputs controlword runtime.acceptedCommand
      let runtime := { runtime with acceptedCommand := acceptedCommand }
      if !ok then
        ({ axis with
            pp :=
              { runtime with
                followingError := true
                targetReached := false
                setPointAcknowledge := false
                commandActive := false } }, false)
      else ppExecute inputs controlword true { axis with pp := runtime }
    else if !runtime.commandActive then ({ axis with pp := runtime }, true)
    else ppExecute inputs controlword false { axis with pp := runtime }

def ppStatusword (runtime : PPRuntime) : Word :=
  (if runtime.targetReached then statuswordTargetReached else 0) |||
    (if runtime.setPointAcknowledge then statuswordPPSetpointAcknowledge else 0) |||
    (if runtime.followingError then statuswordPPFollowingError else 0)

/-! ## Profile Velocity -/

def pvReadCommand (inputs : PassInputs) (controlword : Word) : Option ProfileVelocityCommand := do
  let targetVelocity ← inputs.targetVelocity
  let profileAcceleration ← inputs.profileAcceleration
  let profileDeceleration ← inputs.profileDeceleration
  let quickStopDeceleration ← inputs.quickStopDeceleration
  return {
    targetVelocity := targetVelocity
    profileAcceleration := profileAcceleration
    profileDeceleration := profileDeceleration
    quickStopDeceleration := quickStopDeceleration
    halt := bitSet controlword controlwordHalt }

def pvReset : PVRuntime := {}

def pvProcess (inputs : PassInputs) (controlword : Word) (axis : Axis) : Axis × Bool :=
  if !axis.drive.profileVelocity then (axis, false)
  else
    match pvReadCommand inputs controlword with
    | none => ({ axis with pv := { targetReached := false } }, false)
    | some command =>
        let result := inputs.profileVelocity command
        let axis := axis.record (.profileVelocity command result)
        if result = .error then ({ axis with pv := { targetReached := false } }, false)
        else ({ axis with pv := { targetReached := decide (result = .done) } }, true)

def pvStatusword (runtime : PVRuntime) : Word :=
  if runtime.targetReached then statuswordTargetReached else 0

/-! ## Homing -/

/-- The parameter reads of a homing start edge, in source order. -/
def hmReadCommand (inputs : PassInputs) (command : HomingCommand) : HomingCommand × Bool :=
  match inputs.homeOffset with
  | none => (command, false)
  | some homeOffset =>
  let command := { command with homeOffset := homeOffset }
  match inputs.homingMethod with
  | none => (command, false)
  | some homingMethod =>
  let command := { command with homingMethod := homingMethod }
  match inputs.speedSwitch with
  | none => (command, false)
  | some speedSwitch =>
  let command := { command with speedSwitch := speedSwitch }
  match inputs.speedZero with
  | none => (command, false)
  | some speedZero =>
  let command := { command with speedZero := speedZero }
  match inputs.homingAcceleration with
  | none => (command, false)
  | some acceleration =>
  ({ command with
      acceleration := acceleration
      start := false
      startEdge := false
      halt := false }, true)

/-- Homing reports bit 10 while idle as well as after completion. -/
def hmReset (controlword : Word) : HMRuntime :=
  { previousStart := bitSet controlword controlwordModeBit4
    targetReached := true }

/-- The tail of `CO_402_mode_hm_process`, while a homing action is active. -/
def hmExecute (inputs : PassInputs) (controlword : Word) (start risingEdge : Bool)
    (axis : Axis) : Axis × Bool :=
  -- A dropped start bit turns the action into an abort until the drive answers.
  let aborting := axis.hm.aborting || !start
  let command :=
    { axis.hm.acceptedCommand with
      halt := bitSet controlword controlwordHalt
      start := start && !aborting
      startEdge := risingEdge && !aborting }
  let result := inputs.homing command
  let axis := axis.record (.homing command result)
  match result with
  | .error =>
      ({ axis with
          hm :=
            { axis.hm with
              active := false
              aborting := false
              attained := false
              targetReached := false
              error := true } }, false)
  | .busy =>
      ({ axis with
          hm := { axis.hm with active := true, aborting := aborting, targetReached := false } },
        true)
  | .done =>
      ({ axis with
          hm :=
            { axis.hm with
              active := false
              aborting := false
              attained := !aborting
              targetReached := true } }, true)

def hmProcess (inputs : PassInputs) (controlword : Word) (axis : Axis) : Axis × Bool :=
  if !axis.drive.homing then (axis, false)
  else
    let start := bitSet controlword controlwordModeBit4
    let risingEdge := start && !axis.hm.previousStart
    let runtime := { axis.hm with previousStart := start, error := false }
    if risingEdge && !runtime.active then
      let (acceptedCommand, ok) := hmReadCommand inputs runtime.acceptedCommand
      let runtime := { runtime with acceptedCommand := acceptedCommand }
      if !ok then
        ({ axis with
            hm :=
              { runtime with
                active := false
                aborting := false
                attained := false
                targetReached := false
                error := true } }, false)
      else
        hmExecute inputs controlword start risingEdge
          { axis with
            hm := { runtime with active := true, attained := false, targetReached := false } }
    else if !runtime.active then ({ axis with hm := runtime }, true)
    else hmExecute inputs controlword start risingEdge { axis with hm := runtime }

def hmStatusword (runtime : HMRuntime) : Word :=
  (if runtime.targetReached then statuswordTargetReached else 0) |||
    (if runtime.attained then statuswordHMAttained else 0) |||
    (if runtime.error then statuswordHMError else 0)

end CanopenRtt.Cia402.Device
