import CanopenRtt.Cia402.Device.DriveFollows
import CanopenRtt.Cia402.Device.ModeStage
import CanopenRtt.Cia402.Device.SupportedModes
/-!
# The set-point handshake

A set-point of Profile Position begins with an edge of bit 4 in a pass that serves the mode, and is
polled while the drive answers BUSY. `SetPointWatch` adds the latest set-point to an axis. The
acknowledge bit is taken back by the mode itself or with its runtime; a pass in which the exit
from the mode is BUSY or fails does neither, and is left out of what is said about bit 4.
-/

namespace CanopenRtt.Cia402.Device

open CanopenRtt.Support

/-! ## What Profile Position makes of a pass -/

/-- A set-point with its flags. -/
structure SetPointParameters where
  targetPosition : BitVec 32
  profileVelocity : BitVec 32
  profileAcceleration : BitVec 32
  profileDeceleration : BitVec 32
  quickStopDeceleration : BitVec 32
  motionProfileType : BitVec 16
  changeImmediately : Bool
  relative : Bool
  deriving DecidableEq, Repr

def ProfilePositionCommand.parameters (command : ProfilePositionCommand) : SetPointParameters where
  targetPosition := command.targetPosition
  profileVelocity := command.profileVelocity
  profileAcceleration := command.profileAcceleration
  profileDeceleration := command.profileDeceleration
  quickStopDeceleration := command.quickStopDeceleration
  motionProfileType := command.motionProfileType
  changeImmediately := command.changeImmediately
  relative := command.relative

/-- The set-point that the dictionary and the Controlword hold in a pass, if it can be read. -/
def setPointParameters (inputs : PassInputs) (controlword : Word) : Option SetPointParameters := do
  let targetPosition ← inputs.targetPosition
  let profileVelocity ← inputs.profileVelocityLimit
  let profileAcceleration ← inputs.profileAcceleration
  let profileDeceleration ← inputs.profileDeceleration
  let quickStopDeceleration ← inputs.quickStopDeceleration
  let motionProfileType ← inputs.motionProfileType
  return {
    targetPosition := targetPosition
    profileVelocity := profileVelocity
    profileAcceleration := profileAcceleration
    profileDeceleration := profileDeceleration
    quickStopDeceleration := quickStopDeceleration
    motionProfileType := motionProfileType
    changeImmediately := bitSet controlword controlwordPPChangeImmediately
    relative := bitSet controlword controlwordPPRelative }

theorem setPointParameters_eq (inputs : PassInputs) (controlword : Word)
    (command : ProfilePositionCommand) : setPointParameters inputs controlword =
      if (ppReadCommand inputs controlword command).2 then
        some (ppReadCommand inputs controlword command).1.parameters
      else none := by
  unfold setPointParameters ppReadCommand
  cases inputs.targetPosition with
  | none => rfl
  | some targetPosition =>
  cases inputs.profileVelocityLimit with
  | none => rfl
  | some profileVelocity =>
  cases inputs.profileAcceleration with
  | none => rfl
  | some profileAcceleration =>
  cases inputs.profileDeceleration with
  | none => rfl
  | some profileDeceleration =>
  cases inputs.quickStopDeceleration with
  | none => rfl
  | some quickStopDeceleration =>
  cases inputs.motionProfileType with
  | none => rfl
  | some motionProfileType => rfl

/-- The runtime after the drive has answered a callback. -/
structure PPAnswered (result : DriveResult) (edge : Bool) (before after : PPRuntime) : Prop where
  accepted : after.acceptedCommand = before.acceptedCommand
  previous : after.previousNewSetPoint = before.previousNewSetPoint
  active : after.commandActive = decide (result = .busy)
  acknowledge : after.setPointAcknowledge =
    (decide (result ≠ .error) && (edge || before.setPointAcknowledge))

/-- One callback, of a runtime that has been prepared for it. -/
structure PPCalled (controlword : Word) (edge : Bool) (before after : PPRuntime)
    (command : ProfilePositionCommand) (result : DriveResult) : Prop where
  parameters : command.parameters = before.acceptedCommand.parameters
  newSetPoint : command.newSetPoint = edge
  halt : command.halt = bitSet controlword controlwordHalt
  answered : PPAnswered result edge before after

theorem ppExecute_called (inputs : PassInputs) (controlword : Word) (risingEdge : Bool)
    (axis : Axis) : ∃ command result,
      (ppExecute inputs controlword risingEdge axis).1.modeView.calls =
        axis.modeView.calls ++ [.profilePosition command result] ∧
      PPCalled controlword risingEdge axis.pp (ppExecute inputs controlword risingEdge axis).1.pp
        command result := by
  unfold ppExecute
  dsimp only
  generalize hcommand : ({ axis.pp.acceptedCommand with
    newSetPoint := risingEdge
    halt := bitSet controlword controlwordHalt } : ProfilePositionCommand) = command
  have hparameters : command.parameters = axis.pp.acceptedCommand.parameters := by
    rw [← hcommand]
    rfl
  have hedge : command.newSetPoint = risingEdge := by rw [← hcommand]
  have hhalt : command.halt = bitSet controlword controlwordHalt := by rw [← hcommand]
  have hcalls : ∀ result, (axis.record (.profilePosition command result)).modeView.calls =
      axis.modeView.calls ++ [.profilePosition command result] := fun result =>
    calls_record rfl axis
  cases inputs.profilePosition command with
  | error =>
      refine ⟨command, .error, hcalls .error, hparameters, hedge, hhalt, ?_⟩
      constructor <;> rfl
  | busy =>
      refine ⟨command, .busy, hcalls .busy, hparameters, hedge, hhalt, ?_⟩
      constructor <;> rfl
  | done =>
      refine ⟨command, .done, hcalls .done, hparameters, hedge, hhalt, ?_⟩
      constructor <;> rfl

/-- A step of Profile Position on one runtime: the runtime after it, its callbacks, and its
validity. -/
inductive PPStep (inputs : PassInputs) (controlword : Word) (bit4 present : Bool) (pp : PPRuntime) :
    PPRuntime → List Action → Bool → Prop where
  | missing (hmissing : present = false) : PPStep inputs controlword bit4 present pp pp [] false
  | unread (hlow : pp.previousNewSetPoint = false) (hhigh : bit4 = true)
      (hparameters : setPointParameters inputs controlword = none)
      (accepted : ProfilePositionCommand) :
      PPStep inputs controlword bit4 present pp
        { acceptedCommand := accepted
          previousNewSetPoint := bit4
          followingError := true } [] false
  | quiet (hsteady : bit4 = true → pp.previousNewSetPoint = true)
      (hidle : pp.commandActive = false) :
      PPStep inputs controlword bit4 present pp
        { pp with
          setPointAcknowledge := bit4 && pp.setPointAcknowledge
          previousNewSetPoint := bit4
          followingError := false } [] true
  | edge {ok : Bool} (hlow : pp.previousNewSetPoint = false) (hhigh : bit4 = true)
      {accepted : ProfilePositionCommand}
      (hparameters : setPointParameters inputs controlword = some accepted.parameters)
      {after : PPRuntime} {command : ProfilePositionCommand} {result : DriveResult}
      (hcalled : PPCalled controlword true
        { pp with
          acceptedCommand := accepted
          setPointAcknowledge := bit4 && pp.setPointAcknowledge
          previousNewSetPoint := bit4
          followingError := false } after command result) :
      PPStep inputs controlword bit4 present pp after [.profilePosition command result] ok
  | poll {ok : Bool} (hsteady : bit4 = true → pp.previousNewSetPoint = true)
      (hactive : pp.commandActive = true) {after : PPRuntime} {command : ProfilePositionCommand}
      {result : DriveResult}
      (hcalled : PPCalled controlword false
        { pp with
          setPointAcknowledge := bit4 && pp.setPointAcknowledge
          previousNewSetPoint := bit4
          followingError := false } after command result) :
      PPStep inputs controlword bit4 present pp after [.profilePosition command result] ok

theorem ppStep_ppProcess (inputs : PassInputs) (controlword : Word) (axis : Axis) :
    ∃ called, (ppProcess inputs controlword axis).1.modeView.calls =
        axis.modeView.calls ++ called ∧
      PPStep inputs controlword (bitSet controlword controlwordModeBit4) axis.drive.profilePosition
        axis.pp (ppProcess inputs controlword axis).1.pp called
        (ppProcess inputs controlword axis).2 := by
  have hnothing : axis.modeView.calls = axis.modeView.calls ++ [] := (List.append_nil _).symm
  unfold ppProcess
  split
  · rename_i hmissing
    exact ⟨[], hnothing, .missing (by simpa using hmissing)⟩
  · dsimp only
    generalize bitSet controlword controlwordModeBit4 = bit4
    split
    · rename_i hrises
      obtain ⟨hhigh, hlow⟩ : bit4 = true ∧ axis.pp.previousNewSetPoint = false := by
        simpa using hrises
      have hparameters := setPointParameters_eq inputs controlword axis.pp.acceptedCommand
      cases hread : (ppReadCommand inputs controlword axis.pp.acceptedCommand).2 with
      | false =>
          rw [hread, if_neg Bool.false_ne_true] at hparameters
          exact ⟨[], hnothing, .unread hlow hhigh hparameters _⟩
      | true =>
          rw [hread, if_pos rfl] at hparameters
          obtain ⟨command, result, hcalls, hcalled⟩ := ppExecute_called inputs controlword true
            { axis with
              pp :=
                { axis.pp with
                  acceptedCommand := (ppReadCommand inputs controlword axis.pp.acceptedCommand).1
                  setPointAcknowledge := bit4 && axis.pp.setPointAcknowledge
                  previousNewSetPoint := bit4
                  followingError := false } }
          rw [if_neg (by decide)]
          exact ⟨_, hcalls, .edge hlow hhigh hparameters hcalled⟩
    · rename_i hrises
      have hsteady : bit4 = true → axis.pp.previousNewSetPoint = true := by simpa using hrises
      split
      · rename_i hidle
        exact ⟨[], hnothing, .quiet hsteady (by simpa using hidle)⟩
      · rename_i hactive
        obtain ⟨command, result, hcalls, hcalled⟩ := ppExecute_called inputs controlword false
          { axis with
            pp :=
              { axis.pp with
                setPointAcknowledge := bit4 && axis.pp.setPointAcknowledge
                previousNewSetPoint := bit4
                followingError := false } }
        exact ⟨_, hcalls, .poll hsteady (by simpa using hactive) hcalled⟩

/-! ## Set-points -/

structure SetPointCall where
  command : ProfilePositionCommand
  result : DriveResult
  deriving DecidableEq, Repr

/-- What was read in the pass of the edge, the callbacks since, and bit 4 of the passes since that
could read it, except where the exit from the mode does not end, each oldest first. -/
structure SetPoint where
  parameters : Option SetPointParameters
  calls : List SetPointCall
  bits : List Bool
  deriving DecidableEq, Repr

def Action.setPointCall : Action → Option SetPointCall
  | .profilePosition command result => some ⟨command, result⟩
  | _ => none

/-- The profilePosition callbacks of a pass. -/
def setPointCalls (inputs : PassInputs) (axis : Axis) : List SetPointCall :=
  (runtimeCalls inputs axis).filterMap Action.setPointCall

/-- An axis, the last Controlword that a pass could read, its latest set-point, and whether the
last pass left the drive BUSY with it. -/
structure SetPointWatch where
  axis : Axis
  last : Option Word
  latest : Option SetPoint
  opened : Bool

def SetPointWatch.start (config : ValidAxisConfig) (image : ODImage) (od : ODCache) :
    SetPointWatch where
  axis := boundAxis config image od
  last := none
  latest := none
  opened := false

def newSetPointBit (controlword : Word) : Bool :=
  bitSet controlword controlwordModeBit4

/-- The pass serves the mode and finds bit 4 high, and it was low when it was last read. -/
structure SetPointWatch.Edge (w : SetPointWatch) (inputs : PassInputs) (controlword : Word) :
    Prop where
  serves : Serves inputs w.axis .profilePosition
  high : newSetPointBit controlword = true
  low : w.last.map newSetPointBit = some false

instance (w : SetPointWatch) (inputs : PassInputs) (controlword : Word) :
    Decidable (w.Edge inputs controlword) :=
  decidable_of_iff (Serves inputs w.axis .profilePosition ∧ newSetPointBit controlword = true ∧
      w.last.map newSetPointBit = some false)
    ⟨fun ⟨hserves, hhigh, hlow⟩ => ⟨hserves, hhigh, hlow⟩,
      fun ⟨hserves, hhigh, hlow⟩ => ⟨hserves, hhigh, hlow⟩⟩

def SetPoint.extend (setPoint : SetPoint) (calls : List SetPointCall) (bit4 : Bool) : SetPoint :=
  { setPoint with
    calls := setPoint.calls ++ calls
    bits := setPoint.bits ++ [bit4] }

def SetPointWatch.pass (w : SetPointWatch) (inputs : PassInputs) : SetPointWatch :=
  match inputs.controlword .snapshot with
  | none => { w with axis := processAxis inputs w.axis, opened := false }
  | some controlword =>
      let calls := setPointCalls inputs w.axis
      { axis := processAxis inputs w.axis
        last := some controlword
        latest :=
          if w.Edge inputs controlword then
            some ⟨setPointParameters inputs controlword, calls, [true]⟩
          else if (staged inputs w.axis).Leaving inputs then w.latest
          else w.latest.map (·.extend calls (newSetPointBit controlword))
        opened := (calls.getLast?.map fun call => decide (call.result = .busy)).getD false }

def SetPointWatch.step (w : SetPointWatch) : AxisCall → SetPointWatch
  | .process inputs => w.pass inputs
  | call => { w with axis := call.apply w.axis }

/-- One parameter set, newSetPoint in the first callback only, and polls only while the drive
answers BUSY. -/
structure SetPoint.Lawful (setPoint : SetPoint) : Prop where
  parameters : ∀ call ∈ setPoint.calls, setPoint.parameters = some call.command.parameters
  edge : ∀ first rest, setPoint.calls = first :: rest → first.command.newSetPoint = true ∧
    ∀ call ∈ rest, call.command.newSetPoint = false
  busy : ∀ call ∈ setPoint.calls.dropLast, call.result = .busy

/-- The drive has accepted the edge. -/
def SetPoint.Accepted (setPoint : SetPoint) : Prop :=
  ∃ first rest, setPoint.calls = first :: rest ∧ first.result ≠ .error

/-- The set-point was accepted, and bit 4 has been high since. -/
structure SetPoint.Held (setPoint : SetPoint) : Prop where
  accepted : setPoint.Accepted
  high : ∀ bit4 ∈ setPoint.bits, bit4 = true

theorem SetPoint.Lawful.opening {parameters : Option SetPointParameters} {call : SetPointCall}
    {bits : List Bool} (hparameters : parameters = some call.command.parameters)
    (hedge : call.command.newSetPoint = true) : SetPoint.Lawful ⟨parameters, [call], bits⟩ where
  parameters := List.forall_mem_singleton.mpr hparameters
  edge := by
    intro first rest hcalls
    obtain ⟨rfl, rfl⟩ := List.cons.inj hcalls
    exact ⟨hedge, nofun⟩
  busy := nofun

theorem SetPoint.Lawful.quiet {setPoint : SetPoint} (h : setPoint.Lawful) (bit4 : Bool) :
    (setPoint.extend [] bit4).Lawful := by
  have hcalls : (setPoint.extend [] bit4).calls = setPoint.calls := List.append_nil _
  refine ⟨?_, ?_, ?_⟩
  · rw [hcalls]
    exact h.parameters
  · rw [hcalls]
    exact h.edge
  · rw [hcalls]
    exact h.busy

theorem SetPoint.Lawful.poll {setPoint : SetPoint} (h : setPoint.Lawful) {call : SetPointCall}
    (bit4 : Bool) (hsome : setPoint.calls ≠ [])
    (hparameters : setPoint.parameters = some call.command.parameters)
    (hedge : call.command.newSetPoint = false)
    (hbusy : ∀ earlier ∈ setPoint.calls, earlier.result = .busy) :
    (setPoint.extend [call] bit4).Lawful where
  parameters := List.forall_mem_append.mpr
    ⟨h.parameters, List.forall_mem_singleton.mpr hparameters⟩
  edge := by
    obtain ⟨first, rest, hcalls⟩ := List.exists_cons_of_ne_nil hsome
    obtain ⟨hfirst, hrest⟩ := h.edge first rest hcalls
    intro first' rest' hextended
    unfold SetPoint.extend at hextended
    dsimp only at hextended
    rw [hcalls, List.cons_append] at hextended
    obtain ⟨rfl, rfl⟩ := List.cons.inj hextended
    exact ⟨hfirst, List.forall_mem_append.mpr ⟨hrest, List.forall_mem_singleton.mpr hedge⟩⟩
  busy := by
    unfold SetPoint.extend
    rw [List.dropLast_concat]
    exact hbusy

theorem SetPoint.Held.extend {setPoint : SetPoint} (h : setPoint.Held) (calls : List SetPointCall) :
    (setPoint.extend calls true).Held := by
  obtain ⟨⟨first, rest, hcalls, hresult⟩, hhigh⟩ := h
  refine ⟨⟨first, rest ++ calls, ?_, hresult⟩, ?_⟩
  · unfold SetPoint.extend
    rw [hcalls]
    rfl
  · exact List.forall_mem_append.mpr ⟨hhigh, List.forall_mem_singleton.mpr rfl⟩

/-! ## The invariant -/

/-- The runtime of an axis whose next pass may serve Profile Position. -/
structure SetPointWatch.Tracks (w : SetPointWatch) : Prop where
  last : w.last.map newSetPointBit = some w.axis.pp.previousNewSetPoint
  active : w.axis.pp.commandActive = w.opened
  setPoint : w.opened = true → ∃ current, w.latest = some current ∧ current.calls ≠ [] ∧
    current.parameters = some w.axis.pp.acceptedCommand.parameters ∧
    ∀ call ∈ current.calls, call.result = .busy

structure SetPointWatch.Invariant (w : SetPointWatch) : Prop where
  ownership : w.axis.control.Ownership
  supported : w.axis.control.ModesIn (SupportedBy w.axis.supportedModes)
  capable : SupportedBy w.axis.supportedModes .profilePosition →
    w.axis.drive.profilePosition = true
  lawful : ∀ current, w.latest = some current → current.Lawful
  tracks : w.axis.mode = .profilePosition → ¬ w.axis.Closed → w.Tracks
  /-- an axis in another mode has no acknowledge to publish -/
  elsewhere : w.axis.mode ≠ .profilePosition → w.axis.pp.setPointAcknowledge = false
  held : w.axis.pp.setPointAcknowledge = true → ∃ current, w.latest = some current ∧ current.Held

theorem profilePosition_of_supported {config : ValidAxisConfig}
    (h : SupportedBy (supportedModesForAxis config) .profilePosition) :
    config.drive.profilePosition = true := by
  by_contra habsent
  rw [Bool.not_eq_true] at habsent
  rcases h with hnone | hbits
  · cases hnone
  refine hbits ?_
  have hpv : (if config.drive.profileVelocity then supportedModePV else 0) &&& supportedModePP =
      0#32 := by
    split_ifs <;> decide
  have hhm : (if config.drive.homing then supportedModeHM else 0) &&& supportedModePP =
      0#32 := by
    split_ifs <;> decide
  have hcyclic : ∀ modes : BitVec 32, (modes &&& supportedModeCSP ||| modes &&& supportedModeCSV |||
      modes &&& supportedModeCST) &&& supportedModePP = 0#32 := by
    intro modes
    rw [BitVec.and_or_distrib_right, BitVec.and_or_distrib_right, BitVec.and_assoc,
      BitVec.and_assoc, BitVec.and_assoc]
    have hcsp : supportedModeCSP &&& supportedModePP = 0#32 := by decide
    have hcsv : supportedModeCSV &&& supportedModePP = 0#32 := by decide
    have hcst : supportedModeCST &&& supportedModePP = 0#32 := by decide
    rw [hcsp, hcsv, hcst, BitVec.and_zero]
    rfl
  change supportedModesForAxis config &&& supportedModePP = 0#32
  unfold supportedModesForAxis
  split
  · exact BitVec.zero_and
  · rw [habsent, if_neg Bool.false_ne_true, BitVec.and_or_distrib_right,
      BitVec.and_or_distrib_right, BitVec.and_or_distrib_right, hpv, hhm]
    cases config.sync with
    | none => rfl
    | some sync =>
        dsimp only
        split_ifs
        · rw [hcyclic]
          rfl
        · rfl

theorem SetPointWatch.Invariant.start (config : ValidAxisConfig) (image : ODImage) (od : ODCache) :
    (SetPointWatch.start config image od).Invariant where
  ownership := ownership_boundAxis config image od
  supported := ⟨.inl rfl, .inl rfl⟩
  capable := profilePosition_of_supported
  lawful := nofun
  tracks := nofun
  elsewhere _ := rfl
  held := nofun

theorem SetPointWatch.Invariant.aside {w : SetPointWatch} (h : w.Invariant) {after : Axis}
    (haside : Aside w.axis after) : SetPointWatch.Invariant { w with axis := after } := by
  have hpp : after.pp = w.axis.pp := congrArg ModeView.pp haside.view
  obtain ⟨d, hcontrol⟩ := haside.control
  refine {
    ownership := haside.ownership h.ownership
    supported := ?_
    capable := ?_
    lawful := h.lawful
    tracks := ?_
    elsewhere := ?_
    held := ?_ }
  · dsimp only
    rw [hcontrol, haside.supportedModes]
    exact ⟨h.supported.active, h.supported.entering⟩
  · dsimp only
    rw [haside.supportedModes, haside.drive]
    exact h.capable
  · intro hmode hopen
    have htracks := h.tracks (haside.mode.symm.trans hmode) (mt haside.closed.mpr hopen)
    constructor
    · dsimp only
      rw [hpp]
      exact htracks.last
    · dsimp only
      rw [hpp]
      exact htracks.active
    · dsimp only
      rw [hpp]
      exact htracks.setPoint
  · dsimp only
    rw [hpp, haside.mode]
    exact h.elsewhere
  · dsimp only
    rw [hpp]
    exact h.held

/-! ## A pass that does not serve Profile Position -/

theorem setPointCalls_of_calls {inputs : PassInputs} {axis : Axis} {called : List Action}
    (hown : axis.control.Ownership)
    (h : (processAxis inputs axis).modeView.calls = axis.modeView.calls ++ called) :
    setPointCalls inputs axis = called.filterMap Action.setPointCall := by
  rw [calls_processAxis inputs hown] at h
  unfold setPointCalls
  rw [List.append_cancel_left h]

theorem Action.setPointCall_eq_none {action : Action}
    (h : action.runtimeMode ≠ .profilePosition) : action.setPointCall = none := by
  cases action <;> first | rfl | exact absurd rfl h

theorem setPointCalls_of_unserved {inputs : PassInputs} {axis : Axis}
    (hown : axis.control.Ownership) (h : ¬ Serves inputs axis .profilePosition) :
    setPointCalls inputs axis = [] :=
  List.filterMap_eq_nil_iff.mpr fun action haction =>
    Action.setPointCall_eq_none (runtimeMode_of_unserved hown h action haction)

/-- Such a pass adds bit 4 to the set-point at most, and leaves none to poll. -/
theorem SetPointWatch.pass_of_unserved {w : SetPointWatch} {inputs : PassInputs}
    (hown : w.axis.control.Ownership) (h : ¬ Serves inputs w.axis .profilePosition) :
    w.pass inputs =
      { axis := processAxis inputs w.axis
        last := (inputs.controlword .snapshot).or w.last
        latest := (inputs.controlword .snapshot).elim w.latest fun controlword =>
          if (staged inputs w.axis).Leaving inputs then w.latest
          else w.latest.map (·.extend [] (newSetPointBit controlword))
        opened := false } := by
  unfold SetPointWatch.pass
  cases hread : inputs.controlword .snapshot with
  | none => rfl
  | some controlword =>
      dsimp only
      rw [setPointCalls_of_unserved hown h, if_neg fun hedge => h hedge.serves]
      rfl

/-- The runtime is reset, or it is left alone where the next pass cannot serve the mode. -/
theorem pp_of_unserved {inputs : PassInputs} {axis : Axis} (hown : axis.control.Ownership)
    (h : ¬ Serves inputs axis .profilePosition) :
    ((processAxis inputs axis).pp = axis.pp ∧
        ((processAxis inputs axis).mode = .profilePosition → (processAxis inputs axis).Closed) ∧
        (axis.mode = .profilePosition → (processAxis inputs axis).mode = .profilePosition ∧
          (inputs.controlword .snapshot = none ∨ (staged inputs axis).Leaving inputs))) ∨
      ∃ controlword, inputs.controlword .snapshot = some controlword ∧
        (processAxis inputs axis).pp = ppReset controlword := by
  rcases runtime_of_unserved hown h nofun with ⟨hkept, hstays⟩ | ⟨controlword, hread, hreset⟩
  · exact .inl ⟨ModeRuntime.pp.inj hkept, hstays⟩
  · exact .inr ⟨controlword, hread, ModeRuntime.pp.inj hreset⟩

theorem SetPointWatch.Invariant.unserved {w : SetPointWatch} (h : w.Invariant)
    {inputs : PassInputs} (hunserved : ¬ Serves inputs w.axis .profilePosition) :
    (w.pass inputs).Invariant := by
  have hown := ownership_processAxis inputs h.ownership
  have hsupported := supported_processAxis inputs h.ownership h.supported
  have hcapable : SupportedBy (processAxis inputs w.axis).supportedModes .profilePosition →
      (processAxis inputs w.axis).drive.profilePosition = true := by
    rw [supportedModes_processAxis, drive_processAxis]
    exact h.capable
  have hlawful : ∀ current, (w.pass inputs).latest = some current → current.Lawful := by
    rw [SetPointWatch.pass_of_unserved h.ownership hunserved]
    dsimp only
    cases inputs.controlword .snapshot with
    | none => exact h.lawful
    | some controlword =>
        rw [Option.elim_some]
        split
        · exact h.lawful
        · intro current hcurrent
          obtain ⟨before, hbefore, rfl⟩ := Option.map_eq_some_iff.mp hcurrent
          exact (h.lawful before hbefore).quiet _
  rw [SetPointWatch.pass_of_unserved h.ownership hunserved] at hlawful ⊢
  rcases pp_of_unserved h.ownership hunserved with
    ⟨hpp, hclosed, hactive⟩ | ⟨controlword, hread, hpp⟩
  · refine ⟨hown, hsupported, hcapable, hlawful,
      fun hmode hopen => absurd (hclosed hmode) hopen, ?_, ?_⟩
    · dsimp only
      rw [hpp]
      exact fun hother => h.elsewhere fun hbefore => hother (hactive hbefore).1
    · dsimp only
      rw [hpp]
      intro hacknowledge
      have hbefore : w.axis.mode = .profilePosition := by
        by_contra helsewhere
        rw [h.elsewhere helsewhere] at hacknowledge
        exact Bool.false_ne_true hacknowledge
      -- The set-point is left as it is.
      rcases (hactive hbefore).2 with hunread | hleaving
      · rw [hunread]
        exact h.held hacknowledge
      · cases inputs.controlword .snapshot with
        | none => exact h.held hacknowledge
        | some controlword =>
            rw [Option.elim_some, if_pos hleaving]
            exact h.held hacknowledge
  · refine ⟨hown, hsupported, hcapable, hlawful, fun _ _ => ⟨?_, ?_, nofun⟩, ?_, ?_⟩
    · dsimp only
      rw [hread, hpp]
      rfl
    · dsimp only
      rw [hpp]
      rfl
    · dsimp only
      rw [hpp]
      exact fun _ => rfl
    · dsimp only
      rw [hpp]
      exact nofun

/-! ## A pass that serves Profile Position -/

theorem ppStep_of_serves {inputs : PassInputs} {axis : Axis} (hown : axis.control.Ownership)
    (h : Serves inputs axis .profilePosition) :
    ¬ axis.Closed ∧ ∃ controlword called ok, inputs.controlword .snapshot = some controlword ∧
      setPointCalls inputs axis = called.filterMap Action.setPointCall ∧
      PPStep inputs controlword (newSetPointBit controlword) axis.drive.profilePosition axis.pp
        (processAxis inputs axis).pp called ok ∧
      (ok = false → (processAxis inputs axis).Closed) := by
  obtain ⟨hopen, controlword, hread, hview, hinvalid⟩ := h.stage hown nofun
  have hstaged := modeView_staged inputs hown
  have hmode : (staged inputs axis).mode = .profilePosition :=
    (congrArg ModeView.mode hstaged).trans h.active
  have hactive : processActiveMode inputs controlword (staged inputs axis) =
      ppProcess inputs controlword (staged inputs axis) := by
    unfold processActiveMode
    rw [if_neg (by rw [hmode]; decide), if_neg (not_not.mpr h.serving.enabled), hmode]
  rw [hactive] at hview hinvalid
  obtain ⟨called, hcalls, hstep⟩ := ppStep_ppProcess inputs controlword (staged inputs axis)
  have hpp : (staged inputs axis).pp = axis.pp := congrArg ModeView.pp hstaged
  have hafter : (processAxis inputs axis).pp =
      (ppProcess inputs controlword (staged inputs axis)).1.pp := congrArg ModeView.pp hview
  rw [← hview, hstaged] at hcalls
  rw [drive_staged, hpp, ← hafter] at hstep
  exact ⟨hopen, controlword, called, _, hread, setPointCalls_of_calls hown hcalls, hstep,
    fun hbad => .inr (.inr (hinvalid hbad))⟩

theorem SetPointWatch.pass_of_serves {w : SetPointWatch} {inputs : PassInputs} {controlword : Word}
    (hserves : Serves inputs w.axis .profilePosition)
    (hread : inputs.controlword .snapshot = some controlword) :
    w.pass inputs =
      { axis := processAxis inputs w.axis
        last := some controlword
        latest :=
          if w.Edge inputs controlword then
            some ⟨setPointParameters inputs controlword, setPointCalls inputs w.axis, [true]⟩
          else w.latest.map
            (·.extend (setPointCalls inputs w.axis) (newSetPointBit controlword))
        opened := ((setPointCalls inputs w.axis).getLast?.map
          fun call => decide (call.result = .busy)).getD false } := by
  unfold SetPointWatch.pass
  rw [hread]
  dsimp only
  rw [if_neg hserves.serving.not_leaving]

theorem SetPointWatch.Tracks.edge_iff {w : SetPointWatch} {inputs : PassInputs}
    {controlword : Word} (h : w.Tracks) (hserves : Serves inputs w.axis .profilePosition) :
    w.Edge inputs controlword ↔
      newSetPointBit controlword = true ∧ w.axis.pp.previousNewSetPoint = false := by
  constructor
  · rintro ⟨-, hhigh, hlow⟩
    rw [h.last] at hlow
    exact ⟨hhigh, Option.some.inj hlow⟩
  · rintro ⟨hhigh, hlow⟩
    exact ⟨hserves, hhigh, h.last.trans (congrArg some hlow)⟩

theorem SetPointWatch.Tracks.not_edge {w : SetPointWatch} {inputs : PassInputs}
    {controlword : Word} (h : w.Tracks) (hserves : Serves inputs w.axis .profilePosition)
    (hsteady : newSetPointBit controlword = true → w.axis.pp.previousNewSetPoint = true) :
    ¬ w.Edge inputs controlword := by
  rw [h.edge_iff hserves]
  rintro ⟨hhigh, hlow⟩
  exact Bool.false_ne_true (hlow.symm.trans (hsteady hhigh))

theorem SetPointWatch.Invariant.served {w : SetPointWatch} (h : w.Invariant) {inputs : PassInputs}
    (hserves : Serves inputs w.axis .profilePosition) : (w.pass inputs).Invariant := by
  have hown := ownership_processAxis inputs h.ownership
  have hsupported := supported_processAxis inputs h.ownership h.supported
  have hcapable : SupportedBy (processAxis inputs w.axis).supportedModes .profilePosition →
      (processAxis inputs w.axis).drive.profilePosition = true := by
    rw [supportedModes_processAxis, drive_processAxis]
    exact h.capable
  obtain ⟨hopen, controlword, called, ok, hread, hcalls, hstep, hinvalid⟩ :=
    ppStep_of_serves h.ownership hserves
  have htracks := h.tracks hserves.active hopen
  have hpresent : w.axis.drive.profilePosition = true := by
    refine h.capable ?_
    rw [← hserves.active]
    exact h.supported.active
  have hstays : (processAxis inputs w.axis).mode ≠ .profilePosition →
      (processAxis inputs w.axis).pp.setPointAcknowledge = false := by
    have hactive : Serves inputs w.axis w.axis.mode := by
      rw [hserves.active]
      exact hserves
    have hsame := (hactive.modeStep h.ownership (by rw [hserves.active]; decide)).mode
    exact fun hother => absurd (hsame.trans hserves.active) hother
  -- A pass without an edge that calls nothing.
  have hquiet : ∀ latest : Option SetPoint,
      latest = w.latest.map (·.extend [] (newSetPointBit controlword)) →
        ∀ current, latest = some current → current.Lawful := by
    rintro _ rfl current hcurrent
    obtain ⟨before, hbefore, rfl⟩ := Option.map_eq_some_iff.mp hcurrent
    exact (h.lawful before hbefore).quiet _
  -- The acknowledge of a pass without an edge.
  have hheld : ∀ calls, (newSetPointBit controlword && w.axis.pp.setPointAcknowledge) = true →
      ∃ current, w.latest.map (·.extend calls (newSetPointBit controlword)) = some current ∧
        current.Held := by
    intro calls hacknowledge
    obtain ⟨hhigh, hbefore⟩ := Bool.and_eq_true_iff.mp hacknowledge
    obtain ⟨current, hlatest, hcurrent⟩ := h.held hbefore
    rw [hlatest, hhigh]
    exact ⟨_, rfl, hcurrent.extend calls⟩
  rw [SetPointWatch.pass_of_serves hserves hread, hcalls]
  generalize hafter : (processAxis inputs w.axis).pp = after at hstep
  cases hstep with
  | missing hmissing => exact absurd (hmissing.symm.trans hpresent) Bool.false_ne_true
  | unread hlow hhigh hparameters accepted =>
      rw [if_pos ((htracks.edge_iff hserves).mpr ⟨hhigh, hlow⟩)]
      refine ⟨hown, hsupported, hcapable, ?_, fun _ hnext => absurd (hinvalid rfl) hnext,
        hstays, ?_⟩
      · intro current hcurrent
        obtain rfl := Option.some.inj hcurrent
        exact ⟨nofun, nofun, nofun⟩
      · dsimp only
        rw [hafter]
        exact nofun
  | quiet hsteady hidle =>
      rw [if_neg (htracks.not_edge hserves hsteady)]
      refine ⟨hown, hsupported, hcapable, hquiet _ rfl, fun _ _ => ⟨?_, ?_, nofun⟩, hstays, ?_⟩
      · dsimp only
        rw [hafter]
        rfl
      · dsimp only
        rw [hafter]
        exact hidle
      · dsimp only
        rw [hafter]
        exact hheld []
  | edge hlow hhigh hparameters hcalled =>
      rename_i accepted command result
      obtain ⟨hcommand, hnew, -, hanswered⟩ := hcalled
      have hcurrent : setPointParameters inputs controlword = some command.parameters := by
        rw [hcommand]
        exact hparameters
      rw [if_pos ((htracks.edge_iff hserves).mpr ⟨hhigh, hlow⟩)]
      refine ⟨hown, hsupported, hcapable, ?_, fun _ _ => ⟨?_, ?_, fun hbusy => ?_⟩, hstays, ?_⟩
      · intro current hlatest
        obtain rfl := Option.some.inj hlatest
        exact .opening hcurrent hnew
      · dsimp only
        rw [hafter, hanswered.previous]
        rfl
      · dsimp only
        rw [hafter, hanswered.active]
        rfl
      · have hresult : result = .busy := of_decide_eq_true hbusy
        refine ⟨_, rfl, List.cons_ne_nil _ _, ?_, List.forall_mem_singleton.mpr hresult⟩
        dsimp only
        rw [hafter, hanswered.accepted]
        exact hparameters
      · dsimp only
        rw [hafter, hanswered.acknowledge]
        intro hacknowledge
        refine ⟨_, rfl, ⟨⟨command, result⟩, [], rfl, ?_⟩, List.forall_mem_singleton.mpr rfl⟩
        exact of_decide_eq_true (Bool.and_eq_true_iff.mp hacknowledge).1
  | poll hsteady hactive hcalled =>
      rename_i command result
      obtain ⟨hcommand, hnew, -, hanswered⟩ := hcalled
      obtain ⟨current, hlatest, hsome, hparameters, hbusy⟩ :=
        htracks.setPoint (htracks.active.symm.trans hactive)
      rw [if_neg (htracks.not_edge hserves hsteady)]
      refine ⟨hown, hsupported, hcapable, ?_, fun _ _ => ⟨?_, ?_, fun hagain => ?_⟩, hstays, ?_⟩
      · intro next hnext
        dsimp only at hnext
        rw [hlatest] at hnext
        obtain rfl := Option.some.inj hnext
        refine (h.lawful current hlatest).poll _ hsome ?_ hnew hbusy
        dsimp only
        rw [hcommand]
        exact hparameters
      · dsimp only
        rw [hafter, hanswered.previous]
        rfl
      · dsimp only
        rw [hafter, hanswered.active]
        rfl
      · have hresult : result = .busy := of_decide_eq_true hagain
        dsimp only
        rw [hlatest]
        refine ⟨_, rfl, ?_, ?_, ?_⟩
        · exact List.append_ne_nil_of_right_ne_nil _ (List.cons_ne_nil _ _)
        · rw [hafter, hanswered.accepted]
          exact hparameters
        · exact List.forall_mem_append.mpr ⟨hbusy, List.forall_mem_singleton.mpr hresult⟩
      · dsimp only
        rw [hafter, hanswered.acknowledge]
        intro hacknowledge
        exact hheld _ (Bool.and_eq_true_iff.mp hacknowledge).2

theorem SetPointWatch.Invariant.step {w : SetPointWatch} (h : w.Invariant) (call : AxisCall) :
    (w.step call).Invariant := by
  cases call with
  | process inputs =>
      by_cases hserves : Serves inputs w.axis .profilePosition
      · exact h.served hserves
      · exact h.unserved hserves
  | processSync => exact h.aside (AxisCall.aside rfl w.axis)
  | validate => exact h.aside (AxisCall.aside rfl w.axis)
  | publish => exact h.aside (AxisCall.aside rfl w.axis)
  | publishInitial => exact h.aside (AxisCall.aside rfl w.axis)
  | communicationReset => exact h.aside (AxisCall.aside rfl w.axis)

/-! ## Runs -/

def AcknowledgeBit (axis : Axis) : Prop :=
  axis.image.statusword &&& statuswordPPSetpointAcknowledge ≠ 0

instance (axis : Axis) : Decidable (AcknowledgeBit axis) :=
  inferInstanceAs (Decidable (axis.image.statusword &&& statuswordPPSetpointAcknowledge ≠ 0))

/-- A published Statusword of Profile Position takes bit 12 from the runtime. -/
theorem acknowledge_processAxis {inputs : PassInputs} {axis : Axis}
    (hwritten : inputs.setStatusword = true)
    (hmode : (processAxis inputs axis).mode = .profilePosition)
    (hbit : AcknowledgeBit (processAxis inputs axis)) :
    (processAxis inputs axis).pp.setPointAcknowledge = true := by
  unfold AcknowledgeBit at hbit
  have hstate : ∀ state, statuswordForState state &&& statuswordPPSetpointAcknowledge = 0#16 := by
    intro state
    cases state <;> decide
  have hruntime : ∀ pp : PPRuntime,
      ppStatusword pp &&& statuswordPPSetpointAcknowledge ≠ 0 → pp.setPointAcknowledge = true := by
    intro pp
    unfold ppStatusword
    cases pp.targetReached <;> cases pp.setPointAcknowledge <;> cases pp.followingError <;> decide
  rw [statusword_processAxis, if_pos hwritten, BitVec.and_or_distrib_right, hstate,
    BitVec.zero_or] at hbit
  unfold modeStatusword at hbit
  rw [hmode] at hbit
  exact hruntime _ hbit

/-- What a pass makes of the latest set-point, and what it publishes. -/
structure SetPointWatch.Answers (w : SetPointWatch) (inputs : PassInputs) : Prop where
  once : (setPointCalls inputs w.axis).length ≤ 1
  edge : (∃ call ∈ setPointCalls inputs w.axis, call.command.newSetPoint = true) ↔
    ∃ controlword, inputs.controlword .snapshot = some controlword ∧ w.Edge inputs controlword ∧
      setPointParameters inputs controlword ≠ none
  halt : ∀ controlword, inputs.controlword .snapshot = some controlword →
    ∀ call ∈ setPointCalls inputs w.axis, call.command.halt = bitSet controlword controlwordHalt
  steady : w.last.map newSetPointBit ≠ some false →
    ∀ call ∈ setPointCalls inputs w.axis, call.command.newSetPoint = false
  polled : ∀ controlword, inputs.controlword .snapshot = some controlword →
    ¬ w.Edge inputs controlword → (setPointCalls inputs w.axis ≠ [] ↔
      w.opened = true ∧ Serves inputs w.axis .profilePosition)
  acknowledged : inputs.setStatusword = true → (w.pass inputs).axis.mode = .profilePosition →
    AcknowledgeBit (w.pass inputs).axis →
      ∃ current, (w.pass inputs).latest = some current ∧ current.Held

theorem SetPointWatch.axis_pass (w : SetPointWatch) (inputs : PassInputs) :
    (w.pass inputs).axis = processAxis inputs w.axis := by
  unfold SetPointWatch.pass
  split <;> rfl

theorem SetPointWatch.Invariant.answers {w : SetPointWatch} (h : w.Invariant)
    (inputs : PassInputs) : w.Answers inputs := by
  have hnext : (w.pass inputs).Invariant := h.step (.process inputs)
  have hacknowledged : inputs.setStatusword = true →
      (w.pass inputs).axis.mode = .profilePosition → AcknowledgeBit (w.pass inputs).axis →
        ∃ current, (w.pass inputs).latest = some current ∧ current.Held := by
    intro hwritten hmode hbit
    refine hnext.held ?_
    rw [SetPointWatch.axis_pass] at hmode hbit ⊢
    exact acknowledge_processAxis hwritten hmode hbit
  by_cases hserves : Serves inputs w.axis .profilePosition
  · obtain ⟨hopen, controlword, called, ok, hread, hcalls, hstep, -⟩ :=
      ppStep_of_serves h.ownership hserves
    have htracks := h.tracks hserves.active hopen
    have hpresent : w.axis.drive.profilePosition = true := by
      refine h.capable ?_
      rw [← hserves.active]
      exact h.supported.active
    have hsame : ∀ word, inputs.controlword .snapshot = some word → word = controlword :=
      fun word hword => Option.some.inj (hword.symm.trans hread)
    generalize (processAxis inputs w.axis).pp = after at hstep
    cases hstep with
    | missing hmissing => exact absurd (hmissing.symm.trans hpresent) Bool.false_ne_true
    | unread hlow hhigh hparameters =>
        have hedge := (htracks.edge_iff hserves).mpr ⟨hhigh, hlow⟩
        refine ⟨?_, ⟨?_, ?_⟩, ?_, ?_, ?_, hacknowledged⟩
        · rw [hcalls]
          exact Nat.zero_le 1
        · rintro ⟨call, hcall, -⟩
          rw [hcalls] at hcall
          cases hcall
        · rintro ⟨word, hword, -, hsome⟩
          obtain rfl := hsame word hword
          exact absurd hparameters hsome
        · rw [hcalls]
          exact fun _ _ => nofun
        · rw [hcalls]
          exact fun _ => nofun
        · intro word hword hnone
          obtain rfl := hsame word hword
          exact absurd hedge hnone
    | quiet hsteady hidle =>
        have hnone : ¬ w.Edge inputs controlword := htracks.not_edge hserves hsteady
        refine ⟨?_, ⟨?_, ?_⟩, ?_, ?_, ?_, hacknowledged⟩
        · rw [hcalls]
          exact Nat.zero_le 1
        · rintro ⟨call, hcall, -⟩
          rw [hcalls] at hcall
          cases hcall
        · rintro ⟨word, hword, hedge, -⟩
          obtain rfl := hsame word hword
          exact absurd hedge hnone
        · rw [hcalls]
          exact fun _ _ => nofun
        · rw [hcalls]
          exact fun _ => nofun
        · intro word hword _
          constructor
          · intro hcall
            exact absurd hcalls hcall
          · rintro ⟨hopened, -⟩
            exact absurd (hidle.symm.trans (htracks.active.trans hopened)) Bool.false_ne_true
    | edge hlow hhigh hparameters hcalled =>
        rename_i accepted command result
        have hedge := (htracks.edge_iff hserves).mpr ⟨hhigh, hlow⟩
        refine ⟨?_, ⟨?_, ?_⟩, ?_, ?_, ?_, hacknowledged⟩
        · rw [hcalls]
          exact Nat.le_refl 1
        · intro _
          refine ⟨controlword, hread, hedge, ?_⟩
          rw [hparameters]
          exact Option.some_ne_none _
        · intro _
          refine ⟨⟨command, result⟩, ?_, hcalled.newSetPoint⟩
          rw [hcalls]
          exact List.mem_singleton.mpr rfl
        · intro word hword
          obtain rfl := hsame word hword
          rw [hcalls]
          exact List.forall_mem_singleton.mpr hcalled.halt
        · exact fun hbad => absurd hedge.low hbad
        · intro word hword hnone
          obtain rfl := hsame word hword
          exact absurd hedge hnone
    | poll hsteady hactive hcalled =>
        rename_i command result
        have hnone : ¬ w.Edge inputs controlword := htracks.not_edge hserves hsteady
        refine ⟨?_, ⟨?_, ?_⟩, ?_, ?_, ?_, hacknowledged⟩
        · rw [hcalls]
          exact Nat.le_refl 1
        · rintro ⟨call, hcall, hnew⟩
          rw [hcalls] at hcall
          obtain rfl := List.mem_singleton.mp hcall
          exact absurd (hcalled.newSetPoint.symm.trans hnew) Bool.false_ne_true
        · rintro ⟨word, hword, hedge, -⟩
          obtain rfl := hsame word hword
          exact absurd hedge hnone
        · intro word hword
          obtain rfl := hsame word hword
          rw [hcalls]
          exact List.forall_mem_singleton.mpr hcalled.halt
        · rw [hcalls]
          exact fun _ => List.forall_mem_singleton.mpr hcalled.newSetPoint
        · intro word hword _
          rw [hcalls]
          exact ⟨fun _ => ⟨htracks.active.symm.trans hactive, hserves⟩,
            fun _ => List.cons_ne_nil _ _⟩
  · have hnone := setPointCalls_of_unserved h.ownership hserves
    refine ⟨?_, ⟨?_, ?_⟩, ?_, ?_, ?_, hacknowledged⟩
    · rw [hnone]
      exact Nat.zero_le 1
    · rintro ⟨call, hcall, -⟩
      rw [hnone] at hcall
      cases hcall
    · rintro ⟨_, -, hedge, -⟩
      exact absurd hedge.serves hserves
    · rw [hnone]
      exact fun _ _ => nofun
    · rw [hnone]
      exact fun _ => nofun
    · intro _ _ _
      exact ⟨fun hcall => absurd hnone hcall, fun hbad => absurd hbad.2 hserves⟩

/-- The set-point handshake over every run: each latest set-point is lawful, and each pass answers
the observed edges of bit 4 with set-points, with polls and with the acknowledge bit. -/
theorem setPoint_of_run (config : ValidAxisConfig) (image : ODImage) (od : ODCache)
    (calls : List AxisCall) :
    (∀ current, (run SetPointWatch.step (.start config image od) calls).latest = some current →
        current.Lawful) ∧
      ∀ inputs, (run SetPointWatch.step (.start config image od) calls).Answers inputs := by
  have hrun : (run SetPointWatch.step (.start config image od) calls).Invariant :=
    run_invariant (fun _ call h => h.step call) (.start config image od) calls
  exact ⟨hrun.lawful, hrun.answers⟩

/-- An axis whose drive offers Profile Position only. -/
def positionConfig : ValidAxisConfig where
  logicalDevice := 0
  drive :=
    { cyclicDrive with
      profilePosition := true }
  sync := none

/-- Profile Position in OPERATION_ENABLED, with bit 4 low. -/
def positionEnabled : SetPointWatch :=
  run SetPointWatch.step (.start positionConfig {} fun _ => some 0)
    ([0x00, 0x06, 0x07, 0x0F].map fun controlword => .process (commandPass controlword 1))

/-- An edge whose target position cannot be read calls nothing. -/
theorem setPoint_unreadable :
    positionEnabled.Edge { commandPass 0x1F 1 with targetPosition := none } 0x1F ∧
      setPointCalls { commandPass 0x1F 1 with targetPosition := none } positionEnabled.axis =
        [] := by
  decide +kernel

end CanopenRtt.Cia402.Device
