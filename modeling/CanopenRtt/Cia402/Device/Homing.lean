import CanopenRtt.Cia402.Device.DriveFollows
import CanopenRtt.Cia402.Device.ModeStage
/-!
# Homing transactions

A homing transaction begins with the callback of a start edge and lasts while the passes serve
Homing and the drive answers BUSY. `HomingWatch` adds the calls of the latest transaction to an
axis. The runtime of the mode is wiped without a call whenever a pass does not serve Homing, so a
transaction that is aborting can be abandoned by leaving OPERATION_ENABLED.
-/

namespace CanopenRtt.Cia402.Device

open CanopenRtt.Support

/-! ## What homing makes of a pass -/

/-- The parameter set of a homing action. -/
structure HomingParameters where
  homeOffset : BitVec 32
  homingMethod : BitVec 8
  speedSwitch : BitVec 32
  speedZero : BitVec 32
  acceleration : BitVec 32
  deriving DecidableEq, Repr

def HomingCommand.parameters (command : HomingCommand) : HomingParameters where
  homeOffset := command.homeOffset
  homingMethod := command.homingMethod
  speedSwitch := command.speedSwitch
  speedZero := command.speedZero
  acceleration := command.acceleration

/-- The parameter set that the dictionary holds in a pass, if it can be read. -/
def homingParameters (inputs : PassInputs) : Option HomingParameters := do
  let homeOffset ← inputs.homeOffset
  let homingMethod ← inputs.homingMethod
  let speedSwitch ← inputs.speedSwitch
  let speedZero ← inputs.speedZero
  let acceleration ← inputs.homingAcceleration
  return ⟨homeOffset, homingMethod, speedSwitch, speedZero, acceleration⟩

theorem hmReadCommand_ok {inputs : PassInputs} {command : HomingCommand}
    (h : (hmReadCommand inputs command).2 = true) :
    homingParameters inputs = some (hmReadCommand inputs command).1.parameters := by
  unfold hmReadCommand at h ⊢
  unfold homingParameters
  cases hoffset : inputs.homeOffset with
  | none => rw [hoffset] at h; cases h
  | some homeOffset =>
  cases hmethod : inputs.homingMethod with
  | none => rw [hoffset, hmethod] at h; cases h
  | some homingMethod =>
  cases hswitch : inputs.speedSwitch with
  | none => rw [hoffset, hmethod, hswitch] at h; cases h
  | some speedSwitch =>
  cases hzero : inputs.speedZero with
  | none => rw [hoffset, hmethod, hswitch, hzero] at h; cases h
  | some speedZero =>
  cases hacceleration : inputs.homingAcceleration with
  | none => rw [hoffset, hmethod, hswitch, hzero, hacceleration] at h; cases h
  | some acceleration => rfl

/-- The runtime after the drive has answered a callback. -/
structure HMAnswered (result : DriveResult) (dropped : Bool) (before after : HMRuntime) :
    Prop where
  accepted : after.acceptedCommand = before.acceptedCommand
  previous : after.previousStart = before.previousStart
  active : after.active = decide (result = .busy)
  aborting : after.aborting = (decide (result = .busy) && dropped)
  attained : after.attained =
    (decide (result = .done) && !dropped || decide (result = .busy) && before.attained)
  error : after.error = (decide (result = .error) || before.error)

/-- One homing callback, of a runtime that has been prepared for it. -/
structure HMCalled (bit4 edge : Bool) (before after : HMRuntime) (command : HomingCommand)
    (result : DriveResult) : Prop where
  parameters : command.parameters = before.acceptedCommand.parameters
  start : command.start = (bit4 && !before.aborting)
  startEdge : command.startEdge = (edge && bit4 && !before.aborting)
  answered : HMAnswered result (before.aborting || !bit4) before after

theorem hmExecute_called (inputs : PassInputs) (controlword : Word) (start startEdge : Bool)
    (axis : Axis) : ∃ command result,
      (hmExecute inputs controlword start startEdge axis).1.modeView.calls =
        axis.modeView.calls ++ [.homing command result] ∧
      HMCalled start startEdge axis.hm (hmExecute inputs controlword start startEdge axis).1.hm
        command result := by
  unfold hmExecute
  dsimp only
  generalize hcommand : ({ axis.hm.acceptedCommand with
    halt := bitSet controlword controlwordHalt
    start := start && !(axis.hm.aborting || !start)
    startEdge := startEdge && !(axis.hm.aborting || !start) } : HomingCommand) = command
  have hparameters : command.parameters = axis.hm.acceptedCommand.parameters := by
    rw [← hcommand]
    rfl
  have hstart : command.start = (start && !axis.hm.aborting) := by
    rw [← hcommand]
    cases start <;> simp
  have hedge : command.startEdge = (startEdge && start && !axis.hm.aborting) := by
    rw [← hcommand]
    cases start <;> simp
  have hcalls : ∀ result, (axis.record (.homing command result)).modeView.calls =
      axis.modeView.calls ++ [.homing command result] := fun result => calls_record rfl axis
  cases inputs.homing command with
  | error =>
      refine ⟨command, .error, hcalls .error, hparameters, hstart, hedge, ?_⟩
      constructor <;> rfl
  | busy =>
      refine ⟨command, .busy, hcalls .busy, hparameters, hstart, hedge, ?_⟩
      constructor <;> rfl
  | done =>
      refine ⟨command, .done, hcalls .done, hparameters, hstart, hedge, ?_⟩
      exact ⟨rfl, rfl, rfl, rfl, by simp, rfl⟩

/-- A homing step on one runtime: the runtime after it, its callbacks, and its validity. -/
inductive HMStep (inputs : PassInputs) (bit4 present : Bool) (hm : HMRuntime) :
    HMRuntime → List Action → Bool → Prop where
  | missing (hmissing : present = false) : HMStep inputs bit4 present hm hm [] false
  | unread (hidle : hm.active = false) (accepted : HomingCommand) :
      HMStep inputs bit4 present hm
        { acceptedCommand := accepted
          previousStart := bit4
          error := true } [] false
  | quiet (hidle : hm.active = false) :
      HMStep inputs bit4 present hm { hm with previousStart := bit4, error := false } [] true
  | started {ok : Bool} (hpresent : present = true) (hidle : hm.active = false)
      (hlow : hm.previousStart = false) (hhigh : bit4 = true) {accepted : HomingCommand}
      (hparameters : homingParameters inputs = some accepted.parameters) {after : HMRuntime}
      {command : HomingCommand} {result : DriveResult}
      (hcalled : HMCalled bit4 true
        { hm with
          acceptedCommand := accepted
          previousStart := bit4
          active := true
          attained := false
          error := false
          targetReached := false } after command result) :
      HMStep inputs bit4 present hm after [.homing command result] ok
  | continued {ok : Bool} (hpresent : present = true) (hactive : hm.active = true)
      {after : HMRuntime} {command : HomingCommand} {result : DriveResult}
      (hcalled : HMCalled bit4 (bit4 && !hm.previousStart)
        { hm with previousStart := bit4, error := false } after command result) :
      HMStep inputs bit4 present hm after [.homing command result] ok

theorem hmStep_hmProcess (inputs : PassInputs) (controlword : Word) (axis : Axis) :
    ∃ called, (hmProcess inputs controlword axis).1.modeView.calls =
        axis.modeView.calls ++ called ∧
      HMStep inputs (bitSet controlword controlwordModeBit4) axis.drive.homing axis.hm
        (hmProcess inputs controlword axis).1.hm called (hmProcess inputs controlword axis).2 := by
  have hnothing : axis.modeView.calls = axis.modeView.calls ++ [] := (List.append_nil _).symm
  unfold hmProcess
  split
  · rename_i hmissing
    exact ⟨[], hnothing, .missing (by simpa using hmissing)⟩
  · rename_i hpresent
    have hpresent' : axis.drive.homing = true := by simpa using hpresent
    dsimp only
    generalize bitSet controlword controlwordModeBit4 = bit4
    split
    · rename_i hrises
      obtain ⟨⟨hhigh, hlow⟩, hidle⟩ : (bit4 = true ∧ axis.hm.previousStart = false) ∧
          axis.hm.active = false := by simpa using hrises
      cases hread : (hmReadCommand inputs axis.hm.acceptedCommand).2 with
      | false => exact ⟨[], hnothing, .unread hidle _⟩
      | true =>
          have hedge : (bit4 && !axis.hm.previousStart) = true := by simp [hhigh, hlow]
          obtain ⟨command, result, hcalls, hcalled⟩ := hmExecute_called inputs controlword bit4
            (bit4 && !axis.hm.previousStart)
            { axis with
              hm :=
                { axis.hm with
                  acceptedCommand := (hmReadCommand inputs axis.hm.acceptedCommand).1
                  previousStart := bit4
                  active := true
                  attained := false
                  error := false
                  targetReached := false } }
          rw [hedge] at hcalls hcalled
          rw [if_neg (by decide), hedge]
          exact ⟨_, hcalls, .started hpresent' hidle hlow hhigh (hmReadCommand_ok hread) hcalled⟩
    · split
      · rename_i hidle
        exact ⟨[], hnothing, .quiet (by simpa using hidle)⟩
      · rename_i hactive
        obtain ⟨command, result, hcalls, hcalled⟩ := hmExecute_called inputs controlword bit4
          (bit4 && !axis.hm.previousStart)
          { axis with hm := { axis.hm with previousStart := bit4, error := false } }
        exact ⟨_, hcalls, .continued hpresent' (by simpa using hactive) hcalled⟩

/-! ## Transactions -/

/-- A homing callback, with bit 4 of the Controlword of its pass. -/
structure HomingCall where
  command : HomingCommand
  result : DriveResult
  bit4 : Bool
  deriving DecidableEq, Repr

/-- The parameter set read in the pass of the start edge, and the callbacks since, oldest first. -/
structure Transaction where
  parameters : Option HomingParameters
  calls : List HomingCall
  deriving DecidableEq, Repr

/-- The start bit of a pass. -/
def startBit (controlword : Option Word) : Bool :=
  (controlword.map fun word => bitSet word controlwordModeBit4).getD false

def Action.homingCall (bit4 : Bool) : Action → Option HomingCall
  | .homing command result => some ⟨command, result, bit4⟩
  | _ => none

/-- The homing callbacks of a pass. -/
def homingCalls (inputs : PassInputs) (axis : Axis) : List HomingCall :=
  (runtimeCalls inputs axis).filterMap
    (Action.homingCall (startBit (inputs.controlword .snapshot)))

/-- An axis, the Controlword of its last pass, and its latest homing transaction. -/
structure HomingWatch where
  axis : Axis
  last : Option Word
  latest : Option Transaction
  opened : Bool

def HomingWatch.start (config : ValidAxisConfig) (image : ODImage) (od : ODCache) :
    HomingWatch where
  axis := boundAxis config image od
  last := none
  latest := none
  opened := false

def Transaction.extend (transaction : Transaction) (calls : List HomingCall) : Transaction :=
  { transaction with calls := transaction.calls ++ calls }

/-- A transaction is closed by DONE, by ERROR, and by a pass that does not serve Homing. -/
def HomingWatch.pass (w : HomingWatch) (inputs : PassInputs) : HomingWatch :=
  let calls := homingCalls inputs w.axis
  { axis := processAxis inputs w.axis
    last := inputs.controlword .snapshot
    latest :=
      if w.opened then w.latest.map (·.extend calls)
      else if calls = [] then w.latest
      else some ⟨homingParameters inputs, calls⟩
    opened := decide (Serves inputs w.axis .homing) &&
      (calls.getLast?.map fun call => decide (call.result = .busy)).getD w.opened }

def HomingWatch.step (w : HomingWatch) : AxisCall → HomingWatch
  | .process inputs => w.pass inputs
  | call => { w with axis := call.apply w.axis }

/-- One parameter set and one edge; the transaction goes on while the drive answers BUSY, and no
callback starts once bit 4 has been low. -/
structure Transaction.Lawful (transaction : Transaction) : Prop where
  parameters : ∀ call ∈ transaction.calls,
    transaction.parameters = some call.command.parameters
  edge : ∃ first rest, transaction.calls = first :: rest ∧ first.command.startEdge = true ∧
    ∀ call ∈ rest, call.command.startEdge = false
  busy : ∀ call ∈ transaction.calls.dropLast, call.result = .busy
  start : ∀ n call, transaction.calls[n]? = some call →
    (call.command.start = true ↔
      ∀ earlier ∈ transaction.calls.take (n + 1), earlier.bit4 = true)

/-- The transaction has ended with DONE, with bit 4 high in each of its passes. -/
def Transaction.Attained (transaction : Transaction) : Prop :=
  (∃ last, transaction.calls.getLast? = some last ∧ last.result = .done) ∧
    ∀ call ∈ transaction.calls, call.bit4 = true

theorem Transaction.Lawful.opening {parameters : Option HomingParameters} {call : HomingCall}
    (hparameters : parameters = some call.command.parameters)
    (hedge : call.command.startEdge = true) (hstart : call.command.start = call.bit4) :
    Transaction.Lawful ⟨parameters, [call]⟩ where
  parameters := List.forall_mem_singleton.mpr hparameters
  edge := ⟨call, [], rfl, hedge, nofun⟩
  busy := nofun
  start := by
    intro n other hother
    cases n with
    | zero =>
        obtain rfl := Option.some.inj hother
        rw [hstart]
        have hsingle : (Transaction.mk parameters [call]).calls.take (0 + 1) = [call] := rfl
        rw [hsingle, List.forall_mem_singleton]
    | succ n => cases hother

theorem Transaction.Lawful.extend {transaction : Transaction} (h : transaction.Lawful)
    {call : HomingCall} (hparameters : transaction.parameters = some call.command.parameters)
    (hedge : call.command.startEdge = false)
    (hbusy : ∀ earlier ∈ transaction.calls, earlier.result = .busy)
    (hstart : call.command.start = true ↔
      call.bit4 = true ∧ ∀ earlier ∈ transaction.calls, earlier.bit4 = true) :
    (transaction.extend [call]).Lawful where
  parameters := List.forall_mem_append.mpr
    ⟨h.parameters, List.forall_mem_singleton.mpr hparameters⟩
  edge := by
    obtain ⟨first, rest, hcalls, hfirst, hrest⟩ := h.edge
    refine ⟨first, rest ++ [call], ?_, hfirst, List.forall_mem_append.mpr
      ⟨hrest, List.forall_mem_singleton.mpr hedge⟩⟩
    unfold Transaction.extend
    rw [hcalls]
    rfl
  busy := by
    unfold Transaction.extend
    rw [List.dropLast_concat]
    exact hbusy
  start := by
    intro n other hother
    unfold Transaction.extend at hother ⊢
    dsimp only at hother ⊢
    rcases Nat.lt_trichotomy n transaction.calls.length with hlt | heq | hgt
    · rw [List.getElem?_append_left hlt] at hother
      rw [List.take_append_of_le_length (Nat.succ_le_of_lt hlt)]
      exact h.start n other hother
    · subst heq
      rw [List.getElem?_concat_length] at hother
      obtain rfl := Option.some.inj hother
      rw [hstart, List.take_of_length_le (by simp), List.forall_mem_append,
        List.forall_mem_singleton, and_comm]
    · rw [List.getElem?_eq_none (by rw [List.length_append]; exact hgt)] at hother
      cases hother

/-! ## The invariant -/

/-- Attained excludes an action in progress and an error, only an action in progress aborts, and
it does unless its start bit is held. -/
structure HMRuntime.Coherent (hm : HMRuntime) : Prop where
  idle : hm.attained = true → hm.active = false
  clean : hm.attained = true → hm.error = false
  aborting : hm.active = false → hm.aborting = false
  held : hm.active = true → hm.aborting = false → hm.previousStart = true

theorem coherent_hmReset (controlword : Word) : (hmReset controlword).Coherent :=
  ⟨nofun, nofun, fun _ => rfl, nofun⟩

theorem HMAnswered.coherent {result : DriveResult} {dropped : Bool} {before after : HMRuntime}
    (h : HMAnswered result dropped before after) (hattained : before.attained = false)
    (herror : before.error = false) (hheld : dropped = false → before.previousStart = true) :
    after.Coherent := by
  constructor
  · intro hafter
    rw [h.attained, hattained, Bool.and_false, Bool.or_false, Bool.and_eq_true] at hafter
    rw [h.active, of_decide_eq_true hafter.1]
    rfl
  · intro hafter
    rw [h.attained, hattained, Bool.and_false, Bool.or_false, Bool.and_eq_true] at hafter
    rw [h.error, herror, of_decide_eq_true hafter.1]
    rfl
  · intro hafter
    rw [h.active] at hafter
    rw [h.aborting, hafter, Bool.false_and]
  · intro hactive haborting
    rw [h.active] at hactive
    rw [h.aborting, hactive, Bool.true_and] at haborting
    rw [h.previous]
    exact hheld haborting

/-- Bit 4 has been low in some pass of the transaction. -/
def Transaction.dropped (transaction : Transaction) : Bool :=
  transaction.calls.any fun call => !call.bit4

/-- The runtime of an axis whose next pass may serve Homing. -/
structure HomingWatch.Tracks (w : HomingWatch) : Prop where
  last : ∃ word, w.last = some word ∧
    w.axis.hm.previousStart = bitSet word controlwordModeBit4
  active : w.axis.hm.active = w.opened
  present : w.opened = true → w.axis.drive.homing = true
  transaction : w.opened = true → ∃ current, w.latest = some current ∧
    current.parameters = some w.axis.hm.acceptedCommand.parameters ∧
    w.axis.hm.aborting = current.dropped ∧ ∀ call ∈ current.calls, call.result = .busy

structure HomingWatch.Invariant (w : HomingWatch) : Prop where
  ownership : w.axis.control.Ownership
  coherent : w.axis.hm.Coherent
  lawful : ∀ current, w.latest = some current → current.Lawful
  tracks : w.axis.mode = .homing → ¬ w.axis.Closed → w.Tracks
  attained : w.axis.hm.attained = true → ∃ current, w.latest = some current ∧ current.Attained

theorem HomingWatch.Invariant.start (config : ValidAxisConfig) (image : ODImage) (od : ODCache) :
    (HomingWatch.start config image od).Invariant where
  ownership := ownership_boundAxis config image od
  coherent := ⟨nofun, nofun, fun _ => rfl, nofun⟩
  lawful := nofun
  tracks := nofun
  attained := nofun

theorem HomingWatch.Invariant.aside {w : HomingWatch} (h : w.Invariant) {after : Axis}
    (haside : Aside w.axis after) : HomingWatch.Invariant { w with axis := after } := by
  have hhm : after.hm = w.axis.hm := congrArg ModeView.hm haside.view
  refine {
    ownership := haside.ownership h.ownership
    coherent := ?_
    lawful := h.lawful
    tracks := ?_
    attained := ?_ }
  · dsimp only
    rw [hhm]
    exact h.coherent
  · intro hmode hopen
    have htracks := h.tracks (haside.mode.symm.trans hmode) (mt haside.closed.mpr hopen)
    constructor
    · dsimp only
      rw [hhm]
      exact htracks.last
    · dsimp only
      rw [hhm]
      exact htracks.active
    · dsimp only
      rw [haside.drive]
      exact htracks.present
    · dsimp only
      rw [hhm]
      exact htracks.transaction
  · dsimp only
    rw [hhm]
    exact h.attained

/-! ## A pass that does not serve Homing -/

theorem homingCalls_of_calls {inputs : PassInputs} {axis : Axis} {called : List Action}
    (hown : axis.control.Ownership)
    (h : (processAxis inputs axis).modeView.calls = axis.modeView.calls ++ called) :
    homingCalls inputs axis =
      called.filterMap (Action.homingCall (startBit (inputs.controlword .snapshot))) := by
  rw [calls_processAxis inputs hown] at h
  unfold homingCalls
  rw [List.append_cancel_left h]

theorem Action.homingCall_eq_none {action : Action} (h : action.runtimeMode ≠ .homing)
    (bit4 : Bool) : action.homingCall bit4 = none := by
  cases action <;> first | rfl | exact absurd rfl h

theorem homingCalls_of_unserved {inputs : PassInputs} {axis : Axis}
    (hown : axis.control.Ownership) (h : ¬ Serves inputs axis .homing) :
    homingCalls inputs axis = [] :=
  List.filterMap_eq_nil_iff.mpr fun action haction =>
    Action.homingCall_eq_none (runtimeMode_of_unserved hown h action haction) _

/-- Such a pass closes the transaction. -/
theorem HomingWatch.pass_of_unserved {w : HomingWatch} {inputs : PassInputs}
    (hown : w.axis.control.Ownership) (h : ¬ Serves inputs w.axis .homing) :
    w.pass inputs =
      { axis := processAxis inputs w.axis
        last := inputs.controlword .snapshot
        latest := w.latest
        opened := false } := by
  unfold HomingWatch.pass
  rw [homingCalls_of_unserved hown h, decide_eq_false h]
  dsimp only
  have hextend : ∀ current : Transaction, current.extend [] = current := by
    intro current
    unfold Transaction.extend
    rw [List.append_nil]
  simp only [hextend, Option.map_id', if_true, ite_self, Bool.false_and]

/-- The runtime is wiped, or it is left alone where the next pass cannot serve Homing. -/
theorem hm_of_unserved {inputs : PassInputs} {axis : Axis} (hown : axis.control.Ownership)
    (h : ¬ Serves inputs axis .homing) :
    ((processAxis inputs axis).hm = axis.hm ∧
        ((processAxis inputs axis).mode = .homing → (processAxis inputs axis).Closed)) ∨
      ∃ controlword, inputs.controlword .snapshot = some controlword ∧
        (processAxis inputs axis).hm = hmReset controlword := by
  rcases runtime_of_unserved hown h nofun with ⟨hkept, hclosed, -⟩ | ⟨controlword, hread, hreset⟩
  · exact .inl ⟨ModeRuntime.hm.inj hkept, hclosed⟩
  · exact .inr ⟨controlword, hread, ModeRuntime.hm.inj hreset⟩

theorem HomingWatch.Invariant.unserved {w : HomingWatch} (h : w.Invariant) {inputs : PassInputs}
    (hunserved : ¬ Serves inputs w.axis .homing) : (w.pass inputs).Invariant := by
  have hown := ownership_processAxis inputs h.ownership
  rw [HomingWatch.pass_of_unserved h.ownership hunserved]
  rcases hm_of_unserved h.ownership hunserved with ⟨hhm, hclosed⟩ | ⟨controlword, hread, hhm⟩
  · refine ⟨hown, ?_, h.lawful, fun hmode hopen => absurd (hclosed hmode) hopen, ?_⟩
    · dsimp only
      rw [hhm]
      exact h.coherent
    · dsimp only
      rw [hhm]
      exact h.attained
  · refine ⟨hown, ?_, h.lawful, fun _ _ => ?_, ?_⟩
    · dsimp only
      rw [hhm]
      exact coherent_hmReset controlword
    · refine ⟨⟨controlword, hread, ?_⟩, ?_, nofun, nofun⟩
      · dsimp only
        rw [hhm]
        rfl
      · dsimp only
        rw [hhm]
        rfl
    · dsimp only
      rw [hhm]
      exact nofun

/-! ## A pass that serves Homing -/

/-- Such a pass runs the homing step on the runtime of the axis. -/
theorem hmStep_of_serves {inputs : PassInputs} {axis : Axis} (hown : axis.control.Ownership)
    (h : Serves inputs axis .homing) :
    ¬ axis.Closed ∧ ∃ controlword called ok, inputs.controlword .snapshot = some controlword ∧
      homingCalls inputs axis =
        called.filterMap (Action.homingCall (bitSet controlword controlwordModeBit4)) ∧
      HMStep inputs (bitSet controlword controlwordModeBit4) axis.drive.homing axis.hm
        (processAxis inputs axis).hm called ok ∧
      (ok = false → (processAxis inputs axis).Closed) := by
  obtain ⟨hopen, controlword, hread, hview, hinvalid⟩ := h.stage hown nofun
  have hstaged := modeView_staged inputs hown
  have hmode : (staged inputs axis).mode = .homing :=
    (congrArg ModeView.mode hstaged).trans h.active
  have hactive : processActiveMode inputs controlword (staged inputs axis) =
      hmProcess inputs controlword (staged inputs axis) := by
    unfold processActiveMode
    rw [if_neg (by rw [hmode]; decide), if_neg (not_not.mpr h.serving.enabled), hmode]
  rw [hactive] at hview hinvalid
  obtain ⟨called, hcalls, hstep⟩ := hmStep_hmProcess inputs controlword (staged inputs axis)
  have hhm : (staged inputs axis).hm = axis.hm := congrArg ModeView.hm hstaged
  have hafter : (processAxis inputs axis).hm =
      (hmProcess inputs controlword (staged inputs axis)).1.hm := congrArg ModeView.hm hview
  rw [← hview, hstaged] at hcalls
  rw [drive_staged, hhm, ← hafter] at hstep
  refine ⟨hopen, controlword, called, _, hread, ?_, hstep, fun hbad =>
    .inr (.inr (hinvalid hbad))⟩
  rw [homingCalls_of_calls hown hcalls, hread]
  rfl

theorem HomingWatch.pass_of_quiet {w : HomingWatch} {inputs : PassInputs}
    (hserves : Serves inputs w.axis .homing) (hcalls : homingCalls inputs w.axis = []) :
    w.pass inputs =
      { axis := processAxis inputs w.axis
        last := inputs.controlword .snapshot
        latest := w.latest
        opened := w.opened } := by
  have hextend : ∀ current : Transaction, current.extend [] = current := by
    intro current
    unfold Transaction.extend
    rw [List.append_nil]
  unfold HomingWatch.pass
  rw [hcalls, decide_eq_true hserves]
  simp only [hextend, Option.map_id', if_true, ite_self, Bool.true_and, List.getLast?_nil,
    Option.map_none, Option.getD_none]

theorem HomingWatch.pass_of_call {w : HomingWatch} {inputs : PassInputs} {call : HomingCall}
    (hserves : Serves inputs w.axis .homing) (hcalls : homingCalls inputs w.axis = [call]) :
    w.pass inputs =
      { axis := processAxis inputs w.axis
        last := inputs.controlword .snapshot
        latest :=
          if w.opened then w.latest.map (·.extend [call])
          else some ⟨homingParameters inputs, [call]⟩
        opened := decide (call.result = .busy) } := by
  unfold HomingWatch.pass
  rw [hcalls, decide_eq_true hserves]
  rfl

/-- Bit 4 has been high in each pass of a transaction that is not aborting. -/
theorem Transaction.dropped_eq_false {current : Transaction} :
    current.dropped = false ↔ ∀ call ∈ current.calls, call.bit4 = true := by
  unfold Transaction.dropped
  rw [List.any_eq_false]
  simp only [Bool.not_eq_true, Bool.not_eq_false']

theorem Transaction.dropped_extend (current : Transaction) (call : HomingCall) :
    (current.extend [call]).dropped = (current.dropped || !call.bit4) := by
  unfold Transaction.dropped Transaction.extend
  rw [List.any_append, List.any_cons, List.any_nil, Bool.or_false]

/-- After a callback, DONE with bit 4 high throughout is what attained stands for. -/
theorem attained_of_answered {current : Transaction} {call : HomingCall}
    {before after : HMRuntime} (h : HMAnswered call.result current.dropped before after)
    (hbefore : before.attained = false) (hlast : current.calls.getLast? = some call)
    (hattained : after.attained = true) : current.Attained := by
  rw [h.attained, hbefore, Bool.and_false, Bool.or_false, Bool.and_eq_true] at hattained
  obtain ⟨hdone, hheld⟩ := hattained
  refine ⟨⟨call, hlast, of_decide_eq_true hdone⟩, ?_⟩
  rw [← Transaction.dropped_eq_false]
  simpa using hheld

theorem HomingWatch.Invariant.served {w : HomingWatch} (h : w.Invariant) {inputs : PassInputs}
    (hserves : Serves inputs w.axis .homing) : (w.pass inputs).Invariant := by
  have hown := ownership_processAxis inputs h.ownership
  obtain ⟨hopen, controlword, called, ok, hread, hcalls, hstep, hinvalid⟩ :=
    hmStep_of_serves h.ownership hserves
  have htracks := h.tracks hserves.active hopen
  have hlast : ∃ word, inputs.controlword .snapshot = some word ∧
      bitSet controlword controlwordModeBit4 = bitSet word controlwordModeBit4 :=
    ⟨controlword, hread, rfl⟩
  generalize hbit4 : bitSet controlword controlwordModeBit4 = bit4 at hcalls hstep hlast
  generalize hafter : (processAxis inputs w.axis).hm = after at hstep
  cases hstep with
  | missing =>
      rw [HomingWatch.pass_of_quiet hserves hcalls]
      refine ⟨hown, ?_, h.lawful, fun _ hnext => absurd (hinvalid rfl) hnext, ?_⟩
      · exact hafter ▸ h.coherent
      · exact hafter ▸ h.attained
  | unread _ accepted =>
      rw [HomingWatch.pass_of_quiet hserves hcalls]
      refine ⟨hown, ?_, h.lawful, fun _ hnext => absurd (hinvalid rfl) hnext, ?_⟩
      · dsimp only
        rw [hafter]
        exact ⟨nofun, nofun, fun _ => rfl, nofun⟩
      · dsimp only
        rw [hafter]
        exact nofun
  | quiet hidle =>
      have hclosed : w.opened = false := htracks.active.symm.trans hidle
      rw [HomingWatch.pass_of_quiet hserves hcalls]
      refine ⟨hown, ?_, h.lawful, fun _ _ => ?_, ?_⟩
      · dsimp only
        rw [hafter]
        refine ⟨h.coherent.idle, fun _ => rfl, h.coherent.aborting, fun hactive => ?_⟩
        exact absurd (hidle.symm.trans hactive) Bool.false_ne_true
      · refine ⟨?_, ?_, fun hbad => absurd (hbad.symm.trans hclosed) nofun,
          fun hbad => absurd (hbad.symm.trans hclosed) nofun⟩
        · dsimp only
          rw [hafter]
          exact hlast
        · dsimp only
          rw [hafter]
          exact htracks.active
      · dsimp only
        rw [hafter]
        exact h.attained
  | started hpresent hidle hlow hhigh hparameters hcalled =>
      rename_i accepted command result
      have hclosed : w.opened = false := htracks.active.symm.trans hidle
      have haborting := h.coherent.aborting hidle
      have hcalls' : homingCalls inputs w.axis = [⟨command, result, bit4⟩] := hcalls
      have hanswered := hcalled.answered
      have hcommand := hcalled.parameters
      have hstart := hcalled.start
      have hedge := hcalled.startEdge
      dsimp only at hanswered hcommand hstart hedge
      rw [haborting] at hanswered hstart hedge
      rw [HomingWatch.pass_of_call hserves hcalls', hclosed, if_neg Bool.false_ne_true]
      have hcurrent : homingParameters inputs = some command.parameters := by
        rw [hcommand]
        exact hparameters
      have hdropped : Transaction.dropped ⟨homingParameters inputs, [⟨command, result, bit4⟩]⟩ =
          (false || !bit4) := by
        simp [Transaction.dropped]
      refine ⟨hown, ?_, ?_, fun _ _ => ?_, ?_⟩
      · dsimp only
        rw [hafter]
        exact hanswered.coherent rfl rfl fun _ => hhigh
      · intro current hlatest
        obtain rfl := Option.some.inj hlatest
        refine .opening hcurrent ?_ ?_
        · rw [hedge, hhigh]
          rfl
        · rw [hstart, Bool.not_false, Bool.and_true]
      · refine ⟨?_, ?_, fun _ => ?_, fun hbusy => ⟨_, rfl, ?_, ?_, ?_⟩⟩
        · dsimp only
          rw [hafter, hanswered.previous]
          exact hlast
        · dsimp only
          rw [hafter, hanswered.active]
        · dsimp only
          rw [drive_processAxis]
          exact hpresent
        · dsimp only
          rw [hafter, hanswered.accepted]
          exact hparameters
        · dsimp only
          rw [hafter, hanswered.aborting, hdropped]
          exact (congrArg (· && (false || !bit4)) hbusy).trans (Bool.true_and _)
        · exact List.forall_mem_singleton.mpr (of_decide_eq_true hbusy)
      · dsimp only
        rw [hafter]
        intro hattained
        rw [← hdropped] at hanswered
        exact ⟨_, rfl, @attained_of_answered _ ⟨command, result, bit4⟩ _ _ hanswered rfl rfl
          hattained⟩
  | continued hpresent hactive hcalled =>
      rename_i command result
      have hopened : w.opened = true := htracks.active.symm.trans hactive
      obtain ⟨current, hlatest, hparameters, haborting, hbusy⟩ := htracks.transaction hopened
      have hunattained : w.axis.hm.attained = false := by
        refine Bool.eq_false_iff.mpr fun hattained => ?_
        exact absurd ((h.coherent.idle hattained).symm.trans hactive) Bool.false_ne_true
      have hcalls' : homingCalls inputs w.axis = [⟨command, result, bit4⟩] := hcalls
      have hanswered := hcalled.answered
      have hcommand := hcalled.parameters
      have hstart := hcalled.start
      have hedge := hcalled.startEdge
      dsimp only at hanswered hcommand hstart hedge
      rw [HomingWatch.pass_of_call hserves hcalls', hopened, if_pos rfl, hlatest]
      have hdropped := current.dropped_extend ⟨command, result, bit4⟩
      rw [← haborting] at hdropped
      refine ⟨hown, ?_, ?_, fun _ _ => ?_, ?_⟩
      · dsimp only
        rw [hafter]
        refine hanswered.coherent hunattained rfl fun hheld => ?_
        simpa using (Bool.or_eq_false_iff.mp hheld).2
      · intro next hnext
        obtain rfl := Option.some.inj hnext
        refine (h.lawful current hlatest).extend ?_ ?_ hbusy ?_
        · dsimp only
          rw [hcommand]
          exact hparameters
        · -- An action that has not been dropped has seen bit 4 high in the last pass.
          dsimp only
          rw [hedge]
          cases hab : w.axis.hm.aborting with
          | true => simp
          | false => simp [h.coherent.held hactive hab]
        · dsimp only
          rw [hstart, Bool.and_eq_true, Bool.not_eq_true', haborting,
            Transaction.dropped_eq_false]
      · refine ⟨?_, ?_, fun _ => ?_, fun hagain => ⟨_, rfl, ?_, ?_, ?_⟩⟩
        · dsimp only
          rw [hafter, hanswered.previous]
          exact hlast
        · dsimp only
          rw [hafter, hanswered.active]
        · dsimp only
          rw [drive_processAxis]
          exact hpresent
        · dsimp only
          rw [hafter, hanswered.accepted]
          exact hparameters
        · dsimp only
          rw [hafter, hanswered.aborting, hdropped]
          exact (congrArg (· && (w.axis.hm.aborting || !bit4)) hagain).trans (Bool.true_and _)
        · exact List.forall_mem_append.mpr
            ⟨hbusy, List.forall_mem_singleton.mpr (of_decide_eq_true hagain)⟩
      · dsimp only
        rw [hafter]
        intro hattained
        rw [← hdropped] at hanswered
        exact ⟨_, rfl, @attained_of_answered _ ⟨command, result, bit4⟩ _ _ hanswered hunattained
          (List.getLast?_concat) hattained⟩

theorem HomingWatch.Invariant.step {w : HomingWatch} (h : w.Invariant) (call : AxisCall) :
    (w.step call).Invariant := by
  cases call with
  | process inputs =>
      by_cases hserves : Serves inputs w.axis .homing
      · exact h.served hserves
      · exact h.unserved hserves
  | processSync => exact h.aside (AxisCall.aside rfl w.axis)
  | validate => exact h.aside (AxisCall.aside rfl w.axis)
  | publish => exact h.aside (AxisCall.aside rfl w.axis)
  | publishInitial => exact h.aside (AxisCall.aside rfl w.axis)
  | communicationReset => exact h.aside (AxisCall.aside rfl w.axis)

/-! ## The published bits -/

def AttainedBit (axis : Axis) : Prop :=
  axis.image.statusword &&& statuswordHMAttained ≠ 0

def HomingErrorBit (axis : Axis) : Prop :=
  axis.image.statusword &&& statuswordHMError ≠ 0

/-- A published Statusword of Homing takes bits 12 and 13 from the runtime. -/
theorem homingBits_processAxis {inputs : PassInputs} {axis : Axis}
    (hwritten : inputs.setStatusword = true)
    (hmode : (processAxis inputs axis).mode = .homing) :
    (AttainedBit (processAxis inputs axis) → (processAxis inputs axis).hm.attained = true) ∧
      (HomingErrorBit (processAxis inputs axis) → (processAxis inputs axis).hm.error = true) := by
  have hbits : (processAxis inputs axis).image.statusword =
      statuswordForState (processAxis inputs axis).state |||
        hmStatusword (processAxis inputs axis).hm := by
    rw [statusword_processAxis, if_pos hwritten]
    unfold modeStatusword
    rw [hmode]
  have hstate : ∀ state, statuswordForState state &&& statuswordHMAttained = 0#16 ∧
      statuswordForState state &&& statuswordHMError = 0#16 := by
    intro state
    cases state <;> decide
  have hruntime : ∀ hm : HMRuntime,
      (hmStatusword hm &&& statuswordHMAttained ≠ 0 → hm.attained = true) ∧
        (hmStatusword hm &&& statuswordHMError ≠ 0 → hm.error = true) := by
    intro hm
    unfold hmStatusword
    cases hm.targetReached <;> cases hm.attained <;> cases hm.error <;> decide
  obtain ⟨hnone, hnone'⟩ := hstate (processAxis inputs axis).state
  obtain ⟨hattained, herror⟩ := hruntime (processAxis inputs axis).hm
  unfold AttainedBit HomingErrorBit
  rw [hbits, BitVec.and_or_distrib_right, BitVec.and_or_distrib_right, hnone, hnone',
    BitVec.zero_or, BitVec.zero_or]
  exact ⟨hattained, herror⟩

/-! ## Runs -/

/-- What a pass makes of the latest transaction, and what it publishes. -/
structure HomingWatch.Answers (w : HomingWatch) (inputs : PassInputs) : Prop where
  once : (homingCalls inputs w.axis).length ≤ 1
  served : homingCalls inputs w.axis ≠ [] → Serves inputs w.axis .homing
  continued : w.opened = true → Serves inputs w.axis .homing → homingCalls inputs w.axis ≠ []
  started : w.opened = false → homingCalls inputs w.axis ≠ [] →
    ∃ low high, w.last = some low ∧ inputs.controlword .snapshot = some high ∧
      bitSet low controlwordModeBit4 = false ∧ bitSet high controlwordModeBit4 = true
  attained : inputs.setStatusword = true → (w.pass inputs).axis.mode = .homing →
    AttainedBit (w.pass inputs).axis →
      ∃ current, (w.pass inputs).latest = some current ∧ current.Attained
  exclusive : inputs.setStatusword = true → (w.pass inputs).axis.mode = .homing →
    ¬ (AttainedBit (w.pass inputs).axis ∧ HomingErrorBit (w.pass inputs).axis)

theorem HomingWatch.Invariant.answers {w : HomingWatch} (h : w.Invariant) (inputs : PassInputs) :
    w.Answers inputs := by
  have hnext : (w.pass inputs).Invariant := h.step (.process inputs)
  have hattained : inputs.setStatusword = true → (w.pass inputs).axis.mode = .homing →
      AttainedBit (w.pass inputs).axis →
        ∃ current, (w.pass inputs).latest = some current ∧ current.Attained :=
    fun hwritten hmode hbit => hnext.attained ((homingBits_processAxis hwritten hmode).1 hbit)
  have hexclusive : inputs.setStatusword = true → (w.pass inputs).axis.mode = .homing →
      ¬ (AttainedBit (w.pass inputs).axis ∧ HomingErrorBit (w.pass inputs).axis) := by
    rintro hwritten hmode ⟨hbit, herror⟩
    obtain ⟨hattained, herrors⟩ := homingBits_processAxis hwritten hmode
    have hclean := hnext.coherent.clean (hattained hbit)
    exact absurd (hclean.symm.trans (herrors herror)) Bool.false_ne_true
  by_cases hserves : Serves inputs w.axis .homing
  · obtain ⟨hopen, controlword, called, ok, hread, hcalls, hstep, -⟩ :=
      hmStep_of_serves h.ownership hserves
    have htracks := h.tracks hserves.active hopen
    have hidle : w.opened = true → w.axis.hm.active = false → False := by
      intro hopened hidle
      exact absurd (hidle.symm.trans (htracks.active.trans hopened)) Bool.false_ne_true
    have hquiet : homingCalls inputs w.axis = [] →
        (w.opened = true → homingCalls inputs w.axis ≠ []) → w.Answers inputs := by
      intro hnone hcontinued
      refine ⟨?_, fun _ => hserves, fun hopened _ => hcontinued hopened,
        fun _ hcall => absurd hnone hcall, hattained, hexclusive⟩
      rw [hnone]
      exact Nat.zero_le 1
    generalize (processAxis inputs w.axis).hm = after at hstep
    cases hstep with
    | missing hmissing =>
        refine hquiet hcalls fun hopened => ?_
        exact absurd (hmissing.symm.trans (htracks.present hopened)) Bool.false_ne_true
    | unread hinactive => exact hquiet hcalls fun hopened => (hidle hopened hinactive).elim
    | quiet hinactive => exact hquiet hcalls fun hopened => (hidle hopened hinactive).elim
    | started _ _ hlow hhigh =>
        refine ⟨?_, fun _ => hserves, fun _ _ => ?_, fun _ _ => ?_, hattained, hexclusive⟩
        · rw [hcalls]
          exact Nat.le_refl 1
        · rw [hcalls]
          exact List.cons_ne_nil _ _
        · obtain ⟨low, hlast, hprevious⟩ := htracks.last
          exact ⟨low, controlword, hlast, hread, hprevious.symm.trans hlow, hhigh⟩
    | continued _ hactive =>
        refine ⟨?_, fun _ => hserves, fun _ _ => ?_, fun hclosed _ => ?_, hattained, hexclusive⟩
        · rw [hcalls]
          exact Nat.le_refl 1
        · rw [hcalls]
          exact List.cons_ne_nil _ _
        · exact absurd (hclosed.symm.trans (htracks.active.symm.trans hactive)) Bool.false_ne_true
  · have hnone := homingCalls_of_unserved h.ownership hserves
    refine ⟨?_, fun hcall => absurd hnone hcall, fun _ hbad => absurd hbad hserves,
      fun _ hcall => absurd hnone hcall, hattained, hexclusive⟩
    rw [hnone]
    exact Nat.zero_le 1

/-- Homing transactions over every run: each latest transaction is lawful, a pass starts one only
on an edge observed after the last one was closed, and attained stands for a DONE with bit 4
held. -/
theorem homing_of_run (config : ValidAxisConfig) (image : ODImage) (od : ODCache)
    (calls : List AxisCall) :
    (∀ current, (run HomingWatch.step (.start config image od) calls).latest = some current →
        current.Lawful) ∧
      ∀ inputs, (run HomingWatch.step (.start config image od) calls).Answers inputs := by
  have hrun : (run HomingWatch.step (.start config image od) calls).Invariant :=
    run_invariant (fun _ call h => h.step call) (.start config image od) calls
  exact ⟨hrun.lawful, hrun.answers⟩

/-! ## An abort that is abandoned -/

/-- An axis whose drive offers Homing only. -/
def homingConfig : ValidAxisConfig where
  logicalDevice := 0
  drive :=
    { cyclicDrive with
      homing := true }
  sync := none

/-- A pass in Homing whose drive does not complete an action. -/
def busyHoming (controlword : Word) : AxisCall :=
  .process
    { commandPass controlword 6 with
      homing := fun _ => .busy }

/-- Homing started and dropped, operation disabled and enabled, and bit 4 set again. -/
def abandonedAbort : List AxisCall :=
  [0x00, 0x06, 0x07, 0x0F, 0x1F, 0x0F, 0x07, 0x0F, 0x1F].map busyHoming

/-- Homing starts again although the drive has answered the abort neither DONE nor ERROR. -/
theorem homing_restarts :
    ((run HomingWatch.step (.start homingConfig {} fun _ => some 0)
        abandonedAbort).axis.trace.filterMap (Action.homingCall true)).map
        (fun call => (call.command.startEdge, call.command.start, call.result)) =
      [(true, true, .busy), (false, false, .busy), (true, true, .busy)] := by
  decide +kernel

end CanopenRtt.Cia402.Device
