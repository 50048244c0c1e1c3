import CanopenRtt.Cia402.Device.Supervisor
import Mathlib.Tactic.Simps.Basic
/-!
# What one supervisor pass can do

`Control` is the part of an axis that decides who may drive: the PDS state, the
owner tokens and the diagnostic latch. The relations below list the moves of the
FSA and of the mode machinery on it, guards and callback results included, and
`fsaMove_axisProcess` and `modeMove_processModes` show that the code makes no
other move. Every invariant of the Device is derived from these lists.
-/

namespace CanopenRtt.Cia402.Device

/-- The ownership and state part of an axis. -/
structure Control where
  state : State
  mode : Mode
  faultResetBitPrevious : Bool
  faultResetInProgress : Bool
  pendingExitMode : Mode
  pendingEnterMode : Mode
  operation : Option DriveOperation
  target : State
  diagnosis : DiagRuntime

@[simps] def Axis.control (axis : Axis) : Control where
  state := axis.state
  mode := axis.mode
  faultResetBitPrevious := axis.faultResetBitPrevious
  faultResetInProgress := axis.faultResetInProgress
  pendingExitMode := axis.pendingExitMode
  pendingEnterMode := axis.pendingEnterMode
  operation := axis.pdsTransitionOperation
  target := axis.pdsTransitionTargetState
  diagnosis := axis.diagnosis

/-- What the FSA and the mode machinery leave alone: the request of the pass,
configuration, bindings, SYNC state and the published Statusword. -/
structure Fixed where
  requestedModeRaw : ModeRaw
  requestedModeRecognized : Bool
  logicalDevice : LogicalDevice
  od : ODCache
  drive : ValidDriveIf
  supportedModes : BitVec 32
  sync : Option SyncIf
  syncRuntime : SyncRuntime
  statusword : Word

@[simps] def Axis.fixed (axis : Axis) : Fixed where
  requestedModeRaw := axis.requestedModeRaw
  requestedModeRecognized := axis.requestedModeRecognized
  logicalDevice := axis.logicalDevice
  od := axis.od
  drive := axis.drive
  supportedModes := axis.supportedModes
  sync := axis.sync
  syncRuntime := axis.syncRuntime
  statusword := axis.image.statusword

/-- A BUSY PDS, mode-exit or mode-enter owner. -/
def Control.Owned (c : Control) : Prop :=
  c.operation ≠ none ∨ c.pendingExitMode ≠ .none ∨ c.pendingEnterMode ≠ .none

instance (c : Control) : Decidable c.Owned := by unfold Control.Owned; infer_instance

def Control.release (c : Control) : Control :=
  { c with
    faultResetInProgress := false
    pendingExitMode := .none
    pendingEnterMode := .none
    operation := none
    target := .unknown }

def Control.sampled (c : Control) (controlword : Word) : Control :=
  { c with faultResetBitPrevious := faultResetBit controlword }

/-- The transition a state handler starts on a command. -/
def acceptedTransition : State → Command → Option (DriveOperation × State)
  | .switchOnDisabled, .shutdown => some (.shutdown, .readyToSwitchOn)
  | .readyToSwitchOn, .disableVoltage => some (.disableVoltage, .switchOnDisabled)
  | .readyToSwitchOn, .switchOnOrDisableOperation => some (.switchOn, .switchedOn)
  | .switchedOn, .disableVoltage => some (.disableVoltage, .switchOnDisabled)
  | .switchedOn, .shutdown => some (.shutdown, .readyToSwitchOn)
  | .switchedOn, .enableOperation => some (.enableOperation, .operationEnabled)
  | .operationEnabled, .quickStop => some (.quickStop, .quickStopActive)
  | .operationEnabled, .disableVoltage => some (.disableVoltage, .switchOnDisabled)
  | .operationEnabled, .shutdown => some (.shutdown, .readyToSwitchOn)
  | .operationEnabled, .switchOnOrDisableOperation => some (.disableOperation, .switchedOn)
  | .quickStopActive, .disableVoltage => some (.disableVoltage, .switchOnDisabled)
  | _, _ => none

/-- The recognized and supported mode that 0x6060 asks for. -/
def wantedMode (axis : Axis) : Option Mode :=
  if !axis.requestedModeRecognized then none
  else
    match modeFromRaw axis.requestedModeRaw with
    | none => none
    | some mode => if modeSupported axis mode then some mode else none

/-- What a latch attempt draws on: the mapping it ends up with, and whether the
Error code can be written. -/
structure LatchSource where
  info : Option FaultInfo
  writable : Bool

def latchSource (inputs : PassInputs) (origin : FaultOrigin) (fault : Option FaultInfo)
    (axis : Axis) : LatchSource where
  info := fault.or (inputs.getFaultInfo origin)
  writable := (axis.od .errorCode).isSome && inputs.latchErrorCode origin

/-- What a pass reads: the Controlword its FSA samples, whether the Error code can
be cleared, the mode asked for, and the diagnosis of a failing mode callback. -/
structure Reads where
  controlword : Option Word
  clearable : Bool
  mode : Option Mode
  modeFault : LatchSource

def reads (inputs : PassInputs) (axis : Axis) : Reads where
  controlword :=
    if (axis.od .controlword).isNone || (axis.od .statusword).isNone then none
    else inputs.controlword .fsa
  clearable := (axis.od .errorCode).isSome && inputs.clearErrorCode
  mode := wantedMode axis
  modeFault := latchSource inputs .modeOperation none axis

/-! ## Moves -/

/-- A latch attempt on the diagnosis, with the actions it records. -/
inductive DiagLatch (source : LatchSource) (d : DiagRuntime) :
    DiagRuntime → List Action → Prop where
  | suppressed (hactive : d.active = true) : DiagLatch source d d []
  | rejected (hactive : d.active = false) (asked : List Action)
      (hasked : ∀ a ∈ asked, ∃ origin info, a = .getFaultInfo origin info) :
      DiagLatch source d { d with contractFailed := true } asked
  | latched (hactive : d.active = false) (origin : FaultOrigin) {fault : FaultInfo}
      (hinfo : source.info = some fault) (hvalid : faultInfoValid fault = true)
      (hwritable : source.writable = true) {event : DiagEvent} (htype : event.type = .report)
      (hfault : event.fault = fault) (asked : List Action)
      (hasked : ∀ a ∈ asked, ∃ origin info, a = .getFaultInfo origin info) :
      DiagLatch source d
        { d with active := true, origin := origin, fault := fault, pending := true, event := event }
        (asked ++ [.latched event])

/-- Entry into Fault reaction active. -/
inductive FaultEntry (source : LatchSource) (c : Control) : Control → List Action → Prop where
  | mk {d : DiagRuntime} {actions : List Action} (hlatch : DiagLatch source c.diagnosis d actions) :
      FaultEntry source c { c.release with state := .faultReactionActive, diagnosis := d } actions

/-- One call of the PDS owner `op` latched together with `target`. -/
inductive OwnerCall (inputs : PassInputs) (op : DriveOperation) (target : State) (c : Control) :
    Control → List Action → Prop where
  | busy (h : inputs.operation op = .busy) :
      OwnerCall inputs op target c { c with operation := some op, target := target }
        [.operation op .busy]
  | done (h : inputs.operation op = .done) :
      OwnerCall inputs op target c
        { c with operation := none, target := .unknown, state := target } [.operation op .done]
  | error (h : inputs.operation op = .error) {source : LatchSource} {c' : Control}
      {actions : List Action} (hentry : FaultEntry source c c' actions) :
      OwnerCall inputs op target c c' (.operation op .error :: actions)

/-- The target of each PDS transition callback. -/
def transitionTarget : DriveOperation → Option State
  | .shutdown => some .readyToSwitchOn
  | .switchOn | .disableOperation => some .switchedOn
  | .enableOperation => some .operationEnabled
  | .disableVoltage => some .switchOnDisabled
  | .quickStop => some .quickStopActive
  | .faultReaction | .faultReset => none

/-- A command makes `op` the owner, with `target`: the control it is first called from. -/
inductive Begins (c : Control) (command : Command) (op : DriveOperation) (target : State) :
    Control → Prop where
  | accepted (hidle : ¬ c.Owned)
      (haccepted : acceptedTransition c.state command = some (op, target)) :
      Begins c command op target c
  | disableVoltage (howned : c.Owned) (hcommand : command = .disableVoltage)
      (hlower : c.target ≠ .switchOnDisabled) (hop : op = .disableVoltage)
      (htarget : target = .switchOnDisabled) : Begins c command op target c.release
  | quickStop (howned : c.Owned) (hcommand : command = .quickStop)
      (henabled : c.state = .operationEnabled ∨ c.target = .operationEnabled)
      (hlower : c.target ≠ .switchOnDisabled ∧ c.target ≠ .quickStopActive)
      (hop : op = .quickStop) (htarget : target = .quickStopActive) :
      Begins c command op target c.release

/-- How the FSA comes to call `op` for `target`, and the control it calls from. -/
inductive Latch (c : Control) (command : Command) (op : DriveOperation) (target : State) :
    Control → Prop where
  | held (hop : c.operation = some op) (htarget : c.target = target) : Latch c command op target c
  | begun {base : Control} (hbegins : Begins c command op target base) :
      Latch c command op target base

/-- The control after one fault-reaction call. -/
def Control.reacted (c : Control) (inputs : PassInputs) : Control :=
  { c with
    state := if inputs.operation .faultReaction = .busy then c.state else .fault }

def reactionCall (inputs : PassInputs) : Action :=
  .operation .faultReaction (inputs.operation .faultReaction)

/-- The moves of `CO_402_device_axisProcess`. -/
inductive FsaMove (inputs : PassInputs) (r : Reads) (c : Control) :
    Control → List Action → Prop where
  | skipped (hread : r.controlword = none) : FsaMove inputs r c c []
  | readFailed (hread : r.controlword = none) {source : LatchSource} {c' : Control}
      {actions : List Action} (hentry : FaultEntry source c c' actions) :
      FsaMove inputs r c (c'.reacted inputs) (actions ++ [reactionCall inputs])
  | waiting (controlword : Word) (hread : r.controlword = some controlword)
      (hquiet : c.Owned ∨ c.state ≠ .notReadyToSwitchOn ∧
        acceptedTransition c.state (pdsCommand controlword) = none) :
      FsaMove inputs r c (c.sampled controlword) []
  | powerUp (controlword : Word) (hread : r.controlword = some controlword)
      (hidle : ¬ c.Owned) (hstate : c.state = .notReadyToSwitchOn) :
      FsaMove inputs r c { c.sampled controlword with state := .switchOnDisabled } []
  | transition (controlword : Word) (hread : r.controlword = some controlword)
      {op : DriveOperation} {target : State} {base c' : Control} {actions : List Action}
      (hlatch : Latch (c.sampled controlword) (pdsCommand controlword) op target base)
      (hcall : OwnerCall inputs op target base c' actions) : FsaMove inputs r c c' actions
  | takeoverFailed (controlword : Word) (hread : r.controlword = some controlword)
      {op : DriveOperation} (herror : inputs.operation op = .error) {source : LatchSource}
      {c' : Control} {actions : List Action}
      (hentry : FaultEntry source (c.sampled controlword) c' actions) :
      FsaMove inputs r c (c'.reacted inputs)
        (.operation op .error :: actions ++ [reactionCall inputs])
  | reaction (controlword : Word) (hread : r.controlword = some controlword)
      (hstate : c.state = .faultReactionActive) :
      FsaMove inputs r c ((c.sampled controlword).reacted inputs) [reactionCall inputs]
  | resetBusy (controlword : Word) (hread : r.controlword = some controlword)
      (hstate : c.state = .fault) (hidle : ¬ c.Owned)
      (hstart : c.faultResetInProgress = true ∨
        faultResetBit controlword = true ∧ c.faultResetBitPrevious = false)
      (hresult : inputs.operation .faultReset = .busy) :
      FsaMove inputs r c { c.sampled controlword with faultResetInProgress := true }
        [.operation .faultReset .busy]
  | resetDone (controlword : Word) (hread : r.controlword = some controlword)
      (hstate : c.state = .fault) (hidle : ¬ c.Owned)
      (hstart : c.faultResetInProgress = true ∨
        faultResetBit controlword = true ∧ c.faultResetBitPrevious = false)
      (hresult : inputs.operation .faultReset = .done)
      (hclearable : r.clearable = true) (hcontract : c.diagnosis.contractFailed = false)
      {d : DiagRuntime} {actions : List Action}
      (hclear :
        c.diagnosis.active = false ∧ d = c.diagnosis ∧ actions = [] ∨
          ∃ event : DiagEvent, event.type = .reset ∧ event.fault = c.diagnosis.fault ∧
            c.diagnosis.active = true ∧
            d = { c.diagnosis with
              pending := true, event := event, active := false, origin := .product, fault := {} } ∧
            actions = [.cleared event]) :
      FsaMove inputs r c
        { c.sampled controlword with
          faultResetInProgress := false, state := .switchOnDisabled, diagnosis := d }
        (.operation .faultReset .done :: actions)
  | resetFailed (controlword : Word) (hread : r.controlword = some controlword)
      (hstate : c.state = .fault) (hidle : ¬ c.Owned) (hbusy : inputs.operation .faultReset ≠ .busy)
      {d : DiagRuntime}
      (hd : d = c.diagnosis ∨ d = { c.diagnosis with contractFailed := true })
      {source : LatchSource} {c' : Control} {actions : List Action}
      (hentry : FaultEntry source
        { c.sampled controlword with faultResetInProgress := false, diagnosis := d } c' actions) :
      FsaMove inputs r c c'
        (.operation .faultReset (inputs.operation .faultReset) :: actions)
  | invalid (controlword : Word) (hread : r.controlword = some controlword)
      (hstate : c.state = .unknown) {source : LatchSource} {c' : Control}
      {actions : List Action} (hentry : FaultEntry source (c.sampled controlword) c' actions) :
      FsaMove inputs r c c' actions

/-- The step from `before` to `after` is one of the moves `R` lists, and the
actions of the move are what the step adds to the trace. -/
def Performs (R : Control → List Action → Prop) (before after : Axis) : Prop :=
  ∃ c actions, R c actions ∧ after.control = c ∧ after.trace = before.trace ++ actions

/-! ## The code makes only these moves -/

theorem diagLatch_performs (inputs : PassInputs) (origin : FaultOrigin)
    (fault : Option FaultInfo) (axis : Axis) :
    Performs (fun c actions => ∃ d,
        DiagLatch (latchSource inputs origin fault axis) axis.diagnosis d actions ∧
          c = { axis.control with diagnosis := d })
      axis (diagLatch inputs origin fault axis).1 := by
  have hselected : ∀ (selected : FaultInfo) (asked : List Action) (current : Axis),
      (∀ a ∈ asked, ∃ origin info, a = .getFaultInfo origin info) →
      current = { axis with trace := axis.trace ++ asked } → axis.diagnosis.active = false →
      (latchSource inputs origin fault axis).info = some selected →
      Performs (fun c actions => ∃ d,
          DiagLatch (latchSource inputs origin fault axis) axis.diagnosis d actions ∧
            c = { axis.control with diagnosis := d })
        axis (latchSelected inputs origin selected current).1 := by
    intro selected asked current hasked hcurrent hactive hinfo
    subst hcurrent
    unfold latchSelected
    split_ifs with hvalid hwritable
    · exact ⟨_, asked, ⟨_, .rejected hactive asked hasked, rfl⟩, rfl, rfl⟩
    · exact ⟨_, asked, ⟨_, .rejected hactive asked hasked, rfl⟩, rfl, rfl⟩
    · have hvalid' : faultInfoValid selected = true := by simpa using hvalid
      have hwritable' : (latchSource inputs origin fault axis).writable = true := by
        simpa [latchSource, Option.isSome_iff_ne_none] using hwritable
      refine ⟨_, asked ++ [_],
        ⟨_, .latched hactive origin hinfo hvalid' hwritable' rfl rfl asked hasked, rfl⟩, rfl, ?_⟩
      simp only [Axis.record, List.append_assoc]
  unfold diagLatch
  by_cases hactive : axis.diagnosis.active = true
  · rw [if_pos hactive]
    exact ⟨_, [], ⟨_, .suppressed hactive, rfl⟩, rfl, by simp⟩
  · rw [if_neg hactive]
    rw [Bool.not_eq_true] at hactive
    cases fault with
    | some selected => exact hselected selected [] axis (by simp) (by simp) hactive rfl
    | none =>
        have hasked : ∀ a ∈ [Action.getFaultInfo origin (inputs.getFaultInfo origin)],
            ∃ origin info, a = .getFaultInfo origin info := by
          intro a ha
          exact ⟨_, _, List.mem_singleton.mp ha⟩
        cases hmapped : inputs.getFaultInfo origin with
        | none => exact ⟨_, _, ⟨_, .rejected hactive _ (hmapped ▸ hasked), rfl⟩, rfl, rfl⟩
        | some mapped => exact hselected mapped _ _ (hmapped ▸ hasked) rfl hactive hmapped

theorem axisEnterFaultReaction_performs (inputs : PassInputs) (origin : FaultOrigin)
    (fault : Option FaultInfo) (axis : Axis) :
    Performs (FaultEntry (latchSource inputs origin fault axis) axis.control) axis
      (axisEnterFaultReaction inputs origin fault axis) := by
  obtain ⟨c, actions, ⟨d, hlatch, rfl⟩, hcontrol, htrace⟩ :=
    diagLatch_performs inputs origin fault (releaseOwnerForSafetyTransfer axis)
  refine ⟨_, actions, .mk hlatch, ?_, ?_⟩
  · have hstate : (axisEnterFaultReaction inputs origin fault axis).control =
        { (diagLatch inputs origin fault (releaseOwnerForSafetyTransfer axis)).1.control with
          state := .faultReactionActive } := rfl
    rw [hstate, hcontrol]
    rfl
  · exact htrace

/-- A later step of the same pass that starts with the action `first`. -/
theorem Performs.after_call {R : Control → List Action → Prop} {before called after : Axis}
    {first : Action} (hcalled : called.trace = before.trace ++ [first])
    (h : Performs R called after) :
    ∃ c actions, R c actions ∧ after.control = c ∧
      after.trace = before.trace ++ first :: actions := by
  obtain ⟨c, actions, hmove, hcontrol, htrace⟩ := h
  refine ⟨c, actions, hmove, hcontrol, ?_⟩
  rw [htrace, hcalled, List.append_assoc, List.singleton_append]

theorem continuePdsTransition_performs (inputs : PassInputs) (axis : Axis) {op : DriveOperation}
    (hop : axis.pdsTransitionOperation = some op) :
    Performs (OwnerCall inputs op axis.pdsTransitionTargetState axis.control) axis
      (continuePdsTransition inputs axis) := by
  simp only [continuePdsTransition, hop]
  cases hresult : inputs.operation op with
  | busy =>
      refine ⟨_, _, .busy hresult, ?_, ?_⟩
      · simp [Axis.control, callDrive, Axis.record, hop]
      · simp [callDrive, Axis.record, hresult]
  | done =>
      refine ⟨_, _, .done hresult, rfl, ?_⟩
      simp [callDrive, Axis.record, setState, hresult]
  | error =>
      have hentry := axisEnterFaultReaction_performs inputs .pdsOperation none
        { callDrive inputs op axis with
          pdsTransitionOperation := none
          pdsTransitionTargetState := .unknown }
      have hcalled : (callDrive inputs op axis).trace = axis.trace ++ [.operation op .error] := by
        simp [callDrive, Axis.record, hresult]
      obtain ⟨c, actions, hmove, hcontrol, htrace⟩ := Performs.after_call hcalled hentry
      obtain ⟨hlatch⟩ := hmove
      exact ⟨_, _, .error hresult (.mk hlatch), hcontrol, htrace⟩

theorem startPdsTransition_performs (inputs : PassInputs) (op : DriveOperation) (target : State)
    (axis : Axis) :
    Performs (OwnerCall inputs op target axis.control) axis
      (startPdsTransition inputs op target axis) := by
  obtain ⟨c, actions, hcall, hcontrol, htrace⟩ :=
    continuePdsTransition_performs inputs
      { axis with
        pdsTransitionOperation := some op
        pdsTransitionTargetState := target } rfl
  cases hcall with
  | busy h => exact ⟨_, _, .busy h, hcontrol, htrace⟩
  | done h => exact ⟨_, _, .done h, hcontrol, htrace⟩
  | error h hentry =>
      obtain ⟨hlatch⟩ := hentry
      exact ⟨_, _, .error h (.mk hlatch), hcontrol, htrace⟩

theorem processFaultReactionActive_performs (inputs : PassInputs) (axis : Axis) :
    Performs (fun c actions => c = axis.control.reacted inputs ∧ actions = [reactionCall inputs])
      axis (processFaultReactionActive inputs axis) := by
  refine ⟨_, _, ⟨rfl, rfl⟩, ?_, ?_⟩ <;>
    cases hresult : inputs.operation .faultReaction <;>
      simp [processFaultReactionActive, hresult, Control.reacted, callDrive, Axis.record,
        setState, Axis.control, reactionCall]

/-- A fault entry followed in the same pass by a fault-reaction call. -/
theorem Performs.then_reaction {inputs : PassInputs} {source : LatchSource} {c : Control}
    {before middle : Axis} (h : Performs (FaultEntry source c) before middle) :
    ∃ c' actions, FaultEntry source c c' actions ∧
      (processFaultReactionActive inputs middle).control = c'.reacted inputs ∧
      (processFaultReactionActive inputs middle).trace =
        before.trace ++ (actions ++ [reactionCall inputs]) := by
  obtain ⟨c', actions, hentry, hcontrol, htrace⟩ := h
  obtain ⟨_, _, ⟨rfl, rfl⟩, hcontrol', htrace'⟩ := processFaultReactionActive_performs inputs middle
  refine ⟨c', actions, hentry, ?_, ?_⟩
  · rw [hcontrol', hcontrol]
  · rw [htrace', htrace, List.append_assoc]

theorem diagClear_failed {inputs : PassInputs} {axis : Axis}
    (h : (diagClear inputs axis).2 = false) :
    (diagClear inputs axis).1.trace = axis.trace ∧
      ∃ d, (d = axis.diagnosis ∨ d = { axis.diagnosis with contractFailed := true }) ∧
        (diagClear inputs axis).1.control = { axis.control with diagnosis := d } := by
  unfold diagClear at h ⊢
  split_ifs at h ⊢ with hcontract herror
  · exact ⟨rfl, _, .inl rfl, rfl⟩
  · exact ⟨rfl, _, .inr rfl, rfl⟩

theorem diagClear_succeeded {inputs : PassInputs} {axis : Axis}
    (h : (diagClear inputs axis).2 = true) :
    (reads inputs axis).clearable = true ∧ axis.diagnosis.contractFailed = false ∧
      ∃ d actions,
      (axis.diagnosis.active = false ∧ d = axis.diagnosis ∧ actions = [] ∨
        ∃ event : DiagEvent, event.type = .reset ∧ event.fault = axis.diagnosis.fault ∧
          axis.diagnosis.active = true ∧
          d = { axis.diagnosis with
            pending := true, event := event, active := false, origin := .product, fault := {} } ∧
          actions = [.cleared event]) ∧
      (diagClear inputs axis).1.control = { axis.control with diagnosis := d } ∧
      (diagClear inputs axis).1.trace = axis.trace ++ actions := by
  unfold diagClear at h ⊢
  split_ifs at h ⊢ with hcontract herror hactive
  · refine ⟨by simpa [reads, Option.isSome_iff_ne_none] using herror, by simpa using hcontract,
      _, [], .inl ⟨by simpa using hactive, rfl, rfl⟩, rfl, ?_⟩
    simp
  · refine ⟨by simpa [reads, Option.isSome_iff_ne_none] using herror, by simpa using hcontract,
      _, _, .inr ⟨_, rfl, rfl, ?_, rfl, rfl⟩, rfl, rfl⟩
    simpa using hactive

theorem modeTransitionPending_eq_false {axis : Axis} :
    modeTransitionPending axis = false ↔
      axis.pendingExitMode = .none ∧ axis.pendingEnterMode = .none := by
  simp [modeTransitionPending]

/-- The three owner tests of the source, as one predicate. -/
theorem not_owned_iff {axis : Axis} :
    ¬ axis.control.Owned ↔
      axis.pdsTransitionOperation = none ∧ modeTransitionPending axis = false := by
  simp [Control.Owned, modeTransitionPending_eq_false]

theorem ownerActive_iff {axis : Axis} :
    (axis.pdsTransitionOperation.isSome || modeTransitionPending axis) = true ↔
      axis.control.Owned := by
  rw [← not_iff_not, not_owned_iff]
  simp [modeTransitionPending]

/-- The state handlers of the operational states are one table. -/
theorem processState_operational (axis : Axis) (h : axis.state.operational = true)
    (inputs : PassInputs) (command : Command) (edge : Bool) :
    processState inputs command edge axis =
      match acceptedTransition axis.state command with
      | some (op, target) => startPdsTransition inputs op target axis
      | none => axis := by
  unfold processState
  cases hstate : axis.state <;> rw [hstate] at h <;>
    first | exact absurd h Bool.false_ne_true | (cases command <;> rfl)

/-- `before` with the bit-7 sample of this pass stored. -/
def Axis.sampled (axis : Axis) (controlword : Word) : Axis :=
  { axis with faultResetBitPrevious := faultResetBit controlword }

@[simp] theorem control_sampled (axis : Axis) (controlword : Word) :
    (axis.sampled controlword).control = axis.control.sampled controlword := rfl

theorem continueFaultReset_performs {inputs : PassInputs} {axis : Axis} {controlword : Word}
    (hread : (reads inputs axis).controlword = some controlword) (hstate : axis.state = .fault)
    (hidle : ¬ axis.control.Owned)
    (hstart : axis.faultResetInProgress = true ∨
      faultResetBit controlword = true ∧ axis.faultResetBitPrevious = false) :
    Performs (FsaMove inputs (reads inputs axis) axis.control) axis
      (continueFaultReset inputs
        { axis.sampled controlword with faultResetInProgress := true }) := by
  unfold continueFaultReset
  cases hresult : inputs.operation .faultReset with
  | busy =>
      refine ⟨_, _, .resetBusy controlword hread hstate hidle hstart hresult, rfl, ?_⟩
      simp [callDrive, Axis.record, Axis.sampled, hresult]
  | done =>
      simp only
      set called : Axis :=
        { callDrive inputs .faultReset
            { axis.sampled controlword with faultResetInProgress := true } with
          faultResetInProgress := false } with hcalled
      have htrace : called.trace = axis.trace ++ [.operation .faultReset .done] := by
        simp [hcalled, callDrive, Axis.record, Axis.sampled, hresult]
      have hcontrol : called.control =
          { axis.control.sampled controlword with faultResetInProgress := false } := rfl
      cases hcleared : (diagClear inputs called).2 with
      | true =>
          obtain ⟨hclearable, hcontract, d, actions, hclear, hcontrol', htrace'⟩ :=
            diagClear_succeeded hcleared
          refine ⟨_, _, .resetDone controlword hread hstate hidle hstart hresult hclearable
            hcontract hclear, ?_, ?_⟩
          · have hset : (setState (diagClear inputs called).1 .switchOnDisabled).control =
                { (diagClear inputs called).1.control with state := .switchOnDisabled } := rfl
            simpa [hcontrol', hcontrol] using hset
          · simpa [setState, htrace] using htrace'
      | false =>
          obtain ⟨htrace', d, hd, hcontrol'⟩ := diagClear_failed hcleared
          have hentry := axisEnterFaultReaction_performs inputs .faultReset none
            (diagClear inputs called).1
          obtain ⟨c, actions, hmove, hc, ht⟩ :=
            Performs.after_call (htrace'.trans htrace) hentry
          rw [hcontrol', hcontrol] at hmove
          refine ⟨_, _, .resetFailed controlword hread hstate hidle (by simp [hresult]) hd hmove,
            ?_, ?_⟩
          · simpa using hc
          · simpa [hresult] using ht
  | error =>
      have hentry := axisEnterFaultReaction_performs inputs .faultReset none
        { callDrive inputs .faultReset
            { axis.sampled controlword with faultResetInProgress := true } with
          faultResetInProgress := false }
      have hcalled : (callDrive inputs .faultReset
          { axis.sampled controlword with faultResetInProgress := true }).trace =
            axis.trace ++ [.operation .faultReset .error] := by
        simp [callDrive, Axis.record, Axis.sampled, hresult]
      obtain ⟨c, actions, hmove, hc, ht⟩ := Performs.after_call hcalled hentry
      exact ⟨_, _, .resetFailed controlword hread hstate hidle (by simp [hresult]) (.inl rfl) hmove,
        hc, by rw [hresult]; exact ht⟩

theorem safetyPriority_lt_disableVoltage (axis : Axis) :
    (activePdsSafetyPriority axis).value < SafetyPriority.disableVoltage.value ↔
      axis.pdsTransitionTargetState ≠ .switchOnDisabled := by
  unfold activePdsSafetyPriority
  split_ifs with hvoltage hstop
  · simp [hvoltage]
  · simp [hvoltage, SafetyPriority.value]
  · simp [hvoltage, SafetyPriority.value]

theorem safetyPriority_lt_quickStop (axis : Axis) :
    (activePdsSafetyPriority axis).value < SafetyPriority.quickStop.value ↔
      axis.pdsTransitionTargetState ≠ .switchOnDisabled ∧
        axis.pdsTransitionTargetState ≠ .quickStopActive := by
  unfold activePdsSafetyPriority
  split_ifs with hvoltage hstop
  · simp [hvoltage, SafetyPriority.value]
  · simp [hstop]
  · simp [hvoltage, hstop, SafetyPriority.value]

/-- When a command overtakes the owner, and with which callback and target. -/
theorem overtakingRequest_eq_some_iff {axis : Axis} {command : Command} {op : DriveOperation}
    {target : State} :
    overtakingRequest axis command = some (op, target) ↔
      axis.control.Owned ∧
        (command = .disableVoltage ∧ axis.pdsTransitionTargetState ≠ .switchOnDisabled ∧
            op = .disableVoltage ∧ target = .switchOnDisabled ∨
          command = .quickStop ∧
            (axis.state = .operationEnabled ∨ axis.pdsTransitionTargetState = .operationEnabled) ∧
            (axis.pdsTransitionTargetState ≠ .switchOnDisabled ∧
              axis.pdsTransitionTargetState ≠ .quickStopActive) ∧
            op = .quickStop ∧ target = .quickStopActive) := by
  rw [← ownerActive_iff, ← safetyPriority_lt_quickStop, ← safetyPriority_lt_disableVoltage]
  unfold overtakingRequest requestedSafety
  cases command <;>
    by_cases howner : (axis.pdsTransitionOperation.isSome || modeTransitionPending axis) = true <;>
    simp only [howner, reduceCtorEq, false_and, true_and, and_false, if_false, if_true, or_false,
      false_or, Bool.not_true, Bool.not_false, Bool.false_eq_true]
  · by_cases hpriority :
        (activePdsSafetyPriority axis).value < SafetyPriority.disableVoltage.value
    · simp [hpriority, eq_comm]
    · simp [hpriority, Nat.le_of_not_lt hpriority]
  · by_cases henabled : axis.state = .operationEnabled ∨
        axis.pdsTransitionTargetState = .operationEnabled
    · by_cases hpriority :
          (activePdsSafetyPriority axis).value < SafetyPriority.quickStop.value
      · simp only [henabled, hpriority, true_and, if_true, Nat.not_le.mpr hpriority, if_false,
          Option.some.injEq, Prod.mk.injEq]
        exact and_congr eq_comm eq_comm
      · simp [henabled, hpriority, Nat.le_of_not_lt hpriority]
    · simp [henabled]
  · split <;> simp_all

theorem begins_of_overtakingRequest {axis : Axis} {command : Command} {op : DriveOperation}
    {target : State} (h : overtakingRequest axis command = some (op, target)) :
    Begins axis.control command op target axis.control.release := by
  obtain ⟨howned, ⟨hcommand, hlower, hop, htarget⟩ | ⟨hcommand, henabled, hlower, hop, htarget⟩⟩ :=
    overtakingRequest_eq_some_iff.mp h
  · exact .disableVoltage howned hcommand hlower hop htarget
  · exact .quickStop howned hcommand henabled hlower hop htarget

theorem takeOver_performs {inputs : PassInputs} {axis : Axis} {controlword : Word}
    {op : DriveOperation} {target : State}
    (hread : (reads inputs axis).controlword = some controlword)
    (hfault : axis.control.Owned → axis.state ≠ .faultReactionActive)
    (h : overtakingRequest (axis.sampled controlword) (pdsCommand controlword) =
      some (op, target)) :
    Performs (FsaMove inputs (reads inputs axis) axis.control) axis
      (takeOver inputs op target (axis.sampled controlword)) := by
  have hbegins := begins_of_overtakingRequest h
  obtain ⟨howned, hrequest⟩ := overtakingRequest_eq_some_iff.mp h
  obtain ⟨c, actions, hcall, hcontrol, htrace⟩ := startPdsTransition_performs inputs op target
    (releaseOwnerForSafetyTransfer (axis.sampled controlword))
  unfold takeOver
  by_cases hreaction : (startPdsTransition inputs op target
      (releaseOwnerForSafetyTransfer (axis.sampled controlword))).state = .faultReactionActive
  · -- Only an ERROR leaves a takeover in the fault path.
    rw [if_pos hreaction]
    have hc : c.state = .faultReactionActive := by
      rw [← hcontrol]
      exact hreaction
    obtain ⟨_, _, ⟨rfl, rfl⟩, hcontrol', htrace'⟩ :=
      processFaultReactionActive_performs inputs (startPdsTransition inputs op target
        (releaseOwnerForSafetyTransfer (axis.sampled controlword)))
    cases hcall with
    | busy hbusy => exact absurd hc (hfault howned)
    | done hdone =>
        have htarget : target = .faultReactionActive := hc
        rcases hrequest with ⟨-, -, -, rfl⟩ | ⟨-, -, -, -, rfl⟩ <;> exact absurd htarget (by decide)
    | error herror hentry =>
        obtain ⟨hdiag⟩ := hentry
        refine ⟨_, _, .takeoverFailed controlword hread herror (.mk hdiag), ?_, ?_⟩
        · rw [hcontrol', hcontrol]
          rfl
        · rw [htrace', htrace, List.append_assoc]
          rfl
  · rw [if_neg hreaction]
    exact ⟨_, _, .transition controlword hread (.begun hbegins) hcall, hcontrol, htrace⟩

/-- An unreadable Controlword either finds an idle latched Fault or runs the fault
reaction. -/
theorem axisControlwordReadFailed_performs (inputs : PassInputs) (axis : Axis) :
    axisControlwordReadFailed inputs axis = axis ∧ axis.state = .fault ∧
        axis.faultResetInProgress = false ∧ ¬ axis.control.Owned ∨
      ∃ source c actions, FaultEntry source axis.control c actions ∧
        (axisControlwordReadFailed inputs axis).control = c.reacted inputs ∧
        (axisControlwordReadFailed inputs axis).trace =
          axis.trace ++ (actions ++ [reactionCall inputs]) := by
  unfold axisControlwordReadFailed
  split_ifs with hquiet
  · obtain ⟨hstate, hreset, howner⟩ := hquiet
    exact .inl ⟨rfl, hstate, hreset, not_owned_iff.mpr howner⟩
  · exact .inr ⟨_, (axisEnterFaultReaction_performs inputs .controlwordOD none axis).then_reaction⟩

theorem processState_performs {inputs : PassInputs} {axis : Axis} {controlword : Word}
    (hread : (reads inputs axis).controlword = some controlword) (hidle : ¬ axis.control.Owned) :
    Performs (FsaMove inputs (reads inputs axis) axis.control) axis
      (processState inputs (pdsCommand controlword)
        (faultResetBit controlword && !axis.faultResetBitPrevious)
        (axis.sampled controlword)) := by
  have hwaiting : axis.state ≠ .notReadyToSwitchOn →
      acceptedTransition axis.state (pdsCommand controlword) = none →
        Performs (FsaMove inputs (reads inputs axis) axis.control) axis
          (axis.sampled controlword) :=
    fun hready hrejected => ⟨_, [], .waiting controlword hread (.inr ⟨hready, hrejected⟩), rfl,
      by simp [Axis.sampled]⟩
  by_cases hoperational : axis.state.operational = true
  · rw [processState_operational (axis.sampled controlword) hoperational,
      show (axis.sampled controlword).state = axis.state from rfl]
    cases haccepted : acceptedTransition axis.state (pdsCommand controlword) with
    | none =>
        refine hwaiting (fun hnotReady => ?_) haccepted
        rw [hnotReady] at hoperational
        exact absurd hoperational Bool.false_ne_true
    | some transition =>
        obtain ⟨op, target⟩ := transition
        obtain ⟨c, actions, hcall, hcontrol, htrace⟩ :=
          startPdsTransition_performs inputs op target (axis.sampled controlword)
        exact ⟨_, _, .transition controlword hread (.begun (.accepted hidle haccepted)) hcall,
          hcontrol, htrace⟩
  · cases hstate : axis.state with
    | notReadyToSwitchOn =>
        simp only [processState, Axis.sampled, hstate]
        exact ⟨_, _, .powerUp controlword hread hidle hstate, rfl, by simp [setState]⟩
    | faultReactionActive =>
        simp only [processState, Axis.sampled, hstate]
        obtain ⟨_, _, ⟨rfl, rfl⟩, hcontrol, htrace⟩ :=
          processFaultReactionActive_performs inputs (axis.sampled controlword)
        refine ⟨_, _, .reaction controlword hread hstate, ?_, ?_⟩
        · rw [← control_sampled, ← hcontrol, Axis.sampled, hstate]
        · rw [Axis.sampled, hstate] at htrace
          exact htrace
    | fault =>
        simp only [processState, Axis.sampled, hstate, processFault]
        split_ifs with hreset hedge
        · have h := continueFaultReset_performs hread hstate hidle (.inl hreset)
          simpa only [Axis.sampled, hstate, hreset] using h
        · have hquiet : acceptedTransition axis.state (pdsCommand controlword) = none := by
            rw [hstate]
            rfl
          simpa only [Axis.sampled, hstate] using hwaiting (by rw [hstate]; decide) hquiet
        · have hstart : faultResetBit controlword = true ∧ axis.faultResetBitPrevious = false := by
            simpa using hedge
          have h := continueFaultReset_performs hread hstate hidle (.inr hstart)
          simpa only [Axis.sampled, hstate] using h
    | unknown =>
        simp only [processState, Axis.sampled, hstate]
        obtain ⟨c, actions, hentry, hcontrol, htrace⟩ :=
          axisEnterFaultReaction_performs inputs .internalState none (axis.sampled controlword)
        refine ⟨_, _, .invalid controlword hread hstate hentry, ?_, ?_⟩
        · simpa only [Axis.sampled, hstate] using hcontrol
        · simpa only [Axis.sampled, hstate] using htrace
    | switchOnDisabled => exact absurd (by rw [hstate]; rfl) hoperational
    | readyToSwitchOn => exact absurd (by rw [hstate]; rfl) hoperational
    | switchedOn => exact absurd (by rw [hstate]; rfl) hoperational
    | operationEnabled => exact absurd (by rw [hstate]; rfl) hoperational
    | quickStopActive => exact absurd (by rw [hstate]; rfl) hoperational

theorem axisProcessControlword_overtaken {inputs : PassInputs} {axis : Axis} {controlword : Word}
    {op : DriveOperation} {target : State}
    (h : overtakingRequest axis (pdsCommand controlword) = some (op, target)) :
    axisProcessControlword inputs controlword axis =
      takeOver inputs op target (axis.sampled controlword) := by
  have hsampled : overtakingRequest (axis.sampled controlword) (pdsCommand controlword) =
      some (op, target) := h
  unfold Axis.sampled at hsampled ⊢
  simp only [axisProcessControlword, preemptOwnerForSafetyCommand, hsampled]

theorem axisProcessControlword_ordinary {inputs : PassInputs} {axis : Axis} {controlword : Word}
    (h : overtakingRequest axis (pdsCommand controlword) = none) :
    axisProcessControlword inputs controlword axis =
      if modeTransitionPending axis then axis.sampled controlword
      else if axis.pdsTransitionOperation.isSome then
        continuePdsTransition inputs (axis.sampled controlword)
      else processState inputs (pdsCommand controlword)
        (faultResetBit controlword && !axis.faultResetBitPrevious) (axis.sampled controlword) := by
  have hsampled : overtakingRequest (axis.sampled controlword) (pdsCommand controlword) = none := h
  have hpending : modeTransitionPending (axis.sampled controlword) =
      modeTransitionPending axis := rfl
  unfold Axis.sampled at hsampled hpending ⊢
  simp only [axisProcessControlword, preemptOwnerForSafetyCommand, hsampled, hpending]

theorem axisProcessControlword_performs {inputs : PassInputs} {axis : Axis} {controlword : Word}
    (hread : (reads inputs axis).controlword = some controlword)
    (hfault : axis.control.Owned → axis.state ≠ .faultReactionActive) :
    Performs (FsaMove inputs (reads inputs axis) axis.control) axis
      (axisProcessControlword inputs controlword axis) := by
  cases hovertaken : overtakingRequest axis (pdsCommand controlword) with
  | some request =>
      obtain ⟨op, target⟩ := request
      rw [axisProcessControlword_overtaken hovertaken]
      exact takeOver_performs hread hfault hovertaken
  | none =>
      rw [axisProcessControlword_ordinary hovertaken]
      split_ifs with hmode hpds
      · have howned : axis.control.Owned :=
          ownerActive_iff.mp (by rw [Bool.or_eq_true]; exact .inr hmode)
        exact ⟨_, [], .waiting controlword hread (.inl howned), rfl, by simp [Axis.sampled]⟩
      · obtain ⟨op, hop⟩ := Option.isSome_iff_exists.mp hpds
        obtain ⟨c, actions, hcall, hcontrol, htrace⟩ :=
          continuePdsTransition_performs inputs (axis.sampled controlword) hop
        exact ⟨_, _, .transition controlword hread (.held hop rfl) hcall, hcontrol, htrace⟩
      · have hidle : ¬ axis.control.Owned :=
          not_owned_iff.mpr ⟨by simpa using hpds, by simpa using hmode⟩
        exact processState_performs hread hidle

/-- The FSA makes one of its listed moves in every pass. -/
theorem fsaMove_axisProcess (inputs : PassInputs) {axis : Axis}
    (hfault : axis.control.Owned → axis.state ≠ .faultReactionActive) :
    Performs (FsaMove inputs (reads inputs axis) axis.control) axis (axisProcess inputs axis) := by
  unfold axisProcess
  split_ifs with hcache
  · exact ⟨_, [], .skipped (if_pos hcache), rfl, by simp⟩
  · have hreads : (reads inputs axis).controlword = inputs.controlword .fsa := if_neg hcache
    cases hread : inputs.controlword .fsa with
    | none =>
        rw [hread] at hreads
        rcases axisControlwordReadFailed_performs inputs axis with
          ⟨heq, -⟩ | ⟨source, c, actions, hentry, hcontrol, htrace⟩
        · exact ⟨_, [], .skipped hreads, by rw [heq], by simp [heq]⟩
        · exact ⟨_, _, .readFailed hreads hentry, hcontrol, htrace⟩
    | some controlword =>
        rw [hread] at hreads
        exact axisProcessControlword_performs hreads hfault

/-! ## Frame -/

/-- What the FSA leaves alone: besides, the mode and the mode runtimes. -/
structure Unmoved where
  fixed : Fixed
  mode : Mode
  pp : PPRuntime
  pv : PVRuntime
  hm : HMRuntime

@[simps] def Axis.unmoved (axis : Axis) : Unmoved where
  fixed := axis.fixed
  mode := axis.mode
  pp := axis.pp
  pv := axis.pv
  hm := axis.hm

@[simp] theorem unmoved_record (axis : Axis) (action : Action) :
    (axis.record action).unmoved = axis.unmoved := rfl

@[simp] theorem unmoved_diagLatch (inputs : PassInputs) (origin : FaultOrigin)
    (fault : Option FaultInfo) (axis : Axis) :
    (diagLatch inputs origin fault axis).1.unmoved = axis.unmoved := by
  have hselected : ∀ selected current,
      (latchSelected inputs origin selected current).1.unmoved = current.unmoved := by
    intro selected current
    unfold latchSelected
    split_ifs <;> rfl
  unfold diagLatch
  split_ifs
  · rfl
  · cases fault with
    | some selected => exact hselected selected axis
    | none =>
        simp only
        split
        · rfl
        · exact hselected _ _

@[simp] theorem unmoved_axisEnterFaultReaction (inputs : PassInputs) (origin : FaultOrigin)
    (fault : Option FaultInfo) (axis : Axis) :
    (axisEnterFaultReaction inputs origin fault axis).unmoved = axis.unmoved :=
  unmoved_diagLatch inputs origin fault (releaseOwnerForSafetyTransfer axis)

@[simp] theorem unmoved_continuePdsTransition (inputs : PassInputs) (axis : Axis) :
    (continuePdsTransition inputs axis).unmoved = axis.unmoved := by
  unfold continuePdsTransition
  split
  · rfl
  · simp only
    split
    · rfl
    · rfl
    · rw [unmoved_axisEnterFaultReaction]
      rfl

@[simp] theorem unmoved_startPdsTransition (inputs : PassInputs) (op : DriveOperation)
    (target : State) (axis : Axis) :
    (startPdsTransition inputs op target axis).unmoved = axis.unmoved :=
  unmoved_continuePdsTransition inputs _

@[simp] theorem unmoved_processFaultReactionActive (inputs : PassInputs) (axis : Axis) :
    (processFaultReactionActive inputs axis).unmoved = axis.unmoved := by
  unfold processFaultReactionActive
  simp only
  split <;> rfl

@[simp] theorem unmoved_takeOver (inputs : PassInputs) (op : DriveOperation) (target : State)
    (axis : Axis) : (takeOver inputs op target axis).unmoved = axis.unmoved := by
  unfold takeOver
  simp only
  split_ifs
  · rw [unmoved_processFaultReactionActive, unmoved_startPdsTransition]
    rfl
  · rw [unmoved_startPdsTransition]
    rfl

@[simp] theorem unmoved_continueFaultReset (inputs : PassInputs) (axis : Axis) :
    (continueFaultReset inputs axis).unmoved = axis.unmoved := by
  have hclear : ∀ current, (diagClear inputs current).1.unmoved = current.unmoved := by
    intro current
    unfold diagClear
    split_ifs <;> rfl
  unfold continueFaultReset
  simp only
  split
  · rfl
  · split_ifs
    · rw [unmoved_axisEnterFaultReaction, hclear]
      rfl
    · exact hclear _
  · rw [unmoved_axisEnterFaultReaction]
    rfl

@[simp] theorem unmoved_axisControlwordReadFailed (inputs : PassInputs) (axis : Axis) :
    (axisControlwordReadFailed inputs axis).unmoved = axis.unmoved := by
  unfold axisControlwordReadFailed
  split_ifs
  · rfl
  · rw [unmoved_processFaultReactionActive, unmoved_axisEnterFaultReaction]

@[simp] theorem unmoved_processState (inputs : PassInputs) (command : Command) (edge : Bool)
    (axis : Axis) : (processState inputs command edge axis).unmoved = axis.unmoved := by
  by_cases hoperational : axis.state.operational = true
  · rw [processState_operational axis hoperational]
    cases acceptedTransition axis.state command with
    | none => rfl
    | some transition => exact unmoved_startPdsTransition inputs _ _ axis
  · cases hstate : axis.state with
    | notReadyToSwitchOn =>
        simp only [processState, hstate]
        rfl
    | faultReactionActive =>
        simp only [processState, hstate]
        exact unmoved_processFaultReactionActive inputs axis
    | fault =>
        simp only [processState, hstate, processFault]
        split_ifs
        · exact unmoved_continueFaultReset inputs axis
        · rfl
        · exact unmoved_continueFaultReset inputs _
    | unknown =>
        simp only [processState, hstate]
        exact unmoved_axisEnterFaultReaction inputs _ _ axis
    | _ => exact absurd (by rw [hstate]; rfl) hoperational

@[simp] theorem unmoved_axisProcess (inputs : PassInputs) (axis : Axis) :
    (axisProcess inputs axis).unmoved = axis.unmoved := by
  unfold axisProcess
  split_ifs
  · rfl
  · split
    · exact unmoved_axisControlwordReadFailed inputs axis
    · unfold axisProcessControlword preemptOwnerForSafetyCommand
      simp only
      split
      · rename_i h
        split at h
        · exact absurd h (by simp)
        · obtain ⟨rfl, -⟩ := Prod.mk.inj h
          exact unmoved_takeOver inputs _ _ _
      · rename_i h
        split at h
        · obtain ⟨rfl, -⟩ := Prod.mk.inj h
          split_ifs
          · rfl
          · exact unmoved_continuePdsTransition inputs _
          · exact unmoved_processState inputs _ _ _
        · exact absurd h (by simp)

@[simp] theorem fixed_record (axis : Axis) (action : Action) :
    (axis.record action).fixed = axis.fixed := rfl

@[simp] theorem fixed_axisEnterFaultReaction (inputs : PassInputs) (origin : FaultOrigin)
    (fault : Option FaultInfo) (axis : Axis) :
    (axisEnterFaultReaction inputs origin fault axis).fixed = axis.fixed :=
  congrArg Unmoved.fixed (unmoved_axisEnterFaultReaction inputs origin fault axis)

@[simp] theorem fixed_continuePdsTransition (inputs : PassInputs) (axis : Axis) :
    (continuePdsTransition inputs axis).fixed = axis.fixed :=
  congrArg Unmoved.fixed (unmoved_continuePdsTransition inputs axis)

@[simp] theorem fixed_takeOver (inputs : PassInputs) (op : DriveOperation) (target : State)
    (axis : Axis) : (takeOver inputs op target axis).fixed = axis.fixed :=
  congrArg Unmoved.fixed (unmoved_takeOver inputs op target axis)

@[simp] theorem fixed_axisControlwordReadFailed (inputs : PassInputs) (axis : Axis) :
    (axisControlwordReadFailed inputs axis).fixed = axis.fixed :=
  congrArg Unmoved.fixed (unmoved_axisControlwordReadFailed inputs axis)

@[simp] theorem fixed_axisProcess (inputs : PassInputs) (axis : Axis) :
    (axisProcess inputs axis).fixed = axis.fixed :=
  congrArg Unmoved.fixed (unmoved_axisProcess inputs axis)

theorem wantedMode_congr {axis other : Axis} (h : axis.fixed = other.fixed) :
    wantedMode axis = wantedMode other := by
  have hraw : axis.requestedModeRaw = other.requestedModeRaw :=
    congrArg Fixed.requestedModeRaw h
  have hrecognized : axis.requestedModeRecognized = other.requestedModeRecognized :=
    congrArg Fixed.requestedModeRecognized h
  have hsupported : axis.supportedModes = other.supportedModes :=
    congrArg Fixed.supportedModes h
  unfold wantedMode modeSupported
  rw [hraw, hrecognized, hsupported]

theorem reads_congr (inputs : PassInputs) {axis other : Axis} (h : axis.fixed = other.fixed) :
    reads inputs axis = reads inputs other := by
  have hod : axis.od = other.od := congrArg Fixed.od h
  simp only [reads, latchSource, hod, wantedMode_congr h]

end CanopenRtt.Cia402.Device
