import CanopenRtt.Cia402.Device.FaultLatch
import CanopenRtt.Cia402.Device.Reachable
/-!
# Preemption of a BUSY owner

The commanding callbacks of one pass over an axis whose PDS or mode callback is
BUSY. A stricter safety request is served before the old callback, any other
command leaves the pass to the owner, and an unreadable Controlword leaves it to
the fault reaction.
-/

namespace CanopenRtt.Cia402.Device

open CanopenRtt.Support

/-- The callbacks that tell the drive what to do. -/
def Action.isCommand : Action → Bool
  | .operation .. | .modeEnter .. | .modeExit .. | .profilePosition .. | .profileVelocity ..
  | .homing .. => true
  | _ => false

/-- The commanding callbacks among some actions, in order. -/
def commands (actions : List Action) : List Action :=
  actions.filter Action.isCommand

@[simp] theorem commands_nil : commands [] = [] := rfl

@[simp] theorem commands_append (xs ys : List Action) :
    commands (xs ++ ys) = commands xs ++ commands ys :=
  List.filter_append xs ys

@[simp] theorem commands_operation (op : DriveOperation) (result : DriveResult)
    (actions : List Action) :
    commands (.operation op result :: actions) = .operation op result :: commands actions := rfl

@[simp] theorem commands_modeExit (mode : Mode) (result : DriveResult) (actions : List Action) :
    commands (.modeExit mode result :: actions) = .modeExit mode result :: commands actions := rfl

@[simp] theorem commands_modeEnter (mode : Mode) (result : DriveResult) (actions : List Action) :
    commands (.modeEnter mode result :: actions) = .modeEnter mode result :: commands actions := rfl

@[simp] theorem commands_reactionCall (inputs : PassInputs) :
    commands [reactionCall inputs] = [reactionCall inputs] := rfl

theorem commands_eq_nil {actions : List Action} (h : ∀ a ∈ actions, a.isCommand = false) :
    commands actions = [] := by
  refine List.filter_eq_nil_iff.mpr fun a ha => ?_
  rw [h a ha]
  exact Bool.false_ne_true

theorem commands_feedback {actions : List Action} (h : ∀ a ∈ actions, a.isFeedback = true) :
    commands actions = [] := by
  refine commands_eq_nil fun a ha => ?_
  have hkind := h a ha
  cases a <;> first | rfl | exact absurd hkind Bool.false_ne_true

theorem commands_runtime {actions : List Action} (h : ∀ a ∈ actions, a.isRuntime = true) :
    commands actions = actions := by
  refine List.filter_eq_self.mpr fun a ha => ?_
  have hkind := h a ha
  cases a <;> first | rfl | exact absurd hkind Bool.false_ne_true

theorem FaultEntry.no_commands {source : LatchSource} {c c' : Control} {actions : List Action}
    (h : FaultEntry source c c' actions) : commands actions = [] := by
  have hasked : ∀ asked : List Action,
      (∀ a ∈ asked, ∃ origin info, a = .getFaultInfo origin info) →
        commands asked = [] := by
    intro asked hasked
    refine commands_eq_nil fun a ha => ?_
    obtain ⟨origin, info, rfl⟩ := hasked a ha
    rfl
  obtain ⟨hlatch⟩ := h
  cases hlatch with
  | suppressed => rfl
  | rejected _ _ h => exact hasked _ h
  | latched _ _ _ _ _ _ _ _ h =>
      rw [commands_append, hasked _ h]
      rfl

theorem PollMove.no_commands {inputs : PassInputs} {c c' : Control} {actions : List Action}
    (h : PollMove inputs c c' actions) : commands actions = [] := by
  cases h with
  | gated => rfl
  | clean => rfl
  | fault _ _ _ hentry => exact hentry.no_commands

/-! ## The mode machinery after the owner has answered -/

/-- The mode callbacks that may follow in a pass whose PDS transition has just
completed in `state`: the mode machinery starts afresh there. -/
inductive ModeCalls (inputs : PassInputs) (request : Option Mode) (mode : Mode) (state : State) :
    List Action → Prop where
  | none : ModeCalls inputs request mode state []
  | exit (hallowed : modeTransitionAllowed state = true) (hmode : mode ≠ .none)
      (hrequest : ∃ other, request = some other ∧ other ≠ mode) :
      ModeCalls inputs request mode state [.modeExit mode (inputs.modeExit mode)]
  | enter {next : Mode} (hallowed : modeTransitionAllowed state = true) (hnone : mode = .none)
      (hrequest : request = some next) (hnext : next ≠ .none) :
      ModeCalls inputs request mode state [.modeEnter next (inputs.modeEnter next)]
  | active (hstate : state = .operationEnabled) (hmode : mode ≠ .none) {called : List Action}
      (hcalled : ∀ a ∈ called, a.isRuntime = true) : ModeCalls inputs request mode state called

theorem ModeCalls.no_operation {inputs : PassInputs} {request : Option Mode} {mode : Mode}
    {state : State} {actions : List Action} (h : ModeCalls inputs request mode state actions)
    (op : DriveOperation) (result : DriveResult) : Action.operation op result ∉ actions := by
  cases h with
  | none => simp
  | exit => simp
  | enter => simp
  | active _ _ hcalled =>
      intro hmem
      exact absurd (hcalled _ hmem) Bool.false_ne_true

/-- With no owner left, the mode machinery starts afresh. -/
theorem ModeMove.calls {inputs : PassInputs} {r : Reads} {c c' : Control} {actions : List Action}
    (hmove : ModeMove inputs r c c' actions) (hidle : ¬ c.Owned) :
    ModeCalls inputs r.mode c.mode c.state (commands actions) := by
  obtain ⟨-, hexit, henter⟩ := Control.not_owned.mp hidle
  cases hmove with
  | idle => exact .none
  | active _ hstate hmode hcalled =>
      rw [commands_runtime hcalled]
      exact .active hstate hmode hcalled
  | activeFailed _ hstate hmode hcalled hentry =>
      rw [commands_append, commands_runtime hcalled, hentry.no_commands, List.append_nil]
      exact .active hstate hmode hcalled
  | exit hmode _ hstate hlatch hcall =>
      rcases hlatch with hpending | ⟨-, rfl, hrequest⟩
      · exact absurd (hpending.symm.trans hexit) hmode
      · have hcalls : commands actions = [.modeExit c.mode (inputs.modeExit c.mode)] := by
          cases hcall with
          | busy h => rw [h]; rfl
          | done h => rw [h]; rfl
          | error h hentry => rw [commands_modeExit, hentry.no_commands, h]
        rw [hcalls]
        exact .exit hstate hmode hrequest
  | @enter mode hmode _ _ hstate hlatch _ _ hcall =>
      rcases hlatch with hpending | ⟨-, hnone, hrequest⟩
      · exact absurd (hpending.symm.trans henter) hmode
      · have hcalls : commands actions = [.modeEnter mode (inputs.modeEnter mode)] := by
          cases hcall with
          | busy h => rw [h]; rfl
          | done h => rw [h]; rfl
          | error h hentry => rw [commands_modeEnter, hentry.no_commands, h]
        rw [hcalls]
        exact .enter hstate hnone hrequest hmode

theorem ModeMove.silent_of_pds {inputs : PassInputs} {r : Reads} {c c' : Control}
    {actions : List Action} (hmove : ModeMove inputs r c c' actions) (hop : c.operation ≠ none) :
    actions = [] := by
  cases hmove with
  | idle => rfl
  | active hidle => exact absurd (Or.inl hop) hidle
  | activeFailed hidle => exact absurd (Or.inl hop) hidle
  | exit _ hnone => exact absurd hnone hop
  | enter _ hnone => exact absurd hnone hop

theorem OwnerCall.then_modes {inputs : PassInputs} {r : Reads} {op : DriveOperation}
    {target : State} {c c₁ c₂ : Control} {called modes : List Action}
    (hcall : OwnerCall inputs op target c c₁ called) (hmodes : ModeMove inputs r c₁ c₂ modes)
    (hexit : c.pendingExitMode = .none) (henter : c.pendingEnterMode = .none) :
    ∃ rest, commands (called ++ modes) = .operation op (inputs.operation op) :: rest ∧
      (inputs.operation op ≠ .done → rest = []) ∧
      (inputs.operation op = .done → ModeCalls inputs r.mode c.mode target rest) := by
  cases hcall with
  | busy h =>
      have hsilent : modes = [] := hmodes.silent_of_pds (Option.some_ne_none op)
      refine ⟨[], by rw [hsilent, h]; rfl, fun _ => rfl, fun _ => .none⟩
  | done h =>
      have hidle : ¬ ({ c with operation := none, target := .unknown, state := target } :
          Control).Owned := Control.not_owned.mpr ⟨rfl, hexit, henter⟩
      exact ⟨commands modes, by rw [h]; rfl, fun hne => absurd h hne, fun _ => hmodes.calls hidle⟩
  | error h hentry =>
      have hfaulted : c₁.state.faulted = true := by
        rw [hentry.state]
        rfl
      obtain ⟨-, rfl⟩ := hmodes.eq_of_faulted hfaulted
      refine ⟨[], ?_, fun _ => rfl, fun _ => .none⟩
      rw [List.append_nil, commands_operation, hentry.no_commands, h]

theorem FaultEntry.then_modes {inputs : PassInputs} {r : Reads} {source : LatchSource}
    {c c₁ c₂ : Control} {entered modes : List Action}
    (hentry : FaultEntry source c c₁ entered)
    (hmodes : ModeMove inputs r (c₁.reacted inputs) c₂ modes) :
    commands (entered ++ [reactionCall inputs] ++ modes) = [reactionCall inputs] := by
  obtain ⟨-, rfl⟩ := hmodes.eq_of_faulted (Control.reacted_state c₁ inputs hentry.state)
  rw [List.append_nil, commands_append, hentry.no_commands, commands_reactionCall, List.nil_append]

/-! ## The FSA of an owned axis -/

/-- A safety takeover: the safety callback, and the fault reaction if it fails. -/
inductive Takeover (inputs : PassInputs) (op : DriveOperation) (target : State) (c : Control) :
    Control → List Action → Prop where
  | called (hresult : inputs.operation op ≠ .error) {c' : Control} {actions : List Action}
      (hcall : OwnerCall inputs op target c.release c' actions) :
      Takeover inputs op target c c' actions
  | failed (herror : inputs.operation op = .error) {source : LatchSource} {c' : Control}
      {actions : List Action} (hentry : FaultEntry source c.release c' actions) :
      Takeover inputs op target c (c'.reacted inputs)
        (.operation op .error :: (actions ++ [reactionCall inputs]))

theorem takeOver_takeover (inputs : PassInputs) {op : DriveOperation} {target : State} {axis : Axis}
    (htarget : target ≠ .faultReactionActive) (hstate : axis.state ≠ .faultReactionActive) :
    Performs (Takeover inputs op target axis.control) axis (takeOver inputs op target axis) := by
  obtain ⟨c, actions, hcall, hcontrol, htrace⟩ := startPdsTransition_performs inputs op target
    (releaseOwnerForSafetyTransfer axis)
  have hc : (startPdsTransition inputs op target (releaseOwnerForSafetyTransfer axis)).state =
      c.state := congrArg Control.state hcontrol
  unfold takeOver
  cases hcall with
  | busy h =>
      rw [if_neg (by rw [hc]; exact hstate)]
      exact ⟨_, _, .called (by simp [h]) (.busy h), hcontrol, htrace⟩
  | done h =>
      rw [if_neg (by rw [hc]; exact htarget)]
      exact ⟨_, _, .called (by simp [h]) (.done h), hcontrol, htrace⟩
  | error h hentry =>
      rw [if_pos (by rw [hc]; exact hentry.state)]
      obtain ⟨_, _, ⟨rfl, rfl⟩, hcontrol', htrace'⟩ :=
        processFaultReactionActive_performs inputs (startPdsTransition inputs op target
          (releaseOwnerForSafetyTransfer axis))
      refine ⟨_, _, .failed h hentry, ?_, ?_⟩
      · rw [hcontrol', hcontrol]
      · rw [htrace', htrace, List.append_assoc, List.cons_append]
        rfl

theorem Takeover.then_modes {inputs : PassInputs} {r : Reads} {op : DriveOperation}
    {target : State} {c c₁ c₂ : Control} {called modes : List Action}
    (htakeover : Takeover inputs op target c c₁ called) (hmodes : ModeMove inputs r c₁ c₂ modes) :
    ∃ rest, commands (called ++ modes) = .operation op (inputs.operation op) :: rest ∧
      (inputs.operation op = .busy → rest = []) ∧
      (inputs.operation op = .error → rest = [reactionCall inputs]) ∧
      (inputs.operation op = .done → ModeCalls inputs r.mode c.mode target rest) := by
  cases htakeover with
  | called hresult hcall =>
      obtain ⟨rest, hcalls, hwaiting, hdone⟩ := hcall.then_modes hmodes rfl rfl
      exact ⟨rest, hcalls, fun hbusy => hwaiting (by simp [hbusy]),
        fun herror => absurd herror hresult, hdone⟩
  | failed herror hentry =>
      refine ⟨[reactionCall inputs], ?_, fun hbusy => ?_, fun _ => rfl, fun hdone => ?_⟩
      · rw [List.cons_append, commands_operation, hentry.then_modes hmodes, herror]
      · exact absurd (herror.symm.trans hbusy) (by decide)
      · exact absurd (herror.symm.trans hdone) (by decide)

theorem Control.Ownership.operation_iff {c : Control} (h : c.Ownership) {op : DriveOperation}
    {target : State} (htarget : ∀ other, transitionTarget other = some target ↔ other = op) :
    c.operation = some op ↔ c.target = target := by
  constructor
  · intro hop
    have hlegal := h.legal op hop
    rw [(htarget op).mpr rfl] at hlegal
    exact (Option.some.inj hlegal).symm
  · intro hsame
    have hknown : c.target ≠ .unknown := by
      rw [hsame]
      exact (target_of_transitionTarget ((htarget op).mpr rfl)).1
    obtain ⟨other, hother⟩ := Option.ne_none_iff_exists'.mp (mt h.target.mp hknown)
    have hlegal := h.legal other hother
    rw [hsame] at hlegal
    rw [hother, (htarget other).mp hlegal]

/-- The safety requests that are stricter than the owner of the axis. -/
inductive StricterRequest (axis : Axis) : Command → DriveOperation → Prop where
  | disableVoltage (htarget : axis.pdsTransitionTargetState ≠ .switchOnDisabled) :
      StricterRequest axis .disableVoltage .disableVoltage
  | quickStop
      (henabled : axis.state = .operationEnabled ∨
        axis.pdsTransitionTargetState = .operationEnabled)
      (hstop : axis.pdsTransitionOperation ≠ some .quickStop)
      (hvoltage : axis.pdsTransitionOperation ≠ some .disableVoltage) :
      StricterRequest axis .quickStop .quickStop

/-- A command overtakes the owner exactly when its request is stricter. -/
theorem stricterRequest_iff {axis : Axis} (h : axis.control.Ownership) (howned : axis.control.Owned)
    {command : Command} {op : DriveOperation} :
    StricterRequest axis command op ↔
      ∃ target, transitionTarget op = some target ∧
        overtakingRequest axis command = some (op, target) := by
  have hstop : axis.pdsTransitionOperation = some .quickStop ↔
      axis.pdsTransitionTargetState = .quickStopActive :=
    h.operation_iff fun other => by cases other <;> decide
  have hvoltage : axis.pdsTransitionOperation = some .disableVoltage ↔
      axis.pdsTransitionTargetState = .switchOnDisabled :=
    h.operation_iff fun other => by cases other <;> decide
  constructor
  · intro hstricter
    cases hstricter with
    | disableVoltage htarget =>
        exact ⟨_, rfl, overtakingRequest_eq_some_iff.mpr
          ⟨howned, .inl ⟨rfl, htarget, rfl, rfl⟩⟩⟩
    | quickStop henabled hnotStop hnotVoltage =>
        exact ⟨_, rfl, overtakingRequest_eq_some_iff.mpr
          ⟨howned, .inr ⟨rfl, henabled, ⟨mt hvoltage.mpr hnotVoltage, mt hstop.mpr hnotStop⟩,
            rfl, rfl⟩⟩⟩
  · rintro ⟨target, -, hrequest⟩
    rcases (overtakingRequest_eq_some_iff.mp hrequest).2 with
      ⟨rfl, htarget, rfl, -⟩ | ⟨rfl, henabled, hlower, rfl, -⟩
    · exact .disableVoltage htarget
    · exact .quickStop henabled (mt hstop.mp hlower.2) (mt hvoltage.mp hlower.1)

theorem axisProcessControlword_held {inputs : PassInputs} {axis : Axis} {controlword : Word}
    (h : overtakingRequest axis (pdsCommand controlword) = none) (howned : axis.control.Owned) :
    axisProcessControlword inputs controlword axis =
      if modeTransitionPending axis then axis.sampled controlword
      else continuePdsTransition inputs (axis.sampled controlword) := by
  have hactive := ownerActive_iff.mpr howned
  rw [axisProcessControlword_ordinary h]
  split_ifs with hmode hpds
  · rfl
  · rfl
  · rw [Bool.not_eq_true] at hpds hmode
    rw [hpds, hmode] at hactive
    exact absurd hactive Bool.false_ne_true

/-- The trace of a pass whose mode callback has been served, or has failed. -/
theorem trace_processModes_served {inputs : PassInputs} {controlword : Word} {axis selected : Axis}
    {ok : Bool} (hop : axis.pdsTransitionOperation = none)
    (hselection : processModeSelection inputs controlword axis = (selected, false, ok)) :
    (processModes inputs controlword axis).trace =
      if ok then selected.trace
      else (axisEnterFaultReaction inputs .modeOperation none selected).trace := by
  unfold processModes
  rw [hop, hselection]
  simp only [Option.isSome_none, Bool.false_eq_true, if_false]
  cases ok with
  | true =>
      simp only [Bool.not_true, Bool.false_eq_true, if_false, if_true]
      split_ifs
      · exact trace_resetModeRuntime _ _ _
      · rfl
  | false => rfl

/-- A mode-exit owner is called in every pass that reaches the mode machinery. -/
theorem processModes_exit (inputs : PassInputs) (controlword : Word) {axis : Axis}
    (hop : axis.pdsTransitionOperation = none) (hexit : axis.pendingExitMode ≠ .none)
    (hallowed : modeTransitionAllowed axis.state = true) :
    ∃ actions, (processModes inputs controlword axis).trace = axis.trace ++ actions ∧
      commands actions =
        [.modeExit axis.pendingExitMode (inputs.modeExit axis.pendingExitMode)] := by
  have hselection : processModeSelection inputs controlword axis =
      ((continueModeExit inputs controlword axis).1, false,
        (continueModeExit inputs controlword axis).2) := by
    rw [processModeSelection, if_pos hexit]
  rw [trace_processModes_served hop hselection]
  rcases continueModeExit_performs inputs controlword axis hexit hallowed with
    ⟨hok, c, actions, hcall, -, htrace⟩ | ⟨hok, herror, hfailure⟩
  · have hcalls : commands actions =
        [.modeExit axis.pendingExitMode (inputs.modeExit axis.pendingExitMode)] := by
      cases hcall with
      | busy h => rw [h]; rfl
      | done h => rw [h]; rfl
      | error h hentry => rw [commands_modeExit, hentry.no_commands, h]
    rw [hok, if_pos rfl]
    exact ⟨actions, htrace, hcalls⟩
  · obtain ⟨c, actions, hentry, -, htrace⟩ := hfailure.entry inputs
    rw [hok, if_neg Bool.false_ne_true]
    refine ⟨.modeExit axis.pendingExitMode .error :: actions, htrace, ?_⟩
    rw [commands_modeExit, hentry.no_commands, herror]

/-- A mode-enter owner is called in every pass that reaches the mode machinery. -/
theorem processModes_enter (inputs : PassInputs) (controlword : Word) {axis : Axis}
    (hop : axis.pdsTransitionOperation = none) (hexit : axis.pendingExitMode = .none)
    (henter : axis.pendingEnterMode ≠ .none) (hallowed : modeTransitionAllowed axis.state = true) :
    ∃ actions, (processModes inputs controlword axis).trace = axis.trace ++ actions ∧
      commands actions =
        [.modeEnter axis.pendingEnterMode (inputs.modeEnter axis.pendingEnterMode)] := by
  have hselection : processModeSelection inputs controlword axis =
      ((continueModeEnter inputs controlword axis).1, false,
        (continueModeEnter inputs controlword axis).2) := by
    rw [processModeSelection, if_neg (by simpa using hexit), if_pos henter]
  rw [trace_processModes_served hop hselection]
  rcases continueModeEnter_performs inputs controlword axis henter hallowed with
    ⟨hok, c, actions, hcall, -, htrace⟩ | ⟨hok, herror, hfailure⟩
  · have hcalls : commands actions =
        [.modeEnter axis.pendingEnterMode (inputs.modeEnter axis.pendingEnterMode)] := by
      cases hcall with
      | busy h => rw [h]; rfl
      | done h => rw [h]; rfl
      | error h hentry => rw [commands_modeEnter, hentry.no_commands, h]
    rw [hok, if_pos rfl]
    exact ⟨actions, htrace, hcalls⟩
  · obtain ⟨c, actions, hentry, -, htrace⟩ := hfailure.entry inputs
    rw [hok, if_neg Bool.false_ne_true]
    refine ⟨.modeEnter axis.pendingEnterMode .error :: actions, htrace, ?_⟩
    rw [commands_modeEnter, hentry.no_commands, herror]

/-! ## The whole pass -/

/-- The commanding callbacks of one pass. -/
def passCalls (inputs : PassInputs) (axis : Axis) : List Action :=
  commands ((processAxis inputs axis).trace.drop axis.trace.length)

/-- The axis as the FSA of a pass finds it. -/
def prepared (inputs : PassInputs) (axis : Axis) : Axis :=
  updateModeRequest inputs (pollProduct inputs axis)

theorem passCalls_eq {inputs : PassInputs} {axis : Axis} {actions : List Action}
    (h : (supervise inputs (prepared inputs axis)).trace =
      (prepared inputs axis).trace ++ actions) :
    passCalls inputs axis = commands actions := by
  obtain ⟨_, polled, hpoll, -, htrace₁⟩ := pollMove_pollProduct inputs axis
  obtain ⟨-, -, feedback, hfeedback, htrace₃⟩ :=
    updateFeedback_step inputs (supervise inputs (prepared inputs axis))
  have hprepared : (prepared inputs axis).trace = axis.trace ++ polled := by
    rw [prepared, trace_updateModeRequest, htrace₁]
  have htrace : (processAxis inputs axis).trace =
      axis.trace ++ (polled ++ actions ++ feedback) := by
    have hpass : (processAxis inputs axis).trace =
        (updateFeedback inputs (supervise inputs (prepared inputs axis))).trace := rfl
    rw [hpass, htrace₃, h, hprepared]
    simp only [List.append_assoc]
  rw [passCalls, htrace, List.drop_left, commands_append, commands_append, hpoll.no_commands,
    commands_feedback hfeedback, List.nil_append, List.append_nil]

theorem control_prepared {inputs : PassInputs} {axis : Axis}
    (hpoll : (pollProductFault inputs axis).2 = none) :
    (prepared inputs axis).control = axis.control := by
  rw [prepared, control_updateModeRequest, pollProduct]
  unfold pollProductFault at hpoll ⊢
  split_ifs at hpoll ⊢
  · rfl
  · dsimp only at hpoll
    rw [hpoll]
    rfl

theorem od_prepared (inputs : PassInputs) (axis : Axis) :
    (prepared inputs axis).od = axis.od := by
  have hod : (pollProduct inputs axis).od = axis.od :=
    congrArg Fixed.od (fixed_pollProduct inputs axis)
  rw [prepared, ← hod]
  unfold updateModeRequest
  split <;> rfl

theorem reads_prepared (inputs : PassInputs) (axis : Axis) :
    reads inputs (prepared inputs axis) = passReads inputs axis :=
  reads_congr inputs (fixed_updateModeRequest_congr inputs (fixed_pollProduct inputs axis))

theorem axisProcess_prepared (inputs : PassInputs) {axis : Axis} (hbound : axis.Bound) :
    axisProcess inputs (prepared inputs axis) =
      match inputs.controlword .fsa with
      | none => axisControlwordReadFailed inputs (prepared inputs axis)
      | some controlword => axisProcessControlword inputs controlword (prepared inputs axis) := by
  have hcontrolword : (prepared inputs axis).od .controlword ≠ none := by
    rw [od_prepared]
    exact hbound.controlword
  have hstatusword : (prepared inputs axis).od .statusword ≠ none := by
    rw [od_prepared]
    exact hbound.statusword
  unfold axisProcess
  exact if_neg (by simp [hcontrolword, hstatusword])

theorem passCalls_processed {inputs : PassInputs} {axis : Axis} {sampled controlword : Word}
    (hbound : axis.Bound) (hsnapshot : inputs.controlword .snapshot = some sampled)
    (hfsa : inputs.controlword .fsa = some controlword) {actions : List Action}
    (h : (processModes inputs sampled
        (axisProcessControlword inputs controlword (prepared inputs axis))).trace =
      (prepared inputs axis).trace ++ actions) :
    passCalls inputs axis = commands actions := by
  refine passCalls_eq ?_
  rw [supervise, hsnapshot]
  dsimp only
  rw [axisProcess_prepared inputs hbound, hfsa]
  exact h

/-- A pass with an unreadable Controlword calls the fault reaction, and nothing else. -/
theorem passCalls_unreadable {inputs : PassInputs} {axis : Axis} (hbound : axis.Bound)
    (hunreadable : inputs.controlword .snapshot = none ∨ inputs.controlword .fsa = none)
    (hactive : ¬ ((prepared inputs axis).state = .fault ∧
      (prepared inputs axis).faultResetInProgress = false ∧
        ¬ (prepared inputs axis).control.Owned)) :
    passCalls inputs axis = [reactionCall inputs] := by
  have hfailed : ∃ source c actions, FaultEntry source (prepared inputs axis).control c actions ∧
      (axisControlwordReadFailed inputs (prepared inputs axis)).control = c.reacted inputs ∧
      (axisControlwordReadFailed inputs (prepared inputs axis)).trace =
        (prepared inputs axis).trace ++ (actions ++ [reactionCall inputs]) := by
    rcases axisControlwordReadFailed_performs inputs (prepared inputs axis) with
      ⟨-, hquiet⟩ | hfailed
    · exact absurd hquiet hactive
    · exact hfailed
  obtain ⟨source, c, actions, hentry, hcontrol, htrace⟩ := hfailed
  cases hsnapshot : inputs.controlword .snapshot with
  | none =>
      have hsupervise : supervise inputs (prepared inputs axis) =
          axisControlwordReadFailed inputs (prepared inputs axis) := by
        rw [supervise, hsnapshot]
      have hcalls := passCalls_eq (hsupervise ▸ htrace)
      rw [hcalls, commands_append, hentry.no_commands]
      rfl
  | some sampled =>
      have hfsa : inputs.controlword .fsa = none := by
        rcases hunreadable with hnone | hnone
        · exact absurd (hsnapshot.symm.trans hnone) (Option.some_ne_none sampled)
        · exact hnone
      obtain ⟨_, modes, hmodes, -, htrace'⟩ := modeMove_processModes inputs sampled
        (axisControlwordReadFailed inputs (prepared inputs axis))
      rw [hcontrol] at hmodes
      have hcalls : passCalls inputs axis =
          commands (actions ++ [reactionCall inputs] ++ modes) := by
        refine passCalls_eq ?_
        rw [supervise, hsnapshot]
        dsimp only
        rw [axisProcess_prepared inputs hbound, hfsa]
        dsimp only
        rw [htrace', htrace, List.append_assoc]
      rw [hcalls, hentry.then_modes hmodes]

/-- The commands of a pass over an axis with a BUSY owner. -/
structure OwnerServed (inputs : PassInputs) (axis : Axis) (controlword : Word) : Prop where
  overtaken : ∀ op target, StricterRequest axis (pdsCommand controlword) op →
    transitionTarget op = some target →
      ∃ rest, passCalls inputs axis = .operation op (inputs.operation op) :: rest ∧
        (inputs.operation op = .busy → rest = []) ∧
        (inputs.operation op = .error → rest = [reactionCall inputs]) ∧
        (inputs.operation op = .done →
          ModeCalls inputs (passReads inputs axis).mode axis.mode target rest)
  retired : ∀ op old result, StricterRequest axis (pdsCommand controlword) op →
    axis.pdsTransitionOperation = some old → .operation old result ∉ passCalls inputs axis
  pds : ∀ op, (∀ other, ¬ StricterRequest axis (pdsCommand controlword) other) →
    axis.pdsTransitionOperation = some op →
      ∃ rest, passCalls inputs axis = .operation op (inputs.operation op) :: rest ∧
        (inputs.operation op ≠ .done → rest = []) ∧
        (inputs.operation op = .done →
          ModeCalls inputs (passReads inputs axis).mode axis.mode
            axis.pdsTransitionTargetState rest)
  exit : (∀ op, ¬ StricterRequest axis (pdsCommand controlword) op) →
    axis.pendingExitMode ≠ .none →
      passCalls inputs axis =
        [.modeExit axis.pendingExitMode (inputs.modeExit axis.pendingExitMode)]
  enter : (∀ op, ¬ StricterRequest axis (pdsCommand controlword) op) →
    axis.pendingEnterMode ≠ .none →
      passCalls inputs axis =
        [.modeEnter axis.pendingEnterMode (inputs.modeEnter axis.pendingEnterMode)]

theorem overtakingRequest_congr {axis other : Axis} (h : axis.control = other.control)
    (command : Command) : overtakingRequest axis command = overtakingRequest other command := by
  have hstate : axis.state = other.state := congrArg Control.state h
  have hop : axis.pdsTransitionOperation = other.pdsTransitionOperation :=
    congrArg Control.operation h
  have htarget : axis.pdsTransitionTargetState = other.pdsTransitionTargetState :=
    congrArg Control.target h
  have hexit : axis.pendingExitMode = other.pendingExitMode := congrArg Control.pendingExitMode h
  have henter : axis.pendingEnterMode = other.pendingEnterMode :=
    congrArg Control.pendingEnterMode h
  unfold overtakingRequest requestedSafety activePdsSafetyPriority modeTransitionPending
  rw [hstate, hop, htarget, hexit, henter]

section Served

variable {inputs : PassInputs} {axis : Axis} {sampled controlword : Word} (hbound : axis.Bound)
  (h : axis.control.Ownership) (howned : axis.control.Owned)
  (hsnapshot : inputs.controlword .snapshot = some sampled)
  (hfsa : inputs.controlword .fsa = some controlword)
  (hpoll : (pollProductFault inputs axis).2 = none)

include hbound h howned hsnapshot hfsa hpoll

theorem passCalls_overtaken {op : DriveOperation} {target : State}
    (hstricter : StricterRequest axis (pdsCommand controlword) op)
    (htarget : transitionTarget op = some target) :
    ∃ rest, passCalls inputs axis = .operation op (inputs.operation op) :: rest ∧
      (inputs.operation op = .busy → rest = []) ∧
      (inputs.operation op = .error → rest = [reactionCall inputs]) ∧
      (inputs.operation op = .done →
        ModeCalls inputs (passReads inputs axis).mode axis.mode target rest) := by
  have hcontrol := control_prepared hpoll
  obtain ⟨other, hother, hrequest⟩ := (stricterRequest_iff h howned).mp hstricter
  obtain rfl : other = target := Option.some.inj (hother.symm.trans htarget)
  rw [← overtakingRequest_congr hcontrol] at hrequest
  have hstate : (prepared inputs axis).state ≠ .faultReactionActive := by
    have hsame : (prepared inputs axis).state = axis.state := congrArg Control.state hcontrol
    rw [hsame]
    exact h.not_reacting howned
  have hnormal : other ≠ .faultReactionActive := by
    intro hfalse
    have htargets := (target_of_transitionTarget htarget).2
    rw [hfalse] at htargets
    exact absurd htargets (by decide)
  obtain ⟨c, called, htakeover, hc, htrace⟩ :=
    @takeOver_takeover inputs op other ((prepared inputs axis).sampled controlword) hnormal hstate
  obtain ⟨_, modes, hmodes, -, htrace'⟩ := modeMove_processModes inputs sampled
    (takeOver inputs op other ((prepared inputs axis).sampled controlword))
  have hreads :
      reads inputs (takeOver inputs op other ((prepared inputs axis).sampled controlword)) =
      passReads inputs axis := by
    rw [← reads_prepared]
    exact reads_congr inputs (fixed_takeOver inputs op other _)
  rw [hc, hreads] at hmodes
  have hcalls : passCalls inputs axis = commands (called ++ modes) := by
    refine passCalls_processed hbound hsnapshot hfsa ?_
    rw [axisProcessControlword_overtaken hrequest, htrace', htrace, List.append_assoc]
    rfl
  have hmode : ((prepared inputs axis).sampled controlword).control.mode = axis.mode :=
    congrArg Control.mode hcontrol
  rw [hcalls, ← hmode]
  exact htakeover.then_modes hmodes

/-- The retired callback is not the safety callback, and nothing else of the pass calls it. -/
theorem passCalls_retired {op old : DriveOperation} (result : DriveResult)
    (hstricter : StricterRequest axis (pdsCommand controlword) op)
    (hold : axis.pdsTransitionOperation = some old) :
    Action.operation old result ∉ passCalls inputs axis := by
  obtain ⟨target, htarget, -⟩ := (stricterRequest_iff h howned).mp hstricter
  obtain ⟨rest, hcalls, hbusy, herror, hdone⟩ :=
    passCalls_overtaken hbound h howned hsnapshot hfsa hpoll hstricter htarget
  have hlegal := h.legal old hold
  have hne : old ≠ op := by
    rintro rfl
    have hsame : axis.pdsTransitionTargetState = target :=
      Option.some.inj (hlegal.symm.trans htarget)
    generalize pdsCommand controlword = command at hstricter
    cases hstricter with
    | disableVoltage hlower => exact hlower (hsame.trans (Option.some.inj htarget).symm)
    | quickStop _ hstop _ => exact hstop hold
  have hreaction : old ≠ .faultReaction := by
    rintro rfl
    exact absurd hlegal (Option.some_ne_none _).symm
  rw [hcalls]
  intro hmem
  rcases List.mem_cons.mp hmem with hfirst | hrest
  · exact hne (Action.operation.inj hfirst).1
  · cases hresult : inputs.operation op with
    | busy => exact absurd (hbusy hresult ▸ hrest) List.not_mem_nil
    | error =>
        rw [herror hresult] at hrest
        exact hreaction (Action.operation.inj (List.mem_singleton.mp hrest)).1
    | done => exact (hdone hresult).no_operation old result hrest

omit hbound hsnapshot hfsa in
theorem overtakingRequest_eq_none
    (hordinary : ∀ op, ¬ StricterRequest axis (pdsCommand controlword) op) :
    overtakingRequest (prepared inputs axis) (pdsCommand controlword) = none := by
  rw [overtakingRequest_congr (control_prepared hpoll)]
  by_contra hsome
  obtain ⟨⟨op, target⟩, hrequest⟩ := Option.ne_none_iff_exists'.mp hsome
  refine hordinary op ((stricterRequest_iff h howned).mpr ⟨target, ?_, hrequest⟩)
  rcases (overtakingRequest_eq_some_iff.mp hrequest).2 with
    ⟨-, -, rfl, rfl⟩ | ⟨-, -, -, rfl, rfl⟩ <;> rfl

theorem passCalls_pds {op : DriveOperation}
    (hordinary : ∀ other, ¬ StricterRequest axis (pdsCommand controlword) other)
    (hop : axis.pdsTransitionOperation = some op) :
    ∃ rest, passCalls inputs axis = .operation op (inputs.operation op) :: rest ∧
      (inputs.operation op ≠ .done → rest = []) ∧
      (inputs.operation op = .done →
        ModeCalls inputs (passReads inputs axis).mode axis.mode
          axis.pdsTransitionTargetState rest) := by
  have hcontrol := control_prepared hpoll
  have hnone := overtakingRequest_eq_none h howned hpoll hordinary
  obtain ⟨hexit, henter⟩ := h.pds_exclusive (Option.ne_none_iff_exists'.mpr ⟨op, hop⟩)
  rw [← hcontrol] at howned hexit henter
  have hfree : modeTransitionPending (prepared inputs axis) = false :=
    modeTransitionPending_eq_false.mpr ⟨hexit, henter⟩
  have hheld : axisProcessControlword inputs controlword (prepared inputs axis) =
      continuePdsTransition inputs ((prepared inputs axis).sampled controlword) := by
    rw [axisProcessControlword_held hnone howned, hfree, if_neg Bool.false_ne_true]
  have hop' : ((prepared inputs axis).sampled controlword).pdsTransitionOperation = some op :=
    (congrArg Control.operation hcontrol).trans hop
  obtain ⟨c, called, hcall, hc, htrace⟩ :=
    continuePdsTransition_performs inputs ((prepared inputs axis).sampled controlword) hop'
  obtain ⟨_, modes, hmodes, -, htrace'⟩ := modeMove_processModes inputs sampled
    (continuePdsTransition inputs ((prepared inputs axis).sampled controlword))
  have hreads : reads inputs
      (continuePdsTransition inputs ((prepared inputs axis).sampled controlword)) =
      passReads inputs axis := by
    rw [← reads_prepared]
    exact reads_congr inputs (fixed_continuePdsTransition inputs _)
  rw [hc, hreads] at hmodes
  have hcalls : passCalls inputs axis = commands (called ++ modes) := by
    refine passCalls_processed hbound hsnapshot hfsa ?_
    rw [hheld, htrace', htrace, List.append_assoc]
    rfl
  have hmode : ((prepared inputs axis).sampled controlword).control.mode = axis.mode :=
    congrArg Control.mode hcontrol
  have htarget : ((prepared inputs axis).sampled controlword).pdsTransitionTargetState =
      axis.pdsTransitionTargetState := congrArg Control.target hcontrol
  rw [hcalls, ← hmode, ← htarget]
  exact hcall.then_modes hmodes hexit henter

omit hbound hsnapshot hfsa in
/-- A mode owner finds its axis as the FSA left it: sampled, and otherwise unchanged. -/
theorem mode_owner_ready
    (hordinary : ∀ op, ¬ StricterRequest axis (pdsCommand controlword) op)
    (hpending : axis.pendingExitMode ≠ .none ∨ axis.pendingEnterMode ≠ .none) :
    axisProcessControlword inputs controlword (prepared inputs axis) =
        (prepared inputs axis).sampled controlword ∧
      (prepared inputs axis).pdsTransitionOperation = none ∧
      modeTransitionAllowed (prepared inputs axis).state = true := by
  have hcontrol := control_prepared hpoll
  have hnone := overtakingRequest_eq_none h howned hpoll hordinary
  have hop : axis.control.operation = none := by
    by_contra hsome
    obtain ⟨hexit, henter⟩ := h.pds_exclusive hsome
    exact hpending.elim (absurd hexit) (absurd henter)
  have hallowed := h.mode_state hpending
  rw [← hcontrol] at howned hop hallowed
  have hbusy : modeTransitionPending (prepared inputs axis) = true := by
    have hactive := ownerActive_iff.mpr howned
    have hop' : (prepared inputs axis).pdsTransitionOperation = none := hop
    rw [hop'] at hactive
    exact hactive
  refine ⟨?_, hop, hallowed⟩
  rw [axisProcessControlword_held hnone howned, hbusy, if_pos rfl]

theorem passCalls_exit (hordinary : ∀ op, ¬ StricterRequest axis (pdsCommand controlword) op)
    (hexit : axis.pendingExitMode ≠ .none) :
    passCalls inputs axis =
      [.modeExit axis.pendingExitMode (inputs.modeExit axis.pendingExitMode)] := by
  obtain ⟨hheld, hop, hallowed⟩ :=
    mode_owner_ready h howned hpoll hordinary (.inl hexit)
  have hmode : (prepared inputs axis).pendingExitMode = axis.pendingExitMode :=
    congrArg Control.pendingExitMode (control_prepared hpoll)
  rw [← hmode] at hexit ⊢
  obtain ⟨actions, htrace, hcalls⟩ :=
    @processModes_exit inputs sampled ((prepared inputs axis).sampled controlword)
      hop hexit hallowed
  rw [passCalls_processed hbound hsnapshot hfsa (by rw [hheld]; exact htrace), hcalls]
  rfl

theorem passCalls_enter (hordinary : ∀ op, ¬ StricterRequest axis (pdsCommand controlword) op)
    (henter : axis.pendingEnterMode ≠ .none) :
    passCalls inputs axis =
      [.modeEnter axis.pendingEnterMode (inputs.modeEnter axis.pendingEnterMode)] := by
  obtain ⟨hheld, hop, hallowed⟩ :=
    mode_owner_ready h howned hpoll hordinary (.inr henter)
  have hexit : axis.pendingExitMode = .none := by
    by_contra hexit
    exact henter (h.exit_mode hexit).2
  have hcontrol := control_prepared hpoll
  have hmode : (prepared inputs axis).pendingEnterMode = axis.pendingEnterMode :=
    congrArg Control.pendingEnterMode hcontrol
  have hexit' : (prepared inputs axis).pendingExitMode = .none :=
    (congrArg Control.pendingExitMode hcontrol).trans hexit
  rw [← hmode] at henter ⊢
  obtain ⟨actions, htrace, hcalls⟩ :=
    @processModes_enter inputs sampled ((prepared inputs axis).sampled controlword)
      hop hexit' henter
      hallowed
  rw [passCalls_processed hbound hsnapshot hfsa (by rw [hheld]; exact htrace), hcalls]
  rfl

theorem ownerServed_of_ownership : OwnerServed inputs axis controlword where
  overtaken _ _ hstricter htarget :=
    passCalls_overtaken hbound h howned hsnapshot hfsa hpoll hstricter htarget
  retired _ _ result hstricter hold :=
    passCalls_retired hbound h howned hsnapshot hfsa hpoll result hstricter hold
  pds _ hordinary hop := passCalls_pds hbound h howned hsnapshot hfsa hpoll hordinary hop
  exit hordinary hexit := passCalls_exit hbound h howned hsnapshot hfsa hpoll hordinary hexit
  enter hordinary henter := passCalls_enter hbound h howned hsnapshot hfsa hpoll hordinary henter

end Served

/-- An owner, or a running reset, is not the quiet Fault that ignores a failed read. -/
theorem prepared_active {inputs : PassInputs} {axis : Axis}
    (hactive : axis.control.Owned ∨ axis.faultResetInProgress = true) :
    ¬ ((prepared inputs axis).state = .fault ∧
      (prepared inputs axis).faultResetInProgress = false ∧
        ¬ (prepared inputs axis).control.Owned) := by
  obtain ⟨c, actions, hpoll, hcontrol, -⟩ := pollMove_pollProduct inputs axis
  have hprepared : (prepared inputs axis).control = c := by
    rw [prepared, control_updateModeRequest, hcontrol]
  rintro ⟨hstate, hreset, hidle⟩
  rcases hpoll.eq_or_entered with rfl | ⟨hentered, -⟩
  · have hreset' : axis.faultResetInProgress = false :=
      (congrArg Control.faultResetInProgress hprepared).symm.trans hreset
    rw [hprepared] at hidle
    rcases hactive with howned | hrunning
    · exact hidle howned
    · exact absurd (hreset'.symm.trans hrunning) Bool.false_ne_true
  · have hfault : c.state = .fault := (congrArg Control.state hprepared).symm.trans hstate
    exact absurd (hfault.symm.trans hentered) (by decide)

/-- A BUSY owner is overtaken by stricter safety requests and by nothing else, and an
unreadable Controlword hands any owner to the fault reaction. -/
theorem preemption_of_reachable {manager : Manager} (h : Reachable manager)
    (hbound : manager.odBound = true) {axis : Axis} (hmem : axis ∈ manager.axes)
    (inputs : PassInputs) :
    (∀ sampled controlword, inputs.controlword .snapshot = some sampled →
      inputs.controlword .fsa = some controlword → (pollProductFault inputs axis).2 = none →
        axis.control.Owned → OwnerServed inputs axis controlword) ∧
      (inputs.controlword .snapshot = none ∨ inputs.controlword .fsa = none →
        axis.control.Owned ∨ axis.faultResetInProgress = true →
          passCalls inputs axis = [reactionCall inputs]) := by
  have hcached := h.bound hbound axis hmem
  have hownership := (h.axisReachable axis hmem).ownership
  constructor
  · intro sampled controlword hsnapshot hfsa hpoll howned
    exact ownerServed_of_ownership hcached hownership howned hsnapshot hfsa hpoll
  · intro hunreadable hactive
    exact passCalls_unreadable hcached hunreadable (prepared_active hactive)

/-- Disable Voltage, asking for position control, with a mode entry that stays BUSY. -/
def disableVoltagePass : PassInputs :=
  { modesOfOperation := fun _ => some 8, modeEnter := fun _ => .busy }

/-- A Shutdown that completes, with the same request. -/
def shutdownPass : PassInputs :=
  { disableVoltagePass with controlword := fun _ => some 6 }

theorem preemption_busyShutdown :
    ∃ axis ∈ (run Manager.step cyclicManager busyShutdown).axes,
      passCalls { operation := fun _ => .busy } axis = [.operation .disableVoltage .busy] := by
  have howned : ∀ axis ∈ (run Manager.step cyclicManager busyShutdown).axes,
      axis.pdsTransitionOperation = some .shutdown ∧
        axis.pdsTransitionTargetState = .readyToSwitchOn := by decide +kernel
  obtain ⟨axis, hmem⟩ := List.exists_mem_of_ne_nil
    (run Manager.step cyclicManager busyShutdown).axes (by decide +kernel)
  obtain ⟨hop, htarget⟩ := howned axis hmem
  obtain ⟨hserved, -⟩ := preemption_of_reachable (reachable_cyclicManager.run busyShutdown)
    (by decide +kernel) hmem { operation := fun _ => .busy }
  have hdisable : StricterRequest axis (pdsCommand 0) .disableVoltage :=
    .disableVoltage (by rw [htarget]; decide)
  obtain ⟨rest, hcalls, hbusy, -⟩ := (hserved 0 0 rfl rfl (by
    unfold pollProductFault
    split_ifs <;> rfl) (.inl (by
    rw [Axis.control_operation, hop]
    exact Option.some_ne_none _))).overtaken _ _ hdisable rfl
  exact ⟨axis, hmem, by rw [hcalls, hbusy rfl]⟩

/-- A mode entry that stays BUSY. -/
def busyModeEnter : List Step :=
  [.process fun _ => {}, .process fun _ => disableVoltagePass]

/-- A completed Disable Voltage is followed by the very mode entry it retired, and a
completed Shutdown by a mode entry. -/
theorem preemption_restarts_modes :
    (∃ axis ∈ (run Manager.step cyclicManager busyModeEnter).axes,
      axis.pendingEnterMode = .cyclicSyncPosition ∧
        passCalls disableVoltagePass axis =
          [.operation .disableVoltage .done, .modeEnter .cyclicSyncPosition .busy]) ∧
      ∃ axis ∈ (run Manager.step cyclicManager busyShutdown).axes,
        axis.pdsTransitionOperation = some .shutdown ∧
          passCalls shutdownPass axis =
            [.operation .shutdown .done, .modeEnter .cyclicSyncPosition .busy] := by
  decide +kernel

end CanopenRtt.Cia402.Device
