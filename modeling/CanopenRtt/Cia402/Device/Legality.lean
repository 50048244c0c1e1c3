import CanopenRtt.Cia402.Device.FaultLatch
import Mathlib.Logic.Relation
/-!
# PDS transitions over runs

A pass changes the PDS state along documented edges only. A state of the normal
graph is committed when the callback that was latched together with it returns
DONE, and the latch goes back to one Controlword, in the state the axis is still
in: `Commits` names that Controlword's command and the passes since.
-/

namespace CanopenRtt.Cia402.Device

open CanopenRtt.Support

/-- The documented command edges, from the state of `c` to `target`. -/
inductive CommandEdge (c : Control) (command : Command) : State → Prop where
  | shutdown (hcommand : command = .shutdown)
      (hstate : c.state = .switchOnDisabled ∨ c.state = .switchedOn ∨
        c.state = .operationEnabled) : CommandEdge c command .readyToSwitchOn
  | switchOn (hcommand : command = .switchOnOrDisableOperation)
      (hstate : c.state = .readyToSwitchOn ∨ c.state = .operationEnabled) :
      CommandEdge c command .switchedOn
  | enableOperation (hcommand : command = .enableOperation) (hstate : c.state = .switchedOn) :
      CommandEdge c command .operationEnabled
  | disableVoltage (hcommand : command = .disableVoltage)
      (hstate : c.state = .readyToSwitchOn ∨ c.state = .switchedOn ∨
        c.state = .operationEnabled ∨ c.state = .quickStopActive ∨ c.Owned) :
      CommandEdge c command .switchOnDisabled
  | quickStop (hcommand : command = .quickStop)
      (hstate : c.state = .operationEnabled ∨ c.operation = some .enableOperation) :
      CommandEdge c command .quickStopActive

theorem commandEdge_of_accepted {c : Control} {command : Command} {op : DriveOperation}
    {target : State} (h : acceptedTransition c.state command = some (op, target)) :
    CommandEdge c command target := by
  cases hstate : c.state <;> rw [hstate] at h <;> cases command <;> cases h <;>
    first
    | exact .shutdown rfl (by simp [hstate])
    | exact .switchOn rfl (by simp [hstate])
    | exact .enableOperation rfl hstate
    | exact .disableVoltage rfl (by simp [hstate])
    | exact .quickStop rfl (by simp [hstate])

/-- Every latch follows a documented edge. -/
theorem Begins.edge {c base : Control} {command : Command} {op : DriveOperation} {target : State}
    (hbegins : Begins c command op target base) (h : c.Ownership) :
    CommandEdge c command target := by
  cases hbegins with
  | accepted _ haccepted => exact commandEdge_of_accepted haccepted
  | disableVoltage howned hcommand _ _ htarget =>
      rw [htarget]
      exact .disableVoltage hcommand (by simp [howned])
  | quickStop _ hcommand henabled _ _ htarget =>
      rw [htarget]
      refine .quickStop hcommand (henabled.imp_right fun htarget => ?_)
      have hsome : c.operation ≠ none := fun hnone =>
        absurd (htarget.symm.trans (h.target.mp hnone)) (by decide)
      obtain ⟨owner, howner⟩ := Option.ne_none_iff_exists'.mp hsome
      have hlegal := h.legal owner howner
      rw [htarget] at hlegal
      cases owner <;> first | exact howner | exact absurd hlegal (by decide)

/-- In this pass a Controlword that decodes to `command` latches `op` with `target`
along a documented edge, and `op` is called. -/
structure LatchedBy (command : Command) (op : DriveOperation) (target : State) (axis : Axis)
    (inputs : PassInputs) : Prop where
  word : ∃ controlword, sampledWord inputs axis = some controlword ∧
    pdsCommand controlword = command
  edge : CommandEdge axis.control command target
  own_target : transitionTarget op = some target
  called : ∃ actions, (processAxis inputs axis).trace = axis.trace ++ actions ∧
    .operation op (inputs.operation op) ∈ actions

/-! ## One pass -/

/-- The mode machinery keeps the state or enters Fault reaction active. -/
theorem ModeMove.state {inputs : PassInputs} {r : Reads} {c c' : Control}
    {actions : List Action} (hmove : ModeMove inputs r c c' actions) :
    c'.state = c.state ∨ c'.state = .faultReactionActive := by
  cases hmove with
  | idle => exact .inl rfl
  | active => exact .inl rfl
  | activeFailed _ _ _ _ hentry => exact .inr hentry.state
  | exit _ _ _ _ hcall =>
      cases hcall with
      | busy => exact .inl rfl
      | done => exact .inl rfl
      | error _ hentry => exact .inr hentry.state
  | enter _ _ _ _ _ hcall =>
      cases hcall with
      | busy => exact .inl rfl
      | done => exact .inl rfl
      | error _ hentry => exact .inr hentry.state

/-- A pass found with an owner has kept the owner it found or has just latched it. -/
theorem FsaMove.owner {inputs : PassInputs} {r : Reads} {c c' : Control} {actions : List Action}
    (hmove : FsaMove inputs r c c' actions) (h : c.Ownership) {op : DriveOperation}
    (hop : c'.operation = some op) :
    c'.state = c.state ∧ (c.operation = some op ∧ c.target = c'.target ∨
      ∃ controlword base, r.controlword = some controlword ∧
        Begins (c.sampled controlword) (pdsCommand controlword) op c'.target base ∧
        inputs.operation op = .busy ∧ .operation op .busy ∈ actions) := by
  have hidle : ∀ {c₁ : Control} {P : Prop}, ¬ c₁.Owned → c₁.operation = some op → P := by
    intro c₁ P hunowned hsome
    rw [(Control.not_owned.mp hunowned).1] at hsome
    exact absurd hsome (Option.some_ne_none op).symm
  cases hmove with
  | skipped => exact ⟨rfl, .inl ⟨hop, rfl⟩⟩
  | readFailed _ hentry => exact hidle hentry.idle.1 hop
  | waiting => exact ⟨rfl, .inl ⟨hop, rfl⟩⟩
  | powerUp _ _ hunowned _ => exact hidle hunowned hop
  | transition controlword hread hlatch hcall =>
      have hlatched := hlatch.latched (h.sampled controlword)
      cases hcall with
      | busy hbusy =>
          obtain rfl := Option.some.inj hop
          refine ⟨hlatched.state, ?_⟩
          cases hlatch with
          | held howner htarget => exact .inl ⟨howner, htarget⟩
          | begun hbegins =>
              exact .inr ⟨controlword, _, hread, hbegins, hbusy, List.mem_cons_self⟩
      | done => exact absurd hop (Option.some_ne_none op).symm
      | error _ hentry => exact hidle hentry.idle.1 hop
  | takeoverFailed _ _ _ hentry => exact hidle hentry.idle.1 hop
  | reaction _ _ hstate =>
      exact hidle (h.fault_unowned (by rw [hstate]; rfl)) hop
  | resetBusy _ _ _ hunowned _ _ => exact hidle hunowned hop
  | resetDone _ _ _ hunowned _ _ _ _ _ => exact hidle hunowned hop
  | resetFailed _ _ _ _ _ _ hentry => exact hidle hentry.idle.1 hop
  | invalid _ _ _ hentry => exact hidle hentry.idle.1 hop

/-- The mode machinery neither starts nor touches a PDS owner. -/
theorem ModeMove.owner {inputs : PassInputs} {r : Reads} {c c' : Control}
    {actions : List Action} (hmove : ModeMove inputs r c c' actions) {op : DriveOperation}
    (hop : c'.operation = some op) :
    c' = c := by
  have hentered : ∀ {source : LatchSource} {entry : List Action}, FaultEntry source c c' entry →
      c' = c := by
    intro source entry hentry
    rw [(Control.not_owned.mp hentry.idle.1).1] at hop
    exact absurd hop (Option.some_ne_none op).symm
  have hnone : c.operation = none → c.operation = some op → c' = c := fun hnone hsome =>
    absurd (hnone.symm.trans hsome) (Option.some_ne_none op).symm
  cases hmove with
  | idle => rfl
  | active => rfl
  | activeFailed _ _ _ _ hentry => exact hentered hentry
  | exit _ hfree _ _ hcall =>
      cases hcall with
      | busy => exact hnone hfree hop
      | done => exact hnone hfree hop
      | error _ hentry => exact hentered hentry
  | enter _ hfree _ _ _ hcall =>
      cases hcall with
      | busy => exact hnone hfree hop
      | done => exact hnone hfree hop
      | error _ hentry => exact hentered hentry

/-- One supervisor pass, as the step of a run. -/
def Axis.pass (axis : Axis) (inputs : PassInputs) : Axis :=
  processAxis inputs axis

/-- `op` is the owner, with `target`, of an axis in `state`. -/
structure OwnedIn (state : State) (op : DriveOperation) (target : State) (axis : Axis) : Prop where
  state : axis.state = state
  operation : axis.pdsTransitionOperation = some op
  target : axis.pdsTransitionTargetState = target

/-- The pass after `inputs` calls `op` to DONE, and `op` was latched together with
`target` by a Controlword of this pass or of an earlier one that it has owned the
axis since, always in the state the axis is in. -/
structure Commits (start : Axis) (inputs : List PassInputs) (next : PassInputs)
    (command : Command) (op : DriveOperation) (target : State) : Prop where
  done : ∃ actions, ((run Axis.pass start inputs).pass next).trace =
    (run Axis.pass start inputs).trace ++ actions ∧ .operation op .done ∈ actions
  latched : LatchedBy command op target (run Axis.pass start inputs) next ∨
    OwnedIn (run Axis.pass start inputs).state op target (run Axis.pass start inputs) ∧
      HeldSince Axis.pass
        (fun axis earlier => axis.state = (run Axis.pass start inputs).state ∧
          earlier.operation op = .busy ∧ LatchedBy command op target axis earlier)
        (fun axis _ => OwnedIn (run Axis.pass start inputs).state op target axis) start inputs

/-- Only Enable operation latches a transition to OPERATION_ENABLED. -/
theorem LatchedBy.enable {command : Command} {op : DriveOperation} {axis : Axis}
    {inputs : PassInputs} (h : LatchedBy command op .operationEnabled axis inputs) :
    command = .enableOperation ∧ op = .enableOperation ∧ axis.state = .switchedOn := by
  have hop : op = .enableOperation := by
    have htarget := h.own_target
    cases op <;> first | rfl | exact absurd htarget (by decide)
  cases h.edge with
  | enableOperation hcommand hstate => exact ⟨hcommand, hop, hstate⟩

theorem Commits.enable {start : Axis} {inputs : List PassInputs} {next : PassInputs}
    {command : Command} {op : DriveOperation}
    (h : Commits start inputs next command op .operationEnabled) :
    command = .enableOperation ∧ op = .enableOperation ∧
      (run Axis.pass start inputs).state = .switchedOn := by
  rcases h.latched with hlatched | ⟨-, before, first, after, -, ⟨hsame, -, hlatched⟩, -⟩
  · exact hlatched.enable
  · obtain ⟨hcommand, hop, hstate⟩ := hlatched.enable
    exact ⟨hcommand, hop, hsame.symm.trans hstate⟩

end CanopenRtt.Cia402.Device
