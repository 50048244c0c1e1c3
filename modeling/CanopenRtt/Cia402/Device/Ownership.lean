import CanopenRtt.Cia402.Device.Frame
/-!
# Exclusive DriveIF ownership

`Control.Ownership` is the invariant behind the owner tokens, strong enough to
be kept by every move of a pass. `exclusiveOwnership_of_reachable` reads the
ownership contract off it for every axis of every reachable manager.
-/

namespace CanopenRtt.Cia402.Device

open CanopenRtt.Support

/-- The ownership invariant of one axis. -/
structure Control.Ownership (c : Control) : Prop where
  target : c.operation = none ↔ c.target = .unknown
  exit_mode : c.pendingExitMode ≠ .none → c.mode = c.pendingExitMode ∧ c.pendingEnterMode = .none
  enter_mode : c.pendingEnterMode ≠ .none → c.mode = .none
  legal : ∀ op, c.operation = some op → transitionTarget op = some c.target
  pds_exclusive : c.operation ≠ none → c.pendingExitMode = .none ∧ c.pendingEnterMode = .none
  mode_state : c.pendingExitMode ≠ .none ∨ c.pendingEnterMode ≠ .none →
    modeTransitionAllowed c.state = true
  reset_state : c.faultResetInProgress = true → c.state = .fault
  fault_unowned : c.state.faulted = true → ¬ c.Owned
  known : c.state ≠ .unknown

theorem Control.not_owned {c : Control} :
    ¬ c.Owned ↔ c.operation = none ∧ c.pendingExitMode = .none ∧ c.pendingEnterMode = .none := by
  simp [Control.Owned]

theorem modeTransitionAllowed_not_faulted {state : State}
    (h : modeTransitionAllowed state = true) : state.faulted = false := by
  cases state <;> first | rfl | exact absurd h (by decide)

/-- A control without any owner or running reset satisfies the invariant. -/
theorem Control.Ownership.of_idle {c : Control} (hidle : ¬ c.Owned) (htarget : c.target = .unknown)
    (hreset : c.faultResetInProgress = true → c.state = .fault) (hknown : c.state ≠ .unknown) :
    c.Ownership := by
  obtain ⟨hop, hexit, henter⟩ := Control.not_owned.mp hidle
  exact {
    target := by simp [hop, htarget]
    exit_mode := fun h => absurd hexit h
    enter_mode := fun h => absurd henter h
    legal := fun op h => absurd (hop.symm.trans h) (Option.some_ne_none op).symm
    pds_exclusive := fun h => absurd hop h
    mode_state := fun h => (h.elim (absurd hexit) (absurd henter))
    reset_state := hreset
    fault_unowned := fun _ => hidle
    known := hknown }

theorem Control.release_idle (c : Control) : ¬ c.release.Owned := by
  simp [Control.Owned, Control.release]

theorem FaultEntry.state {source : LatchSource} {c c' : Control} {actions : List Action}
    (h : FaultEntry source c c' actions) : c'.state = .faultReactionActive := by
  obtain ⟨_⟩ := h
  rfl

theorem FaultEntry.idle {source : LatchSource} {c c' : Control} {actions : List Action}
    (h : FaultEntry source c c' actions) :
    ¬ c'.Owned ∧ c'.target = .unknown ∧ c'.faultResetInProgress = false := by
  obtain ⟨_⟩ := h
  exact ⟨c.release_idle, rfl, rfl⟩

theorem FaultEntry.ownership {source : LatchSource} {c c' : Control} {actions : List Action}
    (h : FaultEntry source c c' actions) : c'.Ownership := by
  obtain ⟨hidle, htarget, hreset⟩ := h.idle
  refine .of_idle hidle htarget (fun hactive => ?_) (by rw [h.state]; decide)
  rw [hreset] at hactive
  exact absurd hactive Bool.false_ne_true

theorem Control.Ownership.sampled {c : Control} (h : c.Ownership) (controlword : Word) :
    (c.sampled controlword).Ownership :=
  ⟨h.target, h.exit_mode, h.enter_mode, h.legal, h.pds_exclusive, h.mode_state, h.reset_state,
    h.fault_unowned, h.known⟩

theorem Control.reacted_state (c : Control) (inputs : PassInputs)
    (h : c.state = .faultReactionActive) : (c.reacted inputs).state.faulted = true := by
  unfold Control.reacted
  simp only
  split_ifs <;> simp [h]

theorem Control.Ownership.reacted {c : Control} (h : c.Ownership)
    (hstate : c.state = .faultReactionActive) (inputs : PassInputs) :
    (c.reacted inputs).Ownership := by
  have hidle : ¬ c.Owned := h.fault_unowned (by rw [hstate]; rfl)
  have htarget : c.target = .unknown := h.target.mp (Control.not_owned.mp hidle).1
  refine .of_idle hidle htarget (fun hreset => ?_) ?_
  · exact absurd (hstate.symm.trans (h.reset_state hreset)) (by decide)
  · have hfaulted := c.reacted_state inputs hstate
    intro hunknown
    rw [hunknown] at hfaulted
    exact absurd hfaulted (by decide)

/-- No handler starts a transition in the fault path, and each callback is latched
together with its own target. -/
theorem acceptedTransition_spec {state : State} {command : Command} {op : DriveOperation}
    {target : State} (h : acceptedTransition state command = some (op, target)) :
    state.faulted = false ∧ transitionTarget op = some target := by
  cases state <;> cases command <;> cases h <;> decide

/-- A transition target is a state of the normal graph. -/
theorem target_of_transitionTarget {op : DriveOperation} {target : State}
    (h : transitionTarget op = some target) : target ≠ .unknown ∧ target.faulted = false := by
  cases op <;> cases h <;> decide

theorem Control.Ownership.not_faulted_of_owned {c : Control} (h : c.Ownership)
    (howned : c.Owned) : c.state.faulted = false := by
  by_contra hfaulted
  rw [Bool.not_eq_false] at hfaulted
  exact h.fault_unowned hfaulted howned

theorem Control.Ownership.not_resetting {c : Control} (h : c.Ownership)
    (hstate : c.state.faulted = false) : c.faultResetInProgress = false := by
  by_contra hactive
  rw [Bool.not_eq_false] at hactive
  rw [h.reset_state hactive] at hstate
  exact absurd hstate (by decide)

/-- What a latch guarantees about the control its callback runs from. -/
structure Latched (c base : Control) (op : DriveOperation) (target : State) : Prop where
  state : base.state = c.state
  diagnosis : base.diagnosis = c.diagnosis
  target : transitionTarget op = some target
  exit : base.pendingExitMode = .none
  enter : base.pendingEnterMode = .none
  reset : base.faultResetInProgress = false
  normal : c.state.faulted = false

theorem Begins.latched {c base : Control} {command : Command} {op : DriveOperation}
    {target : State} (hbegins : Begins c command op target base) (h : c.Ownership) :
    Latched c base op target := by
  cases hbegins with
  | accepted hidle haccepted =>
      obtain ⟨hstate, htarget⟩ := acceptedTransition_spec haccepted
      obtain ⟨-, hexit, henter⟩ := Control.not_owned.mp hidle
      exact ⟨rfl, rfl, htarget, hexit, henter, h.not_resetting hstate, hstate⟩
  | disableVoltage howned _ _ hop htarget =>
      exact ⟨rfl, rfl, by rw [hop, htarget]; rfl, rfl, rfl, rfl, h.not_faulted_of_owned howned⟩
  | quickStop howned _ _ _ hop htarget =>
      exact ⟨rfl, rfl, by rw [hop, htarget]; rfl, rfl, rfl, rfl, h.not_faulted_of_owned howned⟩

theorem Latch.latched {c base : Control} {command : Command} {op : DriveOperation}
    {target : State} (hlatch : Latch c command op target base) (h : c.Ownership) :
    Latched c base op target := by
  cases hlatch with
  | held hop htarget =>
      have hsome : c.operation ≠ none := by rw [hop]; exact Option.some_ne_none op
      have hstate : c.state.faulted = false := h.not_faulted_of_owned (.inl hsome)
      refine ⟨rfl, rfl, ?_, (h.pds_exclusive hsome).1, (h.pds_exclusive hsome).2,
        h.not_resetting hstate, hstate⟩
      rw [← htarget]
      exact h.legal op hop
  | begun hbegins => exact hbegins.latched h

theorem OwnerCall.ownership {inputs : PassInputs} {op : DriveOperation} {target : State}
    {c base c' : Control} {actions : List Action}
    (hcall : OwnerCall inputs op target base c' actions) (hlatched : Latched c base op target)
    (h : c.Ownership) : c'.Ownership := by
  obtain ⟨hstate, -, htarget, hexit, henter, hreset, hnormal⟩ := hlatched
  have hknown := (target_of_transitionTarget htarget).1
  cases hcall with
  | busy _ =>
      exact {
        target := by simp [hknown]
        exit_mode := fun h => absurd hexit h
        enter_mode := fun h => absurd henter h
        legal := fun op' hop => by rwa [← Option.some.inj hop]
        pds_exclusive := fun _ => ⟨hexit, henter⟩
        mode_state := fun h => (h.elim (absurd hexit) (absurd henter))
        reset_state := fun h => absurd (hreset.symm.trans h) Bool.false_ne_true
        fault_unowned := fun hfaulted => by
          rw [← hstate] at hnormal
          exact absurd (hnormal.symm.trans hfaulted) Bool.false_ne_true
        known := fun hunknown => h.known (hstate.symm.trans hunknown) }
  | done _ =>
      refine .of_idle (Control.not_owned.mpr ⟨rfl, hexit, henter⟩) rfl (fun h => ?_) hknown
      exact absurd (hreset.symm.trans h) Bool.false_ne_true
  | error _ hentry => exact hentry.ownership

theorem FsaMove.ownership {inputs : PassInputs} {r : Reads} {c c' : Control} {actions : List Action}
    (hmove : FsaMove inputs r c c' actions) (h : c.Ownership) : c'.Ownership := by
  cases hmove with
  | skipped _ => exact h
  | readFailed _ hentry => exact hentry.ownership.reacted hentry.state inputs
  | waiting controlword _ _ => exact h.sampled controlword
  | powerUp _ _ hidle hstate =>
      have hop := (Control.not_owned.mp hidle).1
      refine .of_idle hidle (h.target.mp hop) (fun hreset => ?_) (by simp)
      exact absurd (hstate.symm.trans (h.reset_state hreset)) (by decide)
  | transition controlword _ hlatch hcall =>
      exact hcall.ownership (hlatch.latched (h.sampled controlword)) (h.sampled controlword)
  | takeoverFailed _ _ _ hentry => exact hentry.ownership.reacted hentry.state inputs
  | reaction controlword _ hstate => exact (h.sampled controlword).reacted hstate inputs
  | resetBusy _ _ hstate hidle _ _ =>
      have hop := (Control.not_owned.mp hidle).1
      exact .of_idle hidle (h.target.mp hop) (fun _ => hstate) h.known
  | resetDone _ _ _ hidle _ _ _ _ _ =>
      have hop := (Control.not_owned.mp hidle).1
      exact .of_idle hidle (h.target.mp hop) (fun hreset => absurd hreset (by simp)) (by simp)
  | resetFailed _ _ _ _ _ _ hentry => exact hentry.ownership
  | invalid _ _ _ hentry => exact hentry.ownership

theorem ModeMove.ownership {inputs : PassInputs} {r : Reads} {c c' : Control}
    {actions : List Action} (hmove : ModeMove inputs r c c' actions) (h : c.Ownership) :
    c'.Ownership := by
  cases hmove with
  | idle => exact h
  | active _ _ _ _ => exact h
  | activeFailed _ _ _ _ hentry => exact hentry.ownership
  | @exit mode hmode hop hstate hlatch _ _ hcall =>
      have hsame : c.mode = mode ∧ c.pendingEnterMode = .none := by
        rcases hlatch with hpending | ⟨hidle, hsame, -⟩
        · rw [← hpending] at hmode ⊢
          exact h.exit_mode hmode
        · exact ⟨hsame, (Control.not_owned.mp hidle).2.2⟩
      cases hcall with
      | busy _ =>
          exact {
            target := h.target
            exit_mode := fun _ => hsame
            enter_mode := h.enter_mode
            legal := h.legal
            pds_exclusive := fun hsome => absurd hop hsome
            mode_state := fun _ => hstate
            reset_state := h.reset_state
            fault_unowned := fun hfaulted =>
              absurd ((modeTransitionAllowed_not_faulted hstate).symm.trans hfaulted)
                Bool.false_ne_true
            known := h.known }
      | done _ =>
          exact .of_idle (Control.not_owned.mpr ⟨hop, rfl, hsame.2⟩) (h.target.mp hop)
            h.reset_state h.known
      | error _ hentry => exact hentry.ownership
  | @enter mode hmode hop hexit hstate hlatch _ _ hcall =>
      have hnone : c.mode = .none := by
        rcases hlatch with hpending | ⟨-, hnone, -⟩
        · exact h.enter_mode (by rw [hpending]; exact hmode)
        · exact hnone
      cases hcall with
      | busy _ =>
          exact {
            target := h.target
            exit_mode := fun hsome => absurd hexit hsome
            enter_mode := fun _ => hnone
            legal := h.legal
            pds_exclusive := fun hsome => absurd hop hsome
            mode_state := fun _ => hstate
            reset_state := h.reset_state
            fault_unowned := fun hfaulted =>
              absurd ((modeTransitionAllowed_not_faulted hstate).symm.trans hfaulted)
                Bool.false_ne_true
            known := h.known }
      | done _ =>
          exact .of_idle (Control.not_owned.mpr ⟨hop, hexit, rfl⟩) (h.target.mp hop)
            h.reset_state h.known
      | error _ hentry => exact hentry.ownership

theorem PollMove.ownership {inputs : PassInputs} {c c' : Control} {actions : List Action}
    (hmove : PollMove inputs c c' actions) (h : c.Ownership) : c'.Ownership := by
  cases hmove with
  | gated => exact h
  | clean => exact h
  | fault _ _ _ hentry => exact hentry.ownership

/-- The poll enters Fault reaction active or leaves the control alone. -/
theorem PollMove.eq_or_entered {inputs : PassInputs} {c c' : Control} {actions : List Action}
    (hmove : PollMove inputs c c' actions) :
    c' = c ∨ c'.state = .faultReactionActive ∧ c'.Ownership := by
  cases hmove with
  | gated => exact .inl rfl
  | clean => exact .inl rfl
  | fault _ _ _ hentry => exact .inr ⟨hentry.state, hentry.ownership⟩

theorem SuperviseMove.ownership {inputs : PassInputs} {r : Reads} {c c' : Control}
    {actions : List Action}
    (hmove : SuperviseMove inputs r c c' actions) (h : c.Ownership) : c'.Ownership := by
  cases hmove with
  | latched _ _ => exact h
  | readFailed _ hentry => exact hentry.ownership.reacted hentry.state inputs
  | processed _ _ hfsa hmodes => exact hmodes.ownership (hfsa.ownership h)

theorem Control.Ownership.not_reacting {c : Control} (h : c.Ownership) :
    c.Owned → c.state ≠ .faultReactionActive := by
  intro howned hstate
  exact h.fault_unowned (by rw [hstate]; rfl) howned

/-- A pass of an axis that meets the invariant is one of the listed moves. -/
theorem Control.Ownership.passMove {axis : Axis} (h : axis.control.Ownership)
    (inputs : PassInputs) :
    Performs (PassMove inputs (passReads inputs axis) axis.control) axis
      (processAxis inputs axis) :=
  passMove_processAxis inputs h.not_reacting

theorem ownership_processAxis (inputs : PassInputs) {axis : Axis}
    (h : axis.control.Ownership) : (processAxis inputs axis).control.Ownership := by
  obtain ⟨_, _, ⟨hpoll, hsupervise, -⟩, rfl, -⟩ := h.passMove inputs
  exact hsupervise.ownership (hpoll.ownership h)

theorem ownership_axisInit (config : ValidAxisConfig) (image : ODImage) :
    (axisInit config image).control.Ownership :=
  .of_idle (by simp [Control.Owned, axisInit, Axis.control]) rfl
    (fun h => absurd h Bool.false_ne_true) (by simp [axisInit, Axis.control])

theorem ownership_boundAxis (config : ValidAxisConfig) (image : ODImage) (od : ODCache) :
    (boundAxis config image od).control.Ownership :=
  ownership_axisInit config image

/-- The invariant does not read the diagnosis. -/
theorem Control.Ownership.withDiagnosis {c : Control} (h : c.Ownership) (d : DiagRuntime) :
    ({ c with diagnosis := d } : Control).Ownership :=
  ⟨h.target, h.exit_mode, h.enter_mode, h.legal, h.pds_exclusive, h.mode_state, h.reset_state,
    h.fault_unowned, h.known⟩

/-- A published binding changes at most the diagnosis. -/
theorem control_publishAxis (writes : LogicalDevice → BindWrites) (axis : Axis) :
    ∃ d, (publishAxis writes axis).1.control = { axis.control with diagnosis := d } := by
  unfold publishAxis restoreAxis
  dsimp only
  split_ifs <;> exact ⟨_, rfl⟩

theorem control_validateAxis (od : ObjectDictionary) (axis : Axis) :
    (validateAxis od axis).1.control = axis.control := by
  rw [validateAxis_cacheOnly od axis]
  rfl

theorem AxisReachable.ownership {axis : Axis} (h : AxisReachable axis) :
    axis.control.Ownership := by
  induction h with
  | init config image => exact ownership_axisInit config image
  | publishInitial _ written ih => exact ih
  | validate _ od ih =>
      rw [control_validateAxis]
      exact ih
  | publish _ writes ih =>
      obtain ⟨d, hcontrol⟩ := control_publishAxis writes _
      rw [hcontrol]
      exact ih.withDiagnosis d
  | pass _ inputs ih => exact ownership_processAxis inputs ih
  | sync _ inputs sequence ih =>
      rw [(syncAxis_only inputs sequence _).control]
      exact ih
  | reset _ ih => exact ih

/-! ## The ownership contract -/

/-- The four tokens that entitle an axis to call a DriveIF request again. -/
def owners (axis : Axis) : List Bool :=
  [axis.pdsTransitionOperation.isSome, axis.pendingExitMode != .none,
    axis.pendingEnterMode != .none, axis.faultResetInProgress]

/-- What holds of the owner tokens of every axis at any time. -/
structure ExclusiveOwnership (axis : Axis) : Prop where
  atMostOne : (owners axis).count true ≤ 1
  pds_target : axis.pdsTransitionOperation ≠ none ↔ axis.pdsTransitionTargetState ≠ .unknown
  exit_mode : axis.pendingExitMode ≠ .none → axis.mode = axis.pendingExitMode
  enter_mode : axis.pendingEnterMode ≠ .none → axis.mode = .none
  reset_state : axis.faultResetInProgress = true → axis.state = .fault
  fault_unowned : axis.state = .faultReactionActive ∨ axis.state = .fault →
    axis.pdsTransitionOperation = none ∧ axis.pendingExitMode = .none ∧
      axis.pendingEnterMode = .none
  mode_state : axis.state = .notReadyToSwitchOn ∨ axis.state = .quickStopActive →
    axis.pendingExitMode = .none ∧ axis.pendingEnterMode = .none

theorem Control.Ownership.unowned_of_reset {c : Control} (h : c.Ownership)
    (hreset : c.faultResetInProgress = true) : ¬ c.Owned :=
  h.fault_unowned (by rw [h.reset_state hreset]; rfl)

theorem Control.Ownership.atMostOne {axis : Axis} (h : axis.control.Ownership) :
    (owners axis).count true ≤ 1 := by
  unfold owners
  by_cases hreset : axis.faultResetInProgress = true
  · obtain ⟨hop, hexit, henter⟩ := Control.not_owned.mp (h.unowned_of_reset hreset)
    rw [Axis.control_operation] at hop
    rw [Axis.control_pendingExitMode] at hexit
    rw [Axis.control_pendingEnterMode] at henter
    simp [hop, hexit, henter, hreset]
  · by_cases hop : axis.pdsTransitionOperation = none
    · by_cases hexit : axis.pendingExitMode = .none
      · simp only [hop, hexit, hreset]
        cases axis.pendingEnterMode <;> decide
      · have henter : axis.pendingEnterMode = .none := (h.exit_mode hexit).2
        simp only [hop, henter, hreset]
        cases axis.pendingExitMode <;> decide
    · have hmodes : axis.pendingExitMode = .none ∧ axis.pendingEnterMode = .none :=
        h.pds_exclusive hop
      have hsome : axis.pdsTransitionOperation.isSome = true := Option.isSome_iff_ne_none.mpr hop
      simp [hsome, hmodes.1, hmodes.2, hreset]

/-- DriveIF has at most one owner in every reachable state of every axis. -/
theorem exclusiveOwnership_of_reachable {manager : Manager} (h : Reachable manager) :
    ∀ axis ∈ manager.axes, ExclusiveOwnership axis := by
  intro axis hmem
  have hownership := (h.axisReachable axis hmem).ownership
  refine {
    atMostOne := hownership.atMostOne
    pds_target := not_congr hownership.target
    exit_mode := fun hexit => (hownership.exit_mode hexit).1
    enter_mode := hownership.enter_mode
    reset_state := hownership.reset_state
    fault_unowned := ?_
    mode_state := ?_ }
  · intro hstate
    exact Control.not_owned.mp (hownership.fault_unowned ((faulted_iff _).mpr hstate))
  · intro hstate
    by_contra hpending
    have hallowed := hownership.mode_state (by
      rw [not_and_or] at hpending
      exact hpending)
    rw [Axis.control_state] at hallowed
    rcases hstate with hstate | hstate <;> rw [hstate] at hallowed <;>
      exact absurd hallowed (by decide)

/-- A Shutdown that stays BUSY. -/
def busyShutdown : List Step :=
  [.process fun _ => {},
    .process fun _ => { controlword := fun _ => some 6, operation := fun _ => .busy }]

theorem exclusiveOwnership_busyShutdown :
    (∃ axis ∈ (run Manager.step cyclicManager busyShutdown).axes,
      axis.pdsTransitionOperation = some .shutdown) ∧
      ∀ axis ∈ (run Manager.step cyclicManager busyShutdown).axes, ExclusiveOwnership axis := by
  exact ⟨by decide +kernel,
    exclusiveOwnership_of_reachable (reachable_cyclicManager.run busyShutdown)⟩

end CanopenRtt.Cia402.Device
