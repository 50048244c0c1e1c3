import CanopenRtt.Cia402.Device.Ownership
/-!
# The stage of a pass at which a mode is served

After the FSA, a pass serves its active mode, resets the runtime of a mode, or leaves all mode
runtimes as they are. A runtime is left alone only where the next pass cannot serve its mode.
-/

namespace CanopenRtt.Cia402.Device

/-- What only the mode machinery changes: the mode, the mode runtimes and the calls of the mode
callbacks. -/
structure ModeView where
  mode : Mode
  pp : PPRuntime
  pv : PVRuntime
  hm : HMRuntime
  calls : List Action

def Axis.modeView (axis : Axis) : ModeView where
  mode := axis.mode
  pp := axis.pp
  pv := axis.pv
  hm := axis.hm
  calls := axis.trace.filter Action.isRuntime

/-- Nothing but other actions is added to the trace. -/
theorem modeView_of_unmoved {before after : Axis} {actions : List Action}
    (h : after.unmoved = before.unmoved) (htrace : after.trace = before.trace ++ actions)
    (hother : ∀ a ∈ actions, a.isRuntime = false) : after.modeView = before.modeView := by
  have hcalls : actions.filter Action.isRuntime = [] :=
    List.filter_eq_nil_iff.mpr fun a ha => by simp [hother a ha]
  have hmode : after.mode = before.mode := congrArg Unmoved.mode h
  have hpp : after.pp = before.pp := congrArg Unmoved.pp h
  have hpv : after.pv = before.pv := congrArg Unmoved.pv h
  have hhm : after.hm = before.hm := congrArg Unmoved.hm h
  unfold Axis.modeView
  rw [hmode, hpp, hpv, hhm, htrace, List.filter_append, hcalls, List.append_nil]

/-! ## The moves that call no mode callback -/

theorem FaultEntry.no_runtime {source : LatchSource} {c c' : Control} {actions : List Action}
    (h : FaultEntry source c c' actions) : ∀ a ∈ actions, a.isRuntime = false := by
  obtain ⟨hlatch⟩ := h
  cases hlatch with
  | suppressed => exact nofun
  | rejected _ asked hasked =>
      intro a ha
      obtain ⟨origin, info, rfl⟩ := hasked a ha
      rfl
  | latched _ origin _ _ _ _ _ asked hasked =>
      intro a ha
      rcases List.mem_append.mp ha with ha | ha
      · obtain ⟨origin, info, rfl⟩ := hasked a ha
        rfl
      · rw [List.mem_singleton.mp ha]
        rfl

theorem PollMove.no_runtime {inputs : PassInputs} {c c' : Control} {actions : List Action}
    (h : PollMove inputs c c' actions) : ∀ a ∈ actions, a.isRuntime = false := by
  cases h with
  | gated => exact nofun
  | clean => exact List.forall_mem_singleton.mpr rfl
  | fault _ _ _ hentry => exact List.forall_mem_cons.mpr ⟨rfl, hentry.no_runtime⟩

theorem OwnerCall.no_runtime {inputs : PassInputs} {op : DriveOperation} {target : State}
    {c c' : Control} {actions : List Action} (h : OwnerCall inputs op target c c' actions) :
    ∀ a ∈ actions, a.isRuntime = false := by
  cases h with
  | busy => exact List.forall_mem_singleton.mpr rfl
  | done => exact List.forall_mem_singleton.mpr rfl
  | error _ hentry => exact List.forall_mem_cons.mpr ⟨rfl, hentry.no_runtime⟩

theorem FsaMove.no_runtime {inputs : PassInputs} {r : Reads} {c c' : Control}
    {actions : List Action} (h : FsaMove inputs r c c' actions) :
    ∀ a ∈ actions, a.isRuntime = false := by
  cases h with
  | skipped => exact nofun
  | readFailed _ hentry =>
      exact List.forall_mem_append.mpr ⟨hentry.no_runtime, List.forall_mem_singleton.mpr rfl⟩
  | waiting => exact nofun
  | powerUp => exact nofun
  | transition _ _ _ hcall => exact hcall.no_runtime
  | takeoverFailed _ _ _ hentry =>
      exact List.forall_mem_cons.mpr ⟨rfl, List.forall_mem_append.mpr
        ⟨hentry.no_runtime, List.forall_mem_singleton.mpr rfl⟩⟩
  | reaction => exact List.forall_mem_singleton.mpr rfl
  | resetBusy => exact List.forall_mem_singleton.mpr rfl
  | resetDone _ _ _ _ _ _ _ _ hclear =>
      refine List.forall_mem_cons.mpr ⟨rfl, ?_⟩
      rcases hclear with ⟨-, -, rfl⟩ | ⟨event, -, -, -, -, rfl⟩
      · exact nofun
      · exact List.forall_mem_singleton.mpr rfl
  | resetFailed _ _ _ _ _ _ hentry => exact List.forall_mem_cons.mpr ⟨rfl, hentry.no_runtime⟩
  | invalid _ _ _ hentry => exact hentry.no_runtime

@[simp] theorem modeView_axisEnterFaultReaction (inputs : PassInputs) (origin : FaultOrigin)
    (fault : Option FaultInfo) (axis : Axis) :
    (axisEnterFaultReaction inputs origin fault axis).modeView = axis.modeView := by
  obtain ⟨_, actions, hentry, -, htrace⟩ := axisEnterFaultReaction_performs inputs origin fault axis
  exact modeView_of_unmoved (unmoved_axisEnterFaultReaction inputs origin fault axis) htrace
    hentry.no_runtime

/-! ## The stages of a pass -/

/-- The axis of a pass after its FSA stage. -/
def staged (inputs : PassInputs) (axis : Axis) : Axis :=
  axisProcess inputs (updateModeRequest inputs (pollProduct inputs axis))

theorem modeView_updateModeRequest (inputs : PassInputs) (axis : Axis) :
    (updateModeRequest inputs axis).modeView = axis.modeView := by
  unfold updateModeRequest
  split <;> rfl

theorem modeView_pollProduct (inputs : PassInputs) (axis : Axis) :
    (pollProduct inputs axis).modeView = axis.modeView := by
  obtain ⟨_, actions, hmove, -, htrace⟩ := pollMove_pollProduct inputs axis
  exact modeView_of_unmoved (unmoved_pollProduct inputs axis) htrace hmove.no_runtime

/-- The control after the poll, from which the FSA moves. -/
theorem staged_moves (inputs : PassInputs) {axis : Axis} (hown : axis.control.Ownership) :
    ∃ c actions actions', PollMove inputs axis.control c actions ∧
      FsaMove inputs (passReads inputs axis) c (staged inputs axis).control actions' ∧
      (staged inputs axis).modeView = axis.modeView := by
  obtain ⟨_, actions, hpoll, rfl, -⟩ := pollMove_pollProduct inputs axis
  have hfault := hpoll.fault_unowned hown.not_reacting
  have hrequest := control_updateModeRequest inputs (pollProduct inputs axis)
  rw [← hrequest] at hfault
  have hreads : reads inputs (updateModeRequest inputs (pollProduct inputs axis)) =
      passReads inputs axis :=
    reads_congr inputs (fixed_updateModeRequest_congr inputs (fixed_pollProduct inputs axis))
  obtain ⟨c, actions', hfsa, hcontrol, htrace⟩ := fsaMove_axisProcess inputs hfault
  rw [hreads, hrequest] at hfsa
  refine ⟨_, actions, actions', hpoll, hcontrol ▸ hfsa, ?_⟩
  have hview : (staged inputs axis).modeView =
      (updateModeRequest inputs (pollProduct inputs axis)).modeView :=
    modeView_of_unmoved (unmoved_axisProcess inputs _) htrace hfsa.no_runtime
  rw [hview, modeView_updateModeRequest, modeView_pollProduct]

theorem modeView_staged (inputs : PassInputs) {axis : Axis} (hown : axis.control.Ownership) :
    (staged inputs axis).modeView = axis.modeView := by
  obtain ⟨_, _, _, -, -, hview⟩ := staged_moves inputs hown
  exact hview

theorem fixed_staged (inputs : PassInputs) (axis : Axis) :
    (staged inputs axis).fixed = (updateModeRequest inputs axis).fixed := by
  have hfsa := congrArg Unmoved.fixed (unmoved_axisProcess inputs
    (updateModeRequest inputs (pollProduct inputs axis)))
  exact hfsa.trans (fixed_updateModeRequest_congr inputs (fixed_pollProduct inputs axis))

theorem drive_staged (inputs : PassInputs) (axis : Axis) :
    (staged inputs axis).drive = axis.drive := by
  refine (congrArg Fixed.drive (fixed_staged inputs axis)).trans ?_
  unfold updateModeRequest
  split <;> rfl

theorem modeView_updateFeedback (inputs : PassInputs) (axis : Axis) :
    (updateFeedback inputs axis).modeView = axis.modeView := by
  obtain ⟨hcontrol, -, called, hcalled, htrace⟩ := updateFeedback_step inputs axis
  have hother : ∀ a ∈ called, a.isRuntime = false := by
    intro a ha
    have hkind := hcalled a ha
    cases a <;> first | rfl | exact absurd hkind Bool.false_ne_true
  have hposition : ∀ current, (updatePosition inputs current).unmoved = current.unmoved := by
    intro current
    unfold updatePosition
    split_ifs <;> rfl
  have hvelocity : ∀ current, (updateVelocity inputs current).unmoved = current.unmoved := by
    intro current
    unfold updateVelocity
    split_ifs <;> rfl
  have htorque : ∀ current, (updateTorque inputs current).unmoved = current.unmoved := by
    intro current
    unfold updateTorque
    split_ifs <;> rfl
  refine modeView_of_unmoved ?_ htrace hother
  unfold updateFeedback
  split_ifs
  · rfl
  · rw [htorque, hvelocity, hposition]

/-! ## What the mode machinery makes of its stage -/

/-- The mode of the stage is served: nothing owns the drive, Operation enabled is stable and no
other mode is asked for. -/
structure Axis.Serving (axis : Axis) : Prop where
  idle : ¬ axis.control.Owned
  enabled : axis.state = .operationEnabled
  steady : ∀ mode, wantedMode axis = some mode → mode = axis.mode

instance (axis : Axis) : Decidable axis.Serving :=
  decidable_of_iff (¬ axis.control.Owned ∧ axis.state = .operationEnabled ∧
      ∀ mode ∈ wantedMode axis, mode = axis.mode)
    ⟨fun ⟨hidle, henabled, hsteady⟩ => ⟨hidle, henabled, hsteady⟩,
      fun ⟨hidle, henabled, hsteady⟩ => ⟨hidle, henabled, hsteady⟩⟩

/-- The mode of the stage is to be left, and its exit is BUSY or fails. -/
structure Axis.Leaving (inputs : PassInputs) (axis : Axis) : Prop where
  unowned : axis.pdsTransitionOperation = none
  allowed : modeTransitionAllowed axis.state = true
  asked : axis.pendingExitMode ≠ .none ∨ ∃ mode ∈ wantedMode axis, mode ≠ axis.mode
  unfinished : inputs.modeExit axis.mode ≠ .done

instance (inputs : PassInputs) (axis : Axis) : Decidable (axis.Leaving inputs) :=
  decidable_of_iff (axis.pdsTransitionOperation = none ∧
      modeTransitionAllowed axis.state = true ∧
      (axis.pendingExitMode ≠ .none ∨ ∃ mode ∈ wantedMode axis, mode ≠ axis.mode) ∧
      inputs.modeExit axis.mode ≠ .done)
    ⟨fun ⟨hunowned, hallowed, hasked, hunfinished⟩ => ⟨hunowned, hallowed, hasked, hunfinished⟩,
      fun ⟨hunowned, hallowed, hasked, hunfinished⟩ => ⟨hunowned, hallowed, hasked, hunfinished⟩⟩

theorem Axis.Serving.not_leaving {inputs : PassInputs} {axis : Axis} (h : axis.Serving) :
    ¬ axis.Leaving inputs := by
  rintro ⟨-, -, hexit | ⟨mode, hwanted, hother⟩, -⟩
  · exact h.idle (.inr (.inl hexit))
  · exact hother (h.steady mode hwanted)

/-- The next pass cannot serve the mode as it stands. -/
def Axis.Closed (axis : Axis) : Prop :=
  axis.mode = .none ∨ modeTransitionPending axis = true ∨ axis.state.faulted = true

/-- The runtime of one mode is reset. -/
def ModeView.reset (view : ModeView) (mode : Mode) (controlword : Word) : ModeView :=
  match mode with
  | .profilePosition => { view with pp := ppReset controlword }
  | .profileVelocity => { view with pv := pvReset }
  | .homing => { view with hm := hmReset controlword }
  | .none | .cyclicSyncPosition | .cyclicSyncVelocity | .cyclicSyncTorque => view

theorem modeView_resetModeRuntime (mode : Mode) (controlword : Word) (axis : Axis) :
    (resetModeRuntime mode controlword axis).modeView = axis.modeView.reset mode controlword := by
  cases mode <;> rfl

theorem ModeView.reset_reset (view : ModeView) (mode : Mode) (controlword : Word) :
    (view.reset mode controlword).reset mode controlword = view.reset mode controlword := by
  cases mode <;> rfl

theorem ModeView.reset_with_mode (view : ModeView) (mode current : Mode) (controlword : Word) :
    ({ view with mode := current } : ModeView).reset mode controlword =
      { view.reset mode controlword with mode := current } := by
  cases mode <;> rfl

theorem modeView_reset_mode (axis : Axis) (mode : Mode) (controlword : Word) :
    ({ axis.modeView.reset mode controlword with mode := axis.mode } : ModeView) =
      axis.modeView.reset mode controlword := by
  cases mode <;> rfl

theorem modeView_reset_selected {axis : Axis} {mode selected : Mode} (h : selected = axis.mode)
    (controlword : Word) :
    ({ axis.modeView.reset mode controlword with mode := selected } : ModeView) =
      axis.modeView.reset mode controlword := by
  rw [h]
  exact modeView_reset_mode axis mode controlword

/-- The outcome of the mode machinery for an axis that the FSA has left at `axis`. -/
inductive ModeStage (inputs : PassInputs) (controlword : Word) (axis after : Axis) : Prop where
  | served (hmode : axis.mode ≠ .none) (hserving : axis.Serving)
      (hview : after.modeView = (processActiveMode inputs controlword axis).1.modeView)
      (hvalid : (processActiveMode inputs controlword axis).2 = true →
        after.control = axis.control)
      (hinvalid : (processActiveMode inputs controlword axis).2 = false →
        after.state.faulted = true)
  | reset (hunserved : axis.mode ≠ .none → ¬ axis.Serving) (mode : Mode)
      (hview : after.modeView = { axis.modeView.reset mode controlword with mode := after.mode })
      (hmode : after.mode = .none ∨ after.mode = mode)
      (hfrom : axis.mode = .none ∨ axis.mode = mode)
  | kept (hunserved : axis.mode ≠ .none → ¬ axis.Serving)
      (hview : after.modeView = axis.modeView) (hclosed : after.Closed)
      (hleaving : axis.mode ≠ .none → axis.Leaving inputs)

theorem faulted_axisEnterFaultReaction (inputs : PassInputs) (origin : FaultOrigin)
    (fault : Option FaultInfo) (axis : Axis) :
    (axisEnterFaultReaction inputs origin fault axis).state.faulted = true := by
  obtain ⟨_, _, ⟨_⟩, hcontrol, -⟩ := axisEnterFaultReaction_performs inputs origin fault axis
  have hstate := congrArg Control.state hcontrol
  rw [Axis.control_state] at hstate
  rw [hstate]
  rfl

/-- The exit from the mode may be called for, and would not end. -/
def Axis.ExitUnfinished (inputs : PassInputs) (axis : Axis) : Prop :=
  modeTransitionAllowed axis.state = true ∧ inputs.modeExit axis.mode ≠ .done

/-- The outcome of the mode selection where it does not run the active mode. -/
inductive SelectionStage (inputs : PassInputs) (controlword : Word) (axis selected : Axis) :
    Bool → Prop where
  | failed (hview : selected.modeView = axis.modeView)
      (hexit : axis.mode ≠ .none → axis.ExitUnfinished inputs) :
      SelectionStage inputs controlword axis selected false
  | kept (hview : selected.modeView = axis.modeView) (hclosed : selected.Closed)
      (hexit : axis.mode ≠ .none → selected.state = .operationEnabled →
        axis.ExitUnfinished inputs) : SelectionStage inputs controlword axis selected true
  | reset (mode : Mode) (hview : selected.modeView =
        { axis.modeView.reset mode controlword with mode := selected.mode })
      (hmode : selected.mode = .none ∨ selected.mode = mode)
      (hfrom : axis.mode = .none ∨ axis.mode = mode) :
      SelectionStage inputs controlword axis selected true

theorem SelectionStage.of_latched {inputs : PassInputs} {controlword : Word}
    {axis latched selected : Axis} {ok : Bool}
    (h : SelectionStage inputs controlword latched selected ok)
    (hview : latched.modeView = axis.modeView) (hstate : latched.state = axis.state) :
    SelectionStage inputs controlword axis selected ok := by
  have hmode : latched.mode = axis.mode := congrArg ModeView.mode hview
  have hexit : latched.ExitUnfinished inputs → axis.ExitUnfinished inputs := by
    unfold Axis.ExitUnfinished
    rw [hmode, hstate]
    exact id
  cases h with
  | failed hkept hunfinished =>
      exact .failed (hview ▸ hkept) fun hsome => hexit (hunfinished (hmode ▸ hsome))
  | kept hkept hclosed hunfinished =>
      exact .kept (hview ▸ hkept) hclosed fun hsome henabled =>
        hexit (hunfinished (hmode ▸ hsome) henabled)
  | reset mode hreset hnext hfrom =>
      exact .reset mode (hview ▸ hreset) hnext (hmode ▸ hfrom)

/-- The rest of the pass after a mode selection that does not run the active mode. -/
theorem SelectionStage.stage {inputs : PassInputs} {controlword : Word} {axis selected : Axis}
    {ok : Bool} (h : SelectionStage inputs controlword axis selected ok)
    (hop : axis.pdsTransitionOperation = none)
    (hasked : axis.mode ≠ .none → axis.pendingExitMode ≠ .none ∨
      ∃ mode ∈ wantedMode axis, mode ≠ axis.mode)
    (hunserved : axis.mode ≠ .none → ¬ axis.Serving) :
    ModeStage inputs controlword axis
      (if !ok then axisEnterFaultReaction inputs .modeOperation none selected
      else if selected.state ≠ .operationEnabled && selected.mode ≠ .none then
        resetModeRuntime selected.mode controlword selected
      else selected) := by
  have hfault := modeView_axisEnterFaultReaction inputs .modeOperation none selected
  have hleaving : axis.mode ≠ .none → axis.ExitUnfinished inputs → axis.Leaving inputs :=
    fun hsome ⟨hallowed, hunfinished⟩ => ⟨hop, hallowed, hasked hsome, hunfinished⟩
  cases h with
  | failed hview hexit =>
      refine .kept hunserved ?_ (.inr (.inr (faulted_axisEnterFaultReaction inputs _ _ selected)))
        fun hsome => hleaving hsome (hexit hsome)
      rw [if_pos (by rfl), hfault]
      exact hview
  | kept hview hclosed hexit =>
      have hsame : selected.mode = axis.mode := congrArg ModeView.mode hview
      rw [if_neg (by decide)]
      split
      · have hreset := modeView_resetModeRuntime selected.mode controlword selected
        have hmode : (resetModeRuntime selected.mode controlword selected).mode = selected.mode :=
          congrArg Control.mode (control_resetModeRuntime selected.mode controlword selected)
        refine .reset hunserved selected.mode ?_ (.inr hmode) (.inr hsame.symm)
        rw [hreset, hmode, hview, modeView_reset_selected hsame controlword]
      · rename_i hpaused
        refine .kept hunserved hview hclosed fun hsome => hleaving hsome (hexit hsome ?_)
        by_contra hdisabled
        rw [← hsame] at hsome
        exact hpaused (by simp [hdisabled, hsome])
  | reset mode hview hmode hfrom =>
      rw [if_neg (by decide)]
      split
      · rename_i hpaused
        have hsame : selected.mode = mode := by
          rcases hmode with hnone | hsame
          · simp [hnone] at hpaused
          · exact hsame
        have hreset := modeView_resetModeRuntime selected.mode controlword selected
        have hkept : (resetModeRuntime selected.mode controlword selected).mode = selected.mode :=
          congrArg Control.mode (control_resetModeRuntime selected.mode controlword selected)
        refine .reset hunserved mode ?_ (.inr (hkept.trans hsame)) hfrom
        rw [hreset, hkept, hview, ModeView.reset_with_mode, hsame, ModeView.reset_reset]
      · exact .reset hunserved mode hview hmode hfrom

/-- A call that is no call of a mode callback. -/
theorem modeView_record {axis : Axis} {action : Action} (h : action.isRuntime = false) :
    (axis.record action).modeView = axis.modeView :=
  modeView_of_unmoved rfl rfl (List.forall_mem_singleton.mpr h)

theorem continueModeExit_stage (inputs : PassInputs) (controlword : Word) {axis : Axis}
    (hpending : axis.pendingExitMode ≠ .none) (hmode : axis.mode = axis.pendingExitMode) :
    SelectionStage inputs controlword axis (continueModeExit inputs controlword axis).1
      (continueModeExit inputs controlword axis).2 := by
  have howned : modeTransitionPending axis = true := by simp [modeTransitionPending, hpending]
  have hcall : ∀ result, (axis.record (.modeExit axis.pendingExitMode result)).modeView =
      axis.modeView := fun result => modeView_record rfl
  unfold continueModeExit
  split
  · rename_i hskip
    refine .kept rfl (.inr (.inl howned)) fun _ henabled => ?_
    have hallowed : ¬ modeTransitionAllowed axis.state = true := by simpa [hpending] using hskip
    rw [henabled] at hallowed
    exact absurd rfl hallowed
  · rename_i hcalled
    have hallowed : modeTransitionAllowed axis.state = true := by simpa [hpending] using hcalled
    have hunfinished : inputs.modeExit axis.pendingExitMode ≠ .done →
        axis.ExitUnfinished inputs := by
      intro hanswer
      rw [← hmode] at hanswer
      exact ⟨hallowed, hanswer⟩
    dsimp only
    cases hanswer : inputs.modeExit axis.pendingExitMode with
    | error => exact .failed (hcall .error) fun _ => hunfinished (by simp [hanswer])
    | busy =>
        exact .kept (hcall .busy) (.inr (.inl howned)) fun _ _ => hunfinished (by simp [hanswer])
    | done =>
        have hsame : (axis.record (.modeExit axis.pendingExitMode .done)).mode =
            (axis.record (.modeExit axis.pendingExitMode .done)).pendingExitMode := hmode
        dsimp only
        simp only [if_pos hsame]
        refine .reset axis.mode ?_ (.inl rfl) (.inr rfl)
        have hreset := modeView_resetModeRuntime axis.mode controlword
          (axis.record (.modeExit axis.pendingExitMode .done))
        rw [hcall] at hreset
        exact congrArg (fun view : ModeView => { view with mode := Mode.none }) hreset

theorem continueModeEnter_stage (inputs : PassInputs) (controlword : Word) {axis : Axis}
    (hpending : axis.pendingEnterMode ≠ .none) (hmode : axis.mode = .none) :
    SelectionStage inputs controlword axis (continueModeEnter inputs controlword axis).1
      (continueModeEnter inputs controlword axis).2 := by
  have howned : modeTransitionPending axis = true := by simp [modeTransitionPending, hpending]
  have hcall : ∀ result, (axis.record (.modeEnter axis.pendingEnterMode result)).modeView =
      axis.modeView := fun result => modeView_record rfl
  unfold continueModeEnter
  split
  · exact .kept rfl (.inr (.inl howned)) (absurd hmode)
  · dsimp only
    cases inputs.modeEnter axis.pendingEnterMode with
    | error => exact .failed (hcall .error) (absurd hmode)
    | busy => exact .kept (hcall .busy) (.inr (.inl howned)) (absurd hmode)
    | done =>
        have hentered : (resetModeRuntime axis.pendingEnterMode controlword
            { axis.record (.modeEnter axis.pendingEnterMode .done) with
              mode := axis.pendingEnterMode
              pendingEnterMode := .none }).mode = axis.pendingEnterMode :=
          congrArg Control.mode (control_resetModeRuntime _ controlword _)
        refine .reset axis.pendingEnterMode ?_ (.inr hentered) (.inl hmode)
        rw [modeView_resetModeRuntime, hentered, ← ModeView.reset_with_mode]
        exact congrArg (fun view : ModeView =>
          ({ view with mode := axis.pendingEnterMode } : ModeView).reset axis.pendingEnterMode
            controlword) (hcall .done)

theorem wantedMode_of_selected {axis : Axis} {mode : Mode} (h : selectedMode axis = some mode) :
    wantedMode axis = some mode := by
  unfold selectedMode at h
  unfold wantedMode
  split_ifs at h ⊢
  cases hraw : modeFromRaw axis.requestedModeRaw with
  | none =>
      rw [hraw] at h
      cases h
  | some requested =>
      rw [hraw] at h
      dsimp only at h ⊢
      cases hsupported : modeSupported axis requested with
      | false =>
          rw [hsupported] at h
          cases h
      | true =>
          rw [hsupported] at h
          split_ifs at h
          exact h

/-- The mode machinery of a pass has one of the three outcomes. -/
theorem modeStage_processModes (inputs : PassInputs) (controlword : Word) {axis : Axis}
    (hown : axis.control.Ownership) :
    ModeStage inputs controlword axis (processModes inputs controlword axis) := by
  unfold processModes
  by_cases howner : axis.pdsTransitionOperation.isSome = true
  · rw [if_pos howner]
    have hunserved : axis.mode ≠ .none → ¬ axis.Serving := by
      intro _ hserving
      exact hserving.idle (.inl (Option.isSome_iff_ne_none.mp howner))
    split
    · have hmode : (resetModeRuntime axis.mode controlword axis).mode = axis.mode :=
        congrArg Control.mode (control_resetModeRuntime axis.mode controlword axis)
      refine .reset hunserved axis.mode ?_ (.inr hmode) (.inr rfl)
      rw [modeView_resetModeRuntime, hmode, modeView_reset_mode]
    · rename_i hmode
      exact .kept hunserved rfl (.inl (not_not.mp hmode)) fun hsome => absurd hsome hmode
  · rw [if_neg howner]
    have hop : axis.control.operation = none := by simpa using howner
    -- The active mode runs.
    have hactive : ∀ (hidle : modeTransitionPending axis = false)
        (hselected : selectedMode axis = none ∨ selectedMode axis = some axis.mode),
        ModeStage inputs controlword axis
          (if !(processActiveMode inputs controlword axis).2 then
            axisEnterFaultReaction inputs .modeOperation none
              (processActiveMode inputs controlword axis).1
          else (processActiveMode inputs controlword axis).1) := by
      intro hidle hselected
      by_cases hmode : axis.mode = .none
      · have hnothing : processActiveMode inputs controlword axis = (axis, true) := by
          unfold processActiveMode
          rw [if_pos hmode]
        rw [hnothing]
        exact .kept (absurd hmode) rfl (.inl hmode) (absurd hmode)
      · by_cases hstate : axis.state = .operationEnabled
        · have hserving : axis.Serving := by
            refine ⟨not_owned_iff.mpr ⟨hop, hidle⟩, hstate, ?_⟩
            intro mode hwanted
            rw [← selectedMode_of_wanted (by rw [hstate]; rfl)] at hwanted
            rcases hselected with hnone | hsome
            · rw [hnone] at hwanted
              cases hwanted
            · exact Option.some.inj (hwanted.symm.trans hsome)
          obtain ⟨hcontrol, -⟩ := processActiveMode_step inputs controlword axis
          cases hvalid : (processActiveMode inputs controlword axis).2 with
          | false =>
              refine .served hmode hserving ?_ ?_ ?_
              · exact modeView_axisEnterFaultReaction inputs _ _ _
              · exact fun hbad => absurd (hvalid.symm.trans hbad) Bool.false_ne_true
              · exact fun _ => faulted_axisEnterFaultReaction inputs _ _ _
          | true =>
              refine .served hmode hserving rfl (fun _ => hcontrol) ?_
              exact fun hbad => absurd (hbad.symm.trans hvalid) Bool.false_ne_true
        · have hreset : processActiveMode inputs controlword axis =
              (resetModeRuntime axis.mode controlword axis, true) := by
            unfold processActiveMode
            rw [if_neg hmode, if_pos hstate]
          have hkept : (resetModeRuntime axis.mode controlword axis).mode = axis.mode :=
            congrArg Control.mode (control_resetModeRuntime axis.mode controlword axis)
          rw [hreset]
          refine .reset (fun _ hserving => hstate hserving.enabled) axis.mode ?_ (.inr hkept)
            (.inr rfl)
          dsimp only
          rw [if_neg (by decide), hkept, modeView_resetModeRuntime, modeView_reset_mode]
    unfold processModeSelection
    by_cases hexit : axis.pendingExitMode = .none
    · rw [if_neg (not_not.mpr hexit)]
      by_cases henter : axis.pendingEnterMode = .none
      · rw [if_neg (not_not.mpr henter)]
        have hidle := modeTransitionPending_eq_false.mpr ⟨hexit, henter⟩
        cases hselected : selectedMode axis with
        | none => exact hactive hidle (.inl hselected)
        | some requestedMode =>
            dsimp only
            by_cases hsame : axis.mode = requestedMode
            · rw [if_pos hsame]
              exact hactive hidle (.inr (hselected.trans (congrArg some hsame.symm)))
            · rw [if_neg hsame]
              have hunserved : axis.mode ≠ .none → ¬ axis.Serving := by
                intro _ hserving
                exact hsame (hserving.steady _ (wantedMode_of_selected hselected)).symm
              by_cases hcurrent : axis.mode = .none
              · rw [if_neg (not_not.mpr hcurrent)]
                by_cases hrequested : requestedMode = .none
                · exact absurd (hcurrent.trans hrequested.symm) hsame
                · rw [if_pos hrequested]
                  have hstage := @continueModeEnter_stage inputs controlword
                    { axis with pendingEnterMode := requestedMode } hrequested hcurrent
                  exact (@SelectionStage.of_latched inputs controlword axis _ _ _ hstage rfl
                    rfl).stage hop (absurd hcurrent) hunserved
              · rw [if_pos hcurrent]
                have hstage := @continueModeExit_stage inputs controlword
                  { axis with pendingExitMode := axis.mode } hcurrent rfl
                have hwanted := wantedMode_of_selected hselected
                exact (@SelectionStage.of_latched inputs controlword axis _ _ _ hstage rfl
                  rfl).stage hop (fun _ => .inr ⟨requestedMode, hwanted, Ne.symm hsame⟩) hunserved
      · rw [if_pos henter]
        have hnone : axis.mode = .none := hown.enter_mode henter
        exact (continueModeEnter_stage inputs controlword henter hnone).stage hop (absurd hnone)
          fun _ hserving => hserving.idle (.inr (.inr henter))
    · rw [if_pos hexit]
      exact (continueModeExit_stage inputs controlword hexit (hown.exit_mode hexit).1).stage hop
        (fun _ => .inl hexit) fun _ hserving => hserving.idle (.inr (.inl hexit))

/-! ## The whole pass -/

/-- An outcome is read off the mode view and the control. -/
theorem ModeStage.congr {inputs : PassInputs} {controlword : Word} {axis after after' : Axis}
    (h : ModeStage inputs controlword axis after) (hview : after'.modeView = after.modeView)
    (hcontrol : after'.control = after.control) : ModeStage inputs controlword axis after' := by
  have hmode : after'.mode = after.mode := congrArg ModeView.mode hview
  have hstate : after'.state = after.state := congrArg Control.state hcontrol
  have hexit : after'.pendingExitMode = after.pendingExitMode :=
    congrArg Control.pendingExitMode hcontrol
  have henter : after'.pendingEnterMode = after.pendingEnterMode :=
    congrArg Control.pendingEnterMode hcontrol
  cases h with
  | served hserved hserving hactive hvalid hinvalid =>
      refine .served hserved hserving (hview.trans hactive)
        (fun h => hcontrol.trans (hvalid h)) fun h => ?_
      rw [hstate]
      exact hinvalid h
  | reset hunserved mode hreset hnext hfrom =>
      exact .reset hunserved mode (by rw [hview, hreset, hmode]) (hmode ▸ hnext) hfrom
  | kept hunserved hkept hclosed hleaving =>
      refine .kept hunserved (hview.trans hkept) ?_ hleaving
      unfold Axis.Closed modeTransitionPending at hclosed ⊢
      rw [hmode, hstate, hexit, henter]
      exact hclosed

/-- A pass that cannot read its Controlword leaves the mode runtimes and a faulted axis. -/
theorem unread_processAxis {inputs : PassInputs} {axis : Axis} (hown : axis.control.Ownership)
    (hread : inputs.controlword .snapshot = none) :
    (processAxis inputs axis).modeView = axis.modeView ∧
      (processAxis inputs axis).state.faulted = true := by
  obtain ⟨_, _, ⟨hpoll, hsupervise, -⟩, hcontrol, -⟩ := hown.passMove inputs
  constructor
  · have hfeedback := modeView_updateFeedback inputs
      (supervise inputs (updateModeRequest inputs (pollProduct inputs axis)))
    have hpublish : (processAxis inputs axis).modeView = (updateFeedback inputs
        (supervise inputs (updateModeRequest inputs (pollProduct inputs axis)))).modeView := rfl
    rw [hpublish, hfeedback]
    have hbase : (updateModeRequest inputs (pollProduct inputs axis)).modeView = axis.modeView := by
      rw [modeView_updateModeRequest, modeView_pollProduct]
    refine Eq.trans ?_ hbase
    unfold supervise
    rw [hread]
    dsimp only
    rcases axisControlwordReadFailed_performs inputs
        (updateModeRequest inputs (pollProduct inputs axis)) with
      ⟨heq, -⟩ | ⟨_, _, actions, hentry, -, htrace⟩
    · rw [heq]
    · exact modeView_of_unmoved (unmoved_axisControlwordReadFailed inputs _) htrace
        (List.forall_mem_append.mpr ⟨hentry.no_runtime, List.forall_mem_singleton.mpr rfl⟩)
  · have hstate : (processAxis inputs axis).state = (processAxis inputs axis).control.state := rfl
    rw [hstate, hcontrol]
    cases hsupervise with
    | latched _ hfault => rw [hfault]; rfl
    | readFailed _ hentry =>
        obtain ⟨_⟩ := hentry
        unfold Control.reacted
        dsimp only
        split <;> rfl
    | processed controlword hread' => exact absurd (hread.symm.trans hread') nofun

/-- A pass with a Controlword has one of the three outcomes. -/
theorem modeStage_processAxis {inputs : PassInputs} {axis : Axis} {controlword : Word}
    (hown : axis.control.Ownership) (hread : inputs.controlword .snapshot = some controlword) :
    ModeStage inputs controlword (staged inputs axis) (processAxis inputs axis) := by
  obtain ⟨_, _, _, hpoll, hfsa, -⟩ := staged_moves inputs hown
  have hstage := modeStage_processModes inputs controlword (hfsa.ownership (hpoll.ownership hown))
  have hsupervise : supervise inputs (updateModeRequest inputs (pollProduct inputs axis)) =
      processModes inputs controlword (staged inputs axis) := by
    unfold supervise
    rw [hread]
    rfl
  have hpublish : (processAxis inputs axis).modeView = (updateFeedback inputs
      (supervise inputs (updateModeRequest inputs (pollProduct inputs axis)))).modeView := rfl
  have hcontrol : (processAxis inputs axis).control = (updateFeedback inputs
      (supervise inputs (updateModeRequest inputs (pollProduct inputs axis)))).control := rfl
  refine hstage.congr ?_ ?_
  · rw [hpublish, modeView_updateFeedback, hsupervise]
  · rw [hcontrol, (updateFeedback_step inputs _).control, hsupervise]

/-- A mode is served only if the pass has found it open. -/
theorem not_closed_of_serving {inputs : PassInputs} {axis : Axis}
    (hown : axis.control.Ownership) (hserving : (staged inputs axis).Serving)
    (hmode : (staged inputs axis).mode ≠ .none) : ¬ axis.Closed := by
  obtain ⟨c, _, _, hpoll, hfsa, hview⟩ := staged_moves inputs hown
  have hsame : (staged inputs axis).mode = axis.mode := congrArg ModeView.mode hview
  have hidle := hserving.idle
  have henabled : (staged inputs axis).control.state = .operationEnabled := hserving.enabled
  -- The control from which the FSA moves is neither faulted nor in a mode transition.
  have hopen :
      c.state.faulted = false ∧ c.pendingExitMode = .none ∧ c.pendingEnterMode = .none := by
    have hownC := hpoll.ownership hown
    generalize (staged inputs axis).control = c' at hfsa hidle henabled
    have hquiet : c.state = .operationEnabled → ¬ c.Owned →
        c.state.faulted = false ∧ c.pendingExitMode = .none ∧ c.pendingEnterMode = .none := by
      intro hstate hunowned
      obtain ⟨-, hexit, henter⟩ := Control.not_owned.mp hunowned
      exact ⟨by rw [hstate]; rfl, hexit, henter⟩
    cases hfsa with
    | skipped => exact hquiet henabled hidle
    | readFailed _ hentry =>
        obtain ⟨_⟩ := hentry
        unfold Control.reacted at henabled
        dsimp only at henabled
        split at henabled <;> cases henabled
    | waiting => exact hquiet henabled hidle
    | powerUp => cases henabled
    | transition _ _ hlatch hcall =>
        cases hcall with
        | busy => exact absurd (.inl (by simp)) hidle
        | error _ hentry =>
            obtain ⟨_⟩ := hentry
            cases henabled
        | done =>
            change _ = State.operationEnabled at henabled
            subst henabled
            cases hlatch with
            | held hop _ =>
                have hop' : c.operation ≠ none := by
                  intro hnone
                  exact absurd (hnone.symm.trans hop) nofun
                obtain ⟨hexit, henter⟩ := hownC.pds_exclusive hop'
                refine ⟨?_, hexit, henter⟩
                cases hfaulted : c.state.faulted with
                | false => rfl
                | true => exact absurd (.inl hop') (hownC.fault_unowned hfaulted)
            | begun hbegins =>
                cases hbegins with
                | accepted hunowned haccepted =>
                    obtain ⟨-, hexit, henter⟩ := Control.not_owned.mp hunowned
                    refine ⟨?_, hexit, henter⟩
                    cases hstate : c.state with
                    | faultReactionActive =>
                        have hsampled : acceptedTransition .faultReactionActive _ = _ :=
                          hstate ▸ haccepted
                        cases hsampled
                    | fault =>
                        have hsampled : acceptedTransition .fault _ = _ := hstate ▸ haccepted
                        cases hsampled
                    | _ => rfl
                | disableVoltage _ _ _ _ htarget => cases htarget
                | quickStop _ _ _ _ _ htarget => cases htarget
    | takeoverFailed _ _ _ hentry =>
        obtain ⟨_⟩ := hentry
        unfold Control.reacted at henabled
        dsimp only at henabled
        split at henabled <;> cases henabled
    | reaction _ _ hstate =>
        unfold Control.reacted at henabled
        dsimp only at henabled
        split at henabled
        · exact absurd (hstate.symm.trans henabled) (by decide)
        · cases henabled
    | resetBusy _ _ hstate => exact absurd (hstate.symm.trans henabled) (by decide)
    | resetDone => cases henabled
    | resetFailed _ _ _ _ _ _ hentry =>
        obtain ⟨_⟩ := hentry
        cases henabled
    | invalid _ _ _ hentry =>
        obtain ⟨_⟩ := hentry
        cases henabled
  rintro (hnone | hpending | hfaulted)
  · exact hmode (hsame.trans hnone)
  · cases hpoll with
    | gated => exact absurd (modeTransitionPending_eq_false.mpr hopen.2) (by simp [hpending])
    | clean => exact absurd (modeTransitionPending_eq_false.mpr hopen.2) (by simp [hpending])
    | fault _ _ _ hentry =>
        obtain ⟨_⟩ := hentry
        cases hopen.1
  · cases hpoll with
    | gated => exact Bool.false_ne_true (hopen.1.symm.trans hfaulted)
    | clean => exact Bool.false_ne_true (hopen.1.symm.trans hfaulted)
    | fault _ _ _ hentry =>
        obtain ⟨_⟩ := hentry
        cases hopen.1

/-! ## The outcome of a pass -/

/-- The pass serves this mode. -/
structure Serves (inputs : PassInputs) (axis : Axis) (mode : Mode) : Prop where
  read : inputs.controlword .snapshot ≠ none
  active : axis.mode = mode
  serving : (staged inputs axis).Serving

instance (inputs : PassInputs) (axis : Axis) (mode : Mode) : Decidable (Serves inputs axis mode) :=
  decidable_of_iff (inputs.controlword .snapshot ≠ none ∧ axis.mode = mode ∧
      (staged inputs axis).Serving)
    ⟨fun ⟨hread, hactive, hserving⟩ => ⟨hread, hactive, hserving⟩,
      fun ⟨hread, hactive, hserving⟩ => ⟨hread, hactive, hserving⟩⟩

/-- What a pass over `axis` makes of its mode and of the mode runtimes. -/
inductive PassStage (inputs : PassInputs) (axis after : Axis) : Prop where
  | served (hmode : axis.mode ≠ .none) (hserves : Serves inputs axis axis.mode)
      (hopen : ¬ axis.Closed) (controlword : Word)
      (hread : inputs.controlword .snapshot = some controlword)
      (hview : after.modeView =
        (processActiveMode inputs controlword (staged inputs axis)).1.modeView)
      (hinvalid : (processActiveMode inputs controlword (staged inputs axis)).2 = false →
        after.state.faulted = true)
  | reset (hunserved : ∀ mode ≠ .none, ¬ Serves inputs axis mode) (controlword : Word)
      (hread : inputs.controlword .snapshot = some controlword) (mode : Mode)
      (hview : after.modeView = { axis.modeView.reset mode controlword with mode := after.mode })
      (hmode : after.mode = .none ∨ after.mode = mode)
      (hfrom : axis.mode = .none ∨ axis.mode = mode)
  | kept (hunserved : ∀ mode ≠ .none, ¬ Serves inputs axis mode)
      (hview : after.modeView = axis.modeView) (hclosed : after.Closed)
      (hleaving : axis.mode ≠ .none →
        inputs.controlword .snapshot = none ∨ (staged inputs axis).Leaving inputs)

theorem passStage_processAxis (inputs : PassInputs) {axis : Axis}
    (hown : axis.control.Ownership) : PassStage inputs axis (processAxis inputs axis) := by
  cases hread : inputs.controlword .snapshot with
  | none =>
      obtain ⟨hview, hfaulted⟩ := unread_processAxis hown hread
      exact .kept (fun mode _ hserves => hserves.read hread) hview (.inr (.inr hfaulted))
        fun _ => .inl hread
  | some controlword =>
      have hstaged := modeView_staged inputs hown
      have hmode : (staged inputs axis).mode = axis.mode := congrArg ModeView.mode hstaged
      have hunserved : ((staged inputs axis).mode ≠ .none → ¬ (staged inputs axis).Serving) →
          ∀ mode ≠ .none, ¬ Serves inputs axis mode := by
        intro hidle mode hsome hserves
        refine hidle ?_ hserves.serving
        rw [hmode, hserves.active]
        exact hsome
      cases modeStage_processAxis hown hread with
      | served hsome hserving hview _ hinvalid =>
          have hopen := not_closed_of_serving hown hserving hsome
          rw [hmode] at hsome
          exact .served hsome ⟨by rw [hread]; exact Option.some_ne_none _, rfl, hserving⟩ hopen
            controlword hread hview hinvalid
      | reset hidle mode hview hnext hfrom =>
          rw [hstaged] at hview
          rw [hmode] at hfrom
          exact .reset (hunserved hidle) controlword hread mode hview hnext hfrom
      | kept hidle hview hclosed hleaving =>
          rw [hstaged] at hview
          rw [hmode] at hleaving
          exact .kept (hunserved hidle) hview hclosed fun hsome => .inr (hleaving hsome)

/-- A pass that serves a mode runs it. -/
theorem Serves.stage {inputs : PassInputs} {axis : Axis} {mode : Mode}
    (h : Serves inputs axis mode) (hown : axis.control.Ownership) (hmode : mode ≠ .none) :
    ¬ axis.Closed ∧ ∃ controlword, inputs.controlword .snapshot = some controlword ∧
      (processAxis inputs axis).modeView =
        (processActiveMode inputs controlword (staged inputs axis)).1.modeView ∧
      ((processActiveMode inputs controlword (staged inputs axis)).2 = false →
        (processAxis inputs axis).state.faulted = true) := by
  cases passStage_processAxis inputs hown with
  | served _ _ hopen controlword hread hview hinvalid =>
      exact ⟨hopen, controlword, hread, hview, hinvalid⟩
  | reset hunserved => exact absurd h (hunserved mode hmode)
  | kept hunserved => exact absurd h (hunserved mode hmode)

/-! ## The calls of the mode callbacks -/

/-- The mode callbacks that a pass invokes. -/
def runtimeCalls (inputs : PassInputs) (axis : Axis) : List Action :=
  ((processAxis inputs axis).trace.drop axis.trace.length).filter Action.isRuntime

theorem calls_processAxis (inputs : PassInputs) {axis : Axis} (hown : axis.control.Ownership) :
    (processAxis inputs axis).modeView.calls =
      axis.modeView.calls ++ runtimeCalls inputs axis := by
  obtain ⟨_, actions, -, -, htrace⟩ := hown.passMove inputs
  unfold Axis.modeView runtimeCalls
  rw [htrace, List.filter_append, List.drop_left]

@[simp] theorem ModeView.calls_reset (view : ModeView) (mode : Mode) (controlword : Word) :
    (view.reset mode controlword).calls = view.calls := by
  cases mode <;> rfl

/-- Only a pass that serves a mode invokes a mode callback. -/
theorem runtimeCalls_of_unserved {inputs : PassInputs} {axis : Axis}
    (hown : axis.control.Ownership) (h : ∀ mode ≠ .none, ¬ Serves inputs axis mode) :
    runtimeCalls inputs axis = [] := by
  have hcalls := calls_processAxis inputs hown
  have hsame : (processAxis inputs axis).modeView.calls = axis.modeView.calls := by
    cases passStage_processAxis inputs hown with
    | served hmode hserves => exact absurd hserves (h _ hmode)
    | reset _ controlword _ mode hview =>
        have hreset := congrArg ModeView.calls hview
        rw [hreset]
        exact ModeView.calls_reset _ mode controlword
    | kept _ hview =>
        have hkept := congrArg ModeView.calls hview
        exact hkept
  rw [hsame] at hcalls
  exact List.self_eq_append_right.mp hcalls

/-! ## What a mode leaves to the others -/

/-- The mode whose callback an action is. -/
def Action.runtimeMode : Action → Mode
  | .profilePosition .. => .profilePosition
  | .profileVelocity .. => .profileVelocity
  | .homing .. => .homing
  | _ => .none

/-- The runtime of one mode. -/
inductive ModeRuntime where
  | none
  | pp (runtime : PPRuntime)
  | pv (runtime : PVRuntime)
  | hm (runtime : HMRuntime)

def ModeView.runtime (view : ModeView) : Mode → ModeRuntime
  | .profilePosition => .pp view.pp
  | .profileVelocity => .pv view.pv
  | .homing => .hm view.hm
  | _ => .none

theorem ModeView.runtime_reset_of_ne (view : ModeView) {mode other : Mode} (h : mode ≠ other)
    (controlword : Word) : (view.reset mode controlword).runtime other = view.runtime other := by
  cases mode <;> cases other <;> first | rfl | exact absurd rfl h

/-- A mode changes its own runtime and invokes its own callback only. -/
structure ModeStep (served : Mode) (before after : Axis) : Prop where
  mode : after.mode = before.mode
  runtime : ∀ other, served ≠ other →
    after.modeView.runtime other = before.modeView.runtime other
  calls : ∃ called, after.modeView.calls = before.modeView.calls ++ called ∧
    ∀ a ∈ called, a.runtimeMode = served

theorem ModeStep.refl (mode : Mode) (axis : Axis) : ModeStep mode axis axis :=
  ⟨rfl, fun _ _ => rfl, [], (List.append_nil _).symm, nofun⟩

theorem calls_record {action : Action} (h : action.isRuntime = true) (axis : Axis) :
    (axis.record action).modeView.calls = axis.modeView.calls ++ [action] := by
  unfold Axis.modeView Axis.record
  dsimp only
  rw [List.filter_append, List.filter_cons_of_pos h, List.filter_nil]

theorem modeStep_ppProcess (inputs : PassInputs) (controlword : Word) (axis : Axis) :
    ModeStep .profilePosition axis (ppProcess inputs controlword axis).1 := by
  have hothers : ∀ {after : Axis}, after.pv = axis.pv → after.hm = axis.hm →
      ∀ other, Mode.profilePosition ≠ other →
        after.modeView.runtime other = axis.modeView.runtime other := by
    intro after hpv hhm other hother
    cases other with
    | profilePosition => exact absurd rfl hother
    | profileVelocity => exact congrArg ModeRuntime.pv hpv
    | homing => exact congrArg ModeRuntime.hm hhm
    | _ => rfl
  have hstep : ∀ {after : Axis} (command : ProfilePositionCommand) (result : DriveResult),
      after.mode = axis.mode → after.pv = axis.pv → after.hm = axis.hm →
        after.modeView.calls = (axis.record (.profilePosition command result)).modeView.calls →
          ModeStep .profilePosition axis after := by
    intro after command result hmode hpv hhm hcalls
    rw [calls_record (by rfl)] at hcalls
    exact ⟨hmode, hothers hpv hhm, _, hcalls, List.forall_mem_singleton.mpr rfl⟩
  have hquiet : ∀ {after : Axis}, after.mode = axis.mode → after.pv = axis.pv →
      after.hm = axis.hm → after.modeView.calls = axis.modeView.calls →
        ModeStep .profilePosition axis after := by
    intro after hmode hpv hhm hcalls
    exact ⟨hmode, hothers hpv hhm, [], hcalls.trans (List.append_nil _).symm, nofun⟩
  unfold ppProcess ppExecute
  dsimp only
  split_ifs
  · exact .refl _ axis
  · exact hquiet rfl rfl rfl rfl
  · exact hstep _ _ rfl rfl rfl rfl
  · exact hstep _ _ rfl rfl rfl rfl
  · exact hquiet rfl rfl rfl rfl
  · exact hstep _ _ rfl rfl rfl rfl
  · exact hstep _ _ rfl rfl rfl rfl

theorem modeStep_pvProcess (inputs : PassInputs) (controlword : Word) (axis : Axis) :
    ModeStep .profileVelocity axis (pvProcess inputs controlword axis).1 := by
  have hothers : ∀ {after : Axis}, after.pp = axis.pp → after.hm = axis.hm →
      ∀ other, Mode.profileVelocity ≠ other →
        after.modeView.runtime other = axis.modeView.runtime other := by
    intro after hpp hhm other hother
    cases other with
    | profileVelocity => exact absurd rfl hother
    | profilePosition => exact congrArg ModeRuntime.pp hpp
    | homing => exact congrArg ModeRuntime.hm hhm
    | _ => rfl
  have hstep : ∀ {after : Axis} (command : ProfileVelocityCommand) (result : DriveResult),
      after.mode = axis.mode → after.pp = axis.pp → after.hm = axis.hm →
        after.modeView.calls = (axis.record (.profileVelocity command result)).modeView.calls →
          ModeStep .profileVelocity axis after := by
    intro after command result hmode hpp hhm hcalls
    rw [calls_record (by rfl)] at hcalls
    exact ⟨hmode, hothers hpp hhm, _, hcalls, List.forall_mem_singleton.mpr rfl⟩
  unfold pvProcess
  split_ifs
  · exact .refl _ axis
  · split
    · exact ⟨rfl, hothers rfl rfl, [], (List.append_nil _).symm, nofun⟩
    · dsimp only
      split_ifs
      · exact hstep _ _ rfl rfl rfl rfl
      · exact hstep _ _ rfl rfl rfl rfl

theorem modeStep_hmProcess (inputs : PassInputs) (controlword : Word) (axis : Axis) :
    ModeStep .homing axis (hmProcess inputs controlword axis).1 := by
  have hothers : ∀ {after : Axis}, after.pp = axis.pp → after.pv = axis.pv →
      ∀ other, Mode.homing ≠ other →
        after.modeView.runtime other = axis.modeView.runtime other := by
    intro after hpp hpv other hother
    cases other with
    | homing => exact absurd rfl hother
    | profilePosition => exact congrArg ModeRuntime.pp hpp
    | profileVelocity => exact congrArg ModeRuntime.pv hpv
    | _ => rfl
  have hstep : ∀ {after : Axis} (command : HomingCommand) (result : DriveResult),
      after.mode = axis.mode → after.pp = axis.pp → after.pv = axis.pv →
        after.modeView.calls = (axis.record (.homing command result)).modeView.calls →
          ModeStep .homing axis after := by
    intro after command result hmode hpp hpv hcalls
    rw [calls_record (by rfl)] at hcalls
    exact ⟨hmode, hothers hpp hpv, _, hcalls, List.forall_mem_singleton.mpr rfl⟩
  have hquiet : ∀ {after : Axis}, after.mode = axis.mode → after.pp = axis.pp →
      after.pv = axis.pv → after.modeView.calls = axis.modeView.calls →
        ModeStep .homing axis after := by
    intro after hmode hpp hpv hcalls
    exact ⟨hmode, hothers hpp hpv, [], hcalls.trans (List.append_nil _).symm, nofun⟩
  unfold hmProcess hmExecute
  dsimp only
  split_ifs
  · exact .refl _ axis
  · exact hquiet rfl rfl rfl rfl
  · split <;> exact hstep _ _ rfl rfl rfl rfl
  · exact hquiet rfl rfl rfl rfl
  · split <;> exact hstep _ _ rfl rfl rfl rfl

theorem modeStep_processActiveMode (inputs : PassInputs) (controlword : Word) {axis : Axis}
    (hstate : axis.state = .operationEnabled) :
    ModeStep axis.mode axis (processActiveMode inputs controlword axis).1 := by
  unfold processActiveMode
  rw [if_neg (not_not.mpr hstate)]
  split
  · exact .refl _ axis
  · cases hmode : axis.mode with
    | profilePosition => exact modeStep_ppProcess inputs controlword axis
    | profileVelocity => exact modeStep_pvProcess inputs controlword axis
    | homing => exact modeStep_hmProcess inputs controlword axis
    | none => exact .refl _ axis
    | cyclicSyncPosition => exact .refl _ axis
    | cyclicSyncVelocity => exact .refl _ axis
    | cyclicSyncTorque => exact .refl _ axis

/-- A pass that serves another mode is a step of that mode. -/
theorem Serves.modeStep {inputs : PassInputs} {axis : Axis} (h : Serves inputs axis axis.mode)
    (hown : axis.control.Ownership) (hmode : axis.mode ≠ .none) :
    ModeStep axis.mode axis (processAxis inputs axis) := by
  obtain ⟨-, controlword, -, hview, -⟩ := h.stage hown hmode
  have hstaged := modeView_staged inputs hown
  have hstep := modeStep_processActiveMode inputs controlword h.serving.enabled
  have hsame : (staged inputs axis).mode = axis.mode := congrArg ModeView.mode hstaged
  rw [hsame] at hstep
  refine ⟨?_, ?_, ?_⟩
  · exact (congrArg ModeView.mode hview).trans (hstep.mode.trans hsame)
  · intro other hother
    rw [hview, hstep.runtime other hother, hstaged]
  · rw [hview, ← hstaged]
    exact hstep.calls

/-- A pass that does not serve a mode invokes no callback of it. -/
theorem runtimeMode_of_unserved {inputs : PassInputs} {axis : Axis} {mode : Mode}
    (hown : axis.control.Ownership) (h : ¬ Serves inputs axis mode) :
    ∀ action ∈ runtimeCalls inputs axis, action.runtimeMode ≠ mode := by
  cases passStage_processAxis inputs hown with
  | served hsome hserves =>
      obtain ⟨called, hcalls, hother⟩ := (hserves.modeStep hown hsome).calls
      rw [calls_processAxis inputs hown] at hcalls
      rw [List.append_cancel_left hcalls]
      intro action haction hsame
      have hactive : axis.mode = mode := (hother action haction).symm.trans hsame
      exact h (hactive ▸ hserves)
  | reset hunserved =>
      rw [runtimeCalls_of_unserved hown hunserved]
      exact nofun
  | kept hunserved =>
      rw [runtimeCalls_of_unserved hown hunserved]
      exact nofun

/-- It resets the runtime of the mode, or leaves it alone where the next pass cannot serve it. The
active mode is left alone only without a Controlword, or while its exit does not end. -/
theorem runtime_of_unserved {inputs : PassInputs} {axis : Axis} {mode : Mode}
    (hown : axis.control.Ownership) (h : ¬ Serves inputs axis mode) (hmode : mode ≠ .none) :
    ((processAxis inputs axis).modeView.runtime mode = axis.modeView.runtime mode ∧
        ((processAxis inputs axis).mode = mode → (processAxis inputs axis).Closed) ∧
        (axis.mode = mode → (processAxis inputs axis).mode = mode ∧
          (inputs.controlword .snapshot = none ∨ (staged inputs axis).Leaving inputs))) ∨
      ∃ controlword, inputs.controlword .snapshot = some controlword ∧
        (processAxis inputs axis).modeView.runtime mode =
          (axis.modeView.reset mode controlword).runtime mode := by
  have hcurrent : ∀ (view : ModeView) (current : Mode),
      ({ view with mode := current } : ModeView).runtime mode = view.runtime mode := by
    intro view current
    cases mode <;> rfl
  cases passStage_processAxis inputs hown with
  | served hsome hserves =>
      have hstep := hserves.modeStep hown hsome
      have hother : axis.mode ≠ mode := fun hactive => h (hactive ▸ hserves)
      exact .inl ⟨hstep.runtime mode hother,
        fun hafter => absurd (hstep.mode.symm.trans hafter) hother, fun hbefore =>
          absurd hbefore hother⟩
  | reset _ controlword hread other hview hnext hfrom =>
      have hruntime := congrArg (fun view => ModeView.runtime view mode) hview
      dsimp only at hruntime
      rw [hcurrent] at hruntime
      by_cases hsame : other = mode
      · subst hsame
        exact .inr ⟨controlword, hread, hruntime⟩
      · refine .inl ⟨hruntime.trans (ModeView.runtime_reset_of_ne _ hsame controlword),
          fun hafter => absurd hafter ?_, fun hbefore => absurd hbefore ?_⟩
        · rcases hnext with hnone | hentered
          · rw [hnone]
            exact hmode.symm
          · rw [hentered]
            exact hsame
        · rcases hfrom with hnone | hleft
          · rw [hnone]
            exact hmode.symm
          · rw [hleft]
            exact hsame
  | kept _ hview hclosed hleaving =>
      have hruntime := congrArg (fun view => ModeView.runtime view mode) hview
      have hkept : (processAxis inputs axis).mode = axis.mode := congrArg ModeView.mode hview
      refine .inl ⟨hruntime, fun _ => hclosed, fun hbefore => ⟨hkept.trans hbefore, ?_⟩⟩
      rw [hbefore] at hleaving
      exact hleaving hmode

/-! ## Runs of one axis -/

/-- A call of the Device core, as one axis sees it. -/
inductive AxisCall where
  | process (inputs : PassInputs)
  | processSync (inputs : SyncInputs) (sequence : BitVec 32)
  | validate (od : ObjectDictionary)
  | publish (writes : LogicalDevice → BindWrites)
  | publishInitial (written : LogicalDevice → Bool × Bool)
  | communicationReset

def AxisCall.apply (axis : Axis) : AxisCall → Axis
  | .process inputs => processAxis inputs axis
  | .processSync inputs sequence => syncAxis inputs sequence axis
  | .validate od => (validateAxis od axis).1
  | .publish writes => (publishAxis writes axis).1
  | .publishInitial written => Device.publishInitial written axis
  | .communicationReset => syncReset axis

/-- The calls that run no supervisor pass. -/
def AxisCall.isAside : AxisCall → Bool
  | .process _ => false
  | _ => true

/-- What they leave alone: they touch the diagnosis, the entries, the SYNC state and the image. -/
structure Aside (before after : Axis) : Prop where
  control : ∃ d, after.control = { before.control with diagnosis := d }
  view : after.modeView = before.modeView
  drive : after.drive = before.drive
  supportedModes : after.supportedModes = before.supportedModes

theorem AxisCall.aside {call : AxisCall} (h : call.isAside = true) (axis : Axis) :
    Aside axis (call.apply axis) := by
  cases call with
  | process inputs => exact absurd h Bool.false_ne_true
  | processSync inputs sequence =>
      have hsync := syncAxis_only inputs sequence axis
      dsimp only [AxisCall.apply]
      rw [hsync.eq]
      exact ⟨⟨_, rfl⟩, rfl, rfl, rfl⟩
  | validate od =>
      dsimp only [AxisCall.apply]
      rw [validateAxis_cacheOnly od axis]
      exact ⟨⟨_, rfl⟩, rfl, rfl, rfl⟩
  | publish writes =>
      refine ⟨control_publishAxis writes axis, ?_, ?_, ?_⟩ <;>
        dsimp only [AxisCall.apply] <;> unfold publishAxis restoreAxis <;> dsimp only <;>
          split_ifs <;> rfl
  | publishInitial written => exact ⟨⟨_, rfl⟩, rfl, rfl, rfl⟩
  | communicationReset => exact ⟨⟨_, rfl⟩, rfl, rfl, rfl⟩

theorem Aside.ownership {before after : Axis} (h : Aside before after)
    (hown : before.control.Ownership) : after.control.Ownership := by
  obtain ⟨d, hcontrol⟩ := h.control
  rw [hcontrol]
  exact hown.withDiagnosis d

theorem Aside.mode {before after : Axis} (h : Aside before after) : after.mode = before.mode :=
  congrArg ModeView.mode h.view

theorem Aside.closed {before after : Axis} (h : Aside before after) :
    after.Closed ↔ before.Closed := by
  obtain ⟨d, hcontrol⟩ := h.control
  have hstate : after.state = before.state := congrArg Control.state hcontrol
  have hexit : after.pendingExitMode = before.pendingExitMode :=
    congrArg Control.pendingExitMode hcontrol
  have henter : after.pendingEnterMode = before.pendingEnterMode :=
    congrArg Control.pendingEnterMode hcontrol
  unfold Axis.Closed modeTransitionPending
  rw [h.mode, hstate, hexit, henter]

theorem drive_processAxis (inputs : PassInputs) (axis : Axis) :
    (processAxis inputs axis).drive = axis.drive := by
  have hfixed := congrArg Fixed.drive (fixed_processAxis inputs axis)
  refine hfixed.trans ?_
  unfold updateModeRequest
  split <;> rfl

end CanopenRtt.Cia402.Device
