import CanopenRtt.Cia402.Device.Moves
/-!
# The moves of the mode machinery and of a whole pass

`ModeMove` lists what the mode machinery does after the FSA, `PassMove` what a
whole supervisor pass does: poll, FSA, modes. A pass also leaves the
configuration, the bindings and the SYNC state of its axis alone.
-/

namespace CanopenRtt.Cia402.Device

/-- A callback of an active mode. -/
def Action.isRuntime : Action → Bool
  | .profilePosition .. | .profileVelocity .. | .homing .. => true
  | _ => false

/-- A feedback callback. -/
def Action.isFeedback : Action → Bool
  | .getPosition | .getVelocity | .getTorque => true
  | _ => false

/-- One modeExit call for `mode`. -/
inductive ExitCall (inputs : PassInputs) (r : Reads) (mode : Mode) (c : Control) :
    Control → List Action → Prop where
  | busy (h : inputs.modeExit mode = .busy) :
      ExitCall inputs r mode c { c with pendingExitMode := mode } [.modeExit mode .busy]
  | done (h : inputs.modeExit mode = .done) :
      ExitCall inputs r mode c
        { c with
          pendingExitMode := .none
          mode := if c.mode = mode then .none else c.mode } [.modeExit mode .done]
  | error (h : inputs.modeExit mode = .error) {c' : Control} {actions : List Action}
      (hentry : FaultEntry r.modeFault c c' actions) :
      ExitCall inputs r mode c c' (.modeExit mode .error :: actions)

/-- One modeEnter call for `mode`. -/
inductive EnterCall (inputs : PassInputs) (r : Reads) (mode : Mode) (c : Control) :
    Control → List Action → Prop where
  | busy (h : inputs.modeEnter mode = .busy) :
      EnterCall inputs r mode c { c with pendingEnterMode := mode } [.modeEnter mode .busy]
  | done (h : inputs.modeEnter mode = .done) :
      EnterCall inputs r mode c { c with pendingEnterMode := .none, mode := mode }
        [.modeEnter mode .done]
  | error (h : inputs.modeEnter mode = .error) {c' : Control} {actions : List Action}
      (hentry : FaultEntry r.modeFault c c' actions) :
      EnterCall inputs r mode c c' (.modeEnter mode .error :: actions)

/-- The moves of the mode machinery after the FSA. -/
inductive ModeMove (inputs : PassInputs) (r : Reads) (c : Control) :
    Control → List Action → Prop where
  | idle (hnone : c.operation ≠ none ∨ c.mode = .none ∨ c.state ≠ .operationEnabled) :
      ModeMove inputs r c c []
  | exit {mode : Mode} (hmode : mode ≠ .none) (hop : c.operation = none)
      (hstate : modeTransitionAllowed c.state = true)
      (hlatch : c.pendingExitMode = mode ∨
        ¬ c.Owned ∧ c.mode = mode ∧ ∃ request, r.mode = some request ∧ request ≠ mode)
      {c' : Control} {actions : List Action} (hcall : ExitCall inputs r mode c c' actions) :
      ModeMove inputs r c c' actions
  | enter {mode : Mode} (hmode : mode ≠ .none) (hop : c.operation = none)
      (hexit : c.pendingExitMode = .none) (hstate : modeTransitionAllowed c.state = true)
      (hlatch : c.pendingEnterMode = mode ∨
        ¬ c.Owned ∧ c.mode = .none ∧ r.mode = some mode)
      {c' : Control} {actions : List Action} (hcall : EnterCall inputs r mode c c' actions) :
      ModeMove inputs r c c' actions
  | active (hidle : ¬ c.Owned) (hstate : c.state = .operationEnabled) (hmode : c.mode ≠ .none)
      {called : List Action} (hcalled : ∀ a ∈ called, a.isRuntime = true)
      (hsteady : ∀ mode, r.mode = some mode → mode = c.mode) :
      ModeMove inputs r c c called
  | activeFailed (hidle : ¬ c.Owned) (hstate : c.state = .operationEnabled)
      (hmode : c.mode ≠ .none) {called : List Action}
      (hcalled : ∀ a ∈ called, a.isRuntime = true) {c' : Control} {actions : List Action}
      (hentry : FaultEntry r.modeFault c c' actions) : ModeMove inputs r c c' (called ++ actions)

theorem ExitCall.of_pending {inputs : PassInputs} {r : Reads} {mode : Mode} {c c' : Control}
    {actions : List Action}
    (h : ExitCall inputs r mode { c with pendingExitMode := mode } c' actions) :
    ExitCall inputs r mode c c' actions := by
  cases h with
  | busy h => exact .busy h
  | done h => exact .done h
  | error h hentry =>
      obtain ⟨hlatch⟩ := hentry
      exact .error h (.mk hlatch)

theorem EnterCall.of_pending {inputs : PassInputs} {r : Reads} {mode : Mode} {c c' : Control}
    {actions : List Action}
    (h : EnterCall inputs r mode { c with pendingEnterMode := mode } c' actions) :
    EnterCall inputs r mode c c' actions := by
  cases h with
  | busy h => exact .busy h
  | done h => exact .done h
  | error h hentry =>
      obtain ⟨hlatch⟩ := hentry
      exact .error h (.mk hlatch)

/-! ## Frames -/

@[simp] theorem unmoved_pollProduct (inputs : PassInputs) (axis : Axis) :
    (pollProduct inputs axis).unmoved = axis.unmoved := by
  unfold pollProduct pollProductFault
  split_ifs
  · rfl
  · cases inputs.getFaultInfo .product with
    | none => rfl
    | some fault => exact unmoved_axisEnterFaultReaction inputs _ _ _

@[simp] theorem fixed_pollProduct (inputs : PassInputs) (axis : Axis) :
    (pollProduct inputs axis).fixed = axis.fixed :=
  congrArg Unmoved.fixed (unmoved_pollProduct inputs axis)

/-- The request of a pass is stored without looking at the rest of the axis. -/
theorem fixed_updateModeRequest_congr (inputs : PassInputs) {axis other : Axis}
    (h : axis.fixed = other.fixed) :
    (updateModeRequest inputs axis).fixed = (updateModeRequest inputs other).fixed := by
  unfold updateModeRequest
  split
  · exact congrArg (fun fixed : Fixed => { fixed with requestedModeRecognized := false }) h
  · rename_i raw _
    exact congrArg (fun fixed : Fixed =>
      { fixed with
        requestedModeRaw := raw
        requestedModeRecognized := (modeFromRaw raw).isSome }) h

@[simp] theorem control_resetModeRuntime (mode : Mode) (controlword : Word) (axis : Axis) :
    (resetModeRuntime mode controlword axis).control = axis.control := by
  cases mode <;> rfl

@[simp] theorem trace_resetModeRuntime (mode : Mode) (controlword : Word) (axis : Axis) :
    (resetModeRuntime mode controlword axis).trace = axis.trace := by
  cases mode <;> rfl

@[simp] theorem fixed_resetModeRuntime (mode : Mode) (controlword : Word) (axis : Axis) :
    (resetModeRuntime mode controlword axis).fixed = axis.fixed := by
  cases mode <;> rfl

/-- The step keeps the control and the fixed part, and calls only callbacks of `kind`. -/
structure CallsOnly (kind : Action → Bool) (before after : Axis) : Prop where
  control : after.control = before.control
  fixed : after.fixed = before.fixed
  trace : ∃ called, (∀ a ∈ called, kind a = true) ∧ after.trace = before.trace ++ called

theorem CallsOnly.silent {kind : Action → Bool} {before after : Axis}
    (hcontrol : after.control = before.control) (hfixed : after.fixed = before.fixed)
    (htrace : after.trace = before.trace) : CallsOnly kind before after :=
  ⟨hcontrol, hfixed, [], by simp, by simp [htrace]⟩

theorem CallsOnly.called {kind : Action → Bool} {before after : Axis} {action : Action}
    (hkind : kind action = true) (hcontrol : after.control = before.control)
    (hfixed : after.fixed = before.fixed) (htrace : after.trace = before.trace ++ [action]) :
    CallsOnly kind before after :=
  ⟨hcontrol, hfixed, [action], by simpa using hkind, htrace⟩

theorem CallsOnly.trans {kind : Action → Bool} {before middle after : Axis}
    (h₁ : CallsOnly kind before middle) (h₂ : CallsOnly kind middle after) :
    CallsOnly kind before after := by
  obtain ⟨called₁, hcalled₁, htrace₁⟩ := h₁.trace
  obtain ⟨called₂, hcalled₂, htrace₂⟩ := h₂.trace
  refine ⟨h₂.control.trans h₁.control, h₂.fixed.trans h₁.fixed, called₁ ++ called₂, ?_, ?_⟩
  · intro a ha
    exact (List.mem_append.mp ha).elim (hcalled₁ a) (hcalled₂ a)
  · rw [htrace₂, htrace₁, List.append_assoc]

theorem ppProcess_step (inputs : PassInputs) (controlword : Word) (axis : Axis) :
    CallsOnly Action.isRuntime axis (ppProcess inputs controlword axis).1 := by
  have hexecute : ∀ (edge : Bool) (runtime : PPRuntime),
      CallsOnly Action.isRuntime axis
        (ppExecute inputs controlword edge { axis with pp := runtime }).1 := by
    intro edge runtime
    unfold ppExecute
    simp only
    split_ifs <;> exact .called (by rfl) rfl rfl rfl
  unfold ppProcess
  simp only
  split_ifs
  · exact .silent rfl rfl rfl
  · exact .silent rfl rfl rfl
  · exact hexecute true _
  · exact .silent rfl rfl rfl
  · exact hexecute false _

theorem pvProcess_step (inputs : PassInputs) (controlword : Word) (axis : Axis) :
    CallsOnly Action.isRuntime axis (pvProcess inputs controlword axis).1 := by
  unfold pvProcess
  split_ifs
  · exact .silent rfl rfl rfl
  · split
    · exact .silent rfl rfl rfl
    · simp only
      split_ifs <;> exact .called (by rfl) rfl rfl rfl

theorem hmProcess_step (inputs : PassInputs) (controlword : Word) (axis : Axis) :
    CallsOnly Action.isRuntime axis (hmProcess inputs controlword axis).1 := by
  have hexecute : ∀ (start edge : Bool) (runtime : HMRuntime),
      CallsOnly Action.isRuntime axis
        (hmExecute inputs controlword start edge { axis with hm := runtime }).1 := by
    intro start edge runtime
    unfold hmExecute
    simp only
    split <;> exact .called (by rfl) rfl rfl rfl
  unfold hmProcess
  simp only
  split_ifs
  · exact .silent rfl rfl rfl
  · exact .silent rfl rfl rfl
  · exact hexecute _ _ _
  · exact .silent rfl rfl rfl
  · exact hexecute _ _ _

theorem processActiveMode_step (inputs : PassInputs) (controlword : Word) (axis : Axis) :
    CallsOnly Action.isRuntime axis (processActiveMode inputs controlword axis).1 := by
  unfold processActiveMode
  split_ifs
  · exact .silent rfl rfl rfl
  · exact .silent (by simp) (by simp) (by simp)
  · split
    · exact ppProcess_step inputs controlword axis
    · exact pvProcess_step inputs controlword axis
    · exact hmProcess_step inputs controlword axis
    all_goals exact .silent rfl rfl rfl

/-- Outside OPERATION_ENABLED, or with no mode, a mode step calls nothing and is valid. -/
theorem processActiveMode_inactive {inputs : PassInputs} {controlword : Word} {axis : Axis}
    (h : axis.mode = .none ∨ axis.state ≠ .operationEnabled) :
    (processActiveMode inputs controlword axis).2 = true ∧
      (processActiveMode inputs controlword axis).1.control = axis.control ∧
      (processActiveMode inputs controlword axis).1.trace = axis.trace := by
  unfold processActiveMode
  by_cases hmode : axis.mode = .none
  · simp [hmode]
  · rw [if_neg hmode, if_pos (h.resolve_left hmode)]
    simp

/-! ## The mode machinery makes only these moves -/

/-- A mode callback that answered ERROR; the fault entry is still to come. -/
structure ModeFailure (c : Control) (call : Action) (before after : Axis) : Prop where
  release : after.control.release = c.release
  diagnosis : after.control.diagnosis = c.diagnosis
  fixed : after.fixed = before.fixed
  trace : after.trace = before.trace ++ [call]

theorem ModeFailure.entry {c : Control} {call : Action} {before after : Axis}
    (h : ModeFailure c call before after) (inputs : PassInputs) :
    ∃ c' actions, FaultEntry (reads inputs before).modeFault c c' actions ∧
      (axisEnterFaultReaction inputs .modeOperation none after).control = c' ∧
      (axisEnterFaultReaction inputs .modeOperation none after).trace =
        before.trace ++ call :: actions := by
  obtain ⟨_, actions, ⟨hlatch⟩, hcontrol, htrace⟩ :=
    axisEnterFaultReaction_performs inputs .modeOperation none after
  have hsource : latchSource inputs .modeOperation none after = (reads inputs before).modeFault :=
    congrArg Reads.modeFault (reads_congr inputs h.fixed)
  rw [h.diagnosis, hsource] at hlatch
  refine ⟨_, actions, .mk hlatch, ?_, ?_⟩
  · rw [hcontrol, h.release]
  · rw [htrace, h.trace, List.append_assoc, List.singleton_append]

theorem continueModeExit_performs (inputs : PassInputs) (controlword : Word) (axis : Axis)
    (hmode : axis.pendingExitMode ≠ .none) (hallowed : modeTransitionAllowed axis.state = true) :
    (continueModeExit inputs controlword axis).2 = true ∧
        Performs (ExitCall inputs (reads inputs axis) axis.pendingExitMode axis.control) axis
          (continueModeExit inputs controlword axis).1 ∨
      (continueModeExit inputs controlword axis).2 = false ∧
        inputs.modeExit axis.pendingExitMode = .error ∧
        ModeFailure axis.control (.modeExit axis.pendingExitMode .error) axis
          (continueModeExit inputs controlword axis).1 := by
  unfold continueModeExit
  rw [if_neg (by simp [hmode, hallowed])]
  cases hresult : inputs.modeExit axis.pendingExitMode with
  | busy => exact .inl ⟨rfl, _, _, .busy hresult, rfl, by simp [Axis.record]⟩
  | error => exact .inr ⟨rfl, rfl, rfl, rfl, rfl, by simp [Axis.record]⟩
  | done =>
      refine .inl ⟨rfl, _, _, .done hresult, ?_, ?_⟩
      · by_cases hsame : axis.mode = axis.pendingExitMode
        · rw [← hsame]
          cases hcurrent : axis.mode <;>
            simp [Axis.record, Axis.control, resetModeRuntime, ← hsame, hcurrent]
        · simp [Axis.record, Axis.control, hsame]
      · by_cases hsame : axis.mode = axis.pendingExitMode <;> simp [Axis.record, hsame]

theorem continueModeEnter_performs (inputs : PassInputs) (controlword : Word) (axis : Axis)
    (hmode : axis.pendingEnterMode ≠ .none) (hallowed : modeTransitionAllowed axis.state = true) :
    (continueModeEnter inputs controlword axis).2 = true ∧
        Performs (EnterCall inputs (reads inputs axis) axis.pendingEnterMode axis.control) axis
          (continueModeEnter inputs controlword axis).1 ∨
      (continueModeEnter inputs controlword axis).2 = false ∧
        inputs.modeEnter axis.pendingEnterMode = .error ∧
        ModeFailure axis.control (.modeEnter axis.pendingEnterMode .error) axis
          (continueModeEnter inputs controlword axis).1 := by
  unfold continueModeEnter
  rw [if_neg (by simp [hmode, hallowed])]
  dsimp only
  cases hresult : inputs.modeEnter axis.pendingEnterMode with
  | busy => exact .inl ⟨rfl, _, _, .busy hresult, rfl, by simp [Axis.record]⟩
  | error => exact .inr ⟨rfl, rfl, rfl, rfl, rfl, by simp [Axis.record]⟩
  | done =>
      refine .inl ⟨rfl, _, _, .done hresult, ?_, ?_⟩
      · simp only [control_resetModeRuntime]
        rfl
      · simp [Axis.record]

/-- What `processModeSelection` hands to the rest of the pass. -/
inductive Selection (inputs : PassInputs) (axis : Axis) : Axis × Bool × Bool → Prop where
  | runActive (hidle : modeTransitionPending axis = false)
      (hsteady : ∀ mode, selectedMode axis = some mode → mode = axis.mode) :
      Selection inputs axis (axis, true, true)
  | served {axis' : Axis}
      (hmove : Performs (ModeMove inputs (reads inputs axis) axis.control) axis axis') :
      Selection inputs axis (axis', false, true)
  | failed {axis' : Axis} (hfailed : Performs (ModeMove inputs (reads inputs axis) axis.control)
      axis (axisEnterFaultReaction inputs .modeOperation none axis')) :
      Selection inputs axis (axis', false, false)

theorem selection_of_exit {inputs : PassInputs} {controlword : Word} {axis latched : Axis}
    {mode : Mode} (hmode : mode ≠ .none) (hop : axis.control.operation = none)
    (hallowed : modeTransitionAllowed axis.state = true)
    (hlatch : axis.pendingExitMode = mode ∨ ¬ axis.control.Owned ∧ axis.mode = mode ∧
      ∃ request, (reads inputs axis).mode = some request ∧ request ≠ mode)
    (hlatched : latched = { axis with pendingExitMode := mode }) :
    Selection inputs axis ((continueModeExit inputs controlword latched).1, false,
      (continueModeExit inputs controlword latched).2) := by
  have hmode' : latched.pendingExitMode = mode := by rw [hlatched]
  have hcontrol : latched.control = { axis.control with pendingExitMode := mode } := by
    rw [hlatched]
    rfl
  have htrace : latched.trace = axis.trace := by rw [hlatched]
  have hreads : reads inputs latched = reads inputs axis := by
    rw [hlatched]
    rfl
  rcases continueModeExit_performs inputs controlword latched (by rwa [hmode'])
      (by rw [hlatched]; exact hallowed) with
    ⟨hok, c, actions, hcall, hc, ht⟩ | ⟨hok, herror, hfailure⟩
  · rw [hok]
    rw [hmode', hcontrol, hreads] at hcall
    exact .served ⟨c, actions, .exit hmode hop hallowed hlatch hcall.of_pending, hc,
      by rw [ht, htrace]⟩
  · rw [hok]
    refine .failed ?_
    rw [hmode'] at herror hfailure
    obtain ⟨c, actions, hentry, hc, ht⟩ := hfailure.entry inputs
    rw [hcontrol, hreads] at hentry
    refine ⟨c, _, .exit hmode hop hallowed hlatch (ExitCall.of_pending (.error herror hentry)),
      hc, ?_⟩
    rw [ht, htrace]

theorem selection_of_enter {inputs : PassInputs} {controlword : Word} {axis latched : Axis}
    {mode : Mode} (hmode : mode ≠ .none) (hop : axis.control.operation = none)
    (hexit : axis.pendingExitMode = .none) (hallowed : modeTransitionAllowed axis.state = true)
    (hlatch : axis.pendingEnterMode = mode ∨ ¬ axis.control.Owned ∧ axis.mode = .none ∧
      (reads inputs axis).mode = some mode)
    (hlatched : latched = { axis with pendingEnterMode := mode }) :
    Selection inputs axis ((continueModeEnter inputs controlword latched).1, false,
      (continueModeEnter inputs controlword latched).2) := by
  have hmode' : latched.pendingEnterMode = mode := by rw [hlatched]
  have hcontrol : latched.control = { axis.control with pendingEnterMode := mode } := by
    rw [hlatched]
    rfl
  have htrace : latched.trace = axis.trace := by rw [hlatched]
  have hreads : reads inputs latched = reads inputs axis := by
    rw [hlatched]
    rfl
  rcases continueModeEnter_performs inputs controlword latched (by rwa [hmode'])
      (by rw [hlatched]; exact hallowed) with
    ⟨hok, c, actions, hcall, hc, ht⟩ | ⟨hok, herror, hfailure⟩
  · rw [hok]
    rw [hmode', hcontrol, hreads] at hcall
    exact .served ⟨c, actions, .enter hmode hop hexit hallowed hlatch hcall.of_pending, hc,
      by rw [ht, htrace]⟩
  · rw [hok]
    refine .failed ?_
    rw [hmode'] at herror hfailure
    obtain ⟨c, actions, hentry, hc, ht⟩ := hfailure.entry inputs
    rw [hcontrol, hreads] at hentry
    refine ⟨c, _, .enter hmode hop hexit hallowed hlatch
      (EnterCall.of_pending (.error herror hentry)), hc, ?_⟩
    rw [ht, htrace]

theorem selectedMode_eq_some {axis : Axis} {mode : Mode} (h : selectedMode axis = some mode) :
    modeTransitionAllowed axis.state = true ∧ wantedMode axis = some mode := by
  unfold selectedMode at h
  unfold wantedMode
  split_ifs at h with hrecognized
  rw [if_neg hrecognized]
  split at h
  · exact absurd h (by simp)
  · rename_i requested hraw
    split_ifs at h with hrejected
    simp only [Bool.or_eq_true, Bool.not_eq_true', not_or, Bool.not_eq_false] at hrejected
    obtain ⟨hsupported, hallowed⟩ := hrejected
    exact ⟨hallowed, by simpa only [hraw, hsupported, if_true] using h⟩

theorem selectedMode_of_wanted {axis : Axis} (hallowed : modeTransitionAllowed axis.state = true) :
    selectedMode axis = wantedMode axis := by
  unfold selectedMode wantedMode
  cases modeFromRaw axis.requestedModeRaw with
  | none => rfl
  | some mode =>
      dsimp only
      rw [hallowed]
      cases modeSupported axis mode <;> rfl

theorem processModeSelection_selection (inputs : PassInputs) (controlword : Word) {axis : Axis}
    (hop : axis.control.operation = none) :
    Selection inputs axis (processModeSelection inputs controlword axis) := by
  have hidle : axis.mode = .none ∨ axis.state ≠ .operationEnabled →
      Selection inputs axis (axis, false, true) := fun hnone =>
    .served ⟨_, [], .idle (.inr hnone), rfl, by simp⟩
  have hstopped : ¬ modeTransitionAllowed axis.state = true →
      axis.state ≠ .operationEnabled := by
    intro hallowed henabled
    rw [henabled] at hallowed
    exact hallowed rfl
  unfold processModeSelection
  by_cases hexit : axis.pendingExitMode = .none
  · rw [if_neg (by simpa using hexit)]
    by_cases henter : axis.pendingEnterMode = .none
    · rw [if_neg (by simpa using henter)]
      have hfree : modeTransitionPending axis = false :=
        modeTransitionPending_eq_false.mpr ⟨hexit, henter⟩
      have hunowned : ¬ axis.control.Owned := not_owned_iff.mpr ⟨hop, hfree⟩
      cases hselected : selectedMode axis with
      | none =>
          refine .runActive hfree fun mode hmode => ?_
          rw [hselected] at hmode
          cases hmode
      | some requestedMode =>
          obtain ⟨hallowed, hwanted⟩ := selectedMode_eq_some hselected
          simp only
          split_ifs with hsame hcurrent hrequested
          · refine .runActive hfree fun mode hmode => ?_
            rw [hselected] at hmode
            exact (Option.some.inj hmode).symm.trans hsame.symm
          · exact selection_of_exit hcurrent hop hallowed
              (.inr ⟨hunowned, rfl, requestedMode, hwanted, Ne.symm hsame⟩) rfl
          · exact selection_of_enter hrequested hop hexit hallowed
              (.inr ⟨hunowned, not_not.mp hcurrent, hwanted⟩) rfl
          · exact hidle (.inl (not_not.mp hcurrent))
    · rw [if_pos henter]
      by_cases hallowed : modeTransitionAllowed axis.state = true
      · exact selection_of_enter henter hop hexit hallowed (.inl rfl) rfl
      · have hskip : continueModeEnter inputs controlword axis = (axis, true) := by
          unfold continueModeEnter
          simp [hallowed]
        rw [hskip]
        exact hidle (.inr (hstopped hallowed))
  · rw [if_pos hexit]
    by_cases hallowed : modeTransitionAllowed axis.state = true
    · exact selection_of_exit hexit hop hallowed (.inl rfl) rfl
    · have hskip : continueModeExit inputs controlword axis = (axis, true) := by
        unfold continueModeExit
        simp [hallowed]
      rw [hskip]
      exact hidle (.inr (hstopped hallowed))

/-- The mode machinery makes one of its listed moves in every pass. -/
theorem modeMove_processModes (inputs : PassInputs) (controlword : Word) (axis : Axis) :
    Performs (ModeMove inputs (reads inputs axis) axis.control) axis
      (processModes inputs controlword axis) := by
  unfold processModes
  split_ifs with howner hmode
  · have howned : axis.control.operation ≠ none := Option.isSome_iff_ne_none.mp howner
    exact ⟨_, [], .idle (.inl howned), by simp, by simp⟩
  · have howned : axis.control.operation ≠ none := Option.isSome_iff_ne_none.mp howner
    exact ⟨_, [], .idle (.inl howned), rfl, by simp⟩
  · have hop : axis.control.operation = none := by simpa using howner
    have hselection := processModeSelection_selection inputs controlword hop
    revert hselection
    rcases processModeSelection inputs controlword axis with ⟨selected, runActiveMode, ok⟩
    rintro (⟨hidle, hsteady⟩ | hmove | hfailed)
    · have hunowned : ¬ axis.control.Owned := not_owned_iff.mpr ⟨hop, hidle⟩
      simp only [Bool.not_true, Bool.false_eq_true, if_false, if_true]
      by_cases hactive : axis.mode = .none ∨ axis.state ≠ .operationEnabled
      · obtain ⟨hok, hcontrol, htrace⟩ := processActiveMode_inactive hactive
        rw [hok]
        exact ⟨_, [], .idle (.inr hactive), hcontrol, by simp [htrace]⟩
      · obtain ⟨hmode, hstate⟩ := not_or.mp hactive
        obtain ⟨hcontrol, hfixed, called, hcalled, htrace⟩ :=
          processActiveMode_step inputs controlword axis
        have hsource : latchSource inputs .modeOperation none
            (processActiveMode inputs controlword axis).1 = (reads inputs axis).modeFault :=
          congrArg Reads.modeFault (reads_congr inputs hfixed)
        split_ifs
        · obtain ⟨c, actions, hentry, hc, ht⟩ := axisEnterFaultReaction_performs inputs
            .modeOperation none (processActiveMode inputs controlword axis).1
          rw [hcontrol, hsource] at hentry
          refine ⟨c, _, .activeFailed hunowned (not_not.mp hstate) hmode hcalled hentry, hc, ?_⟩
          rw [ht, htrace, List.append_assoc]
        · have henabled : axis.state = .operationEnabled := not_not.mp hstate
          have hallowed : modeTransitionAllowed axis.state = true := by
            rw [henabled]
            rfl
          have hwanted : ∀ mode, (reads inputs axis).mode = some mode → mode = axis.mode :=
            fun mode hmode => hsteady mode ((selectedMode_of_wanted hallowed).trans hmode)
          exact ⟨_, called, .active hunowned henabled hmode hcalled hwanted, hcontrol, htrace⟩
    · obtain ⟨c, actions, hmove, hcontrol, htrace⟩ := hmove
      simp only [Bool.not_true, Bool.false_eq_true, if_false]
      split_ifs
      · exact ⟨c, actions, hmove, by simpa using hcontrol, by simpa using htrace⟩
      · exact ⟨c, actions, hmove, hcontrol, htrace⟩
    · exact hfailed

/-! ## The whole pass -/

/-- What the product poll at the start of a pass does. -/
inductive PollMove (inputs : PassInputs) (c : Control) : Control → List Action → Prop where
  | gated (h : c.diagnosis.active = true ∨ c.diagnosis.contractFailed = true) :
      PollMove inputs c c []
  | clean (hactive : c.diagnosis.active = false) (hcontract : c.diagnosis.contractFailed = false)
      (hpoll : inputs.getFaultInfo .product = none) :
      PollMove inputs c c [.getFaultInfo .product none]
  | fault (hactive : c.diagnosis.active = false) (hcontract : c.diagnosis.contractFailed = false)
      {fault : FaultInfo} (hpoll : inputs.getFaultInfo .product = some fault)
      {source : LatchSource} {c' : Control} {actions : List Action}
      (hentry : FaultEntry source c c' actions) :
      PollMove inputs c c' (.getFaultInfo .product (some fault) :: actions)

theorem pollMove_pollProduct (inputs : PassInputs) (axis : Axis) :
    Performs (PollMove inputs axis.control) axis (pollProduct inputs axis) := by
  unfold pollProduct pollProductFault
  split_ifs with hgate
  · exact ⟨_, [], .gated (by simpa using hgate), rfl, by simp⟩
  · have hopen : axis.diagnosis.active = false ∧ axis.diagnosis.contractFailed = false := by
      simpa using hgate
    cases hpoll : inputs.getFaultInfo .product with
    | none => exact ⟨_, _, .clean hopen.1 hopen.2 hpoll, rfl, rfl⟩
    | some fault =>
        obtain ⟨c, actions, hentry, hcontrol, htrace⟩ := axisEnterFaultReaction_performs inputs
          .product (some fault) (axis.record (.getFaultInfo .product (some fault)))
        refine ⟨c, _, .fault hopen.1 hopen.2 hpoll hentry, hcontrol, ?_⟩
        rw [htrace, Axis.record, List.append_assoc]
        rfl

/-- What the FSA and the mode machinery do in one pass. -/
inductive SuperviseMove (inputs : PassInputs) (r : Reads) (c : Control) :
    Control → List Action → Prop where
  | latched (hread : inputs.controlword .snapshot = none) (hstate : c.state = .fault) :
      SuperviseMove inputs r c c []
  | readFailed (hread : inputs.controlword .snapshot = none) {source : LatchSource}
      {c' : Control} {actions : List Action} (hentry : FaultEntry source c c' actions) :
      SuperviseMove inputs r c (c'.reacted inputs) (actions ++ [reactionCall inputs])
  | processed (controlword : Word) (hread : inputs.controlword .snapshot = some controlword)
      {c₁ c₂ : Control} {actions₁ actions₂ : List Action} (hfsa : FsaMove inputs r c c₁ actions₁)
      (hmodes : ModeMove inputs r c₁ c₂ actions₂) :
      SuperviseMove inputs r c c₂ (actions₁ ++ actions₂)

theorem superviseMove_supervise (inputs : PassInputs) {axis : Axis}
    (hfault : axis.control.Owned → axis.state ≠ .faultReactionActive) :
    Performs (SuperviseMove inputs (reads inputs axis) axis.control) axis
      (supervise inputs axis) := by
  unfold supervise
  cases hread : inputs.controlword .snapshot with
  | none =>
      rcases axisControlwordReadFailed_performs inputs axis with
        ⟨heq, hstate, -⟩ | ⟨source, c, actions, hentry, hcontrol, htrace⟩
      · exact ⟨_, [], .latched hread hstate, by rw [heq], by simp [heq]⟩
      · exact ⟨_, _, .readFailed hread hentry, hcontrol, htrace⟩
  | some controlword =>
      obtain ⟨_, actions₁, hfsa, rfl, htrace₁⟩ := fsaMove_axisProcess inputs hfault
      obtain ⟨c, actions₂, hmodes, hcontrol, htrace₂⟩ :=
        modeMove_processModes inputs controlword (axisProcess inputs axis)
      rw [reads_congr inputs (fixed_axisProcess inputs axis)] at hmodes
      refine ⟨c, _, .processed controlword hread hfsa hmodes, hcontrol, ?_⟩
      rw [htrace₂, htrace₁, List.append_assoc]

theorem updateFeedback_step (inputs : PassInputs) (axis : Axis) :
    CallsOnly Action.isFeedback axis (updateFeedback inputs axis) := by
  have hposition : ∀ current,
      CallsOnly Action.isFeedback current (updatePosition inputs current) := by
    intro current
    unfold updatePosition
    split_ifs
    · exact .silent rfl rfl rfl
    · exact .called (by rfl) rfl rfl rfl
    · exact .called (by rfl) rfl rfl rfl
  have hvelocity : ∀ current,
      CallsOnly Action.isFeedback current (updateVelocity inputs current) := by
    intro current
    unfold updateVelocity
    split_ifs
    · exact .silent rfl rfl rfl
    · exact .called (by rfl) rfl rfl rfl
    · exact .called (by rfl) rfl rfl rfl
  have htorque : ∀ current, CallsOnly Action.isFeedback current (updateTorque inputs current) := by
    intro current
    unfold updateTorque
    split_ifs
    · exact .silent rfl rfl rfl
    · exact .called (by rfl) rfl rfl rfl
    · exact .called (by rfl) rfl rfl rfl
  unfold updateFeedback
  split_ifs
  · exact .silent rfl rfl rfl
  · exact ((hposition axis).trans (hvelocity _)).trans (htorque _)

@[simp] theorem control_updateModeRequest (inputs : PassInputs) (axis : Axis) :
    (updateModeRequest inputs axis).control = axis.control := by
  unfold updateModeRequest
  split <;> rfl

@[simp] theorem trace_updateModeRequest (inputs : PassInputs) (axis : Axis) :
    (updateModeRequest inputs axis).trace = axis.trace := by
  unfold updateModeRequest
  split <;> rfl

@[simp] theorem control_publishStatus (inputs : PassInputs) (axis : Axis) :
    (publishStatus inputs axis).control = axis.control := rfl

@[simp] theorem trace_publishStatus (inputs : PassInputs) (axis : Axis) :
    (publishStatus inputs axis).trace = axis.trace := rfl

/-- What a whole pass reads: the request is stored before the FSA runs. -/
def passReads (inputs : PassInputs) (axis : Axis) : Reads :=
  reads inputs (updateModeRequest inputs axis)

theorem passReads_controlword (inputs : PassInputs) (axis : Axis) :
    (passReads inputs axis).controlword = (reads inputs axis).controlword := by
  unfold passReads updateModeRequest
  split <;> rfl

theorem passReads_clearable (inputs : PassInputs) (axis : Axis) :
    (passReads inputs axis).clearable = (reads inputs axis).clearable := by
  unfold passReads updateModeRequest
  split <;> rfl

/-- A whole pass: the poll, then the FSA and the modes, then feedback callbacks. -/
inductive PassMove (inputs : PassInputs) (r : Reads) (c : Control) :
    Control → List Action → Prop where
  | mk {c₁ c₂ : Control} {actions₁ actions₂ feedback : List Action}
      (hpoll : PollMove inputs c c₁ actions₁) (hsupervise : SuperviseMove inputs r c₁ c₂ actions₂)
      (hfeedback : ∀ a ∈ feedback, a.isFeedback = true) :
      PassMove inputs r c c₂ (actions₁ ++ actions₂ ++ feedback)

theorem PollMove.fault_unowned {inputs : PassInputs} {c c' : Control} {actions : List Action}
    (h : PollMove inputs c c' actions) (hfault : c.Owned → c.state ≠ .faultReactionActive) :
    c'.Owned → c'.state ≠ .faultReactionActive := by
  cases h with
  | gated => exact hfault
  | clean => exact hfault
  | fault _ _ _ hentry =>
      obtain ⟨_⟩ := hentry
      intro howned
      simp [Control.Owned, Control.release] at howned

/-- Every supervisor pass makes one of the listed moves. -/
theorem passMove_processAxis (inputs : PassInputs) {axis : Axis}
    (hfault : axis.control.Owned → axis.state ≠ .faultReactionActive) :
    Performs (PassMove inputs (passReads inputs axis) axis.control) axis
      (processAxis inputs axis) := by
  obtain ⟨c₁, actions₁, hpoll, hcontrol₁, htrace₁⟩ := pollMove_pollProduct inputs axis
  have hfault₁ : c₁.Owned → c₁.state ≠ .faultReactionActive := hpoll.fault_unowned hfault
  have hrequest : (updateModeRequest inputs (pollProduct inputs axis)).control = c₁ := by
    rw [control_updateModeRequest, hcontrol₁]
  rw [← hrequest] at hpoll hfault₁
  have hreads : reads inputs (updateModeRequest inputs (pollProduct inputs axis)) =
      passReads inputs axis :=
    reads_congr inputs (fixed_updateModeRequest_congr inputs (fixed_pollProduct inputs axis))
  obtain ⟨c₂, actions₂, hsupervise, hcontrol₂, htrace₂⟩ :=
    superviseMove_supervise inputs hfault₁
  rw [hreads] at hsupervise
  obtain ⟨hcontrol₃, -, feedback, hfeedback, htrace₃⟩ := updateFeedback_step inputs
    (supervise inputs (updateModeRequest inputs (pollProduct inputs axis)))
  refine ⟨c₂, _, .mk hpoll hsupervise hfeedback, ?_, ?_⟩
  · rw [processAxis, control_publishStatus, hcontrol₃, hcontrol₂]
  · rw [processAxis, trace_publishStatus, htrace₃, htrace₂, trace_updateModeRequest, htrace₁,
      List.append_assoc, List.append_assoc, List.append_assoc]

end CanopenRtt.Cia402.Device
