import CanopenRtt.Cia402.Device.Legality
import CanopenRtt.Cia402.Device.SyncCoherence
/-!
# The drive-follows bit

Statusword bit 12 is written by two paths: by every SYNC generation, and by every
supervisor pass from what the last generation left in the SYNC runtime. The
supervisor does not reset that runtime when it enters a cyclic mode or
OPERATION_ENABLED, so the bit is never stale only in runs where the runtime is
clear whenever a pass completes such a transition.
-/

namespace CanopenRtt.Cia402.Device

open CanopenRtt.Support

/-- The axis is in OPERATION_ENABLED with this active mode. -/
def EnabledIn (mode : Mode) (axis : Axis) : Prop :=
  axis.state = .operationEnabled ∧ axis.mode = mode

instance (mode : Mode) (axis : Axis) : Decidable (EnabledIn mode axis) :=
  inferInstanceAs (Decidable (axis.state = .operationEnabled ∧ axis.mode = mode))

/-- The published drive-follows bit. -/
def FollowsBit (axis : Axis) : Prop :=
  axis.image.statusword &&& statuswordDriveFollowsCommand ≠ 0

instance (axis : Axis) : Decidable (FollowsBit axis) :=
  inferInstanceAs (Decidable (axis.image.statusword &&& statuswordDriveFollowsCommand ≠ 0))

/-! ## How a pass arrives in a cyclic mode -/

/-- The pass completes Enable Operation. -/
def EnableDone (inputs : PassInputs) (axis : Axis) : Prop :=
  inputs.operation .enableOperation = .done ∧
    (axis.pdsTransitionOperation = some .enableOperation ∨
      axis.state = .switchedOn ∧ ¬ axis.control.Owned ∧
        ∃ controlword ∈ (reads inputs axis).controlword,
          pdsCommand controlword = .enableOperation)

/-- The pass enters the cyclic mode that it is asked for. -/
def EnterDone (inputs : PassInputs) (axis : Axis) : Prop :=
  axis.mode = .none ∧ ∃ mode ∈ (passReads inputs axis).mode,
    isCyclicMode mode = true ∧ inputs.modeEnter mode = .done

/-- The active mode is cyclic, and the pass does not get out of it. -/
def CyclicKept (inputs : PassInputs) (axis : Axis) : Prop :=
  isCyclicMode axis.mode = true ∧
    ((∀ mode ∈ (passReads inputs axis).mode, mode = axis.mode) ∨
      inputs.modeExit axis.mode = .busy)

/-- The pass completes Enable Operation with a cyclic mode, or, in OPERATION_ENABLED, the entry
of a cyclic mode. -/
def Arrival (inputs : PassInputs) (axis : Axis) : Prop :=
  EnableDone inputs axis ∧ (CyclicKept inputs axis ∨ EnterDone inputs axis) ∨
    axis.state = .operationEnabled ∧
      (isCyclicMode axis.pendingEnterMode = true ∧
          inputs.modeEnter axis.pendingEnterMode = .done ∨
        ¬ axis.control.Owned ∧ EnterDone inputs axis)

/-- Only a completed Enable Operation brings the FSA to OPERATION_ENABLED. -/
theorem FsaMove.enables {inputs : PassInputs} {r : Reads} {c c' : Control} {actions : List Action}
    (hmove : FsaMove inputs r c c' actions) (h : c.Ownership)
    (hstate : c'.state = .operationEnabled) :
    c.state = .operationEnabled ∧ c'.mode = c.mode ∧
        (c'.pendingEnterMode = c.pendingEnterMode ∨ c'.pendingEnterMode = .none) ∧
        (¬ c'.Owned → ¬ c.Owned) ∨
      ¬ c'.Owned ∧ c'.mode = c.mode ∧ inputs.operation .enableOperation = .done ∧
        (c.operation = some .enableOperation ∨
          c.state = .switchedOn ∧ ¬ c.Owned ∧
            ∃ controlword ∈ r.controlword, pdsCommand controlword = .enableOperation) := by
  have hreacted : ∀ {source : LatchSource} {e c₁ : Control} {entry : List Action},
      FaultEntry source e c₁ entry → (c₁.reacted inputs).state ≠ .operationEnabled := by
    intro source e c₁ entry hentry henabled
    have hfaulted := Control.reacted_state c₁ inputs hentry.state
    rw [henabled] at hfaulted
    exact absurd hfaulted (by decide)
  have hentered : ∀ {source : LatchSource} {e c₁ : Control} {entry : List Action},
      FaultEntry source e c₁ entry → c₁.state ≠ .operationEnabled := by
    intro source e c₁ entry hentry henabled
    exact absurd (henabled.symm.trans hentry.state) (by decide)
  cases hmove with
  | skipped => exact .inl ⟨hstate, rfl, .inl rfl, id⟩
  | readFailed _ hentry => exact absurd hstate (hreacted hentry)
  | waiting => exact .inl ⟨hstate, rfl, .inl rfl, id⟩
  | powerUp => exact absurd hstate (by simp)
  | takeoverFailed _ _ _ hentry => exact absurd hstate (hreacted hentry)
  | reaction controlword _ hreaction =>
      have hfaulted := Control.reacted_state (c.sampled controlword) inputs hreaction
      rw [hstate] at hfaulted
      exact absurd hfaulted (by decide)
  | resetBusy _ _ hfault => exact absurd (hstate.symm.trans hfault) (by decide)
  | resetDone => exact absurd hstate (by simp)
  | resetFailed _ _ _ _ _ _ hentry => exact absurd hstate (hentered hentry)
  | invalid _ _ _ hentry => exact absurd hstate (hentered hentry)
  | @transition controlword hread op target base _ _ hlatch hcall =>
      have hlatched := hlatch.latched (h.sampled controlword)
      cases hcall with
      | busy =>
          have hbase : c.state = .operationEnabled := by
            have hsame : base.state = c.state := hlatched.state
            rw [← hsame]
            exact hstate
          refine .inl ⟨hbase, ?_, .inr hlatched.enter, fun hidle => absurd ?_ hidle⟩
          · cases hlatch with
            | held => rfl
            | begun hbegins => cases hbegins <;> rfl
          · exact .inl (Option.some_ne_none op)
      | error _ hentry => exact absurd hstate (hentered hentry)
      | done hdone =>
          obtain rfl : target = .operationEnabled := hstate
          have hop : op = .enableOperation := by
            have htarget := hlatched.target
            cases op <;> first | rfl | exact absurd htarget (by decide)
          subst hop
          have hmode : base.mode = c.mode := by
            cases hlatch with
            | held => rfl
            | begun hbegins => cases hbegins <;> rfl
          refine .inr ⟨Control.not_owned.mpr ⟨rfl, hlatched.exit, hlatched.enter⟩, hmode, hdone, ?_⟩
          cases hlatch with
          | held hop => exact .inl hop
          | begun hbegins =>
              cases hbegins with
              | disableVoltage _ _ _ hop => exact absurd hop (by decide)
              | quickStop _ _ _ _ hop => exact absurd hop (by decide)
              | accepted hidle haccepted =>
                  obtain ⟨hswitched, hcommand⟩ : c.state = .switchedOn ∧
                      pdsCommand controlword = .enableOperation := by
                    generalize pdsCommand controlword = command at haccepted
                    have haccepted : acceptedTransition c.state command =
                        some (.enableOperation, .operationEnabled) := haccepted
                    cases hc : c.state <;> rw [hc] at haccepted <;> cases command <;>
                      first | exact ⟨rfl, rfl⟩ | exact absurd haccepted (by decide)
                  exact .inr ⟨hswitched, hidle, controlword, hread, hcommand⟩

/-- Only a completed entry brings the mode machinery to another mode. -/
theorem ModeMove.enters {inputs : PassInputs} {r : Reads} {c c' : Control} {actions : List Action}
    (hmove : ModeMove inputs r c c' actions) (hmode : c'.mode ≠ .none) :
    c'.mode = c.mode ∨
      inputs.modeEnter c'.mode = .done ∧
        (c.pendingEnterMode = c'.mode ∨ ¬ c.Owned ∧ c.mode = .none ∧ r.mode = some c'.mode) := by
  have hentered : ∀ {source : LatchSource} {e c₁ : Control} {entry : List Action},
      FaultEntry source e c₁ entry → c₁.mode = e.mode := by
    rintro source e c₁ entry ⟨-⟩
    rfl
  cases hmove with
  | idle => exact .inl rfl
  | active => exact .inl rfl
  | activeFailed _ _ _ _ hentry => exact .inl (hentered hentry)
  | exit _ _ _ _ hcall =>
      cases hcall with
      | busy => exact .inl rfl
      | error _ hentry => exact .inl (hentered hentry)
      | done =>
          refine .inl ?_
          dsimp only at hmode ⊢
          split_ifs at hmode ⊢ with hsame
          · exact absurd rfl hmode
          · rfl
  | enter _ _ _ _ hlatch hcall =>
      cases hcall with
      | busy => exact .inl rfl
      | error _ hentry => exact .inl (hentered hentry)
      | done hdone => exact .inr ⟨hdone, hlatch⟩

/-- A mode that is active after Enable Operation was kept or entered. -/
theorem ModeMove.arrives {inputs : PassInputs} {r : Reads} {c c' : Control} {actions : List Action}
    (hmove : ModeMove inputs r c c' actions) (hidle : ¬ c.Owned)
    (hstate : c.state = .operationEnabled) (hclean : c'.state.faulted = false)
    (hmode : c'.mode ≠ .none) :
    c'.mode = c.mode ∧
        ((∀ mode ∈ r.mode, mode = c.mode) ∨ inputs.modeExit c.mode = .busy) ∨
      c.mode = .none ∧ r.mode = some c'.mode ∧ inputs.modeEnter c'.mode = .done := by
  obtain ⟨hop, hexit, henter⟩ := Control.not_owned.mp hidle
  have hfaulted : ∀ {source : LatchSource} {e c₁ : Control} {entry : List Action},
      FaultEntry source e c₁ entry → c₁.state.faulted = true := by
    intro source e c₁ entry hentry
    rw [hentry.state]
    rfl
  cases hmove with
  | idle hnone =>
      rcases hnone with howned | hnone | hdisabled
      · exact absurd hop howned
      · exact absurd hnone hmode
      · exact absurd hstate hdisabled
  | active _ _ _ _ hsteady => exact .inl ⟨rfl, .inl hsteady⟩
  | activeFailed _ _ _ _ hentry =>
      exact absurd (hclean.symm.trans (hfaulted hentry)) Bool.false_ne_true
  | exit hsome _ _ hlatch hcall =>
      rcases hlatch with hpending | ⟨-, rfl, -⟩
      · exact absurd (hpending.symm.trans hexit) hsome
      · cases hcall with
        | busy hbusy => exact .inl ⟨rfl, .inr hbusy⟩
        | done => exact absurd (if_pos rfl) hmode
        | error _ hentry =>
            exact absurd (hclean.symm.trans (hfaulted hentry)) Bool.false_ne_true
  | enter hsome _ _ _ hlatch hcall =>
      rcases hlatch with hpending | ⟨-, hnone, hrequest⟩
      · exact absurd (hpending.symm.trans henter) hsome
      · cases hcall with
        | busy => exact absurd hnone hmode
        | done hdone => exact .inr ⟨hnone, hrequest, hdone⟩
        | error _ hentry =>
            exact absurd (hclean.symm.trans (hfaulted hentry)) Bool.false_ne_true

/-- A pass that newly makes the axis OPERATION_ENABLED in a cyclic mode is an arrival. -/
theorem arrival_of_processAxis {inputs : PassInputs} {axis : Axis} {mode : Mode}
    (h : axis.control.Ownership) (hcyclic : isCyclicMode mode = true)
    (hafter : EnabledIn mode (processAxis inputs axis)) (hbefore : ¬ EnabledIn mode axis) :
    Arrival inputs axis := by
  obtain ⟨c', actions, ⟨hpoll, hsupervise, -⟩, hcontrol, -⟩ := h.passMove inputs
  obtain ⟨hstate, hmode⟩ : c'.state = .operationEnabled ∧ c'.mode = mode :=
    ⟨(congrArg Control.state hcontrol).symm.trans hafter.1,
      (congrArg Control.mode hcontrol).symm.trans hafter.2⟩
  have hsome : c'.mode ≠ .none := by
    rw [hmode]
    rintro rfl
    exact absurd hcyclic (by decide)
  have hownership := hpoll.ownership h
  cases hsupervise with
  | latched _ hfault => exact absurd (hstate.symm.trans hfault) (by decide)
  | @readFailed _ _ c₂ _ hentry =>
      have hfaulted := Control.reacted_state c₂ inputs hentry.state
      rw [hstate] at hfaulted
      exact absurd hfaulted (by decide)
  | @processed controlword hread c₂ _ _ _ hfsa hmodes =>
      have hmoved : c₂.state = .operationEnabled := by
        rcases hmodes.state with hsame | hentered
        · rw [← hsame]
          exact hstate
        · exact absurd (hstate.symm.trans hentered) (by decide)
      rcases hfsa.enables hownership hmoved with
        ⟨hstate₁, hmode₁, hpending, howned⟩ | ⟨hidle, hkeeps, hdone, hlatched⟩
      · -- Enabled before: the mode has been entered by this pass.
        obtain rfl : _ = axis.control := hpoll.eq_or_entered.resolve_right fun hentered =>
          absurd (hstate₁.symm.trans hentered.1) (by decide)
        refine .inr ⟨hstate₁, ?_⟩
        rcases hmodes.enters hsome with hkept | ⟨hdone, hlatched⟩
        · exact absurd ⟨hstate₁, hmode₁.symm.trans (hkept.symm.trans hmode)⟩ hbefore
        · rw [hmode] at hdone hlatched
          rcases hlatched with hpendingMode | ⟨hidle, hnone, hrequest⟩
          · refine .inl ?_
            rcases hpending with hsame | hcleared
            · have hentering : axis.pendingEnterMode = mode := hsame.symm.trans hpendingMode
              rw [hentering]
              exact ⟨hcyclic, hdone⟩
            · exact absurd (hcleared.symm.trans hpendingMode).symm (by rwa [hmode] at hsome)
          · exact .inr ⟨howned hidle, hmode₁.symm.trans hnone, mode, hrequest, hcyclic, hdone⟩
      · rcases hpoll.eq_or_entered with rfl | ⟨hentered, hown⟩
        · have hclean : c'.state.faulted = false := by
            rw [hstate]
            rfl
          refine .inl ⟨⟨hdone, ?_⟩, ?_⟩
          · rcases hlatched with hop | ⟨hswitched, hunowned, controlword, hread, hcommand⟩
            · exact .inl hop
            · rw [passReads_controlword] at hread
              exact .inr ⟨hswitched, hunowned, controlword, hread, hcommand⟩
          · have harrives := hmodes.arrives hidle hmoved hclean hsome
            rw [hkeeps, hmode] at harrives
            rcases harrives with ⟨hsame, hkept⟩ | ⟨hnone, hrequest, hentered⟩
            · have hactive : axis.mode = mode := hsame.symm
              exact .inl ⟨by rw [hactive]; exact hcyclic, hkept⟩
            · exact .inr ⟨hnone, mode, hrequest, hcyclic, hentered⟩
        · rcases hlatched with hop | ⟨hswitched, -⟩
          · refine absurd (Or.inl ?_) (hown.fault_unowned (by rw [hentered]; rfl))
            rw [hop]
            exact Option.some_ne_none _
          · exact absurd (hswitched.symm.trans hentered) (by decide)

/-! ## What the two paths publish -/

theorem statusword_processAxis (inputs : PassInputs) (axis : Axis) :
    (processAxis inputs axis).image.statusword =
      if inputs.setStatusword then
        statuswordForState (processAxis inputs axis).state |||
          modeStatusword inputs (processAxis inputs axis)
      else axis.image.statusword := by
  have hkept : (updateFeedback inputs
      (supervise inputs (updateModeRequest inputs (pollProduct inputs axis)))).image.statusword =
      axis.image.statusword := by
    have hfixed : (updateFeedback inputs
        (supervise inputs (updateModeRequest inputs (pollProduct inputs axis)))).fixed =
        (updateModeRequest inputs axis).fixed := by
      rw [(updateFeedback_step inputs _).fixed, fixed_supervise]
      exact fixed_updateModeRequest_congr inputs (fixed_pollProduct inputs axis)
    refine (congrArg Fixed.statusword hfixed).trans ?_
    unfold updateModeRequest
    split <;> rfl
  rw [← hkept]
  unfold processAxis publishStatus
  dsimp only
  split_ifs <;> rfl

theorem syncRuntime_processAxis (inputs : PassInputs) (axis : Axis) :
    (processAxis inputs axis).syncRuntime = axis.syncRuntime := by
  have hfixed := congrArg Fixed.syncRuntime (fixed_processAxis inputs axis)
  refine hfixed.trans ?_
  unfold updateModeRequest
  split <;> rfl

/-- A pass publishes bit 12 of a cyclic mode only in OPERATION_ENABLED and from the
SYNC runtime. -/
theorem followsBit_processAxis {inputs : PassInputs} {axis : Axis}
    (hwritten : inputs.setStatusword = true)
    (hcyclic : isCyclicMode (processAxis inputs axis).mode = true)
    (hbit : FollowsBit (processAxis inputs axis)) :
    (processAxis inputs axis).state = .operationEnabled ∧
      syncStatuswordBits axis.syncRuntime ≠ 0 := by
  unfold FollowsBit at hbit
  rw [statusword_processAxis, if_pos hwritten, BitVec.and_or_distrib_right] at hbit
  have hstate : ∀ state, statuswordForState state &&& statuswordDriveFollowsCommand = 0#16 := by
    intro state
    cases state <;> decide
  rw [hstate, BitVec.zero_or] at hbit
  have hmode : modeStatusword inputs (processAxis inputs axis) =
      if syncFastPathEligible (inputs.controlword .statusword)
          (inputs.modesOfOperation .statusword) (processAxis inputs axis) then
        syncStatuswordBits (processAxis inputs axis).syncRuntime
      else 0 := by
    unfold modeStatusword
    cases hcase : (processAxis inputs axis).mode <;> rw [hcase] at hcyclic <;>
      first | rfl | exact absurd hcyclic Bool.false_ne_true
  rw [hmode, syncRuntime_processAxis] at hbit
  split_ifs at hbit with heligible
  · unfold syncFastPathEligible at heligible
    simp only [Bool.and_eq_true, decide_eq_true_eq] at heligible
    refine ⟨heligible.1.1.1.1.1, fun hzero => ?_⟩
    rw [hzero] at hbit
    exact hbit rfl
  · exact absurd rfl hbit

theorem followsBit_syncAxis {inputs : SyncInputs} {sequence : BitVec 32} {axis : Axis}
    (hwritten : inputs.statuswordPtr = true ∧ inputs.statuswordPtrRetry = true ∨ ¬ FollowsBit axis)
    (hcyclic : isCyclicMode axis.mode = true) (hbit : FollowsBit (syncAxis inputs sequence axis)) :
    ∃ feedback, committed inputs sequence axis = some feedback ∧
      feedback.driveFollowsCommand = true := by
  unfold FollowsBit at hbit
  rw [(generation_syncAxis inputs sequence axis).image] at hbit
  have hcleared : ∀ statusword : Word,
      withDriveFollows statusword false &&& statuswordDriveFollowsCommand = 0 := by
    intro statusword
    have hbits : ~~~statuswordDriveFollowsCommand &&& statuswordDriveFollowsCommand = 0#16 := by
      decide
    simp only [withDriveFollows, Bool.false_eq_true, if_false, BitVec.ofNat_eq_ofNat,
      BitVec.or_zero, BitVec.and_assoc]
    rw [hbits, BitVec.and_zero]
  cases hcommitted : committed inputs sequence axis with
  | some feedback =>
      rw [hcommitted] at hbit
      refine ⟨feedback, rfl, ?_⟩
      by_contra hfalse
      rw [Bool.not_eq_true] at hfalse
      refine hbit ?_
      change withDriveFollows axis.image.statusword feedback.driveFollowsCommand &&& _ = 0
      rw [hfalse]
      exact hcleared _
  | none =>
      rw [hcommitted, hcyclic] at hbit
      rcases hwritten with ⟨hptr, hretry⟩ | hnone
      · rw [hptr, hretry] at hbit
        refine absurd ?_ hbit
        simp only [ite_self, Bool.and_self, if_true]
        exact hcleared _
      · dsimp only at hbit
        split_ifs at hbit
        · exact absurd (hcleared _) hbit
        · exact absurd hbit hnone
        · exact absurd (hcleared _) hbit
        · exact absurd hbit hnone

/-! ## Runs of passes and generations -/

/-- A supervisor pass over the axis, or a SYNC generation with its sequence. -/
inductive AxisStep where
  | pass (inputs : PassInputs)
  | sync (inputs : SyncInputs) (sequence : BitVec 32)

/-- The accepted command of a generation, with its own feedback. -/
def followed (inputs : SyncInputs) (sequence : BitVec 32) (axis : Axis) :
    Option (SyncCommand × SyncFeedback) := do
  let command ← offered inputs sequence axis
  let feedback ← answered inputs sequence axis
  return (command, feedback)

/-- An axis, and for each mode the generations since it last became
OPERATION_ENABLED with that mode active, oldest first. -/
structure Observed where
  axis : Axis
  since : Mode → Option (List (Option (SyncCommand × SyncFeedback)))

def Observed.start (config : ValidAxisConfig) (image : ODImage) (od : ODCache) : Observed where
  axis := boundAxis config image od
  since := fun _ => none

def Observed.step (o : Observed) : AxisStep → Observed
  | .pass inputs =>
      { axis := processAxis inputs o.axis
        since := fun mode =>
          if EnabledIn mode (processAxis inputs o.axis) ∧ ¬ EnabledIn mode o.axis then some []
          else o.since mode }
  | .sync inputs sequence =>
      { axis := syncAxis inputs sequence o.axis
        since := fun mode => (o.since mode).map (· ++ [followed inputs sequence o.axis]) }

/-- The latest generation since the axis became OPERATION_ENABLED with this mode had
a command of the mode accepted and answered in time, with the drive following. -/
def Observed.Follows (o : Observed) (mode : Mode) : Prop :=
  ∃ earlier command feedback, o.since mode = some (earlier ++ [some (command, feedback)]) ∧
    command.mode = mode ∧ feedback.sequence = command.sequence ∧
    feedback.driveFollowsCommand = true

/-- A pass that arrives in a cyclic mode finds the SYNC runtime clear. A pass that cannot write the
Statusword, and a generation in a cyclic mode that cannot look it up, find bit 12 clear. -/
def AxisStep.Settled (axis : Axis) : AxisStep → Prop
  | .pass inputs =>
      (Arrival inputs axis → syncStatuswordBits axis.syncRuntime = 0) ∧
        (inputs.setStatusword = true ∨ ¬ FollowsBit axis)
  | .sync inputs _ =>
      isCyclicMode axis.mode = true →
        inputs.statuswordPtr = true ∧ inputs.statuswordPtrRetry = true ∨ ¬ FollowsBit axis

/-- What a settled run keeps. -/
structure Observed.Invariant (o : Observed) : Prop where
  ownership : o.axis.control.Ownership
  arrived : ∀ mode, EnabledIn mode o.axis → o.since mode ≠ none
  runtime : ∀ mode, isCyclicMode mode = true → EnabledIn mode o.axis →
    syncStatuswordBits o.axis.syncRuntime ≠ 0 → o.Follows mode
  published : isCyclicMode o.axis.mode = true → FollowsBit o.axis → o.Follows o.axis.mode

theorem Observed.Invariant.start (config : ValidAxisConfig) (image : ODImage) (od : ODCache) :
    (Observed.start config image od).Invariant where
  ownership := ownership_boundAxis config image od
  arrived := fun _ h => absurd h.1 (by simp [Observed.start, boundAxis, axisInit])
  runtime := fun _ _ h => absurd h.1 (by simp [Observed.start, boundAxis, axisInit])
  published := fun h => absurd h Bool.false_ne_true

theorem Observed.Invariant.pass {o : Observed} {inputs : PassInputs} (h : o.Invariant)
    (hsettled : (AxisStep.pass inputs).Settled o.axis) : (o.step (.pass inputs)).Invariant := by
  obtain ⟨hclear, hwritten⟩ := hsettled
  have hsame := syncRuntime_processAxis inputs o.axis
  have hruntime : ∀ mode, isCyclicMode mode = true → EnabledIn mode (processAxis inputs o.axis) →
      syncStatuswordBits o.axis.syncRuntime ≠ 0 → (o.step (.pass inputs)).Follows mode := by
    intro mode hcyclic hafter hbits
    by_cases hbefore : EnabledIn mode o.axis
    · obtain ⟨earlier, command, feedback, hsince, hfollows⟩ :=
        h.runtime mode hcyclic hbefore hbits
      refine ⟨earlier, command, feedback, ?_, hfollows⟩
      simp only [Observed.step]
      rw [if_neg fun hnew => hnew.2 hbefore, hsince]
    · exact absurd (hclear (arrival_of_processAxis h.ownership hcyclic hafter hbefore)) hbits
  refine {
    ownership := ownership_processAxis inputs h.ownership
    arrived := ?_
    runtime := ?_
    published := ?_ }
  · intro mode hafter
    simp only [Observed.step]
    split_ifs with hnew
    · exact Option.some_ne_none _
    · by_cases hbefore : EnabledIn mode o.axis
      · exact h.arrived mode hbefore
      · exact absurd ⟨hafter, hbefore⟩ hnew
  · intro mode hcyclic hafter hbits
    refine hruntime mode hcyclic hafter ?_
    rw [← hsame]
    exact hbits
  · intro hcyclic hbit
    have hset : inputs.setStatusword = true := by
      by_contra hfailed
      rw [Bool.not_eq_true] at hfailed
      have hold : (processAxis inputs o.axis).image.statusword = o.axis.image.statusword := by
        rw [statusword_processAxis, hfailed, if_neg Bool.false_ne_true]
      refine hwritten.elim (fun hset => ?_) fun hnone => hnone ?_
      · exact absurd (hfailed.symm.trans hset) Bool.false_ne_true
      · unfold FollowsBit
        rw [← hold]
        exact hbit
    obtain ⟨hstate, hbits⟩ := followsBit_processAxis hset hcyclic hbit
    exact hruntime _ hcyclic ⟨hstate, rfl⟩ hbits

theorem followed_of_committed {inputs : SyncInputs} {sequence : BitVec 32} {axis : Axis}
    {feedback : SyncFeedback} (h : committed inputs sequence axis = some feedback) :
    EnabledIn axis.mode axis ∧ ∃ command,
      followed inputs sequence axis = some (command, feedback) ∧ command.mode = axis.mode ∧
        feedback.sequence = command.sequence := by
  obtain ⟨hanswered, -⟩ := Option.filter_eq_some_iff.mp h
  obtain ⟨command, hoffered, -, -, hsequence⟩ := answered_eq_some_iff.mp hanswered
  obtain ⟨howner, hlive⟩ := offered_eq_some_iff.mp hoffered
  obtain ⟨hheader, hmode⟩ := liveCommand_header hlive
  refine ⟨⟨howner.enabled, rfl⟩, command, ?_, hmode, hsequence.trans hheader.symm⟩
  rw [followed, hoffered, hanswered]
  rfl

theorem Observed.Invariant.sync {o : Observed} {inputs : SyncInputs} {sequence : BitVec 32}
    (h : o.Invariant) (hsettled : (AxisStep.sync inputs sequence).Settled o.axis) :
    (o.step (.sync inputs sequence)).Invariant := by
  have hcontrol := (syncAxis_only inputs sequence o.axis).control
  have hstate : (syncAxis inputs sequence o.axis).state = o.axis.state :=
    congrArg Control.state hcontrol
  have hmode : (syncAxis inputs sequence o.axis).mode = o.axis.mode :=
    congrArg Control.mode hcontrol
  have henabled : ∀ mode,
      EnabledIn mode (syncAxis inputs sequence o.axis) → EnabledIn mode o.axis := by
    intro mode hafter
    exact ⟨hstate.symm.trans hafter.1, hmode.symm.trans hafter.2⟩
  -- A generation that sets bit 12 is recorded in the history of the active mode.
  have hfollows : ∀ feedback, committed inputs sequence o.axis = some feedback →
      feedback.driveFollowsCommand = true →
        (o.step (.sync inputs sequence)).Follows o.axis.mode := by
    intro feedback hcommitted hdrive
    obtain ⟨hnow, command, hfollowed, hcommand, hsequence⟩ := followed_of_committed hcommitted
    obtain ⟨earlier, hsince⟩ := Option.ne_none_iff_exists'.mp (h.arrived _ hnow)
    refine ⟨earlier, command, feedback, ?_, hcommand, hsequence, hdrive⟩
    simp only [Observed.step, hsince, hfollowed, Option.map_some]
  refine {
    ownership := ?_
    arrived := ?_
    runtime := ?_
    published := ?_ }
  · simp only [Observed.step, hcontrol]
    exact h.ownership
  · intro mode hafter
    have hsince := h.arrived mode (henabled mode hafter)
    simp only [Observed.step]
    rw [ne_eq, Option.map_eq_none_iff]
    exact hsince
  · intro mode hcyclic hafter hbits
    obtain ⟨-, rfl⟩ := henabled mode hafter
    simp only [Observed.step, (generation_syncAxis inputs sequence o.axis).bits] at hbits
    split_ifs at hbits with hdrive
    · cases hcommitted : committed inputs sequence o.axis with
      | none =>
          rw [hcommitted] at hdrive
          exact absurd hdrive Bool.false_ne_true
      | some feedback =>
          rw [hcommitted] at hdrive
          exact hfollows feedback hcommitted hdrive
    · exact absurd rfl hbits
  · intro hcyclic hbit
    have hcyclic' : isCyclicMode o.axis.mode = true := by
      rw [← hmode]
      exact hcyclic
    have hgoal : (o.step (.sync inputs sequence)).axis.mode = o.axis.mode := hmode
    rw [hgoal]
    obtain ⟨feedback, hcommitted, hfollowing⟩ :=
      followsBit_syncAxis (hsettled hcyclic') hcyclic' hbit
    exact hfollows feedback hcommitted hfollowing

/-- Bit 12 is never stale in a run whose arrivals find the SYNC runtime clear. -/
theorem driveFollows_of_run {config : ValidAxisConfig} {image : ODImage} {od : ODCache}
    {steps : List AxisStep}
    (hsettled : EveryStep Observed.step (fun o step => step.Settled o.axis)
      (Observed.start config image od) steps) :
    isCyclicMode (run Observed.step (Observed.start config image od) steps).axis.mode = true →
      FollowsBit (run Observed.step (Observed.start config image od) steps).axis →
        (run Observed.step (Observed.start config image od) steps).Follows
          (run Observed.step (Observed.start config image od) steps).axis.mode := by
  have hrun : (run Observed.step (Observed.start config image od) steps).Invariant := by
    refine run_invariant_of_everyStep (fun o step h hsettled => ?_) (.start config image od)
      hsettled
    cases step with
    | pass inputs => exact h.pass hsettled
    | sync inputs sequence => exact h.sync hsettled
  exact hrun.published

/-- The fully bound cyclic axis, before its first pass. -/
def cyclicObserved : Observed := .start cyclicValidConfig {} fun _ => some 0

/-- Position control enabled, and one generation answered in time. -/
def positionFollowing : List AxisStep :=
  [.pass (commandPass 0x00 8), .pass (commandPass 0x06 8), .pass (commandPass 0x07 8),
    .pass (commandPass 0x0F 8), .sync (answeredSync 0x0F) 1]

theorem driveFollows_positionFollowing :
    FollowsBit (run Observed.step cyclicObserved positionFollowing).axis ∧
      (run Observed.step cyclicObserved positionFollowing).Follows
        (run Observed.step cyclicObserved positionFollowing).axis.mode := by
  have hbit : FollowsBit (run Observed.step cyclicObserved positionFollowing).axis := by
    decide +kernel
  refine ⟨hbit, driveFollows_of_run ?_ (by decide +kernel) hbit⟩
  -- No pass of this run follows a generation.
  refine ⟨⟨fun _ => ?_, .inl rfl⟩, ⟨fun _ => ?_, .inl rfl⟩, ⟨fun _ => ?_, .inl rfl⟩,
    ⟨fun _ => ?_, .inl rfl⟩, fun _ => .inl ⟨rfl, rfl⟩, trivial⟩ <;> rfl

/-- Operation disabled and enabled again between two SYNCs. -/
def reenabled : List AxisStep :=
  positionFollowing ++ [.pass (commandPass 0x07 8), .pass (commandPass 0x0F 8)]

/-- The mode switched to velocity control between two SYNCs. -/
def modeSwitched : List AxisStep :=
  positionFollowing ++ [.pass (commandPass 0x0F 9), .pass (commandPass 0x0F 9)]

/-- Both runs publish bit 12 before any generation of the new enable or of the new mode. -/
theorem driveFollows_stale :
    (FollowsBit (run Observed.step cyclicObserved reenabled).axis ∧
        (run Observed.step cyclicObserved reenabled).axis.mode = .cyclicSyncPosition ∧
        (run Observed.step cyclicObserved reenabled).since .cyclicSyncPosition = some []) ∧
      FollowsBit (run Observed.step cyclicObserved modeSwitched).axis ∧
        (run Observed.step cyclicObserved modeSwitched).axis.mode = .cyclicSyncVelocity ∧
        (run Observed.step cyclicObserved modeSwitched).since .cyclicSyncVelocity = some [] := by
  decide +kernel

end CanopenRtt.Cia402.Device
