import CanopenRtt.Cia402.Device.Reachable
/-!
# The event slot of an axis

Whatever a pass does, the slot keeps what it holds, or it holds the event of the diagnosis that the
pass leaves, addressed to the error bit of the axis.
-/

namespace CanopenRtt.Cia402.Device

/-- The slot holds the event of the diagnosis. -/
structure Axis.Latest (axis : Axis) : Prop where
  pending : axis.diagnosis.pending = true
  errorBit : axis.diagnosis.event.errorBit = diagErrorBit axis.logicalDevice
  type : axis.diagnosis.event.type = if axis.diagnosis.active then .report else .reset

/-- What some calls do to the slot. -/
structure SlotStep (before after : Axis) : Prop where
  device : after.logicalDevice = before.logicalDevice
  slot : (after.diagnosis.pending = before.diagnosis.pending ∧
      after.diagnosis.event = before.diagnosis.event ∧
      after.diagnosis.active = before.diagnosis.active) ∨ after.Latest

namespace SlotStep

variable {before middle after : Axis}

theorem of_diagnosis (hdevice : after.logicalDevice = before.logicalDevice)
    (h : after.diagnosis = before.diagnosis) : SlotStep before after :=
  ⟨hdevice, .inl (by rw [h]; exact ⟨rfl, rfl, rfl⟩)⟩

theorem refl (axis : Axis) : SlotStep axis axis := of_diagnosis rfl rfl

theorem trans (h₁ : SlotStep before middle) (h₂ : SlotStep middle after) :
    SlotStep before after := by
  refine ⟨h₂.device.trans h₁.device, ?_⟩
  rcases h₂.slot with ⟨hpending, hevent, hactive⟩ | hlatest
  · rcases h₁.slot with ⟨hpending₁, hevent₁, hactive₁⟩ | ⟨hpending₁, hbit, htype⟩
    · exact .inl ⟨hpending.trans hpending₁, hevent.trans hevent₁, hactive.trans hactive₁⟩
    · right
      constructor
      · rw [hpending, hpending₁]
      · rw [hevent, hbit, h₂.device]
      · rw [hevent, htype, hactive]
  · exact .inr hlatest

/-- Calls behind a change that keeps the diagnosis. -/
theorem behind (h : SlotStep middle after) (hdevice : middle.logicalDevice = before.logicalDevice)
    (hdiagnosis : middle.diagnosis = before.diagnosis) : SlotStep before after :=
  (of_diagnosis hdevice hdiagnosis).trans h

/-- Steps that keep the control and the fixed part. -/
theorem of_control (hcontrol : after.control = before.control)
    (hfixed : after.fixed = before.fixed) :
    SlotStep before after :=
  of_diagnosis (congrArg Fixed.logicalDevice hfixed) (congrArg Control.diagnosis hcontrol)

end SlotStep

/-! ## The stages of a pass -/

section

variable (inputs : PassInputs)

theorem slotStep_contractFailure (axis : Axis) : SlotStep axis (contractFailure axis) :=
  ⟨rfl, .inl ⟨rfl, rfl, rfl⟩⟩

theorem slotStep_diagLatch (origin : FaultOrigin) (fault : Option FaultInfo) (axis : Axis) :
    SlotStep axis (diagLatch inputs origin fault axis).1 := by
  have hselected (selected : FaultInfo) (axis : Axis) :
      SlotStep axis (latchSelected inputs origin selected axis).1 := by
    unfold latchSelected
    split_ifs
    · exact slotStep_contractFailure axis
    · exact slotStep_contractFailure axis
    · exact ⟨rfl, .inr ⟨rfl, rfl, rfl⟩⟩
  unfold diagLatch
  split_ifs
  · exact .refl axis
  · cases fault with
    | some fault => exact hselected fault axis
    | none =>
        have hasked : SlotStep axis
            (axis.record (.getFaultInfo origin (inputs.getFaultInfo origin))) :=
          .of_diagnosis rfl rfl
        dsimp only
        split
        · exact hasked.trans (slotStep_contractFailure _)
        · exact hasked.trans (hselected _ _)

theorem slotStep_diagClear (axis : Axis) : SlotStep axis (diagClear inputs axis).1 := by
  unfold diagClear
  split_ifs
  · exact .refl axis
  · exact slotStep_contractFailure axis
  · exact .of_diagnosis rfl rfl
  · exact ⟨rfl, .inr ⟨rfl, rfl, rfl⟩⟩

theorem slotStep_axisEnterFaultReaction (origin : FaultOrigin) (fault : Option FaultInfo)
    (axis : Axis) : SlotStep axis (axisEnterFaultReaction inputs origin fault axis) := by
  have hrelease : SlotStep axis (releaseOwnerForSafetyTransfer axis) := .of_diagnosis rfl rfl
  have hlatch := slotStep_diagLatch inputs origin fault (releaseOwnerForSafetyTransfer axis)
  exact (hrelease.trans hlatch).trans (.of_diagnosis rfl rfl)

theorem slotStep_continuePdsTransition (axis : Axis) :
    SlotStep axis (continuePdsTransition inputs axis) := by
  unfold continuePdsTransition
  split
  · exact .refl axis
  · dsimp only
    split
    · exact .of_diagnosis rfl rfl
    · exact .of_diagnosis rfl rfl
    · exact (slotStep_axisEnterFaultReaction inputs _ _ _).behind rfl rfl

theorem slotStep_startPdsTransition (operation : DriveOperation) (targetState : State)
    (axis : Axis) : SlotStep axis (startPdsTransition inputs operation targetState axis) :=
  (slotStep_continuePdsTransition inputs _).behind rfl rfl

theorem slotStep_processFaultReactionActive (axis : Axis) :
    SlotStep axis (processFaultReactionActive inputs axis) := by
  unfold processFaultReactionActive
  dsimp only
  split <;> exact .of_diagnosis rfl rfl

theorem slotStep_takeOver (operation : DriveOperation) (targetState : State) (axis : Axis) :
    SlotStep axis (takeOver inputs operation targetState axis) := by
  have hstart : SlotStep axis
      (startPdsTransition inputs operation targetState (releaseOwnerForSafetyTransfer axis)) :=
    (slotStep_startPdsTransition inputs _ _ _).behind rfl rfl
  unfold takeOver
  dsimp only
  split_ifs
  · exact hstart.trans (slotStep_processFaultReactionActive inputs _)
  · exact hstart

theorem slotStep_continueFaultReset (axis : Axis) :
    SlotStep axis (continueFaultReset inputs axis) := by
  unfold continueFaultReset
  dsimp only
  split
  · exact .of_diagnosis rfl rfl
  · have hclear : SlotStep axis (diagClear inputs
        { callDrive inputs .faultReset axis with faultResetInProgress := false }).1 :=
      (slotStep_diagClear inputs _).behind rfl rfl
    split_ifs
    · exact hclear.trans (slotStep_axisEnterFaultReaction inputs _ _ _)
    · exact hclear.trans (.of_diagnosis rfl rfl)
  · exact (slotStep_axisEnterFaultReaction inputs _ _ _).behind rfl rfl

theorem slotStep_axisControlwordReadFailed (axis : Axis) :
    SlotStep axis (axisControlwordReadFailed inputs axis) := by
  unfold axisControlwordReadFailed
  split_ifs
  · exact .refl axis
  · exact (slotStep_axisEnterFaultReaction inputs _ _ _).trans
      (slotStep_processFaultReactionActive inputs _)

theorem slotStep_processState (command : Command) (faultResetRisingEdge : Bool) (axis : Axis) :
    SlotStep axis (processState inputs command faultResetRisingEdge axis) := by
  have hstart := slotStep_startPdsTransition inputs
  unfold processState
  split
  · exact .of_diagnosis rfl rfl
  · unfold processSwitchOnDisabled
    split
    · exact hstart _ _ _
    · exact .refl axis
  · unfold processReadyToSwitchOn
    split
    · exact hstart _ _ _
    · exact hstart _ _ _
    · exact .refl axis
  · unfold processSwitchedOn
    split
    · exact hstart _ _ _
    · exact hstart _ _ _
    · exact hstart _ _ _
    · exact .refl axis
  · unfold processOperationEnabled
    split
    · exact hstart _ _ _
    · exact hstart _ _ _
    · exact hstart _ _ _
    · exact hstart _ _ _
    · exact .refl axis
  · unfold processQuickStopActive
    split
    · exact hstart _ _ _
    · exact .refl axis
  · exact slotStep_processFaultReactionActive inputs axis
  · unfold processFault
    split_ifs
    · exact slotStep_continueFaultReset inputs axis
    · exact .refl axis
    · exact (slotStep_continueFaultReset inputs _).behind rfl rfl
  · exact slotStep_axisEnterFaultReaction inputs _ _ _

theorem slotStep_axisProcess (axis : Axis) : SlotStep axis (axisProcess inputs axis) := by
  have hcontrolword (controlword : Word) (axis : Axis) :
      SlotStep axis (axisProcessControlword inputs controlword axis) := by
    have hlatched : SlotStep axis
        { axis with faultResetBitPrevious := faultResetBit controlword } := .of_diagnosis rfl rfl
    unfold axisProcessControlword preemptOwnerForSafetyCommand
    dsimp only
    split
    · next heq =>
        split at heq
        · cases heq
        · rw [← (Prod.mk.inj heq).1]
          exact hlatched.trans (slotStep_takeOver inputs _ _ _)
    · next heq =>
        split at heq
        · rw [← (Prod.mk.inj heq).1]
          split_ifs
          · exact hlatched
          · exact hlatched.trans (slotStep_continuePdsTransition inputs _)
          · exact hlatched.trans (slotStep_processState inputs _ _ _)
        · cases heq
  unfold axisProcess
  split_ifs
  · exact .refl axis
  · split
    · exact slotStep_axisControlwordReadFailed inputs axis
    · exact hcontrolword _ axis

theorem slotStep_resetModeRuntime (mode : Mode) (controlword : Word) (axis : Axis) :
    SlotStep axis (resetModeRuntime mode controlword axis) :=
  .of_control (control_resetModeRuntime ..) (fixed_resetModeRuntime ..)

theorem slotStep_continueModeExit (controlword : Word) (axis : Axis) :
    SlotStep axis (continueModeExit inputs controlword axis).1 := by
  unfold continueModeExit
  split_ifs
  · exact .refl axis
  · dsimp only
    split
    · exact .of_diagnosis rfl rfl
    · exact .of_diagnosis rfl rfl
    · split_ifs
      · have hcalled : SlotStep axis (axis.record
            (.modeExit axis.pendingExitMode (inputs.modeExit axis.pendingExitMode))) :=
          .of_diagnosis rfl rfl
        exact (hcalled.trans (slotStep_resetModeRuntime _ controlword _)).trans
          (.of_diagnosis rfl rfl)
      · exact .of_diagnosis rfl rfl

theorem slotStep_continueModeEnter (controlword : Word) (axis : Axis) :
    SlotStep axis (continueModeEnter inputs controlword axis).1 := by
  unfold continueModeEnter
  split_ifs
  · exact .refl axis
  · dsimp only
    split
    · exact .of_diagnosis rfl rfl
    · exact .of_diagnosis rfl rfl
    · exact (slotStep_resetModeRuntime _ controlword _).behind rfl rfl

theorem slotStep_processModeSelection (controlword : Word) (axis : Axis) :
    SlotStep axis (processModeSelection inputs controlword axis).1 := by
  unfold processModeSelection
  by_cases hexit : axis.pendingExitMode ≠ .none
  · rw [if_pos hexit]
    exact slotStep_continueModeExit inputs controlword axis
  · rw [if_neg hexit]
    by_cases henter : axis.pendingEnterMode ≠ .none
    · rw [if_pos henter]
      exact slotStep_continueModeEnter inputs controlword axis
    · rw [if_neg henter]
      split
      · exact .refl axis
      · split_ifs
        · exact .refl axis
        · exact (slotStep_continueModeExit inputs controlword _).behind rfl rfl
        · exact (slotStep_continueModeEnter inputs controlword _).behind rfl rfl
        · exact .refl axis

theorem slotStep_processModes (controlword : Word) (axis : Axis) :
    SlotStep axis (processModes inputs controlword axis) := by
  have hselection := slotStep_processModeSelection inputs controlword axis
  unfold processModes
  split_ifs
  · exact slotStep_resetModeRuntime _ controlword axis
  · exact .refl axis
  · generalize processModeSelection inputs controlword axis = result at hselection
    obtain ⟨selected, runActiveMode, ok⟩ := result
    have hactive : SlotStep selected (processActiveMode inputs controlword selected).1 :=
      .of_control (processActiveMode_step inputs controlword selected).control
        (processActiveMode_step inputs controlword selected).fixed
    dsimp only at hselection ⊢
    split_ifs
    · exact hselection.trans (slotStep_axisEnterFaultReaction inputs _ _ _)
    · exact (hselection.trans hactive).trans (slotStep_axisEnterFaultReaction inputs _ _ _)
    · exact hselection.trans hactive
    · exact hselection.trans (slotStep_resetModeRuntime _ controlword _)
    · exact hselection

theorem slotStep_pollProduct (axis : Axis) : SlotStep axis (pollProduct inputs axis) := by
  unfold pollProduct pollProductFault
  split_ifs
  · exact .refl axis
  · have hasked (info : Option FaultInfo) :
        SlotStep axis (axis.record (.getFaultInfo .product info)) := .of_diagnosis rfl rfl
    cases inputs.getFaultInfo .product with
    | none => exact hasked none
    | some fault => exact (hasked fault).trans (slotStep_axisEnterFaultReaction inputs _ _ _)

/-- A whole pass. -/
theorem slotStep_processAxis (axis : Axis) : SlotStep axis (processAxis inputs axis) := by
  unfold processAxis
  have hpolled := slotStep_pollProduct inputs axis
  generalize pollProduct inputs axis = polled at hpolled
  have hrequest : SlotStep axis (updateModeRequest inputs polled) := by
    apply hpolled.trans
    unfold updateModeRequest
    split <;> exact .of_diagnosis rfl rfl
  generalize updateModeRequest inputs polled = requested at hrequest
  have hsupervised : SlotStep axis (supervise inputs requested) := by
    apply hrequest.trans
    unfold supervise
    split
    · exact slotStep_axisControlwordReadFailed inputs requested
    · exact (slotStep_axisProcess inputs requested).trans (slotStep_processModes inputs _ _)
  generalize supervise inputs requested = supervised at hsupervised
  have hfeedback : SlotStep supervised (updateFeedback inputs supervised) :=
    .of_control (updateFeedback_step inputs supervised).control
      (updateFeedback_step inputs supervised).fixed
  exact (hsupervised.trans hfeedback).trans (.of_diagnosis rfl rfl)

end

end CanopenRtt.Cia402.Device
