import CanopenRtt.Cia402.Device.BindingExact
/-!
# What a bound manager accesses

The objects that a supervisor pass or a SYNC generation reads and writes, and the contract of
`CO_402_device_bindOD` for them: after a successful bind no access meets a missing entry.
-/

namespace CanopenRtt.Cia402.Device

open CanopenRtt.Profile

/-! ## The accessed objects -/

/-- What a pass accesses in every mode. -/
def commonSlots : List ObjectSlot :=
  [.errorCode, .modesOfOperation, .controlword, .statusword, .modesOfOperationDisplay,
    .positionActualValue, .velocityActualValue]

/-- What the handlers of a mode access besides. -/
def modeAccesses : Mode → List ObjectSlot
  | .none => []
  | .profilePosition =>
      [.targetPosition, .profileVelocity, .profileAcceleration, .profileDeceleration,
        .quickStopDeceleration, .motionProfileType]
  | .profileVelocity =>
      [.targetVelocity, .profileAcceleration, .profileDeceleration, .quickStopDeceleration]
  | .homing => [.homeOffset, .homingMethod, .homingSpeeds, .homingAcceleration]
  | .cyclicSyncPosition => [.targetPosition]
  | .cyclicSyncVelocity => [.targetVelocity]
  | .cyclicSyncTorque => [.targetTorque, .torqueActualValue]

/-- What an axis in this mode accesses. -/
def accessedSlots (mode : Mode) : List ObjectSlot := commonSlots ++ modeAccesses mode

/-- The validated tables cover every advertised mode. -/
theorem accessed_bound {supportedModes : BitVec 32} {mode : Mode}
    (h : SupportedBy supportedModes mode) {slot : ObjectSlot} (hslot : slot ∈ accessedSlots mode) :
    slot ∈ boundSlots supportedModes := by
  have hcovered : ∀ {slots table : List ObjectSlot},
      (∀ slot ∈ slots, slot ∈ baseContracts.map ODContract.cache ∨ slot ∈ table) →
        slot ∈ slots → (slot ∈ table → slot ∈ modeSlots supportedModes) →
          slot ∈ boundSlots supportedModes := by
    intro slots table hsub hmem htable
    unfold boundSlots
    exact List.mem_append.mpr ((hsub slot hmem).imp_right htable)
  unfold modeSlots at hcovered
  simp only [List.mem_append] at hcovered
  rcases List.mem_append.mp hslot with hcommon | hslot
  · exact @hcovered commonSlots [] (by decide) hcommon nofun
  rcases h with rfl | hsupported
  · cases hslot
  cases mode with
  | none => cases hslot
  | profilePosition =>
      have hbit : supportedModes &&& supportedModePP ≠ 0 := hsupported
      refine @hcovered _ (ppContracts.map ODContract.cache) (by decide) hslot fun hmem => .inl ?_
      rwa [if_pos hbit]
  | profileVelocity =>
      have hbit : supportedModes &&& supportedModePV ≠ 0 := hsupported
      refine @hcovered _ (pvContracts.map ODContract.cache) (by decide) hslot
        fun hmem => .inr (.inl ?_)
      rwa [if_pos hbit]
  | homing =>
      have hbit : supportedModes &&& supportedModeHM ≠ 0 := hsupported
      refine @hcovered _ (hmContracts.map ODContract.cache ++ [.homingSpeeds]) (by decide) hslot
        fun hmem => .inr (.inr (.inl ?_))
      rwa [if_pos hbit]
  | cyclicSyncPosition => exact @hcovered _ [] (by decide) hslot nofun
  | cyclicSyncVelocity => exact @hcovered _ [] (by decide) hslot nofun
  | cyclicSyncTorque =>
      have hbit : supportedModes &&& supportedModeCST ≠ 0 := hsupported
      refine @hcovered _ (cstContracts.map ODContract.cache) (by decide) hslot
        fun hmem => .inr (.inr (.inr ?_))
      rwa [if_pos hbit]

/-! ## Answers that come through the cached entries -/

/-- A read through the cached entry, when there is one. -/
def readThrough {α : Type} (cached : Bool) (answer : Option α) : Option α :=
  if cached then answer else none

@[simp] theorem readThrough_true {α : Type} (answer : Option α) :
    readThrough true answer = answer := rfl

/-- The answers of a pass whose accesses go through the entries that are `cached`. -/
def PassInputs.through (cached : ObjectSlot → Bool) (inputs : PassInputs) : PassInputs :=
  { inputs with
    controlword := fun site => readThrough (cached .controlword) (inputs.controlword site)
    modesOfOperation := fun site =>
      readThrough (cached .modesOfOperation) (inputs.modesOfOperation site)
    latchErrorCode := fun origin => cached .errorCode && inputs.latchErrorCode origin
    clearErrorCode := cached .errorCode && inputs.clearErrorCode
    targetPosition := readThrough (cached .targetPosition) inputs.targetPosition
    targetVelocity := readThrough (cached .targetVelocity) inputs.targetVelocity
    profileVelocityLimit := readThrough (cached .profileVelocity) inputs.profileVelocityLimit
    profileAcceleration := readThrough (cached .profileAcceleration) inputs.profileAcceleration
    profileDeceleration := readThrough (cached .profileDeceleration) inputs.profileDeceleration
    quickStopDeceleration :=
      readThrough (cached .quickStopDeceleration) inputs.quickStopDeceleration
    motionProfileType := readThrough (cached .motionProfileType) inputs.motionProfileType
    homeOffset := readThrough (cached .homeOffset) inputs.homeOffset
    homingMethod := readThrough (cached .homingMethod) inputs.homingMethod
    speedSwitch := readThrough (cached .homingSpeeds) inputs.speedSwitch
    speedZero := readThrough (cached .homingSpeeds) inputs.speedZero
    homingAcceleration := readThrough (cached .homingAcceleration) inputs.homingAcceleration
    setPositionActualValue := cached .positionActualValue && inputs.setPositionActualValue
    setVelocityActualValue := cached .velocityActualValue && inputs.setVelocityActualValue
    setTorqueActualValue := cached .torqueActualValue && inputs.setTorqueActualValue
    setStatusword := cached .statusword && inputs.setStatusword
    setModesOfOperationDisplay :=
      cached .modesOfOperationDisplay && inputs.setModesOfOperationDisplay }

/-- The same for a SYNC generation. -/
def SyncInputs.through (cached : ObjectSlot → Bool) (inputs : SyncInputs) : SyncInputs :=
  { inputs with
    controlword := readThrough (cached .controlword) inputs.controlword
    modesOfOperation := readThrough (cached .modesOfOperation) inputs.modesOfOperation
    targetPosition := readThrough (cached .targetPosition) inputs.targetPosition
    targetVelocity := readThrough (cached .targetVelocity) inputs.targetVelocity
    targetTorque := readThrough (cached .targetTorque) inputs.targetTorque
    statuswordPtr := cached .statusword && inputs.statuswordPtr
    statuswordPtrRetry := cached .statusword && inputs.statuswordPtrRetry
    positionActualPtr := cached .positionActualValue && inputs.positionActualPtr
    velocityActualPtr := cached .velocityActualValue && inputs.velocityActualPtr
    torqueActualPtr := cached .torqueActualValue && inputs.torqueActualPtr }

/-- `other` differs from `inputs` at most in what the modes access besides the common objects. -/
def PassInputs.SameCommon (inputs other : PassInputs) : Prop :=
  other =
    { inputs with
      targetPosition := other.targetPosition
      targetVelocity := other.targetVelocity
      profileVelocityLimit := other.profileVelocityLimit
      profileAcceleration := other.profileAcceleration
      profileDeceleration := other.profileDeceleration
      quickStopDeceleration := other.quickStopDeceleration
      motionProfileType := other.motionProfileType
      homeOffset := other.homeOffset
      homingMethod := other.homingMethod
      speedSwitch := other.speedSwitch
      speedZero := other.speedZero
      homingAcceleration := other.homingAcceleration
      setTorqueActualValue := other.setTorqueActualValue }

section

variable {inputs : PassInputs} {cached : ObjectSlot → Bool}

theorem sameCommon_through (h : ∀ slot ∈ commonSlots, cached slot = true) :
    inputs.SameCommon (inputs.through cached) := by
  have herror := h .errorCode (by decide)
  have hmodes := h .modesOfOperation (by decide)
  have hcontrol := h .controlword (by decide)
  have hstatus := h .statusword (by decide)
  have hdisplay := h .modesOfOperationDisplay (by decide)
  have hposition := h .positionActualValue (by decide)
  have hvelocity := h .velocityActualValue (by decide)
  unfold PassInputs.SameCommon PassInputs.through
  simp only [herror, hmodes, hcontrol, hstatus, hdisplay, hposition, hvelocity, Bool.true_and,
    readThrough_true]

theorem pollProduct_sameCommon {other : PassInputs} (h : inputs.SameCommon other) (axis : Axis) :
    pollProduct other axis = pollProduct inputs axis := by
  rw [h]
  rfl

theorem axisProcess_sameCommon {other : PassInputs} (h : inputs.SameCommon other) (axis : Axis) :
    axisProcess other axis = axisProcess inputs axis := by
  rw [h]
  rfl

theorem axisControlwordReadFailed_sameCommon {other : PassInputs} (h : inputs.SameCommon other)
    (axis : Axis) :
    axisControlwordReadFailed other axis = axisControlwordReadFailed inputs axis := by
  rw [h]
  rfl

theorem axisEnterFaultReaction_sameCommon {other : PassInputs} (h : inputs.SameCommon other)
    (origin : FaultOrigin) (fault : Option FaultInfo) (axis : Axis) :
    axisEnterFaultReaction other origin fault axis =
      axisEnterFaultReaction inputs origin fault axis := by
  rw [h]
  rfl

theorem processModeSelection_sameCommon {other : PassInputs} (h : inputs.SameCommon other)
    (controlword : Word) (axis : Axis) :
    processModeSelection other controlword axis = processModeSelection inputs controlword axis := by
  rw [h]
  rfl

theorem publishStatus_sameCommon {other : PassInputs} (h : inputs.SameCommon other) (axis : Axis) :
    publishStatus other axis = publishStatus inputs axis := by
  rw [h]
  rfl

theorem updateFeedback_through (hcommon : inputs.SameCommon (inputs.through cached)) {axis : Axis}
    (htorque : axis.od .torqueActualValue ≠ none → cached .torqueActualValue = true) :
    updateFeedback (inputs.through cached) axis = updateFeedback inputs axis := by
  have hposition : ∀ axis, updatePosition (inputs.through cached) axis =
      updatePosition inputs axis := by
    rw [hcommon]
    exact fun _ => rfl
  have hvelocity : ∀ axis, updateVelocity (inputs.through cached) axis =
      updateVelocity inputs axis := by
    rw [hcommon]
    exact fun _ => rfl
  have heligible : ∀ axis, syncFastPathEligible ((inputs.through cached).controlword .feedback)
      ((inputs.through cached).modesOfOperation .feedback) axis =
        syncFastPathEligible (inputs.controlword .feedback) (inputs.modesOfOperation .feedback)
          axis := by
    rw [hcommon]
    exact fun _ => rfl
  have hod : (updateVelocity inputs (updatePosition inputs axis)).od = axis.od := by
    unfold updateVelocity updatePosition
    split_ifs <;> rfl
  unfold updateFeedback
  rw [heligible, hposition, hvelocity]
  split_ifs
  · rfl
  · unfold updateTorque
    rw [hod]
    cases hcached : axis.od .torqueActualValue with
    | none => simp only [Option.isNone_none, Bool.or_true, Bool.true_or, if_true]
    | some index =>
        have hsame : (inputs.through cached).setTorqueActualValue =
            inputs.setTorqueActualValue := by
          unfold PassInputs.through
          rw [htorque (by rw [hcached]; nofun), Bool.true_and]
        rw [hsame]
        rfl

/-- The handler of the active mode reads nothing but the objects of its mode. -/
theorem processActiveMode_through {axis : Axis}
    (h : ∀ slot ∈ modeAccesses axis.mode, cached slot = true) (controlword : Word) :
    processActiveMode (inputs.through cached) controlword axis =
      processActiveMode inputs controlword axis := by
  unfold processActiveMode
  cases hmode : axis.mode with
  | profilePosition =>
      rw [hmode] at h
      have hread : ∀ command, ppReadCommand (inputs.through cached) controlword command =
          ppReadCommand inputs controlword command := by
        intro command
        unfold ppReadCommand PassInputs.through
        simp only [h .targetPosition (by decide), h .profileVelocity (by decide),
          h .profileAcceleration (by decide), h .profileDeceleration (by decide),
          h .quickStopDeceleration (by decide), h .motionProfileType (by decide),
          readThrough_true]
      have hprocess : ppProcess (inputs.through cached) controlword axis =
          ppProcess inputs controlword axis := by
        unfold ppProcess
        simp only [hread]
        rfl
      simp only [hprocess]
  | profileVelocity =>
      rw [hmode] at h
      have hread : pvReadCommand (inputs.through cached) controlword =
          pvReadCommand inputs controlword := by
        unfold pvReadCommand PassInputs.through
        simp only [h .targetVelocity (by decide), h .profileAcceleration (by decide),
          h .profileDeceleration (by decide), h .quickStopDeceleration (by decide),
          readThrough_true]
      have hprocess : pvProcess (inputs.through cached) controlword axis =
          pvProcess inputs controlword axis := by
        unfold pvProcess
        rw [hread]
        rfl
      simp only [hprocess]
  | homing =>
      rw [hmode] at h
      have hread : ∀ command, hmReadCommand (inputs.through cached) command =
          hmReadCommand inputs command := by
        intro command
        unfold hmReadCommand PassInputs.through
        simp only [h .homeOffset (by decide), h .homingMethod (by decide),
          h .homingSpeeds (by decide), h .homingAcceleration (by decide), readThrough_true]
      have hprocess : hmProcess (inputs.through cached) controlword axis =
          hmProcess inputs controlword axis := by
        unfold hmProcess
        simp only [hread]
        rfl
      simp only [hprocess]
  | none => rfl
  | cyclicSyncPosition => rfl
  | cyclicSyncVelocity => rfl
  | cyclicSyncTorque => rfl

/-- Mode selection hands the active mode on as it was, when it may run. -/
theorem mode_processModeSelection {controlword : Word} {axis after : Axis} {ok : Bool}
    (h : processModeSelection inputs controlword axis = (after, true, ok)) :
    after.mode = axis.mode := by
  unfold processModeSelection at h
  by_cases hexit : axis.pendingExitMode ≠ .none
  · rw [if_pos hexit] at h
    cases (Prod.mk.inj (Prod.mk.inj h).2).1
  by_cases henter : axis.pendingEnterMode ≠ .none
  · rw [if_neg hexit, if_pos henter] at h
    cases (Prod.mk.inj (Prod.mk.inj h).2).1
  rw [if_neg hexit, if_neg henter] at h
  cases hselected : selectedMode axis with
  | none =>
      rw [hselected] at h
      rw [(Prod.mk.inj h).1]
  | some requestedMode =>
      rw [hselected] at h
      dsimp only at h
      by_cases hsame : axis.mode = requestedMode
      · rw [if_pos hsame] at h
        rw [(Prod.mk.inj h).1]
      · -- The branches left change the owner, and none of them runs a handler.
        rw [if_neg hsame] at h
        split_ifs at h <;> cases (Prod.mk.inj (Prod.mk.inj h).2).1

theorem mode_updateModeRequest (inputs : PassInputs) (axis : Axis) :
    (updateModeRequest inputs axis).mode = axis.mode := by
  unfold updateModeRequest
  split <;> rfl

theorem processModes_through (hcommon : inputs.SameCommon (inputs.through cached)) {axis : Axis}
    (h : ∀ slot ∈ modeAccesses axis.mode, cached slot = true) (controlword : Word) :
    processModes (inputs.through cached) controlword axis =
      processModes inputs controlword axis := by
  unfold processModes
  simp only [processModeSelection_sameCommon hcommon, axisEnterFaultReaction_sameCommon hcommon]
  by_cases howner : axis.pdsTransitionOperation.isSome = true
  · rw [if_pos howner, if_pos howner]
  · rw [if_neg howner, if_neg howner]
    cases hselection : processModeSelection inputs controlword axis with
    | mk selected rest =>
      cases rest with
      | mk runActiveMode ok =>
        cases runActiveMode with
        | false => rfl
        | true =>
            have hactive := @processActiveMode_through inputs cached selected (by
              rw [mode_processModeSelection hselection]
              exact h) controlword
            simp only [hactive]

/-- A pass over an axis in one mode accesses the objects of this mode only. -/
theorem processAxis_through {axis : Axis}
    (h : ∀ slot ∈ accessedSlots axis.mode, cached slot = true)
    (htorque : axis.od .torqueActualValue ≠ none → cached .torqueActualValue = true) :
    processAxis (inputs.through cached) axis = processAxis inputs axis := by
  obtain ⟨hcommonSlots, hmodeSlots⟩ := List.forall_mem_append.mp h
  have hcommon := @sameCommon_through inputs cached hcommonSlots
  have hrequest : ∀ axis, updateModeRequest (inputs.through cached) axis =
      updateModeRequest inputs axis := by
    rw [hcommon]
    exact fun _ => rfl
  have hpolled : (updateModeRequest inputs (pollProduct inputs axis)).mode = axis.mode := by
    rw [mode_updateModeRequest]
    exact congrArg Unmoved.mode (unmoved_pollProduct inputs axis)
  have hsupervise : supervise (inputs.through cached)
      (updateModeRequest inputs (pollProduct inputs axis)) =
        supervise inputs (updateModeRequest inputs (pollProduct inputs axis)) := by
    have hcontrolword : (inputs.through cached).controlword .snapshot =
        inputs.controlword .snapshot := by
      rw [hcommon]
    unfold supervise
    rw [hcontrolword, axisProcess_sameCommon hcommon, axisControlwordReadFailed_sameCommon hcommon]
    cases inputs.controlword .snapshot with
    | none => rfl
    | some controlword =>
        refine processModes_through hcommon ?_ controlword
        have hmode := congrArg Unmoved.mode (unmoved_axisProcess inputs
          (updateModeRequest inputs (pollProduct inputs axis)))
        rw [Axis.unmoved_mode, Axis.unmoved_mode, hpolled] at hmode
        rw [hmode]
        exact hmodeSlots
  unfold processAxis
  rw [pollProduct_sameCommon hcommon, hrequest, hsupervise, publishStatus_sameCommon hcommon,
    updateFeedback_through hcommon]
  have hod : (supervise inputs (updateModeRequest inputs (pollProduct inputs axis))).od =
      axis.od := by
    refine (congrArg Fixed.od (fixed_supervise inputs _)).trans ?_
    refine (congrArg Fixed.od (fixed_updateModeRequest_congr inputs
      (fixed_pollProduct inputs axis))).trans ?_
    unfold updateModeRequest
    split <;> rfl
  rw [hod]
  exact htorque

end

/-! ## One SYNC generation -/

theorem SyncOnly.mode {before after : Axis} (h : SyncOnly before after) :
    after.mode = before.mode := by
  rw [h.eq]

section

variable {inputs : SyncInputs} {cached : ObjectSlot → Bool}

theorem syncSnapshot_through {axis : Axis}
    (h : ∀ slot ∈ accessedSlots axis.mode, cached slot = true) (sequence : BitVec 32) :
    syncSnapshot (inputs.through cached) sequence axis = syncSnapshot inputs sequence axis := by
  obtain ⟨hcommon, hmode⟩ := List.forall_mem_append.mp h
  have hcommand : snapshotCommand (inputs.through cached) sequence axis.mode =
      snapshotCommand inputs sequence axis.mode := by
    unfold snapshotCommand SyncInputs.through
    cases hactive : axis.mode with
    | cyclicSyncPosition =>
        rw [hactive] at hmode
        simp only [hmode .targetPosition (by decide), readThrough_true]
    | cyclicSyncVelocity =>
        rw [hactive] at hmode
        simp only [hmode .targetVelocity (by decide), readThrough_true]
    | cyclicSyncTorque =>
        rw [hactive] at hmode
        simp only [hmode .targetTorque (by decide), readThrough_true]
    | _ => rfl
  have hcontrolword : (inputs.through cached).controlword = inputs.controlword := by
    unfold SyncInputs.through
    simp only [hcommon .controlword (by decide), readThrough_true]
  have hmodes : (inputs.through cached).modesOfOperation = inputs.modesOfOperation := by
    unfold SyncInputs.through
    simp only [hcommon .modesOfOperation (by decide), readThrough_true]
  unfold syncSnapshot
  rw [hcommand, hcontrolword, hmodes]

theorem syncImage_through {axis : Axis}
    (h : ∀ slot ∈ accessedSlots axis.mode, cached slot = true) :
    syncImage (inputs.through cached) axis = syncImage inputs axis := by
  obtain ⟨hcommon, hmode⟩ := List.forall_mem_append.mp h
  have hpublish : ∀ statuswordPtr publishActuals, ∀ other : Axis, other.mode = axis.mode →
      publishSyncImage (inputs.through cached) statuswordPtr publishActuals other =
        publishSyncImage inputs statuswordPtr publishActuals other := by
    intro statuswordPtr publishActuals other hsame
    unfold publishSyncImage SyncInputs.through
    simp only [hcommon .positionActualValue (by decide), hcommon .velocityActualValue (by decide),
      Bool.true_and]
    by_cases htorque : other.mode = .cyclicSyncTorque
    · rw [← hsame, htorque] at hmode
      rw [hmode .torqueActualValue (by decide), Bool.true_and]
    · simp only [htorque, decide_false, Bool.false_and]
  have hstatusword : (inputs.through cached).statuswordPtr = inputs.statuswordPtr := by
    unfold SyncInputs.through
    simp only [hcommon .statusword (by decide), Bool.true_and]
  have hretry : (inputs.through cached).statuswordPtrRetry = inputs.statuswordPtrRetry := by
    unfold SyncInputs.through
    simp only [hcommon .statusword (by decide), Bool.true_and]
  unfold syncImage
  dsimp only
  rw [hstatusword, hretry, hpublish _ _ axis rfl]
  have honly := publishSyncImage_only inputs inputs.statuswordPtr
    (axis.syncRuntime.active && axis.syncRuntime.feedbackFresh) axis
  cases hfirst : publishSyncImage inputs inputs.statuswordPtr
      (axis.syncRuntime.active && axis.syncRuntime.feedbackFresh) axis with
  | mk published ok =>
    rw [hfirst] at honly
    cases ok with
    | true => rfl
    | false =>
        dsimp only
        rw [hpublish _ _ { published with
          syncRuntime := { published.syncRuntime with feedbackFresh := false } } honly.mode]

end

/-! ## The whole manager -/

/-- The entries that the axis with this logical device has cached. -/
def Manager.cached (manager : Manager) (device : LogicalDevice) (slot : ObjectSlot) : Bool :=
  manager.axes.any fun axis => axis.logicalDevice = device && (axis.od slot).isSome

theorem Manager.cached_of_mem {manager : Manager} {axis : Axis} (hmem : axis ∈ manager.axes)
    {slot : ObjectSlot} (h : axis.od slot ≠ none) :
    manager.cached axis.logicalDevice slot = true := by
  unfold Manager.cached
  rw [List.any_eq_true]
  refine ⟨axis, hmem, ?_⟩
  rw [decide_eq_true rfl, Bool.true_and]
  exact Option.isSome_iff_ne_none.mpr h

/-- Every object that the axes access in their modes is cached. -/
def Manager.AccessesBound (manager : Manager) : Prop :=
  ∀ axis ∈ manager.axes, ∀ slot ∈ accessedSlots axis.mode, axis.od slot ≠ none

theorem Manager.AccessesBound.cached {manager : Manager} (h : manager.AccessesBound) {axis : Axis}
    (hmem : axis ∈ manager.axes) :
    ∀ slot ∈ accessedSlots axis.mode, manager.cached axis.logicalDevice slot = true :=
  fun slot hslot => cached_of_mem hmem (h axis hmem slot hslot)

theorem process_through {manager : Manager} (h : manager.AccessesBound)
    (inputs : LogicalDevice → PassInputs) :
    process (fun device => (inputs device).through (manager.cached device)) manager =
      process inputs manager := by
  unfold process
  congr 2
  exact List.map_congr_left fun axis hmem =>
    processAxis_through (h.cached hmem) (Manager.cached_of_mem hmem)

theorem syncPhase_congr {body other : Axis → Axis × List SyncEvent} {axes : List Axis}
    (h : ∀ axis ∈ axes, body axis = other axis) : syncPhase body axes = syncPhase other axes := by
  unfold syncPhase
  rw [List.map_congr_left fun axis hmem => congrArg Prod.fst (h axis hmem),
    List.flatMap_congr fun axis hmem => congrArg Prod.snd (h axis hmem)]

theorem processSyncLocked_through {manager : Manager} (h : manager.AccessesBound)
    (inputs : LogicalDevice → SyncInputs) :
    processSyncLocked (fun device => (inputs device).through (manager.cached device)) manager =
      processSyncLocked inputs manager := by
  have hsnapshot := @syncPhase_congr
    (fun axis => syncSnapshot ((inputs axis.logicalDevice).through
      (manager.cached axis.logicalDevice)) (manager.syncSequence + 1) axis)
    (fun axis => syncSnapshot (inputs axis.logicalDevice) (manager.syncSequence + 1) axis)
    manager.axes fun axis hmem => syncSnapshot_through (h.cached hmem) _
  have himage : ∀ axis ∈ (syncPhase (fun axis => syncFeedback (inputs axis.logicalDevice)
        (manager.syncSequence + 1) axis)
      (syncPhase (fun axis => syncPublish (inputs axis.logicalDevice) axis)
        (syncPhase (fun axis => syncSnapshot (inputs axis.logicalDevice)
          (manager.syncSequence + 1) axis) manager.axes).1).1).1,
      syncImage ((inputs axis.logicalDevice).through (manager.cached axis.logicalDevice)) axis =
        syncImage (inputs axis.logicalDevice) axis := by
    intro axis hmem
    simp only [syncPhase, List.map_map, List.mem_map, Function.comp_apply] at hmem
    obtain ⟨before, hbefore, rfl⟩ := hmem
    refine syncImage_through ?_
    simp only [(syncFeedback_only _ _ _).logicalDevice, (syncFeedback_only _ _ _).mode,
      (syncPublish_only _ _).logicalDevice, (syncPublish_only _ _).mode,
      (syncSnapshot_only _ _ _).logicalDevice, (syncSnapshot_only _ _ _).mode]
    exact h.cached hbefore
  unfold processSyncLocked
  by_cases hbound : (!manager.odBound) = true
  · rw [if_pos hbound, if_pos hbound]
  · rw [if_neg hbound, if_neg hbound]
    dsimp only
    rw [hsnapshot]
    have hfinal := List.map_congr_left himage
    rw [Prod.mk.injEq]
    exact ⟨congrArg (fun axes : List Axis =>
      { manager with syncSequence := manager.syncSequence + 1, axes := axes }) hfinal, rfl⟩

/-! ## The binding contract -/

/-- What one call of `CO_402_device_bindOD` does. -/
structure BindLaw (writes : LogicalDevice → BindWrites) (manager : Manager) : Prop where
  /-- The call succeeds exactly when the dictionary is as every axis demands, the extension slots
  are free or owned, and the two writes of each axis succeed. -/
  exact : (bindOD writes manager).2.error = .ok ↔
    manager.axes ≠ [] ∧ (∀ axis ∈ manager.axes, axis.Bindable manager.od) ∧
      ∀ axis ∈ manager.axes, PublishOk writes axis
  /-- A call that fails leaves no extension and no entry that could be used. -/
  rejected : manager.axes ≠ [] → (bindOD writes manager).2.error ≠ .ok →
    (bindOD writes manager).1.odBound = false ∧ (bindOD writes manager).1.od = manager.od ∧
      (∀ inputs, process inputs (bindOD writes manager).1 = (bindOD writes manager).1) ∧
      ∀ inputs, processSyncLocked inputs (bindOD writes manager).1 = ((bindOD writes manager).1, [])
  /-- A call that succeeds has cached every entry that an advertised mode accesses. -/
  completed : (bindOD writes manager).2.error = .ok →
    (bindOD writes manager).1.odBound = true ∧
      ∀ axis ∈ (bindOD writes manager).1.axes, ∀ mode, SupportedBy axis.supportedModes mode →
        ∀ slot ∈ accessedSlots mode, ∃ index, axis.od slot = some index ∧
          (odFind (bindOD writes manager).1.od index).isSome = true

theorem bindLaw (writes : LogicalDevice → BindWrites) (manager : Manager) :
    BindLaw writes manager where
  exact := bindOD_ok_iff
  rejected := by
    intro haxes hfailed
    obtain ⟨hod, hunbound⟩ := bindOD_failed hfailed
    have hunbound := hunbound haxes
    refine ⟨hunbound, hod, fun inputs => ?_, fun inputs => ?_⟩
    · unfold process
      rw [hunbound]
      rfl
    · unfold processSyncLocked
      rw [hunbound]
      rfl
  completed := by
    intro hok
    obtain ⟨hbound, haxes⟩ := fullyBound_bindOD hok
    refine ⟨hbound, fun axis hmem mode hmode slot hslot => ?_⟩
    obtain ⟨hcached, hfound⟩ := haxes axis hmem slot (accessed_bound hmode hslot)
    exact ⟨_, hcached, hfound⟩

theorem Reachable.accessesBound {manager : Manager} (h : Reachable manager)
    (hbound : manager.odBound = true) : manager.AccessesBound := by
  intro axis hmem slot hslot
  have hmode := (h.axisReachable axis hmem).supported.active
  rw [(h.fullyBound hbound axis hmem slot (accessed_bound hmode hslot)).1]
  nofun

/-- The binding is exact and transactional, and in every run a bound manager accesses nothing but
the entries that it has cached. -/
theorem bindOD_exact :
    (∀ writes manager, BindLaw writes manager) ∧
      ∀ manager, Reachable manager → manager.odBound = true →
        (∀ inputs, process (fun device => (inputs device).through (manager.cached device)) manager =
          process inputs manager) ∧
        ∀ inputs, processSyncLocked
          (fun device => (inputs device).through (manager.cached device)) manager =
            processSyncLocked inputs manager :=
  ⟨bindLaw, fun _ h hbound =>
    ⟨process_through (h.accessesBound hbound), processSyncLocked_through (h.accessesBound hbound)⟩⟩

theorem bindOD_exact_cyclic :
    (bindOD (fun _ => {}) cyclicManager).2.error = .ok ∧
      ∀ inputs, process (fun device => (inputs device).through (cyclicManager.cached device))
        cyclicManager = process inputs cyclicManager := by
  have hbindable := ((bindOD_exact.1 (fun _ => {}) cyclicManager).exact).mp (by decide +kernel)
  exact ⟨((bindOD_exact.1 (fun _ => {}) cyclicManager).exact).mpr hbindable,
    (bindOD_exact.2 cyclicManager reachable_cyclicManager (by decide +kernel)).1⟩

end CanopenRtt.Cia402.Device
