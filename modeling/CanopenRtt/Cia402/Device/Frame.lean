import CanopenRtt.Cia402.Device.PassMoves
import CanopenRtt.Cia402.Device.Manager
/-!
# What each entry point leaves alone

A supervisor pass keeps the configuration, the bindings and the SYNC state of
its axis. A SYNC generation keeps its control and its trace, a binding stage
everything but the cache, and a published binding everything but the diagnosis.
`AxisReachable` follows one axis through all of them.
-/

namespace CanopenRtt.Cia402.Device

/-! ## The supervisor pass -/

@[simp] theorem fixed_processModes (inputs : PassInputs) (controlword : Word) (axis : Axis) :
    (processModes inputs controlword axis).fixed = axis.fixed := by
  have hexit : ∀ current, (continueModeExit inputs controlword current).1.fixed =
      current.fixed := by
    intro current
    unfold continueModeExit
    split_ifs
    · rfl
    · dsimp only
      split
      · rfl
      · rfl
      · split_ifs
        · exact fixed_resetModeRuntime _ _ _
        · rfl
  have henter : ∀ current, (continueModeEnter inputs controlword current).1.fixed =
      current.fixed := by
    intro current
    unfold continueModeEnter
    split_ifs
    · rfl
    · dsimp only
      split
      · rfl
      · rfl
      · rw [fixed_resetModeRuntime]
        rfl
  have hselection : (processModeSelection inputs controlword axis).1.fixed = axis.fixed := by
    unfold processModeSelection
    by_cases hexiting : axis.pendingExitMode ≠ .none
    · rw [if_pos hexiting]
      exact hexit axis
    · rw [if_neg hexiting]
      by_cases hentering : axis.pendingEnterMode ≠ .none
      · rw [if_pos hentering]
        exact henter axis
      · rw [if_neg hentering]
        split
        · rfl
        · split_ifs
          · rfl
          · exact hexit _
          · exact henter _
          · rfl
  unfold processModes
  split_ifs
  · exact fixed_resetModeRuntime _ _ _
  · rfl
  · revert hselection
    rcases processModeSelection inputs controlword axis with ⟨selected, runActiveMode, ok⟩
    intro hselection
    have hactive := (processActiveMode_step inputs controlword selected).fixed
    dsimp only at hselection ⊢
    split_ifs
    · rw [fixed_axisEnterFaultReaction, hselection]
    · rw [fixed_axisEnterFaultReaction, hactive, hselection]
    · rw [hactive, hselection]
    · rw [fixed_resetModeRuntime, hselection]
    · exact hselection

@[simp] theorem fixed_supervise (inputs : PassInputs) (axis : Axis) :
    (supervise inputs axis).fixed = axis.fixed := by
  unfold supervise
  split
  · exact fixed_axisControlwordReadFailed inputs axis
  · rw [fixed_processModes, fixed_axisProcess]

/-- A supervisor pass stores its mode request and keeps configuration, bindings and
SYNC state. -/
theorem fixed_processAxis (inputs : PassInputs) (axis : Axis) :
    (processAxis inputs axis).fixed =
      { (updateModeRequest inputs axis).fixed with
        statusword := (processAxis inputs axis).image.statusword } := by
  have hsupervised : (updateFeedback inputs
      (supervise inputs (updateModeRequest inputs (pollProduct inputs axis)))).fixed =
      (updateModeRequest inputs axis).fixed := by
    rw [(updateFeedback_step inputs _).fixed, fixed_supervise]
    exact fixed_updateModeRequest_congr inputs (fixed_pollProduct inputs axis)
  rw [← hsupervised]
  rfl

/-! ## The SYNC generation -/

/-- `after` differs from `before` at most in SYNC state and process image. -/
structure SyncOnly (before after : Axis) : Prop where
  eq : after = { before with syncRuntime := after.syncRuntime, image := after.image }

theorem SyncOnly.trans {before middle after : Axis} (h₁ : SyncOnly before middle)
    (h₂ : SyncOnly middle after) : SyncOnly before after := by
  constructor
  rw [h₂.eq, h₁.eq]

theorem SyncOnly.control {before after : Axis} (h : SyncOnly before after) :
    after.control = before.control := by
  rw [h.eq]
  rfl

theorem SyncOnly.trace {before after : Axis} (h : SyncOnly before after) :
    after.trace = before.trace := by
  rw [h.eq]

theorem syncSnapshot_only (inputs : SyncInputs) (sequence : BitVec 32) (axis : Axis) :
    SyncOnly axis (syncSnapshot inputs sequence axis).1 := by
  constructor
  unfold syncSnapshot
  simp only
  split_ifs <;> rfl

theorem syncPublish_only (inputs : SyncInputs) (axis : Axis) :
    SyncOnly axis (syncPublish inputs axis).1 := by
  constructor
  unfold syncPublish
  simp only
  split_ifs <;> rfl

theorem syncFeedback_only (inputs : SyncInputs) (sequence : BitVec 32) (axis : Axis) :
    SyncOnly axis (syncFeedback inputs sequence axis).1 := by
  constructor
  unfold syncFeedback
  simp only
  split_ifs
  · rfl
  · split <;> rfl

theorem publishSyncImage_only (inputs : SyncInputs) (statuswordPtr publishActuals : Bool)
    (axis : Axis) :
    SyncOnly axis (publishSyncImage inputs statuswordPtr publishActuals axis).1 := by
  constructor
  unfold publishSyncImage
  simp only
  split_ifs <;> rfl

theorem syncImage_only (inputs : SyncInputs) (axis : Axis) :
    SyncOnly axis (syncImage inputs axis) := by
  unfold syncImage
  by_cases hmode : (!isCyclicMode axis.mode) = true
  · rw [if_pos hmode]
    exact ⟨rfl⟩
  · rw [if_neg hmode]
    dsimp only
    generalize (axis.syncRuntime.active && axis.syncRuntime.feedbackFresh) = publishActuals
    have hpublish := publishSyncImage_only inputs inputs.statuswordPtr publishActuals axis
    revert hpublish
    rcases publishSyncImage inputs inputs.statuswordPtr publishActuals axis with ⟨published, ok⟩
    intro hpublish
    cases ok with
    | true => exact hpublish
    | false =>
        dsimp only
        split_ifs
        · exact hpublish.trans (SyncOnly.trans ⟨rfl⟩ (publishSyncImage_only inputs _ false _))
        · exact hpublish

theorem syncAxis_only (inputs : SyncInputs) (sequence : BitVec 32) (axis : Axis) :
    SyncOnly axis (syncAxis inputs sequence axis) :=
  (((syncSnapshot_only inputs sequence axis).trans (syncPublish_only inputs _)).trans
    (syncFeedback_only inputs sequence _)).trans (syncImage_only inputs _)

theorem SyncOnly.logicalDevice {before after : Axis} (h : SyncOnly before after) :
    after.logicalDevice = before.logicalDevice := by
  rw [h.eq]

/-- The four loops of a SYNC generation, axis by axis. -/
theorem processSyncLocked_axes (inputs : LogicalDevice → SyncInputs) (manager : Manager)
    (hbound : manager.odBound = true) :
    (processSyncLocked inputs manager).1.axes = manager.axes.map fun axis =>
      syncAxis (inputs axis.logicalDevice) (manager.syncSequence + 1) axis := by
  have hsnapshot : ∀ axis, (syncSnapshot (inputs axis.logicalDevice) (manager.syncSequence + 1)
      axis).1.logicalDevice = axis.logicalDevice :=
    fun axis => (syncSnapshot_only _ _ axis).logicalDevice
  have hpublish : ∀ axis, (syncPublish (inputs axis.logicalDevice) axis).1.logicalDevice =
      axis.logicalDevice := fun axis => (syncPublish_only _ axis).logicalDevice
  have hfeedback : ∀ axis, (syncFeedback (inputs axis.logicalDevice) (manager.syncSequence + 1)
      axis).1.logicalDevice = axis.logicalDevice :=
    fun axis => (syncFeedback_only _ _ axis).logicalDevice
  simp only [processSyncLocked, hbound, Bool.not_true, Bool.false_eq_true, if_false, syncPhase,
    List.map_map]
  apply List.map_congr_left
  intro axis _
  have hsnapshot := hsnapshot axis
  have hpublish := hpublish (syncSnapshot (inputs axis.logicalDevice) (manager.syncSequence + 1)
    axis).1
  have hfeedback := hfeedback (syncPublish (inputs axis.logicalDevice)
    (syncSnapshot (inputs axis.logicalDevice) (manager.syncSequence + 1) axis).1).1
  simp only [hsnapshot] at hpublish
  simp only [hpublish] at hfeedback
  simp only [Function.comp_apply, hsnapshot, hpublish, hfeedback]
  rfl

/-! ## Binding -/

/-- A stage that only touches the cached entries. -/
def BindStage.CacheOnly (stage : BindStage) : Prop :=
  ∀ axis, (stage axis).1 = { axis with od := (stage axis).1.od }

theorem BindStage.CacheOnly.next {first second : BindStage} (h₁ : first.CacheOnly)
    (h₂ : second.CacheOnly) : (first.next second).CacheOnly := by
  intro axis
  have h₁ := h₁ axis
  unfold BindStage.next
  split
  · rename_i axis' hfirst
    rw [hfirst] at h₁
    have h₂ := h₂ axis'
    dsimp only at h₁
    rw [h₂, h₁]
  · rename_i axis' diag hfirst
    rw [hfirst] at h₁
    exact h₁

theorem validateScalarContracts_cacheOnly (od : ObjectDictionary) (contracts : List ODContract) :
    (validateScalarContracts od contracts).CacheOnly := by
  induction contracts with
  | nil => exact fun axis => rfl
  | cons contract contracts ih =>
      refine BindStage.CacheOnly.next ?_ ih
      intro axis
      unfold validateOneScalar
      simp only
      split
      · rfl
      · split_ifs
        · rfl
        · split <;> rfl

theorem validateHomingSpeeds_cacheOnly (od : ObjectDictionary) :
    (validateHomingSpeeds od).CacheOnly := by
  intro axis
  unfold validateHomingSpeeds
  simp only
  split
  · rfl
  · split_ifs
    · rfl
    · split <;> rfl

theorem whenSupported_cacheOnly (mode : BitVec 32) {stage : BindStage} (h : stage.CacheOnly) :
    (whenSupported mode stage).CacheOnly := by
  intro axis
  unfold whenSupported
  split_ifs
  · exact h axis
  · rfl

theorem validateExtensionOwnership_cacheOnly (od : ObjectDictionary) :
    (validateExtensionOwnership od).CacheOnly := by
  intro axis
  unfold validateExtensionOwnership
  simp only
  split_ifs <;> rfl

theorem validateModeObjects_cacheOnly (od : ObjectDictionary) :
    (validateModeObjects od).CacheOnly := by
  have hscalar := validateScalarContracts_cacheOnly od
  exact (whenSupported_cacheOnly _ (hscalar ppContracts)).next
    ((whenSupported_cacheOnly _ (hscalar pvContracts)).next
      ((whenSupported_cacheOnly _
          ((hscalar hmContracts).next (validateHomingSpeeds_cacheOnly od))).next
        (whenSupported_cacheOnly _ (hscalar cstContracts))))

theorem validateAxis_cacheOnly (od : ObjectDictionary) : (validateAxis od).CacheOnly := by
  have hscalar := validateScalarContracts_cacheOnly od
  have hstages := (hscalar baseContracts).next
    ((validateModeObjects_cacheOnly od).next (validateExtensionOwnership_cacheOnly od))
  intro axis
  rw [validateAxis, hstages (clearODCache axis)]
  rfl

/-- The loop over the axes runs the stage on an axis or leaves it as it is. -/
theorem mem_forEachAxis {stage : BindStage} {axes : List Axis} {axis : Axis}
    (h : axis ∈ (forEachAxis stage axes).1) :
    ∃ before ∈ axes, axis = before ∨ axis = (stage before).1 := by
  induction axes with
  | nil => exact absurd h (List.not_mem_nil)
  | cons first rest ih =>
      unfold forEachAxis at h
      split at h
      · rename_i first' diag hfirst
        rcases List.mem_cons.mp h with rfl | hrest
        · exact ⟨first, List.mem_cons_self, .inr (by rw [hfirst])⟩
        · exact ⟨axis, List.mem_cons_of_mem _ hrest, .inl rfl⟩
      · rename_i first' hfirst
        rcases List.mem_cons.mp h with rfl | hrest
        · exact ⟨first, List.mem_cons_self, .inr (by rw [hfirst])⟩
        · obtain ⟨before, hmem, heq⟩ := ih hrest
          exact ⟨before, List.mem_cons_of_mem _ hmem, heq⟩

theorem logicalDevice_validateAxis (od : ObjectDictionary) (axis : Axis) :
    (validateAxis od axis).1.logicalDevice = axis.logicalDevice := by
  rw [validateAxis_cacheOnly od axis]

theorem logicalDevice_forEachAxis {stage : BindStage}
    (hkeep : ∀ axis, (stage axis).1.logicalDevice = axis.logicalDevice) (axes : List Axis) :
    (forEachAxis stage axes).1.map Axis.logicalDevice = axes.map Axis.logicalDevice := by
  induction axes with
  | nil => rfl
  | cons first rest ih =>
      have hfirst := hkeep first
      unfold forEachAxis
      split
      · rename_i heq
        rw [heq] at hfirst
        rw [List.map_cons, List.map_cons, ← hfirst]
      · rename_i heq
        rw [heq] at hfirst
        rw [List.map_cons, List.map_cons, ← hfirst, ih]

/-! ## Runs of one axis -/

/-- The states of one axis over any interleaving of the entry points. -/
inductive AxisReachable : Axis → Prop where
  | init (config : ValidAxisConfig) (image : ODImage) : AxisReachable (axisInit config image)
  | publishInitial {axis : Axis} (h : AxisReachable axis)
      (written : LogicalDevice → Bool × Bool) : AxisReachable (publishInitial written axis)
  | validate {axis : Axis} (h : AxisReachable axis) (od : ObjectDictionary) :
      AxisReachable (validateAxis od axis).1
  | publish {axis : Axis} (h : AxisReachable axis) (writes : LogicalDevice → BindWrites) :
      AxisReachable (publishAxis writes axis).1
  | pass {axis : Axis} (h : AxisReachable axis) (inputs : PassInputs) :
      AxisReachable (processAxis inputs axis)
  | sync {axis : Axis} (h : AxisReachable axis) (inputs : SyncInputs) (sequence : BitVec 32) :
      AxisReachable (syncAxis inputs sequence axis)
  | reset {axis : Axis} (h : AxisReachable axis) : AxisReachable (syncReset axis)

theorem AxisReachable.forEachAxis {stage : BindStage} {axes : List Axis}
    (hstage : ∀ axis, AxisReachable axis → AxisReachable (stage axis).1)
    (haxes : ∀ axis ∈ axes, AxisReachable axis) {axis : Axis}
    (h : axis ∈ (forEachAxis stage axes).1) : AxisReachable axis := by
  obtain ⟨before, hmem, rfl | rfl⟩ := mem_forEachAxis h
  · exact haxes _ hmem
  · exact hstage _ (haxes _ hmem)

theorem AxisReachable.bindOD (writes : LogicalDevice → BindWrites) (manager : Manager)
    (haxes : ∀ axis ∈ manager.axes, AxisReachable axis) :
    ∀ axis ∈ (bindOD writes manager).1.axes, AxisReachable axis := by
  have hvalidated : ∀ axis ∈ (Device.forEachAxis (validateAxis manager.od) manager.axes).1,
      AxisReachable axis := fun axis =>
    AxisReachable.forEachAxis (fun current h => h.validate manager.od) haxes
  unfold Device.bindOD
  split_ifs
  · exact haxes
  · split
    · rename_i axes diag heq
      rw [heq] at hvalidated
      exact hvalidated
    · rename_i axes heq
      rw [heq] at hvalidated
      have hpublished : ∀ axis ∈ (Device.forEachAxis (publishAxis writes) axes).1,
          AxisReachable axis := fun axis =>
        AxisReachable.forEachAxis (fun current h => h.publish writes) hvalidated
      split
      · rename_i heq'
        rw [heq'] at hpublished
        exact hpublished
      · rename_i heq'
        rw [heq'] at hpublished
        exact hpublished

theorem AxisReachable.managerInit {od : ObjectDictionary} {generated : LogicalDevice → ODImage}
    {configs : List AxisConfig} {writes : LogicalDevice → BindWrites}
    {written : LogicalDevice → Bool × Bool} {manager : Manager} {diag : InitDiag}
    (h : managerInit od generated configs writes written = (some manager, diag)) :
    ∀ axis ∈ manager.axes, AxisReachable axis := by
  unfold Device.managerInit at h
  split at h
  · exact absurd h (by simp)
  · rename_i valid _
    have hbound := AxisReachable.bindOD writes
      { od := od
        axes := valid.map fun config => axisInit config (generated config.logicalDevice)
        odBound := false
        syncSequence := 0 } (by
        intro axis hmem
        obtain ⟨config, -, rfl⟩ := List.mem_map.mp hmem
        exact .init config _)
    simp only at h
    split_ifs at h
    · obtain ⟨hmanager, -⟩ := Prod.mk.inj h
      rw [← Option.some.inj hmanager]
      intro axis hmem
      obtain ⟨bound, hbound', rfl⟩ := List.mem_map.mp hmem
      exact (hbound bound hbound').publishInitial written
    · obtain ⟨hmanager, -⟩ := Prod.mk.inj h
      rw [← Option.some.inj hmanager]
      exact hbound

/-- Every axis of a reachable manager has taken axis steps only. -/
theorem Reachable.axisReachable {manager : Manager} (h : Reachable manager) :
    ∀ axis ∈ manager.axes, AxisReachable axis := by
  induction h with
  | init h => exact AxisReachable.managerInit h
  | step _ step ih =>
      rename_i manager _
      cases step with
      | process inputs =>
          simp only [Manager.step, process]
          split_ifs
          · exact ih
          · intro axis hmem
            obtain ⟨before, hbefore, rfl⟩ := List.mem_map.mp hmem
            exact (ih before hbefore).pass _
      | processSync inputs =>
          by_cases hbound : manager.odBound = true
          · simp only [Manager.step, processSyncLocked_axes inputs manager hbound]
            intro axis hmem
            obtain ⟨before, hbefore, rfl⟩ := List.mem_map.mp hmem
            exact (ih before hbefore).sync _ _
          · simp only [Manager.step, processSyncLocked, hbound]
            exact ih
      | bindOD od writes => exact AxisReachable.bindOD writes _ ih
      | communicationReset =>
          intro axis hmem
          obtain ⟨before, hbefore, rfl⟩ := List.mem_map.mp hmem
          exact (ih before hbefore).reset

end CanopenRtt.Cia402.Device
