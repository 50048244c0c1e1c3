import CanopenRtt.Cia402.Device.Frame
/-!
# What every reachable manager has

A bound manager has the base objects of all its axes cached, and no two axes of
a manager share a logical device.
-/

namespace CanopenRtt.Cia402.Device

/-! ## The cached entries of a bound manager -/

/-- Every base object of the axis is cached. -/
def Axis.Bound (axis : Axis) : Prop :=
  ∀ contract ∈ baseContracts, axis.od contract.cache ≠ none

theorem Axis.Bound.congr {axis other : Axis} (h : axis.Bound) (hod : other.od = axis.od) :
    other.Bound := by
  intro contract hcontract
  rw [hod]
  exact h contract hcontract

theorem Axis.Bound.controlword {axis : Axis} (h : axis.Bound) : axis.od .controlword ≠ none :=
  h ⟨0x6040, 2, odaSdoRW ||| odaRpdo ||| odaMb, .controlword⟩ (by simp [baseContracts])

theorem Axis.Bound.statusword {axis : Axis} (h : axis.Bound) : axis.od .statusword ≠ none :=
  h ⟨0x6041, 2, odaSdoR ||| odaTpdo ||| odaMb, .statusword⟩ (by simp [baseContracts])

/-- A stage that drops no cached entry. -/
def BindStage.Keeps (stage : BindStage) : Prop :=
  ∀ axis slot, axis.od slot ≠ none → (stage axis).1.od slot ≠ none

theorem cacheEntry_keeps (slot cached : ObjectSlot) (index : Nat) {axis : Axis}
    (h : axis.od cached ≠ none) : (cacheEntry slot index axis).od cached ≠ none := by
  unfold cacheEntry
  by_cases hsame : cached = slot
  · rw [hsame]
    simp
  · simp only [Function.update_of_ne hsame]
    exact h

theorem BindStage.Keeps.next {first second : BindStage} (h₁ : first.Keeps) (h₂ : second.Keeps) :
    (first.next second).Keeps := by
  intro axis slot hslot
  have hfirst := h₁ axis slot hslot
  unfold BindStage.next
  split
  · rename_i axis' heq
    rw [heq] at hfirst
    exact h₂ axis' slot hfirst
  · rename_i axis' diag heq
    rw [heq] at hfirst
    exact hfirst

/-- Both stages of an accepted axis have accepted it. -/
theorem BindStage.next_accepted {first second : BindStage} {axis : Axis}
    (h : (first.next second axis).2 = none) :
    (first axis).2 = none ∧ first.next second axis = second (first axis).1 := by
  unfold BindStage.next at h ⊢
  split at h
  · rename_i axis' heq
    simp only [heq, and_self]
  · exact absurd h (by simp)

theorem validateOneScalar_keeps (od : ObjectDictionary) (contract : ODContract) :
    (validateOneScalar od contract).Keeps := by
  intro axis slot hslot
  unfold validateOneScalar
  simp only
  split
  · exact hslot
  · split_ifs
    · exact hslot
    · split
      · exact hslot
      · exact cacheEntry_keeps _ _ _ hslot

theorem validateScalarContracts_keeps (od : ObjectDictionary) (contracts : List ODContract) :
    (validateScalarContracts od contracts).Keeps := by
  induction contracts with
  | nil => exact fun axis slot hslot => hslot
  | cons contract contracts ih => exact (validateOneScalar_keeps od contract).next ih

/-- An accepted contract table leaves each of its rows cached. -/
theorem validateScalarContracts_caches {od : ObjectDictionary} {contracts : List ODContract}
    {axis : Axis} (h : (validateScalarContracts od contracts axis).2 = none) :
    ∀ contract ∈ contracts,
      (validateScalarContracts od contracts axis).1.od contract.cache ≠ none := by
  induction contracts generalizing axis with
  | nil => exact fun contract hcontract => absurd hcontract List.not_mem_nil
  | cons first contracts ih =>
      obtain ⟨hfirst, hnext⟩ := BindStage.next_accepted h
      rw [validateScalarContracts] at h ⊢
      rw [hnext] at h ⊢
      have hcached : (validateOneScalar od first axis).1.od first.cache ≠ none := by
        unfold validateOneScalar at hfirst ⊢
        simp only at hfirst ⊢
        split at hfirst
        · exact absurd hfirst (by simp)
        · split_ifs at hfirst ⊢
          split at hfirst
          · exact absurd hfirst (by simp)
          · simp [cacheEntry]
      intro contract hcontract
      rcases List.mem_cons.mp hcontract with rfl | hrest
      · exact validateScalarContracts_keeps od contracts _ _ hcached
      · exact ih h contract hrest

theorem whenSupported_keeps (mode : BitVec 32) {stage : BindStage} (h : stage.Keeps) :
    (whenSupported mode stage).Keeps := by
  intro axis slot hslot
  unfold whenSupported
  split_ifs
  · exact h axis slot hslot
  · exact hslot

theorem validateHomingSpeeds_keeps (od : ObjectDictionary) : (validateHomingSpeeds od).Keeps := by
  intro axis slot hslot
  unfold validateHomingSpeeds
  simp only
  split
  · exact hslot
  · split_ifs
    · exact hslot
    · split
      · exact hslot
      · exact cacheEntry_keeps _ _ _ hslot

theorem validateExtensionOwnership_keeps (od : ObjectDictionary) :
    (validateExtensionOwnership od).Keeps := by
  intro axis slot hslot
  unfold validateExtensionOwnership
  simp only
  split_ifs <;> exact hslot

theorem validateModeObjects_keeps (od : ObjectDictionary) : (validateModeObjects od).Keeps := by
  have hscalar := validateScalarContracts_keeps od
  exact (whenSupported_keeps _ (hscalar ppContracts)).next
    ((whenSupported_keeps _ (hscalar pvContracts)).next
      ((whenSupported_keeps _
          ((hscalar hmContracts).next (validateHomingSpeeds_keeps od))).next
        (whenSupported_keeps _ (hscalar cstContracts))))

/-- A validated axis has every base object cached. -/
theorem validateAxis_bound {od : ObjectDictionary} {axis : Axis}
    (h : (validateAxis od axis).2 = none) : (validateAxis od axis).1.Bound := by
  have hmodes := validateModeObjects_keeps od
  obtain ⟨hbase, hnext⟩ := BindStage.next_accepted h
  intro contract hcontract
  rw [validateAxis, hnext]
  exact (hmodes.next (validateExtensionOwnership_keeps od)) _ _
    (validateScalarContracts_caches hbase contract hcontract)

theorem od_publishAxis (writes : LogicalDevice → BindWrites) (axis : Axis) :
    (publishAxis writes axis).1.od = axis.od := by
  unfold publishAxis restoreAxis
  dsimp only
  split_ifs <;> rfl

/-- A loop without a failure has accepted every axis. -/
theorem forEachAxis_accepted {stage : BindStage} {axes : List Axis}
    (h : (forEachAxis stage axes).2 = none) :
    (forEachAxis stage axes).1 = axes.map (fun axis => (stage axis).1) ∧
      ∀ axis ∈ axes, (stage axis).2 = none := by
  induction axes with
  | nil => exact ⟨rfl, fun axis hmem => absurd hmem List.not_mem_nil⟩
  | cons first rest ih =>
      unfold forEachAxis at h ⊢
      split at h
      · exact absurd h (by simp)
      · rename_i first' hfirst
        obtain ⟨haxes, haccepted⟩ := ih h
        simp only [hfirst, haxes, List.map_cons, List.mem_cons]
        refine ⟨trivial, ?_⟩
        rintro axis (rfl | hrest)
        · rw [hfirst]
        · exact haccepted axis hrest

theorem bound_bindOD {writes : LogicalDevice → BindWrites} {manager : Manager}
    (haxes : manager.odBound = true → ∀ axis ∈ manager.axes, axis.Bound)
    (hbound : (bindOD writes manager).1.odBound = true) :
    ∀ axis ∈ (bindOD writes manager).1.axes, axis.Bound := by
  unfold bindOD at hbound ⊢
  split_ifs at hbound ⊢
  · exact haxes hbound
  · split at hbound
    · exact absurd hbound Bool.false_ne_true
    · rename_i validated hvalidate
      split at hbound
      · exact absurd hbound Bool.false_ne_true
      · rename_i published hpublish
        obtain ⟨hvalidated, haccepted⟩ := forEachAxis_accepted (congrArg Prod.snd hvalidate)
        obtain ⟨hpublished, -⟩ := forEachAxis_accepted (congrArg Prod.snd hpublish)
        rw [hvalidate] at hvalidated
        rw [hpublish] at hpublished
        dsimp only at hvalidated hpublished
        dsimp only
        rw [hpublished, hvalidated]
        intro axis hmem
        obtain ⟨middle, hmiddle, rfl⟩ := List.mem_map.mp hmem
        obtain ⟨before, hbefore, rfl⟩ := List.mem_map.mp hmiddle
        exact (validateAxis_bound (haccepted before hbefore)).congr (od_publishAxis writes _)

/-- Every axis of a reachable bound manager has its base objects cached. -/
theorem Reachable.bound {manager : Manager} (h : Reachable manager) :
    manager.odBound = true → ∀ axis ∈ manager.axes, axis.Bound := by
  induction h with
  | init h =>
      intro hbound
      unfold managerInit at h
      split at h
      · exact absurd h (by simp)
      · simp only at h
        have hbind := bound_bindOD (fun hfalse => absurd hfalse Bool.false_ne_true) (by
          split_ifs at h <;> obtain ⟨hmanager, -⟩ := Prod.mk.inj h <;>
            (rw [← Option.some.inj hmanager] at hbound; exact hbound))
        split_ifs at h
        · obtain ⟨hmanager, -⟩ := Prod.mk.inj h
          rw [← Option.some.inj hmanager]
          intro axis hmem
          obtain ⟨before, hbefore, rfl⟩ := List.mem_map.mp hmem
          exact (hbind before hbefore).congr rfl
        · obtain ⟨hmanager, -⟩ := Prod.mk.inj h
          rw [← Option.some.inj hmanager]
          exact hbind
  | step _ step ih =>
      rename_i manager _
      cases step with
      | process inputs =>
          simp only [Manager.step, process]
          split_ifs
          · exact ih
          · intro hbound axis hmem
            obtain ⟨before, hbefore, rfl⟩ := List.mem_map.mp hmem
            refine (ih hbound before hbefore).congr ?_
            exact (congrArg Fixed.od (fixed_processAxis _ before)).trans (by
              unfold updateModeRequest
              split <;> rfl)
      | processSync inputs =>
          by_cases hbound : manager.odBound = true
          · simp only [Manager.step, processSyncLocked_axes inputs manager hbound]
            intro _ axis hmem
            obtain ⟨before, hbefore, rfl⟩ := List.mem_map.mp hmem
            refine (ih hbound before hbefore).congr ?_
            rw [(syncAxis_only _ _ before).eq]
          · simp only [Manager.step, processSyncLocked, hbound]
            exact ih
      | bindOD od writes => exact bound_bindOD ih
      | communicationReset =>
          intro hbound axis hmem
          obtain ⟨before, hbefore, rfl⟩ := List.mem_map.mp hmem
          exact (ih hbound before hbefore).congr rfl

/-! ## The logical devices of a manager -/

/-- An accepted configuration keeps its logical device, which no later one names. -/
theorem validateConfig_device {config : AxisConfig} {later : List AxisConfig}
    {valid : ValidAxisConfig} (h : validateConfig config later = .ok valid) :
    valid.logicalDevice.val = config.logicalDevice.toNat ∧
      ∀ other ∈ later, other.logicalDevice ≠ config.logicalDevice := by
  unfold validateConfig at h
  cases hdrive : config.drive with
  | none =>
      rw [hdrive] at h
      split_ifs at h
  | some drive =>
      rw [hdrive] at h
      dsimp only at h
      split_ifs at h with hdevice hvalid hdiag hduplicate
      obtain rfl := Except.ok.inj h
      refine ⟨rfl, fun other hother hsame => hduplicate ?_⟩
      rw [List.any_eq_true]
      exact ⟨other, hother, by simp [hsame]⟩

theorem validateConfigList_devices {configs : List AxisConfig} {valid : List ValidAxisConfig}
    (h : validateConfigList configs = .ok valid) :
    (valid.map ValidAxisConfig.logicalDevice).Nodup ∧
      ∀ accepted ∈ valid, ∃ config ∈ configs,
        accepted.logicalDevice.val = config.logicalDevice.toNat := by
  induction configs generalizing valid with
  | nil =>
      obtain rfl := Except.ok.inj h
      exact ⟨List.nodup_nil, fun accepted hmem => absurd hmem List.not_mem_nil⟩
  | cons config rest ih =>
      rw [validateConfigList] at h
      cases hfirst : validateConfig config rest with
      | error diag =>
          rw [hfirst] at h
          exact absurd h (by simp [bind, Except.bind])
      | ok first =>
          cases hrest : validateConfigList rest with
          | error diag =>
              rw [hfirst, hrest] at h
              exact absurd h (by simp [bind, Except.bind])
          | ok validRest =>
              rw [hfirst, hrest] at h
              obtain rfl : first :: validRest = valid := Except.ok.inj h
              obtain ⟨hdevice, hlater⟩ := validateConfig_device hfirst
              obtain ⟨hnodup, hsource⟩ := ih hrest
              constructor
              · rw [List.map_cons, List.nodup_cons]
                refine ⟨fun hmem => ?_, hnodup⟩
                obtain ⟨accepted, haccepted, hsame⟩ := List.mem_map.mp hmem
                obtain ⟨other, hother, heq⟩ := hsource accepted haccepted
                refine hlater other hother (BitVec.eq_of_toNat_eq ?_)
                rw [← heq, hsame, hdevice]
              · intro accepted hmem
                rcases List.mem_cons.mp hmem with rfl | hmem
                · exact ⟨config, List.mem_cons_self, hdevice⟩
                · obtain ⟨other, hother, heq⟩ := hsource accepted hmem
                  exact ⟨other, List.mem_cons_of_mem _ hother, heq⟩

theorem devices_bindOD (writes : LogicalDevice → BindWrites) (manager : Manager) :
    (bindOD writes manager).1.axes.map Axis.logicalDevice =
      manager.axes.map Axis.logicalDevice := by
  have hpublish : ∀ axis, (publishAxis writes axis).1.logicalDevice = axis.logicalDevice := by
    intro axis
    unfold publishAxis restoreAxis
    dsimp only
    split_ifs <;> rfl
  have hvalidated :=
    logicalDevice_forEachAxis (logicalDevice_validateAxis manager.od) manager.axes
  unfold bindOD
  split_ifs
  · rfl
  · split
    · rename_i heq
      rw [heq] at hvalidated
      exact hvalidated
    · rename_i axes heq
      rw [heq] at hvalidated
      have hpublished := logicalDevice_forEachAxis hpublish axes
      split
      · rename_i heq'
        rw [heq'] at hpublished
        exact hpublished.trans hvalidated
      · rename_i heq'
        rw [heq'] at hpublished
        exact hpublished.trans hvalidated

theorem logicalDevice_processAxis (inputs : PassInputs) (axis : Axis) :
    (processAxis inputs axis).logicalDevice = axis.logicalDevice := by
  have hfixed := congrArg Fixed.logicalDevice (fixed_processAxis inputs axis)
  rw [Axis.fixed_logicalDevice] at hfixed
  rw [hfixed]
  unfold updateModeRequest
  split <;> rfl

theorem devices_step (manager : Manager) (step : Step) :
    (manager.step step).axes.map Axis.logicalDevice = manager.axes.map Axis.logicalDevice := by
  cases step with
  | process inputs =>
      simp only [Manager.step, process]
      split_ifs
      · rfl
      · rw [List.map_map]
        exact List.map_congr_left fun axis _ => logicalDevice_processAxis _ axis
  | processSync inputs =>
      by_cases hbound : manager.odBound = true
      · simp only [Manager.step, processSyncLocked_axes inputs manager hbound, List.map_map]
        exact List.map_congr_left fun axis _ => (syncAxis_only _ _ axis).logicalDevice
      · simp only [Manager.step, processSyncLocked, hbound]
        rfl
  | bindOD od writes => exact devices_bindOD writes _
  | communicationReset =>
      simp only [Manager.step, onCommunicationReset, List.map_map]
      exact List.map_congr_left fun axis _ => rfl

/-- No two axes of a manager share a logical device. -/
theorem Reachable.nodup {manager : Manager} (h : Reachable manager) :
    (manager.axes.map Axis.logicalDevice).Nodup := by
  induction h with
  | @init _ _ configs _ written _ _ h =>
      unfold managerInit at h
      split at h
      · exact absurd h (by simp)
      · rename_i valid hvalid
        have hlist : validateConfigList configs = .ok valid := by
          unfold validateConfigs at hvalid
          split_ifs at hvalid
          exact hvalid
        have hdevices := (validateConfigList_devices hlist).1
        simp only at h
        split_ifs at h
        · obtain ⟨hmanager, -⟩ := Prod.mk.inj h
          rw [← Option.some.inj hmanager, List.map_map]
          have hinitial : Axis.logicalDevice ∘ publishInitial written = Axis.logicalDevice := rfl
          rw [hinitial, devices_bindOD, List.map_map]
          exact hdevices
        · obtain ⟨hmanager, -⟩ := Prod.mk.inj h
          rw [← Option.some.inj hmanager, devices_bindOD, List.map_map]
          exact hdevices
  | step _ step ih =>
      rw [devices_step]
      exact ih

end CanopenRtt.Cia402.Device
