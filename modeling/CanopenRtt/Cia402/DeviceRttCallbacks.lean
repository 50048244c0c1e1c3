import CanopenRtt.Cia402.DeviceRttSteps
/-!
# The callbacks of the Device adapter

One specification for each callback: what it leaves of the manager, of the marks in the dictionary
and of the error bits in the Emergency object.
-/

namespace CanopenRtt.Cia402.Device

open CanopenRtt.Support CanopenRtt.Lifecycle

/-! ## The error bits -/

theorem diagErrorBit_injective :
    ∀ first second : LogicalDevice, diagErrorBit first = diagErrorBit second → first = second := by
  decide

/-- The Emergency object has been told about the axis. -/
def Axis.Told (axis : Axis) (emcy : List EmcyCall) : Prop :=
  errorStatus (diagErrorBit axis.logicalDevice) emcy = axis.diagnosis.active

/-- The calls concern the error bits of the axes only. -/
def Addressed (emcy : List EmcyCall) : Prop :=
  ∀ call ∈ emcy, ∃ device : LogicalDevice, call.errorBit = diagErrorBit device

theorem status_foreign {errorBit : BitVec 8} {call : EmcyCall} (h : call.errorBit ≠ errorBit)
    (set : Bool) : EmcyCall.status errorBit set call = set :=
  if_neg h

theorem run_status_foreign {errorBit : BitVec 8} {calls : List EmcyCall}
    (h : ∀ call ∈ calls, call.errorBit ≠ errorBit) (set : Bool) :
    run (EmcyCall.status errorBit) set calls = set := by
  induction calls with
  | nil => rfl
  | cons call calls ih =>
      rw [List.forall_mem_cons] at h
      rw [run_cons, status_foreign h.1]
      exact ih h.2

theorem drainAxis_spec {axis : Axis} (h : axis.Slotted) :
    CommunicationStep axis (drainAxis axis).1 ∧ (drainAxis axis).1.diagnosis.pending = false ∧
      (∀ call ∈ (drainAxis axis).2, call.errorBit = diagErrorBit axis.logicalDevice) ∧
      ∀ set, run (EmcyCall.status (diagErrorBit axis.logicalDevice)) set (drainAxis axis).2 =
        if axis.diagnosis.pending then axis.diagnosis.active else set := by
  unfold drainAxis takePendingEvent
  by_cases hpending : axis.diagnosis.pending = true
  · obtain ⟨-, hbit, htype⟩ := h hpending
    have hcall : ∃ call, emcyCall axis.diagnosis.event = some call ∧
        call.errorBit = diagErrorBit axis.logicalDevice ∧
        ∀ set, call.status (diagErrorBit axis.logicalDevice) set = axis.diagnosis.active := by
      unfold emcyCall
      cases hactive : axis.diagnosis.active with
      | true =>
          rw [hactive, if_pos rfl] at htype
          rw [htype]
          exact ⟨_, rfl, hbit, fun set => if_pos hbit⟩
      | false =>
          rw [hactive, if_neg Bool.false_ne_true] at htype
          rw [htype]
          exact ⟨_, rfl, hbit, fun set => if_pos hbit⟩
    obtain ⟨call, hsome, hcall, hstatus⟩ := hcall
    simp only [hpending, Bool.not_true, Bool.false_eq_true, if_false, if_true, Option.bind_some,
      hsome, Option.toList_some]
    exact ⟨⟨rfl, fun _ hnone => absurd hnone Bool.false_ne_true⟩, trivial,
      List.forall_mem_singleton.mpr hcall, hstatus⟩
  · rw [Bool.not_eq_true] at hpending
    simp only [hpending, Bool.not_false, if_true, Option.bind_none, Option.toList_none]
    exact ⟨.refl axis, trivial, List.forall_mem_nil _, fun set => rfl⟩

theorem run_status_flush {axes : List Axis} (hnodup : (axes.map Axis.logicalDevice).Nodup)
    (hslotted : ∀ axis ∈ axes, axis.Slotted) {axis : Axis} (hmem : axis ∈ axes) (set : Bool) :
    run (EmcyCall.status (diagErrorBit axis.logicalDevice)) set
        (axes.flatMap fun axis => (drainAxis axis).2) =
      if axis.diagnosis.pending then axis.diagnosis.active else set := by
  have hforeign : ∀ other : Axis, other.Slotted → other.logicalDevice ≠ axis.logicalDevice →
      ∀ call ∈ (drainAxis other).2, call.errorBit ≠ diagErrorBit axis.logicalDevice := by
    intro other hother hdevice call hcall hbit
    rw [(drainAxis_spec hother).2.2.1 call hcall] at hbit
    exact hdevice (diagErrorBit_injective _ _ hbit)
  induction axes generalizing set with
  | nil => exact absurd hmem List.not_mem_nil
  | cons first axes ih =>
      rw [List.map_cons, List.nodup_cons] at hnodup
      rw [List.forall_mem_cons] at hslotted
      rw [List.flatMap_cons, run_append]
      rcases List.mem_cons.mp hmem with rfl | hmem
      · rw [(drainAxis_spec hslotted.1).2.2.2]
        apply run_status_foreign
        intro call hcall
        obtain ⟨other, hother, hcall⟩ := List.mem_flatMap.mp hcall
        refine hforeign other (hslotted.2 other hother) (fun hsame => hnodup.1 ?_) call hcall
        rw [← hsame]
        exact List.mem_map_of_mem hother
      · rw [run_status_foreign (hforeign first hslotted.1 fun hsame => hnodup.1 ?_)]
        · exact ih hnodup.2 hslotted.2 hmem set
        · rw [hsame]
          exact List.mem_map_of_mem hmem

/-- An axis that waits to report, or has reported, has reported after a flush. -/
theorem told_flush {axes : List Axis} (hnodup : (axes.map Axis.logicalDevice).Nodup)
    (hslotted : ∀ axis ∈ axes, axis.Slotted) {emcy : List EmcyCall}
    (htold : ∀ axis ∈ axes, axis.diagnosis.pending = true ∨ axis.Told emcy) :
    ∀ axis ∈ axes.map fun axis => (drainAxis axis).1, axis.diagnosis.pending = false ∧
      axis.Told (emcy ++ axes.flatMap fun axis => (drainAxis axis).2) := by
  intro drained hdrained
  obtain ⟨axis, hmem, rfl⟩ := List.mem_map.mp hdrained
  obtain ⟨hstep, hpending, -⟩ := drainAxis_spec (hslotted axis hmem)
  refine ⟨hpending, ?_⟩
  unfold Axis.Told errorStatus
  rw [hstep.device, hstep.active, run_append, run_status_flush hnodup hslotted hmem]
  split_ifs with hwaiting
  · rfl
  · exact (htold axis hmem).resolve_left hwaiting

/-! ## The callbacks -/

theorem of_present {manager : Manager} {P : Manager → Prop} (h : P manager) :
    ∀ other, some manager = some other → P other := by
  intro other hother
  rw [← Option.some.inj hother]
  exact h

/-- The manager is still there, and no drive has noticed. -/
def Still (before after : Option Manager) : Prop :=
  ∀ manager, before = some manager → ∃ next, after = some next ∧
    List.Forall₂ CommunicationStep manager.axes next.axes

theorem Still.refl (manager : Option Manager) : Still manager manager :=
  fun some hsome => ⟨some, hsome, List.forall₂_same.mpr fun axis _ => .refl axis⟩

/-- The two ways a bind ends. -/
inductive BindOutcome (runtime : DeviceRtt) (od : ObjectDictionary) :
    DeviceRtt × ObjectDictionary × RtErr → Prop where
  | bound (manager : Manager) (bound : ObjectDictionary)
      (still : Still runtime.manager (some manager)) (kept : manager.Kept)
      (hbound : manager.Bound bound) (armed : manager.Armed) :
      BindOutcome runtime od ({ runtime with manager := some manager }, bound, .ok)
  | failed (manager : Option Manager) (still : Still runtime.manager manager)
      (kept : ∀ failed, manager = some failed → failed.Kept ∧ failed.odBound = false) :
      BindOutcome runtime od ({ runtime with manager := manager }, od, .error)

namespace DeviceRtt

variable {runtime : DeviceRtt} {od : ObjectDictionary} {manager : Manager}

theorem onCommunicationBind_spec (answers : BindAnswers) (hmarked : Marked [] od)
    (hkept : ∀ manager, runtime.manager = some manager → manager.Kept) :
    BindOutcome runtime od (runtime.onCommunicationBind answers od) := by
  unfold onCommunicationBind
  split
  · next hnone =>
      have hnothing {after : Option Manager} : Still runtime.manager after := by
        intro manager hsome
        rw [hnone] at hsome
        cases hsome
      have hfailed : BindOutcome runtime od (runtime, od, .error) := by
        apply BindOutcome.failed runtime.manager (.refl _)
        intro failed hsome
        rw [hnone] at hsome
        cases hsome
      split
      · next manager diag heq =>
          have hinit := managerInit_ok hmarked heq
          split_ifs at hinit ⊢ with hok
          · exact .bound manager _ hnothing hinit.1 hinit.2.1 hinit.2.2
          · rw [hinit]
            exact hfailed
      · exact hfailed
  · next manager hsome =>
      have hbefore : { manager with od := od }.Kept :=
        ⟨(hkept manager hsome).nonempty, (hkept manager hsome).nodup, (hkept manager hsome).slotted⟩
      have hstep := communicationStep_bindOD answers.writes { manager with od := od }
      have haccepted := @bindOD_ok answers.writes { manager with od := od } hbefore hmarked
      have hfailed := @bindOD_failed answers.writes { manager with od := od }
      generalize bindOD answers.writes { manager with od := od } = bound at *
      have hstill {after : Manager}
          (hafter : List.Forall₂ CommunicationStep bound.1.axes after.axes) :
          Still runtime.manager (some after) := by
        intro before hbefore
        rw [hsome] at hbefore
        rw [← Option.some.inj hbefore]
        exact ⟨after, rfl, forall₂_trans hstep hafter⟩
      dsimp only
      split_ifs with hok
      · obtain ⟨hbound, harmed⟩ := haccepted hok
        have hreset : List.Forall₂ CommunicationStep bound.1.axes
            (onCommunicationReset bound.1).axes := forall₂_map communicationStep_syncReset _
        have hkeptReset : (onCommunicationReset bound.1).Kept :=
          (hbefore.step hstep).step hreset
        have hboundReset : (onCommunicationReset bound.1).Bound bound.1.od :=
          hbound.map fun axis => ⟨rfl, rfl, rfl⟩
        apply BindOutcome.bound _ _ (hstill hreset) hkeptReset hboundReset
        intro axis hmem
        obtain ⟨before, hbefore, rfl⟩ := List.mem_map.mp hmem
        exact harmed before hbefore
      · obtain ⟨hod, hunbound⟩ := hfailed hok
        rw [hod]
        apply BindOutcome.failed (some bound.1)
          (hstill (List.forall₂_same.mpr fun axis _ => .refl axis))
        exact of_present ⟨hbefore.step hstep, hunbound hbefore.nonempty⟩

theorem drain_step (hkept : manager.Kept) : List.Forall₂ CommunicationStep manager.axes
    (manager.axes.map fun axis => (drainAxis axis).1) := by
  rw [List.forall₂_map_right_iff, List.forall₂_same]
  exact fun axis hmem => (drainAxis_spec (hkept.slotted axis hmem)).1

theorem flushDiagnostics_still (hkept : ∀ manager, runtime.manager = some manager → manager.Kept) :
    Still runtime.manager runtime.flushDiagnostics.1.manager := by
  intro manager hsome
  unfold flushDiagnostics
  rw [hsome]
  exact ⟨_, rfl, drain_step (hkept manager hsome)⟩

theorem flushDiagnostics_spec (hsome : runtime.manager = some manager) (hkept : manager.Kept)
    {emcy : List EmcyCall}
    (htold : ∀ axis ∈ manager.axes, axis.diagnosis.pending = true ∨ axis.Told emcy) :
    ∃ after, runtime.flushDiagnostics.1 = { runtime with manager := some after } ∧ after.Kept ∧
      (∀ od, manager.Bound od → after.Bound od) ∧
      (∀ axis ∈ after.axes, axis.diagnosis.pending = false ∧
        axis.Told (emcy ++ runtime.flushDiagnostics.2)) ∧
      Addressed runtime.flushDiagnostics.2 := by
  have hframe (axis : Axis) : (drainAxis axis).1.od = axis.od ∧
      (drainAxis axis).1.logicalDevice = axis.logicalDevice ∧
      (drainAxis axis).1.supportedModes = axis.supportedModes := by
    unfold drainAxis takePendingEvent
    split_ifs
    · exact ⟨rfl, rfl, rfl⟩
    · exact ⟨rfl, rfl, rfl⟩
  have haddressed : Addressed (manager.axes.flatMap fun axis => (drainAxis axis).2) := by
    intro call hcall
    obtain ⟨axis, hmem, hcall⟩ := List.mem_flatMap.mp hcall
    exact ⟨axis.logicalDevice, (drainAxis_spec (hkept.slotted axis hmem)).2.2.1 call hcall⟩
  unfold flushDiagnostics
  rw [hsome]
  exact ⟨{ manager with axes := manager.axes.map fun axis => (drainAxis axis).1 }, rfl,
    hkept.step (drain_step hkept), fun od hbound => hbound.map hframe,
    told_flush hkept.nodup hkept.slotted htold, haddressed⟩

theorem unbindOwnedExtensions_still :
    Still runtime.manager (runtime.unbindOwnedExtensions od).1.manager := by
  intro manager hsome
  unfold unbindOwnedExtensions
  rw [hsome]
  exact ⟨_, rfl, List.forall₂_same.mpr fun axis _ => .refl axis⟩

theorem unbindOwnedExtensions_spec (hsome : runtime.manager = some manager)
    (hkept : manager.Kept) (hbound : manager.Bound od) :
    Marked [] (runtime.unbindOwnedExtensions od).2 ∧
      ∃ after, (runtime.unbindOwnedExtensions od).1 = { runtime with manager := some after } ∧
        after.axes = manager.axes ∧ after.odBound = false := by
  unfold unbindOwnedExtensions
  rw [hsome]
  refine ⟨?_, _, rfl, rfl, rfl⟩
  dsimp only
  rw [foldl_unbindAxis_eq hbound.full]
  exact hbound.marked.release_all ours_of_deviceMarks (nodup_deviceMarks hkept.nodup)

theorem processPassLocked_spec (inputs : LogicalDevice → PassInputs) {stack canNormal : Bool}
    (hsome : runtime.manager = some manager) (hkept : manager.Kept) (hbound : manager.Bound od)
    {emcy : List EmcyCall}
    (htold : ∀ axis ∈ manager.axes, axis.diagnosis.pending = false ∧ axis.Told emcy) :
    ∃ after, (runtime.processPassLocked inputs stack canNormal).1 =
        { runtime with manager := some after } ∧ after.Kept ∧ after.Bound od ∧
      (∀ axis ∈ after.axes, axis.diagnosis.pending = false ∧
        axis.Told (emcy ++ (runtime.processPassLocked inputs stack canNormal).2)) ∧
      Addressed (runtime.processPassLocked inputs stack canNormal).2 := by
  unfold processPassLocked
  split_ifs
  · refine ⟨manager, ?_, hkept, hbound, ?_, List.forall_mem_nil _⟩
    · rw [← hsome]
    · rw [List.append_nil]
      exact htold
  · rw [hsome]
    dsimp only
    have hprocessed : process inputs manager = { manager with
        axes := manager.axes.map fun axis => processAxis (inputs axis.logicalDevice) axis } := by
      unfold process
      rw [hbound.odBound]
      rfl
    have hslots : ∀ axis ∈ (process inputs manager).axes, ∃ before ∈ manager.axes,
        SlotStep before axis := by
      rw [hprocessed]
      intro axis hmem
      obtain ⟨before, hbefore, rfl⟩ := List.mem_map.mp hmem
      exact ⟨before, hbefore, slotStep_processAxis _ before⟩
    have hpassed : (process inputs manager).Kept := by
      refine ⟨?_, ?_, ?_⟩
      · rw [hprocessed]
        exact fun hempty => hkept.nonempty (List.map_eq_nil_iff.mp hempty)
      · have hdevices := devices_step manager (.process inputs)
        rw [Manager.step] at hdevices
        rw [hdevices]
        exact hkept.nodup
      · intro axis hmem
        obtain ⟨before, hbefore, hslot⟩ := hslots axis hmem
        exact hslot.slotted (hkept.slotted before hbefore)
    have hboundAfter : (process inputs manager).Bound od := by
      rw [hprocessed]
      exact hbound.map fun axis => ⟨od_processAxis _ axis, logicalDevice_processAxis _ axis,
        supportedModes_processAxis _ axis⟩
    have hwaits : ∀ axis ∈ (process inputs manager).axes,
        axis.diagnosis.pending = true ∨ axis.Told emcy := by
      intro axis hmem
      obtain ⟨before, hbefore, hslot⟩ := hslots axis hmem
      rcases hslot.slot with ⟨-, -, hactive⟩ | hlatest
      · right
        unfold Axis.Told
        rw [hslot.device, hactive]
        exact (htold before hbefore).2
      · exact .inl hlatest.pending
    obtain ⟨after, hafter, hkeptAfter, hboundNext, htoldAfter, haddressed⟩ :=
      @flushDiagnostics_spec { runtime with manager := some (process inputs manager) } _ rfl hpassed
        emcy hwaits
    exact ⟨after, hafter, hkeptAfter, hboundNext od hboundAfter, htoldAfter, haddressed⟩

theorem onSynchronousProcess_spec (inputs : LogicalDevice → SyncInputs)
    (hsome : runtime.manager = some manager) (hkept : manager.Kept) :
    ∃ after, runtime.onSynchronousProcess inputs = { runtime with manager := some after } ∧
      List.Forall₂ CommunicationStep manager.axes after.axes ∧ after.Kept ∧
      (∀ od, manager.Bound od → after.Bound od) ∧
      ∀ emcy, (∀ axis ∈ manager.axes, axis.diagnosis.pending = false ∧ axis.Told emcy) →
        ∀ axis ∈ after.axes, axis.diagnosis.pending = false ∧ axis.Told emcy := by
  unfold onSynchronousProcess
  rw [hsome]
  dsimp only
  split_ifs with hready
  · have hodBound : manager.odBound = true := (Bool.and_eq_true_iff.mp hready).2
    have haxes := processSyncLocked_axes inputs manager hodBound
    have hwhole : (processSyncLocked inputs manager).1 = { manager with
        axes := (processSyncLocked inputs manager).1.axes
        syncSequence := (processSyncLocked inputs manager).1.syncSequence } := by
      unfold processSyncLocked
      rw [hodBound]
      rfl
    have hsync (axis : Axis) : SyncOnly axis
        (syncAxis (inputs axis.logicalDevice) (manager.syncSequence + 1) axis) :=
      syncAxis_only _ _ axis
    have hcommunication (axis : Axis) : CommunicationStep axis
        (syncAxis (inputs axis.logicalDevice) (manager.syncSequence + 1) axis) := by
      rw [(hsync axis).eq]
      exact SlotStep.communication (.of_diagnosis rfl rfl) rfl
    have hstep := forall₂_map hcommunication manager.axes
    rw [← haxes] at hstep
    refine ⟨_, rfl, hstep, hkept.step hstep, fun od hbound => ?_, fun emcy htold => ?_⟩
    · have hmapped := hbound.map fun axis => (by
        rw [(hsync axis).eq]
        exact ⟨rfl, rfl, rfl⟩ :
          (syncAxis (inputs axis.logicalDevice) (manager.syncSequence + 1) axis).od = axis.od ∧ _)
      rw [hwhole, haxes]
      exact ⟨hmapped.odBound, hmapped.full, hmapped.marked⟩
    · rw [haxes]
      intro axis hmem
      obtain ⟨before, hbefore, rfl⟩ := List.mem_map.mp hmem
      rw [(hsync before).eq]
      exact htold before hbefore
  · refine ⟨manager, ?_, List.forall₂_same.mpr fun axis _ => .refl axis, hkept, fun _ => id,
      fun _ => id⟩
    rw [← hsome]

end DeviceRtt

end CanopenRtt.Cia402.Device
