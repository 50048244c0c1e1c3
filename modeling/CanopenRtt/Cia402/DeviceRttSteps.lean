import CanopenRtt.Cia402.Device.BindingExact
import CanopenRtt.Cia402.Device.EventSlot
import CanopenRtt.Cia402.DeviceRtt
/-!
# The axes under the adapter

The extensions of the axes as marks on dictionary entries, the events that a flush forwards, and the
outcomes of a bind.
-/

namespace CanopenRtt.Cia402.Device

open CanopenRtt.Lifecycle CanopenRtt.Profile CanopenRtt.Support

/-! ## Extensions -/

/-- The extensions that lie in the axes of the adapter. -/
def ExtensionOwner.Ours : ExtensionOwner → Prop
  | .controlword _ | .mode _ => True
  | .other _ => False

/-- Where the extensions of one logical device go. -/
def deviceMarks (device : LogicalDevice) : List (Nat × ExtensionOwner) :=
  [(profileIndex device 0x6040, .controlword device), (profileIndex device 0x6060, .mode device)]

/-- Exactly these entries point into the axes. -/
def Marked (marks : List (Nat × ExtensionOwner)) (od : ObjectDictionary) : Prop :=
  ∀ entry ∈ od, ∀ owner : ExtensionOwner, owner.Ours →
    (entry.extension = some owner ↔ (entry.index, owner) ∈ marks)

theorem index_of_odFind {od : ObjectDictionary} {index : Nat} {entry : ODEntry}
    (h : odFind od index = some entry) : entry.index = index := by
  unfold odFind at h
  have hsame := List.find?_some h
  exact beq_iff_eq.mp hsame

/-- Detach the extension at a mark, if it is still there. -/
def releaseMark (od : ObjectDictionary) (mark : Nat × ExtensionOwner) : ObjectDictionary :=
  if (odFind od mark.1).bind ODEntry.extension = some mark.2 then odExtensionRemove od mark.1
  else od

section

variable {marks : List (Nat × ExtensionOwner)} {mark : Nat × ExtensionOwner}
  {od : ObjectDictionary}

theorem not_mem_of_index {index : Nat} (h : index ∉ marks.map Prod.fst) (owner : ExtensionOwner) :
    (index, owner) ∉ marks :=
  fun hmem => h (List.mem_map_of_mem hmem)

theorem Marked.install (h : Marked marks od) (hnew : mark.1 ∉ marks.map Prod.fst) :
    Marked (mark :: marks) (odExtensionInit od mark.1 mark.2) := by
  intro entry hentry owner howner
  obtain ⟨before, hbefore, rfl⟩ := List.mem_map.mp hentry
  rw [List.mem_cons]
  by_cases hindex : before.index = mark.1
  · have hout := not_mem_of_index hnew owner
    rw [if_pos hindex, Option.some_inj]
    dsimp only
    rw [hindex]
    constructor
    · rintro rfl
      exact .inl rfl
    · rintro (heq | hmem)
      · rw [← heq]
      · exact absurd hmem hout
  · rw [if_neg hindex, h before hbefore owner howner]
    constructor
    · exact .inr
    · rintro (heq | hmem)
      · exact absurd (congrArg Prod.fst heq) hindex
      · exact hmem

theorem Marked.release (h : Marked (mark :: marks) od) (hours : mark.2.Ours)
    (hnodup : mark.1 ∉ marks.map Prod.fst) : Marked marks (releaseMark od mark) := by
  have hother : ∀ entry ∈ od, entry.index ≠ mark.1 → ∀ owner : ExtensionOwner, owner.Ours →
      (entry.extension = some owner ↔ (entry.index, owner) ∈ marks) := by
    intro entry hentry hindex owner howner
    rw [h entry hentry owner howner, List.mem_cons, or_iff_right]
    exact fun heq => hindex (congrArg Prod.fst heq)
  unfold releaseMark
  split_ifs with hfound
  · intro entry hentry owner howner
    obtain ⟨before, hbefore, rfl⟩ := List.mem_map.mp hentry
    by_cases hindex : before.index = mark.1
    · rw [if_pos hindex]
      dsimp only
      rw [hindex]
      exact ⟨fun hnone => absurd hnone.symm (Option.some_ne_none owner),
        fun hmem => absurd hmem (not_mem_of_index hnodup owner)⟩
    · rw [if_neg hindex]
      exact hother before hbefore hindex owner howner
  · intro entry hentry owner howner
    apply hother entry hentry _ owner howner
    intro hindex
    -- The first entry with the index has the mark, so it would have been released.
    have hthere : (odFind od mark.1).isSome = true :=
      List.find?_isSome.mpr ⟨entry, hentry, beq_iff_eq.mpr hindex⟩
    obtain ⟨first, hfirst⟩ := Option.isSome_iff_exists.mp hthere
    have hsame := index_of_odFind hfirst
    apply hfound
    rw [hfirst, Option.bind_some, h first (List.mem_of_find?_eq_some hfirst) mark.2 hours, hsame]
    exact List.mem_cons_self

theorem Marked.install_all {new : List (Nat × ExtensionOwner)} (h : Marked marks od)
    (hnodup : ((new ++ marks).map Prod.fst).Nodup) :
    Marked (new.reverse ++ marks)
      (new.foldl (fun od mark => odExtensionInit od mark.1 mark.2) od) := by
  induction new generalizing marks od with
  | nil => exact h
  | cons mark new ih =>
      rw [List.cons_append, List.map_cons, List.nodup_cons, List.map_append, List.mem_append,
        not_or] at hnodup
      rw [List.foldl_cons, List.reverse_cons, List.append_assoc, List.singleton_append]
      apply ih (h.install hnodup.1.2)
      rw [List.map_append, List.map_cons, List.nodup_middle, List.nodup_cons]
      exact ⟨by rw [List.mem_append, not_or]; exact hnodup.1, hnodup.2⟩

theorem Marked.release_all (h : Marked marks od) (hours : ∀ mark ∈ marks, mark.2.Ours)
    (hnodup : (marks.map Prod.fst).Nodup) : Marked [] (marks.foldl releaseMark od) := by
  induction marks generalizing od with
  | nil => exact h
  | cons mark marks ih =>
      rw [List.map_cons, List.nodup_cons] at hnodup
      rw [List.forall_mem_cons] at hours
      exact ih (h.release hours.1 hnodup.1) hours.2 hnodup.2

theorem Marked.congr {other : List (Nat × ExtensionOwner)} (h : Marked marks od)
    (hsame : ∀ mark, mark ∈ other ↔ mark ∈ marks) : Marked other od := by
  intro entry hentry owner howner
  rw [hsame]
  exact h entry hentry owner howner

end

theorem ours_of_deviceMarks {devices : List LogicalDevice} :
    ∀ mark ∈ devices.flatMap deviceMarks, mark.2.Ours := by
  intro mark hmark
  obtain ⟨device, -, hmark⟩ := List.mem_flatMap.mp hmark
  rcases List.mem_cons.mp hmark with rfl | hmark
  · trivial
  · rw [List.mem_singleton.mp hmark]
    trivial

theorem valid_device (device : LogicalDevice) : logicalDeviceValid device = true :=
  decide_eq_true device.isLt

/-- Different devices, and the two objects of one device, have different indices. -/
theorem nodup_deviceMarks {devices : List LogicalDevice} (h : devices.Nodup) :
    ((devices.flatMap deviceMarks).map Prod.fst).Nodup := by
  have hcanonical : ∀ {index : Nat}, index = 0x6040 ∨ index = 0x6060 →
      canonicalIndexValid index = true := by
    rintro _ (rfl | rfl) <;> rfl
  have hmem : ∀ {device : LogicalDevice} {index : Nat},
      index ∈ (deviceMarks device).map Prod.fst →
        ∃ canonical, (canonical = 0x6040 ∨ canonical = 0x6060) ∧
          index = profileIndex device canonical := by
    intro device index hindex
    rcases List.mem_cons.mp hindex with rfl | hindex
    · exact ⟨_, .inl rfl, rfl⟩
    · exact ⟨_, .inr rfl, List.mem_singleton.mp hindex⟩
  induction devices with
  | nil => exact List.nodup_nil
  | cons device devices ih =>
      rw [List.nodup_cons] at h
      rw [List.flatMap_cons, List.map_append, List.nodup_append]
      refine ⟨?_, ih h.2, ?_⟩
      · rw [deviceMarks, List.map_cons, List.map_singleton, List.nodup_cons, List.mem_singleton]
        refine ⟨fun heq => ?_, List.nodup_singleton _⟩
        have hsame := profileIndex_injective (valid_device device) (hcanonical (.inl rfl))
          (hcanonical (.inr rfl)) heq
        cases hsame
      · intro first hfirst second hsecond heq
        rw [List.map_flatMap] at hsecond
        obtain ⟨other, hother, hsecond⟩ := List.mem_flatMap.mp hsecond
        obtain ⟨i, hi, rfl⟩ := hmem hfirst
        obtain ⟨j, hj, rfl⟩ := hmem hsecond
        have hsame := profileIndex_device (valid_device device) (valid_device other)
          (hcanonical hi) (hcanonical hj) heq
        exact h.1 (Fin.ext hsame ▸ hother)

theorem controlword_mem_boundSlots (supportedModes : BitVec 32) :
    ObjectSlot.controlword ∈ boundSlots supportedModes ∧
      ObjectSlot.modesOfOperation ∈ boundSlots supportedModes := by
  unfold boundSlots
  constructor <;> exact List.mem_append_left _ (by simp [baseContracts])

section

variable {axes : List Axis} {axis : Axis} {od found : ObjectDictionary}

theorem install_eq (h : axis.FullyBound found) :
    installForwardingExtensions od axis =
      (deviceMarks axis.logicalDevice).foldl (fun od mark => odExtensionInit od mark.1 mark.2)
        od := by
  obtain ⟨hcontrolword, hmode⟩ := controlword_mem_boundSlots axis.supportedModes
  unfold installForwardingExtensions
  rw [(h _ hcontrolword).1, (h _ hmode).1]
  rfl

theorem unbindAxis_eq (h : axis.FullyBound found) :
    unbindAxis od axis = (deviceMarks axis.logicalDevice).foldl releaseMark od := by
  obtain ⟨hcontrolword, hmode⟩ := controlword_mem_boundSlots axis.supportedModes
  have hrelease {slot : ObjectSlot} {index : Nat} (owner : LogicalDevice → ExtensionOwner)
      (hslot : axis.od slot = some index) (od : ObjectDictionary) :
      releaseExtension slot owner axis od =
        releaseMark od (index, owner axis.logicalDevice) := by
    unfold releaseExtension releaseMark cachedExtension
    rw [hslot]
    rfl
  unfold unbindAxis
  rw [hrelease .controlword (h _ hcontrolword).1, hrelease .mode (h _ hmode).1]
  rfl

theorem foldl_install_eq (h : ∀ axis ∈ axes, axis.FullyBound found) :
    axes.foldl installForwardingExtensions od =
      ((axes.map Axis.logicalDevice).flatMap deviceMarks).foldl
        (fun od mark => odExtensionInit od mark.1 mark.2) od := by
  induction axes generalizing od with
  | nil => rfl
  | cons axis axes ih =>
      rw [List.forall_mem_cons] at h
      rw [List.foldl_cons, ih h.2, install_eq h.1, List.map_cons, List.flatMap_cons,
        List.foldl_append]

theorem foldl_unbindAxis_eq (h : ∀ axis ∈ axes, axis.FullyBound found) :
    axes.foldl unbindAxis od =
      ((axes.map Axis.logicalDevice).flatMap deviceMarks).foldl releaseMark od := by
  induction axes generalizing od with
  | nil => rfl
  | cons axis axes ih =>
      rw [List.forall_mem_cons] at h
      rw [List.foldl_cons, ih h.2, unbindAxis_eq h.1, List.map_cons, List.flatMap_cons,
        List.foldl_append]

/-- A marked entry of an axis forwards to the axis. -/
theorem cachedExtension_of_marked (h : axis.FullyBound od)
    (hmarked : Marked ((axes.map Axis.logicalDevice).flatMap deviceMarks) od) (hmem : axis ∈ axes) :
    cachedExtension od axis .controlword = some (.controlword axis.logicalDevice) ∧
      cachedExtension od axis .modesOfOperation = some (.mode axis.logicalDevice) := by
  obtain ⟨hcontrolword, hmode⟩ := controlword_mem_boundSlots axis.supportedModes
  have hdevice {mark : Nat × ExtensionOwner} (hmark : mark ∈ deviceMarks axis.logicalDevice) :
      mark ∈ (axes.map Axis.logicalDevice).flatMap deviceMarks :=
    List.mem_flatMap.mpr ⟨_, List.mem_map_of_mem hmem, hmark⟩
  have hcached {slot : ObjectSlot} (hslot : slot ∈ boundSlots axis.supportedModes)
      {owner : ExtensionOwner} (hours : owner.Ours)
      (hmark : (profileIndex axis.logicalDevice slot.axis0Index, owner) ∈
        deviceMarks axis.logicalDevice) : cachedExtension od axis slot = some owner := by
    obtain ⟨hindex, hfound⟩ := h slot hslot
    obtain ⟨entry, hentry⟩ := Option.isSome_iff_exists.mp hfound
    have hsame := index_of_odFind hentry
    unfold cachedExtension
    rw [hindex]
    change (odFind od _).bind ODEntry.extension = some owner
    rw [hentry, Option.bind_some, hmarked entry (List.mem_of_find?_eq_some hentry) owner hours,
      hsame]
    exact hdevice hmark
  exact ⟨hcached hcontrolword trivial List.mem_cons_self,
    hcached hmode trivial (List.mem_cons_of_mem _ List.mem_cons_self)⟩

end

/-! ## The slots of the axes -/

/-- The slot is empty, or holds the event of the diagnosis. -/
def Axis.Slotted (axis : Axis) : Prop :=
  axis.diagnosis.pending = true → axis.Latest

theorem SlotStep.slotted {before after : Axis} (h : SlotStep before after)
    (hbefore : before.Slotted) : after.Slotted := by
  intro hpending
  rcases h.slot with ⟨hsame, hevent, hactive⟩ | hlatest
  · have hlatest := hbefore (hsame ▸ hpending)
    exact ⟨hpending, by rw [hevent, hlatest.errorBit, h.device],
      by rw [hevent, hlatest.type, hactive]⟩
  · exact hlatest

/-- The drive of an axis: all but what belongs to the communication. -/
def Axis.drivePart (axis : Axis) : Axis :=
  { axis with
    od := fun _ => none
    image := {}
    syncRuntime := {}
    diagnosis := { axis.diagnosis with contractFailed := false, pending := false, event := {} } }

/-- What the callbacks of the communication do to an axis. -/
structure CommunicationStep (before after : Axis) : Prop where
  drive : after.drivePart = before.drivePart
  slotted : before.Slotted → after.Slotted

theorem CommunicationStep.refl (axis : Axis) : CommunicationStep axis axis := ⟨rfl, id⟩

theorem CommunicationStep.trans {before middle after : Axis} (h₁ : CommunicationStep before middle)
    (h₂ : CommunicationStep middle after) : CommunicationStep before after :=
  ⟨h₂.drive.trans h₁.drive, h₂.slotted ∘ h₁.slotted⟩

theorem SlotStep.communication {before after : Axis} (h : SlotStep before after)
    (hdrive : after.drivePart = before.drivePart) : CommunicationStep before after :=
  ⟨hdrive, h.slotted⟩

theorem CommunicationStep.device {before after : Axis} (h : CommunicationStep before after) :
    after.logicalDevice = before.logicalDevice := by
  change after.drivePart.logicalDevice = before.drivePart.logicalDevice
  rw [h.drive]

theorem CommunicationStep.active {before after : Axis} (h : CommunicationStep before after) :
    after.diagnosis.active = before.diagnosis.active := by
  change after.drivePart.diagnosis.active = before.drivePart.diagnosis.active
  rw [h.drive]

theorem drivePart_all {axes after : List Axis} (h : List.Forall₂ CommunicationStep axes after) :
    after.map Axis.drivePart = axes.map Axis.drivePart := by
  induction h with
  | nil => rfl
  | cons hstep _ ih => rw [List.map_cons, List.map_cons, hstep.drive, ih]

theorem devices_all {axes after : List Axis} (h : List.Forall₂ CommunicationStep axes after) :
    after.map Axis.logicalDevice = axes.map Axis.logicalDevice := by
  induction h with
  | nil => rfl
  | cons hstep _ ih => rw [List.map_cons, List.map_cons, hstep.device, ih]

theorem slotted_all {axes after : List Axis} (h : List.Forall₂ CommunicationStep axes after)
    (hslotted : ∀ axis ∈ axes, axis.Slotted) : ∀ axis ∈ after, axis.Slotted := by
  induction h with
  | nil => exact List.forall_mem_nil _
  | cons hstep _ ih =>
      rw [List.forall_mem_cons] at hslotted ⊢
      exact ⟨hstep.slotted hslotted.1, ih hslotted.2⟩

theorem forall₂_map {f : Axis → Axis} (h : ∀ axis, CommunicationStep axis (f axis))
    (axes : List Axis) : List.Forall₂ CommunicationStep axes (axes.map f) := by
  induction axes with
  | nil => exact .nil
  | cons axis axes ih => exact .cons (h axis) ih

theorem communicationStep_syncReset (axis : Axis) : CommunicationStep axis (syncReset axis) :=
  SlotStep.communication (.of_diagnosis rfl rfl) rfl

theorem communicationStep_validateAxis (od : ObjectDictionary) (axis : Axis) :
    CommunicationStep axis (validateAxis od axis).1 := by
  rw [validateAxis_cacheOnly od axis]
  exact SlotStep.communication (.of_diagnosis rfl rfl) rfl

/-- Restoring the error code arms an axis with an active fault. -/
theorem restoreAxis_spec (written : Bool) (axis : Axis) :
    CommunicationStep axis (restoreAxis written true axis).1 ∧
      ((restoreAxis written true axis).2 = true → axis.diagnosis.active = true →
        (restoreAxis written true axis).1.diagnosis.pending = true) := by
  unfold restoreAxis
  by_cases hnone : (axis.od .errorCode).isNone = true
  · rw [if_pos hnone]
    exact ⟨.refl axis, fun h => absurd h Bool.false_ne_true⟩
  · rw [if_neg hnone]
    by_cases hwritten : (!written) = true
    · rw [if_pos hwritten]
      exact ⟨SlotStep.communication (slotStep_contractFailure axis) rfl,
        fun h => absurd h Bool.false_ne_true⟩
    · rw [if_neg hwritten]
      dsimp only
      by_cases hactive : (true && axis.diagnosis.active) = true
      · rw [if_pos hactive]
        refine ⟨SlotStep.communication ⟨rfl, .inr ⟨rfl, rfl, ?_⟩⟩ rfl, fun _ _ => rfl⟩
        change DiagEventType.report = if axis.diagnosis.active then .report else .reset
        rw [Bool.true_and] at hactive
        rw [if_pos hactive]
      · rw [if_neg hactive]
        exact ⟨SlotStep.communication (.of_diagnosis rfl rfl) rfl, fun _ h => absurd h hactive⟩

theorem publishAxis_spec (writes : LogicalDevice → BindWrites) (axis : Axis) :
    CommunicationStep axis (publishAxis writes axis).1 ∧
      ((publishAxis writes axis).2 = none → axis.diagnosis.active = true →
        (publishAxis writes axis).1.diagnosis.pending = true) := by
  have himage : CommunicationStep axis
      { axis with image := { axis.image with supportedDriveModes := axis.supportedModes } } :=
    SlotStep.communication (.of_diagnosis rfl rfl) rfl
  obtain ⟨hstep, harmed⟩ := restoreAxis_spec (writes axis.logicalDevice).errorCode
    { axis with image := { axis.image with supportedDriveModes := axis.supportedModes } }
  unfold publishAxis
  dsimp only
  split_ifs
  · exact ⟨.refl axis, fun hnone => absurd hnone (by simp)⟩
  · split
    · next heq =>
        rw [heq] at hstep harmed
        exact ⟨himage.trans hstep, fun _ => harmed rfl⟩
    · next heq =>
        rw [heq] at hstep
        exact ⟨himage.trans hstep, fun hnone => absurd hnone (by simp)⟩

theorem communicationStep_forEachAxis {stage : BindStage}
    (h : ∀ axis, CommunicationStep axis (stage axis).1) (axes : List Axis) :
    List.Forall₂ CommunicationStep axes (forEachAxis stage axes).1 := by
  induction axes with
  | nil => exact .nil
  | cons axis axes ih =>
      have hfirst := h axis
      unfold forEachAxis
      split
      · next heq =>
          rw [heq] at hfirst
          exact .cons hfirst (List.forall₂_same.mpr fun axis _ => .refl axis)
      · next heq =>
          rw [heq] at hfirst
          exact .cons hfirst ih

theorem forall₂_trans {axes middle after : List Axis}
    (h₁ : List.Forall₂ CommunicationStep axes middle)
    (h₂ : List.Forall₂ CommunicationStep middle after) :
    List.Forall₂ CommunicationStep axes after := by
  induction h₁ generalizing after with
  | nil => exact h₂
  | cons hstep _ ih =>
      cases h₂ with
      | cons hnext hrest => exact .cons (hstep.trans hnext) (ih hrest)

theorem communicationStep_bindOD (writes : LogicalDevice → BindWrites) (manager : Manager) :
    List.Forall₂ CommunicationStep manager.axes (bindOD writes manager).1.axes := by
  have hvalidated := communicationStep_forEachAxis
    (communicationStep_validateAxis manager.od) manager.axes
  unfold bindOD
  split_ifs
  · exact List.forall₂_same.mpr fun axis _ => .refl axis
  · split
    · next heq =>
        rw [heq] at hvalidated
        exact hvalidated
    · next axes heq =>
        rw [heq] at hvalidated
        have hpublished := forall₂_trans hvalidated
          (communicationStep_forEachAxis (fun axis => (publishAxis_spec writes axis).1) axes)
        split
        · next heq =>
            rw [heq] at hpublished
            exact hpublished
        · next heq =>
            rw [heq] at hpublished
            exact hpublished

/-- What no callback takes from the manager. -/
structure Manager.Kept (manager : Manager) : Prop where
  nonempty : manager.axes ≠ []
  nodup : (manager.axes.map Axis.logicalDevice).Nodup
  slotted : ∀ axis ∈ manager.axes, axis.Slotted

theorem Manager.Kept.step {manager after : Manager} (h : manager.Kept)
    (hstep : List.Forall₂ CommunicationStep manager.axes after.axes) : after.Kept where
  nonempty := by
    intro hempty
    have hlength := hstep.length_eq
    rw [hempty] at hlength
    exact h.nonempty (List.eq_nil_of_length_eq_zero hlength)
  nodup := by
    rw [devices_all hstep]
    exact h.nodup
  slotted := slotted_all hstep h.slotted

/-! ## Binding -/

/-- A successful bind has every entry, owns its extensions and reports every active fault. -/
structure Manager.Bound (manager : Manager) (od : ObjectDictionary) : Prop where
  odBound : manager.odBound = true
  full : ∀ axis ∈ manager.axes, axis.FullyBound od
  marked : Marked ((manager.axes.map Axis.logicalDevice).flatMap deviceMarks) od

theorem Manager.Bound.map {manager : Manager} {od : ObjectDictionary} (h : manager.Bound od)
    {f : Axis → Axis} (hkeeps : ∀ axis, (f axis).od = axis.od ∧
      (f axis).logicalDevice = axis.logicalDevice ∧ (f axis).supportedModes = axis.supportedModes) :
    { manager with axes := manager.axes.map f }.Bound od where
  odBound := h.odBound
  full := by
    intro axis hmem
    obtain ⟨before, hbefore, rfl⟩ := List.mem_map.mp hmem
    obtain ⟨hod, hdevice, hmodes⟩ := hkeeps before
    exact (h.full before hbefore).congr hod hdevice hmodes
  marked := by
    have hdevices : (manager.axes.map f).map Axis.logicalDevice =
        manager.axes.map Axis.logicalDevice := by
      rw [List.map_map]
      exact List.map_congr_left fun axis _ => (hkeeps axis).2.1
    rw [hdevices]
    exact h.marked

/-- Every active fault waits to be reported. -/
def Manager.Armed (manager : Manager) : Prop :=
  ∀ axis ∈ manager.axes, axis.diagnosis.active = true → axis.diagnosis.pending = true

theorem bindOD_ok {writes : LogicalDevice → BindWrites} {manager : Manager} (hkept : manager.Kept)
    (hmarked : Marked [] manager.od) (h : (bindOD writes manager).2.error = .ok) :
    (bindOD writes manager).1.Bound (bindOD writes manager).1.od ∧
      (bindOD writes manager).1.Armed := by
  obtain ⟨hbound, hfull⟩ := fullyBound_bindOD h
  have hdevices := devices_bindOD writes manager
  refine ⟨⟨hbound, hfull, ?_⟩, ?_⟩
  · have hod : (bindOD writes manager).1.od =
        (bindOD writes manager).1.axes.foldl installForwardingExtensions manager.od := by
      obtain ⟨-, axes, diag, hdiag, heq⟩ | ⟨-, -, axes, diag, hdiag, heq⟩ | ⟨-, -, axes, -, heq⟩ :=
        bindOD_cases writes hkept.nonempty
      · rw [heq] at h
        exact absurd h hdiag
      · rw [heq] at h
        exact absurd h hdiag
      · rw [heq]
    have hnodup := nodup_deviceMarks hkept.nodup
    rw [← hdevices] at hnodup
    rw [hod, foldl_install_eq hfull]
    have hall := hmarked.install_all (by rw [List.append_nil]; exact hnodup)
    rw [List.append_nil] at hall
    exact hall.congr fun mark => List.mem_reverse.symm
  · obtain ⟨-, axes, diag, hdiag, heq⟩ | ⟨-, -, axes, diag, hdiag, heq⟩ |
      ⟨hall, hok, axes, haxes, heq⟩ := bindOD_cases writes hkept.nonempty
    · rw [heq] at h
      exact absurd h hdiag
    · rw [heq] at h
      exact absurd h hdiag
    · rw [heq]
      intro axis hmem
      rw [haxes] at hmem
      obtain ⟨before, hbefore, rfl⟩ := List.mem_map.mp hmem
      obtain ⟨hstep, harmed⟩ := publishAxis_spec writes (validateAxis manager.od before).1
      intro hactive
      rw [hstep.active] at hactive
      apply harmed _ hactive
      exact (publishAxis_validateAxis_none (validateAxis_none.mpr (hall before hbefore))).mpr
        (hok before hbefore)

theorem managerInit_ok {od : ObjectDictionary} {generated : LogicalDevice → ODImage}
    {configs : List AxisConfig} {writes : LogicalDevice → BindWrites}
    {written : LogicalDevice → Bool × Bool} {manager : Manager} {diag : InitDiag}
    (hmarked : Marked [] od)
    (h : managerInit od generated configs writes written = (some manager, diag)) :
    if diag.error = .ok then manager.Kept ∧ manager.Bound manager.od ∧ manager.Armed
    else manager.od = od := by
  have hnodup := (Reachable.init h).nodup
  unfold managerInit at h
  split at h
  · cases (Prod.mk.inj h).1
  · next valid _ =>
      have hfresh : ∀ axis ∈ valid.map fun config =>
          axisInit config (generated config.logicalDevice), axis.Slotted := by
        intro axis hmem
        obtain ⟨config, -, rfl⟩ := List.mem_map.mp hmem
        exact fun hpending => absurd hpending Bool.false_ne_true
      have hinitial (axis : Axis) : CommunicationStep axis (publishInitial written axis) :=
        SlotStep.communication (.of_diagnosis rfl rfl) rfl
      dsimp only at h
      generalize hmanager : Manager.mk od _ false 0 = fresh at h
      have haxes : fresh.axes = valid.map fun config =>
          axisInit config (generated config.logicalDevice) := by rw [← hmanager]
      have hod : fresh.od = od := by rw [← hmanager]
      have hdevices := devices_bindOD writes fresh
      by_cases hok : (bindOD writes fresh).2.error = .ok
      · rw [if_pos hok] at h
        obtain ⟨hresult, rfl⟩ := Prod.mk.inj h
        obtain rfl := Option.some.inj hresult
        have hkept : fresh.Kept := by
          refine ⟨(bindOD_ok_iff.mp hok).1, ?_, haxes ▸ hfresh⟩
          rw [← hdevices]
          rw [List.map_map] at hnodup
          exact hnodup
        obtain ⟨hbound, harmed⟩ := bindOD_ok hkept (hod.symm ▸ hmarked) hok
        rw [if_pos hok]
        refine ⟨?_, hbound.map (fun axis => ⟨rfl, rfl, rfl⟩), ?_⟩
        · exact (hkept.step (communicationStep_bindOD writes fresh)).step
            (forall₂_map hinitial _)
        · intro axis hmem
          obtain ⟨before, hbefore, rfl⟩ := List.mem_map.mp hmem
          exact harmed before hbefore
      · rw [if_neg hok] at h
        obtain ⟨hresult, rfl⟩ := Prod.mk.inj h
        obtain rfl := Option.some.inj hresult
        rw [if_neg hok, (bindOD_failed hok).1, hod]

end CanopenRtt.Cia402.Device
