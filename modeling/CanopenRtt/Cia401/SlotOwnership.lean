import CanopenRtt.Cia401.AnalogObjects
/-!
# The slots a Device owns

A slot that points to the Device belongs to the object the Device has bound for
it. A bind first empties all such slots and then fills those of its candidate.
-/

namespace CanopenRtt.Cia401

open CanopenRtt.Support

namespace Device

/-- Every slot with an own extension is the one of the bound object, with its hooks. -/
structure OwnsSlots (features : Features) (device : Device) (memory : Memory) : Prop where
  slot : ∀ entry owned, memory.extension entry = some (.own owned) →
    device.bound.carrier owned = some entry ∧ owned.compiled features = true ∧
      device.extensions owned = owned.hooks

/-- No slot points to the Device. -/
def NoSlots (memory : Memory) : Prop :=
  ∀ entry owned, memory.extension entry ≠ some (.own owned)

theorem ownsSlots_of_noSlots {features : Features} {device : Device} {memory : Memory}
    (h : NoSlots memory) : OwnsSlots features device memory :=
  ⟨fun entry owned hslot => absurd hslot (h entry owned)⟩

theorem extension_extensionInit (memory : Memory) (place : Option OdEntry)
    (owner : Option ExtensionOwner) (entry : OdEntry) :
    (memory.extensionInit place owner).extension entry =
      if place = some entry then owner else memory.extension entry := by
  split
  case isTrue hplace =>
      rw [hplace]
      exact Memory.extension_extensionInit_self ..
  case isFalse hplace => exact Memory.extension_extensionInit_of_ne _ _ hplace

theorem detachMemory_noSlots {features : Features} {device : Device} {memory : Memory}
    (h : OwnsSlots features device memory) :
    NoSlots (detachMemory features device.bound memory) := by
  have hemptied := @run_prefix_invariant _ _ (detach features device.bound)
    (fun done after =>
      (∀ entry owned, after.extension entry = some (.own owned) →
        memory.extension entry = some (.own owned)) ∧
      ∀ owned ∈ done, ∀ entry, after.extension entry ≠ some (.own owned))
    memory [.digitalOutput8, .analogOutput16, .digitalInput8, .digitalInputFilter8,
      .analogInput16, .analogInterruptSource]
    ⟨fun _ _ hslot => hslot, fun _ hmem => absurd hmem List.not_mem_nil⟩ ?_
  · intro entry owned
    exact hemptied.2 owned (by cases owned <;> decide) entry
  · intro done owned rest after _ hdone
    obtain ⟨hkept, hgone⟩ := hdone
    have hshrinks : ∀ entry other, (detach features device.bound after owned).extension entry =
        some (.own other) → after.extension entry = some (.own other) := by
      intro entry other hslot
      unfold detach at hslot
      dsimp only at hslot
      split at hslot
      · rw [extension_extensionInit] at hslot
        split at hslot
        · cases hslot
        · exact hslot
      · exact hslot
    refine ⟨fun entry other hslot => hkept entry other (hshrinks entry other hslot), ?_⟩
    intro other hmem entry hslot
    rcases List.mem_append.mp hmem with hearlier | hlast
    · exact hgone other hearlier entry (hshrinks entry other hslot)
    · obtain rfl := List.mem_singleton.mp hlast
      have hbefore := hshrinks entry other hslot
      obtain ⟨hcarrier, hcompiled, -⟩ := h.slot entry other (hkept entry other hbefore)
      unfold detach at hslot
      dsimp only at hslot
      rw [hcarrier, Option.bind_some, hbefore, hcompiled, if_pos (by simp),
        extension_extensionInit, if_pos rfl] at hslot
      cases hslot

theorem install_ownsSlots {features : Features} {candidate : BoundOd}
    {state : Device × Memory} (owned : OwnExtension)
    (h : ∀ entry other, state.2.extension entry = some (.own other) →
      candidate.carrier other = some entry ∧ other.compiled features = true ∧
        state.1.extensions other = other.hooks) (entry : OdEntry) (other : OwnExtension)
    (hslot : (install features candidate state owned).2.extension entry = some (.own other)) :
    candidate.carrier other = some entry ∧ other.compiled features = true ∧
      (install features candidate state owned).1.extensions other = other.hooks := by
  unfold install at hslot ⊢
  split at hslot
  case isFalse hinstalled =>
      rw [if_neg hinstalled]
      exact h entry other hslot
  case isTrue hinstalled =>
      rw [if_pos hinstalled]
      dsimp only at hslot ⊢
      have hcompiled : owned.compiled features = true := by
        rw [OwnExtension.installed, Bool.and_eq_true] at hinstalled
        exact hinstalled.1
      rw [extension_extensionInit] at hslot
      split at hslot
      case isTrue hcarrier =>
          cases hslot
          exact ⟨hcarrier, hcompiled, Function.update_self ..⟩
      case isFalse =>
          obtain ⟨hcarrier, hcompiled', hhooks⟩ := h entry other hslot
          refine ⟨hcarrier, hcompiled', ?_⟩
          by_cases hsame : other = owned
          · subst hsame
            exact Function.update_self ..
          · rw [Function.update_of_ne hsame, hhooks]

theorem publish_ownsSlots {features : Features} {candidate : BoundOd} {device : Device}
    {memory : Memory} (h : NoSlots memory) :
    OwnsSlots features (publish features candidate device memory).1
      (publish features candidate device memory).2 := by
  have hinstalled := @run_invariant _ _ (install features candidate)
    (fun state : Device × Memory => ∀ entry other, state.2.extension entry = some (.own other) →
      candidate.carrier other = some entry ∧ other.compiled features = true ∧
        state.1.extensions other = other.hooks)
    (fun state owned hstate => install_ownsSlots owned hstate) ({ device with bound := candidate },
      memory) (fun entry other hslot => absurd hslot (h entry other)) BindContext.slotOrder
  obtain ⟨-, -, hextensions⟩ := resetInputEvents_same features
    (run (install features candidate) ({ device with bound := candidate }, memory)
      BindContext.slotOrder).1
  constructor
  intro entry owned hslot
  obtain ⟨hcarrier, hcompiled, hhooks⟩ := hinstalled entry owned hslot
  rw [publish_bound]
  exact ⟨hcarrier, hcompiled, (congrFun hextensions owned).trans hhooks⟩

theorem bindOD_ownsSlots {features : Features} (access : OdAccess) {device : Device}
    {memory : Memory} (h : OwnsSlots features device memory) :
    OwnsSlots features (bindOD features access device memory).1.1
      (bindOD features access device memory).1.2 := by
  have hempty := detachMemory_noSlots h
  rcases bindOD_cases features access device memory with hfree | ⟨od, candidate, -, -, hpublish⟩
  · rw [hfree]
    exact ownsSlots_of_noSlots hempty
  · rw [hpublish]
    exact publish_ownsSlots hempty

theorem init_ownsSlots {features : Features} (access : OdAccess) (od : Option Nat)
    (config : Option DeviceConfig) {memory : Memory} (h : NoSlots memory) :
    OwnsSlots features (init features access od config memory).1.1
      (init features access od config memory).1.2 := by
  unfold init
  split
  · dsimp only
    split
    · exact ownsSlots_of_noSlots h
    · exact bindOD_ownsSlots access (ownsSlots_of_noSlots h)
  · exact ownsSlots_of_noSlots h

end Device

namespace World

def OwnsSlots (features : Features) (world : World) : Prop :=
  Device.OwnsSlots features world.device world.memory

theorem ownsSlots_of_eq {features : Features} {before after : World}
    (h : before.OwnsSlots features) (hbound : after.device.bound = before.device.bound)
    (hextensions : after.device.extensions = before.device.extensions)
    (hextension : after.memory.extension = before.memory.extension) :
    after.OwnsSlots features := by
  constructor
  rw [hbound, hextensions, hextension]
  exact h.slot

theorem ownsSlots_of_unmoved {features : Features} {before after : World}
    (h : before.OwnsSlots features) (hmoved : Unmoved before after) : after.OwnsSlots features :=
  ownsSlots_of_eq h hmoved.bound hmoved.extensions hmoved.extension

theorem networkWrite_extension (write : NetworkWrite) (device : Device) (memory : Memory) :
    (device.networkWrite write memory).1.2.extension = memory.extension := by
  unfold Device.networkWrite
  split
  · rfl
  · split
    · rfl
    · rfl
    · unfold Device.callWriteHook
      split
      · rfl
      · rfl
      · unfold Device.writeDigitalInputFilter
        split <;> rfl
      · unfold Device.writeOutputCommand
        dsimp only
        split
        · rfl
        · split <;> rfl

theorem step_ownsSlots {features : Features} {world : World} (h : world.OwnsSlots features)
    (call : Call) (hcall : ∀ access od config, call ≠ .init access od config) :
    (world.step features call).OwnsSlots features := by
  cases call with
  | init access od config => exact absurd rfl (hcall access od config)
  | bindOD access => exact Device.bindOD_ownsSlots access h
  | setNmtOperational access operational =>
      exact ownsSlots_of_unmoved h (setNmtOperational_unmoved access operational world)
  | takeErrorEvent => exact ownsSlots_of_unmoved h (takeErrorEvent_unmoved world)
  | process access product =>
      exact ownsSlots_of_unmoved h (process_unmoved features access product world)
  | networkWrite write =>
      have hsame := networkWrite_device write world.device world.memory
      exact ownsSlots_of_eq h (congrArg Device.bound hsame :) (congrArg Device.extensions hsame :)
        (networkWrite_extension ..)
  | networkRead access read => exact ownsSlots_of_unmoved h (networkRead_unmoved access read world)
  | tpdoAccepted access mapping buffer =>
      exact ownsSlots_of_unmoved h (tpdoAccepted_unmoved features access mapping buffer world)
  | otherExtension entry owner =>
      have hsame := otherExtension_device world entry owner
      constructor
      change ∀ entry' owned, (world.otherExtension entry owner).memory.extension entry' =
        some (.own owned) → (world.otherExtension entry owner).device.bound.carrier owned = _ ∧ _ ∧
          (world.otherExtension entry owner).device.extensions owned = _
      rw [hsame]
      intro entry' owned hslot
      apply h.slot
      unfold otherExtension at hslot
      split at hslot
      · exact hslot
      · dsimp only at hslot
        rw [Device.extension_extensionInit] at hslot
        split at hslot
        · cases owner <;> cases hslot
        · exact hslot
  | _ => exact ownsSlots_of_eq h rfl rfl rfl

end World

end CanopenRtt.Cia401
