import CanopenRtt.Cia401.OutputWrites
import CanopenRtt.Cia401.SlotOwnership
import CanopenRtt.Cia401.TpdoDecoding
/-!
# What one pass does to analogue events and interrupt sources

In every reachable state with a bound Device: when an event fires, and which
bits of 0x6422 a pass sets.
-/

namespace CanopenRtt.Cia401

open CanopenRtt.Profile CanopenRtt.Support

namespace World

variable {features : Features} {world : World} {od : Nat}

/-- The state a pass finds, before anything is done. -/
def entering (world : World) : Pass := ⟨world.device, world.memory, []⟩

/-- The invariants of every reachable world. -/
structure Reached (features : Features) (world : World) : Prop where
  sound : world.Sound features
  configured : world.Configured features
  events : world.EventBound features
  slots : world.OwnsSlots features

/-- A Device that is bound to `od` with analogue inputs and events. -/
structure Serving (features : Features) (world : World) (od : Nat) : Prop where
  od : world.device.od = some od
  odBound : world.device.odBound = true
  channels : world.device.config.analogInputChannels ≠ 0
  events : features.analogEvents = true

section Facts

variable (h : world.Reached features) (hserving : world.Serving features od)

include h hserving

theorem eventObjects : world.device.EventObjects od := by
  obtain ⟨od', hod, hobjects⟩ := h.events hserving.odBound hserving.channels hserving.events
  rw [hserving.od] at hod
  rwa [← Option.some.inj hod] at hobjects

theorem hookedTo : Device.Hooked features world.device world.memory od := by
  obtain ⟨od', hod, hhooked⟩ := h.sound.hooked hserving.odBound
  rw [hserving.od] at hod
  rwa [← Option.some.inj hod] at hhooked

theorem busy : (!world.device.odBound || world.device.config.io.isNone) = false := by
  have hvalid := h.configured (by rw [hserving.od]; rfl)
  have hread := hvalid.readAnalog16 hserving.channels
  cases hio : world.device.config.io with
  | none =>
      rw [hio] at hread
      cases hread
  | some table => simp [hserving.odBound]

/-- 0x6000 is no object of the analogue stage. -/
theorem digitalInput8_ne {canonicalIndex : Nat} (hvalid : canonicalIndexValid canonicalIndex = true)
    (hne : canonicalIndex ≠ indexDigitalInput8) :
    world.device.bound.digitalInput8 ≠ some (world.device.entry od canonicalIndex) := by
  intro heq
  rcases (eventObjects h hserving).digitalInput8 with hnone | hsome
  · rw [hnone] at heq
    cases heq
  · rw [hsome] at heq
    exact hne (entry_index_injective h.sound.slot hvalid rfl
      (congrArg OdEntry.index (Option.some.inj heq)).symm)

theorem digitalDone_parameters (env : PassEnv) (channel : Nat) :
    Pass.SameParameters (Pass.digitalRefreshInputs env (world.start env)) world.entering
      channel := by
  have hkept := (start_kept env world).trans
    (Pass.digitalRefreshInputs_inputs env (world.start env)).kept
  obtain ⟨hdevice, hmemory⟩ := start_device env world
  have hreference := Pass.digitalRefreshInputs_device env (world.start env)
  have hbound : (world.start env).device.bound = world.device.bound :=
    (congrArg Device.bound hdevice :)
  refine ⟨hkept.bound, ?_, ?_, ?_, ?_⟩
  · exact (congrFun (congrArg Device.analogLastCommunicated hreference :) channel).trans
      (congrFun (congrArg Device.analogLastCommunicated hdevice :) channel)
  · exact (congrFun (congrArg Device.analogLastCommunicatedValid hreference :) channel).trans
      (congrFun (congrArg Device.analogLastCommunicatedValid hdevice :) channel)
  · intro p hp entry hentry
    have hplace := ((hookedTo h hserving).parameters p hp).resolve_left
      (by rw [hentry]; exact Option.some_ne_none _)
    obtain rfl : entry = world.device.entry od p.2 := Option.some.inj (hentry.symm.trans hplace)
    rw [Pass.digitalRefreshInputs_value, hmemory]
    · rfl
    · left
      rw [hbound]
      simp only [BoundOd.analogParameters, List.mem_cons, List.not_mem_nil, or_false] at hp
      rcases hp with rfl | rfl | rfl | rfl | rfl | rfl | rfl | rfl <;>
        exact digitalInput8_ne h hserving rfl (by dsimp only; decide)
  · funext entry
    have hvalue := @Pass.digitalRefreshInputs_value env (world.start env) entry 0 (Or.inr rfl)
    exact hvalue.trans (by rw [hmemory]; rfl)

/-- The digital stage keeps the object of the analogue stage that `canonicalIndex` names. -/
theorem digitalDone_value (env : PassEnv) {canonicalIndex : Nat}
    (hvalid : canonicalIndexValid canonicalIndex = true)
    (hne : canonicalIndex ≠ indexDigitalInput8) (subIndex : Nat) :
    (Pass.digitalRefreshInputs env (world.start env)).memory.value
        (world.device.entry od canonicalIndex) subIndex =
      world.memory.value (world.device.entry od canonicalIndex) subIndex := by
  obtain ⟨hdevice, hmemory⟩ := start_device env world
  have hbound : (world.start env).device.bound = world.device.bound :=
    (congrArg Device.bound hdevice :)
  rw [Pass.digitalRefreshInputs_value, hmemory]
  left
  rw [hbound]
  exact digitalInput8_ne h hserving hvalid hne

theorem analogStage_serving (env : PassEnv) :
    Pass.analogStage (Pass.digitalRefreshInputs env (world.start env)) = true := by
  have hkept := (start_kept env world).trans
    (Pass.digitalRefreshInputs_inputs env (world.start env)).kept
  have hread := (h.configured (by rw [hserving.od]; rfl)).readAnalog16 hserving.channels
  rw [Pass.analogStage, hkept.odBound, hserving.odBound, Pass.io, hkept.config, io_of_any hread,
    hkept.bound, (eventObjects h hserving).analogInput16]
  simp [hserving.channels]

/-- An event fires for a changed input exactly when 0x6423 enables events and the
trigger is zero or one of its enabled comparisons holds. -/
theorem fires_analog_iff (product : Product) {channel : Nat}
    (hchannel : channel < world.device.config.analogInputChannels) :
    world.fires ⟨features, .always, product⟩ (.analog channel) = true ↔
      ∃ value, Pass.analogSample ⟨features, .always, product⟩ world.entering channel = some value ∧
        value ≠ (world.memory.value (world.device.entry od indexAnalogInput16)
          (channel + 1)).setWidth 16 ∧
        world.device.eventsEnabled od world.memory = true ∧
        (world.device.thresholds od world.memory channel).Hold (world.device.reference channel)
          value := by
  let env : PassEnv := ⟨features, .always, product⟩
  have hobjects : world.entering.device.EventObjects od := eventObjects h hserving
  have hkept := (start_kept env world).trans
    (Pass.digitalRefreshInputs_inputs env (world.start env)).kept
  have hsame : Pass.analogFires env (Pass.digitalRefreshInputs env (world.start env)) channel =
      Pass.analogFires env world.entering channel := by
    refine (digitalDone_parameters h hserving env channel).analogFires_eq env ?_
    intro entry hentry
    obtain rfl := Option.some.inj (hobjects.analogInput16.symm.trans hentry)
    exact digitalDone_value h hserving env rfl (by decide) _
  have hevent : world.fires env (.analog channel) =
      Pass.analogFires env world.entering channel := by
    rw [fires, Pass.analogEvent, analogStage_serving h hserving env, hsame, hkept.config]
    simp [env, hserving.events, hchannel]
  have hread : ∀ {place : Option OdEntry} {entry : OdEntry} (subIndex : Nat), place = some entry →
      world.entering.memory.getU32 env.access place subIndex =
        some (world.memory.value entry subIndex) :=
    fun subIndex hplace => @Pass.getU32_place env world.entering rfl _ _ hplace subIndex
  have hcomparison : ∀ value, Pass.analogComparison env world.entering channel value = true ↔
      world.device.eventsEnabled od world.memory = true ∧
        (world.device.thresholds od world.memory channel).Hold (world.device.reference channel)
          value := by
    intro value
    have hfires := @Pass.analogEventFires_iff env world.entering od rfl hobjects channel value
    unfold Pass.analogComparison
    dsimp only
    rw [Bool.and_eq_true, Memory.getU8, Memory.getU8, hread 0 hobjects.analogInterruptEnable,
      hread (channel + 1) hobjects.analogInterruptTrigger]
    exact and_congr (by simp [Device.eventsEnabled, entering]) hfires
  rw [hevent, Pass.analogFires]
  cases hsample : Pass.analogSample env world.entering channel with
  | none => simp
  | some value =>
      rw [Option.any_some, Bool.and_eq_true, hcomparison, Memory.getI16,
        hread (channel + 1) hobjects.analogInput16, Option.map_some, Option.getD_some,
        decide_eq_true_eq]
      constructor
      · exact fun hall => ⟨value, rfl, hall⟩
      · rintro ⟨_, hsome, hall⟩
        obtain rfl := Option.some.inj hsome
        exact hall

/-- A pass sets the source bits of the channels whose event fires, and clears none. -/
theorem process_source (product : Product) {bank bit : Nat} (hbit : bit < 32) :
    ((world.step features (.process .always product)).memory.value
        (world.device.entry od indexAnalogInterruptSource) (bank + 1)).getLsbD bit =
      ((world.memory.value (world.device.entry od indexAnalogInterruptSource)
          (bank + 1)).getLsbD bit ||
        world.fires ⟨features, .always, product⟩ (.analog (32 * bank + bit))) := by
  let env : PassEnv := ⟨features, .always, product⟩
  have hobjects := eventObjects h hserving
  have hkept := (start_kept env world).trans
    (Pass.digitalRefreshInputs_inputs env (world.start env)).kept
  have hstage := analogStage_serving h hserving env
  have hseparate := separate_of_sound h.sound env rfl hserving.events hstage
  have hsource :
      (Pass.digitalRefreshInputs env (world.start env)).device.bound.analogInterruptSource =
      some (world.device.entry od indexAnalogInterruptSource) := by
    rw [hkept.bound]
    exact hobjects.analogInterruptSource
  have hmemory : (world.device.process env world.memory).memory =
      (world.device.inputsDone env world.memory).memory := by
    rw [Device.process_busy (busy h hserving)]
    exact ((Pass.digitalApplyOutputs_outputs ..).only.trans
      (Pass.analogApplyOutputs_outputs ..).only).memory
  change ((world.device.process env world.memory).memory.value _ _).getLsbD bit = _
  rw [hmemory, Device.inputsDone, ← start, Pass.analogRefreshInputs_eq env _ hserving.events,
    if_pos hstage, (Pass.requestPendingAnalogSourceTpdos_device ..).2,
    Pass.analogRounds_source rfl hserving.events hseparate hsource _ hbit,
    digitalDone_value h hserving env rfl (by decide), fires, Pass.analogEvent, hstage]
  simp [env, hserving.events]

end Facts

end World

end CanopenRtt.Cia401
