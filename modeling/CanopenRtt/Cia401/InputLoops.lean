import CanopenRtt.Cia401.PassFrame
/-!
# What the input loops of one pass do to each bank and channel

A round of a loop reads and writes the sub-indexes of its own bank or channel,
so the events of a pass are decided by the state at its start.
-/

namespace CanopenRtt.Cia401

open CanopenRtt.Support

namespace Memory

/-- The stored values of one sub-index, over all entries. -/
def column (memory : Memory) (subIndex : Nat) : OdEntry → BitVec 32 :=
  fun entry => memory.value entry subIndex

theorem column_store_of_ne (memory : Memory) (entry : OdEntry) {subIndex other : Nat}
    (value : BitVec 32) (h : other ≠ subIndex) :
    (memory.store entry subIndex value).column other = memory.column other := by
  funext target
  exact value_store_of_ne memory value fun heq => h heq.2

theorem column_setU32_of_ne {memory after : Memory} {access : OdAccess} {entry : Option OdEntry}
    {subIndex other : Nat} {value : BitVec 32}
    (hset : memory.setU32 access entry subIndex value = some after) (h : other ≠ subIndex) :
    after.column other = memory.column other := by
  obtain ⟨target, -, -, rfl⟩ := exists_of_setU32 hset
  exact column_store_of_ne memory target value h

theorem getU32_congr {memory other : Memory} {subIndex : Nat}
    (h : memory.column subIndex = other.column subIndex) (access : OdAccess)
    (entry : Option OdEntry) :
    memory.getU32 access entry subIndex = other.getU32 access entry subIndex := by
  cases entry with
  | none => rfl
  | some entry =>
      have hvalue : memory.value entry subIndex = other.value entry subIndex := congrFun h entry
      simp only [getU32, hvalue]

theorem getU8_congr {memory other : Memory} {subIndex : Nat}
    (h : memory.column subIndex = other.column subIndex) (access : OdAccess)
    (entry : Option OdEntry) :
    memory.getU8 access entry subIndex = other.getU8 access entry subIndex := by
  rw [getU8, getU8, getU32_congr h]

/-- Whether an original write succeeds does not depend on what is stored. -/
theorem isSome_setU32 (memory : Memory) (access : OdAccess) (entry : Option OdEntry)
    (subIndex : Nat) (value : BitVec 32) :
    (memory.setU32 access entry subIndex value).isSome =
      entry.any fun target => access.writable target subIndex := by
  cases entry with
  | none => rfl
  | some entry =>
      simp only [setU32, Option.any_some]
      split <;> simp_all

end Memory

namespace Pass

/-! ### Digital inputs -/

/-- One bank fires an event in this pass. -/
def digitalFires (env : PassEnv) (interruptEnable : BitVec 8) (pass : Pass) (bank : Nat) : Bool :=
  let entry := pass.device.bound.digitalInput8
  (completed (env.product.readDigital8 bank)).any fun raw =>
    (pass.memory.getU8 env.access entry (bank + 1)).any fun previous =>
      (getInputEventConfiguration env pass (bank + 1)).any fun configuration =>
        entry.any (fun target => env.access.writable target (bank + 1)) &&
          (interruptEnable ≠ 0#8 &&
            digitalEventBits configuration previous (raw ^^^ configuration.polarity) ≠ 0#8)

theorem getInputEventConfiguration_congr {env : PassEnv} {pass other : Pass} {subIndex : Nat}
    (hbound : pass.device.bound = other.device.bound)
    (hcolumn : pass.memory.column subIndex = other.memory.column subIndex) :
    getInputEventConfiguration env pass subIndex =
      getInputEventConfiguration env other subIndex := by
  simp only [getInputEventConfiguration, hbound, Memory.getU8_congr hcolumn]

theorem digitalFires_congr {env : PassEnv} {interruptEnable : BitVec 8} {pass other : Pass}
    {bank : Nat} (hbound : pass.device.bound = other.device.bound)
    (hcolumn : pass.memory.column (bank + 1) = other.memory.column (bank + 1)) :
    digitalFires env interruptEnable pass bank = digitalFires env interruptEnable other bank := by
  simp only [digitalFires, hbound, Memory.getU8_congr hcolumn,
    getInputEventConfiguration_congr hbound hcolumn]

theorem requestTPDO_device (pass : Pass) (entry : Option OdEntry) (subIndex : Nat) :
    (pass.requestTPDO entry subIndex).device = pass.device ∧
      (pass.requestTPDO entry subIndex).memory = pass.memory := by
  unfold requestTPDO
  split
  · exact ⟨rfl, rfl⟩
  · split <;> exact ⟨rfl, rfl⟩

theorem requestTPDO_mem {pass : Pass} {entry : OdEntry} (subIndex : Nat)
    (h : (pass.memory.extension entry).isSome = true) :
    Effect.requestTPDO entry subIndex ∈ (pass.requestTPDO (some entry) subIndex).effects := by
  unfold requestTPDO
  dsimp only
  rw [if_pos h]
  exact List.mem_append_right _ (List.mem_singleton.mpr rfl)

theorem requestPendingDigitalInputTpdo_device (pass : Pass) (bank : Nat) :
    (requestPendingDigitalInputTpdo pass bank).device = pass.device ∧
      (requestPendingDigitalInputTpdo pass bank).memory = pass.memory := by
  unfold requestPendingDigitalInputTpdo
  split
  · exact requestTPDO_device ..
  · exact ⟨rfl, rfl⟩

/-- The Device after its marker of one bank was set. -/
def markDigital (device : Device) (bank : Nat) : Device :=
  { device with digitalInputEventTpdoPending := device.digitalInputEventTpdoPending.set bank }

theorem latchDigitalEvent_device (pass : Pass) (bank : Nat) :
    (latchDigitalEvent pass bank).device = markDigital pass.device bank ∧
      (latchDigitalEvent pass bank).memory = pass.memory :=
  requestPendingDigitalInputTpdo_device { pass with device := markDigital pass.device bank } bank

theorem storeDigitalInput_device (env : PassEnv) (interruptEnable : BitVec 8) (pass : Pass)
    (bank : Nat) (raw : BitVec 8)
    (hread : completed (env.product.readDigital8 bank) = some raw) :
    (storeDigitalInput env interruptEnable pass bank raw).device =
      if digitalFires env interruptEnable pass bank then markDigital pass.device bank
      else pass.device := by
  unfold storeDigitalInput digitalFires
  dsimp only
  rw [hread, Option.any_some]
  cases pass.memory.getU8 env.access pass.device.bound.digitalInput8 (bank + 1) with
  | none => rfl
  | some previous =>
      cases getInputEventConfiguration env pass (bank + 1) with
      | none => rfl
      | some configuration =>
          simp only [Option.any_some]
          have hsome := pass.memory.isSome_setU32 env.access pass.device.bound.digitalInput8
            (bank + 1) ((raw ^^^ configuration.polarity).setWidth 32)
          rw [← hsome, ← Memory.setU8]
          cases pass.memory.setU8 env.access pass.device.bound.digitalInput8 (bank + 1)
              (raw ^^^ configuration.polarity) with
          | none => rfl
          | some memory =>
              simp only [Option.isSome_some, Bool.true_and]
              split
              · exact (latchDigitalEvent_device ..).1
              · rfl

theorem storeDigitalInput_column (env : PassEnv) (interruptEnable : BitVec 8) (pass : Pass)
    (bank : Nat) (raw : BitVec 8) {other : Nat} (hother : other ≠ bank + 1) :
    (storeDigitalInput env interruptEnable pass bank raw).memory.column other =
      pass.memory.column other := by
  unfold storeDigitalInput
  split
  · rfl
  · split
    · rfl
    · dsimp only
      split
      · rfl
      case h_2 hset =>
          split
          · rw [(latchDigitalEvent_device ..).2]
            exact Memory.column_setU32_of_ne hset hother
          · exact Memory.column_setU32_of_ne hset hother

/-- The marker of one bank after its round. -/
theorem refreshDigitalInput_device (env : PassEnv) (interruptEnable : BitVec 8) (pass : Pass)
    (bank : Nat) (hevents : env.features.digitalEvents = true) :
    (refreshDigitalInput env interruptEnable pass bank).device =
      if digitalFires env interruptEnable pass bank then markDigital pass.device bank
      else pass.device := by
  obtain ⟨hdevice, hmemory⟩ := requestPendingDigitalInputTpdo_device pass bank
  have hfires : digitalFires env interruptEnable (requestPendingDigitalInputTpdo pass bank) bank =
      digitalFires env interruptEnable pass bank :=
    digitalFires_congr (by rw [hdevice]) (by rw [hmemory])
  unfold refreshDigitalInput
  dsimp only
  rw [if_pos hevents]
  split
  case h_1 hread =>
      have hquiet : digitalFires env interruptEnable pass bank = false := by
        rw [digitalFires, hread]
        rfl
      rw [hquiet]
      exact hdevice
  case h_2 raw hread =>
      rw [if_pos hevents, storeDigitalInput_device _ _ _ _ _ hread, hfires, hdevice]

theorem refreshDigitalInput_column (env : PassEnv) (interruptEnable : BitVec 8) (pass : Pass)
    (bank : Nat) (hevents : env.features.digitalEvents = true) {other : Nat}
    (hother : other ≠ bank + 1) :
    (refreshDigitalInput env interruptEnable pass bank).memory.column other =
      pass.memory.column other := by
  have hmemory := (requestPendingDigitalInputTpdo_device pass bank).2
  unfold refreshDigitalInput
  dsimp only
  rw [if_pos hevents]
  split
  · rw [hmemory]
  · rw [if_pos hevents, storeDigitalInput_column _ _ _ _ _ hother, hmemory]

/-- A marked bank is requested in its round. -/
theorem refreshDigitalInput_requests (env : PassEnv) (interruptEnable : BitVec 8) {pass : Pass}
    {bank : Nat} {entry : OdEntry} (hevents : env.features.digitalEvents = true)
    (hentry : pass.device.bound.digitalInput8 = some entry)
    (hextension : (pass.memory.extension entry).isSome = true)
    (hmarked : pass.device.digitalInputEventTpdoPending.test bank = true) :
    Effect.requestTPDO entry (bank + 1) ∈
      (refreshDigitalInput env interruptEnable pass bank).effects := by
  have hrequest : Effect.requestTPDO entry (bank + 1) ∈
      (requestPendingDigitalInputTpdo pass bank).effects := by
    rw [requestPendingDigitalInputTpdo, if_pos hmarked, hentry]
    exact requestTPDO_mem (bank + 1) hextension
  unfold refreshDigitalInput
  dsimp only
  rw [if_pos hevents]
  split
  · exact hrequest
  · rw [if_pos hevents]
    exact (storeDigitalInput_inputs ..).kept.effects.subset hrequest

/-- What the rounds below `count` have done to the banks. -/
structure DigitalRounds (env : PassEnv) (interruptEnable : BitVec 8) (start : Pass) (count : Nat)
    (after : Pass) : Prop where
  kept : Kept start after
  marked : ∀ bank, after.device.digitalInputEventTpdoPending.test bank =
    (start.device.digitalInputEventTpdoPending.test bank ||
      decide (bank < count) && digitalFires env interruptEnable start bank)
  column : ∀ bank, count ≤ bank → after.memory.column (bank + 1) = start.memory.column (bank + 1)
  requested : ∀ bank entry, bank < count → start.device.bound.digitalInput8 = some entry →
    (start.memory.extension entry).isSome = true →
      start.device.digitalInputEventTpdoPending.test bank = true →
        Effect.requestTPDO entry (bank + 1) ∈ after.effects
  device : { after.device with digitalInputEventTpdoPending := Bitmap.empty } =
    { start.device with digitalInputEventTpdoPending := Bitmap.empty }

theorem digitalRounds_step {env : PassEnv} {interruptEnable : BitVec 8} {start after : Pass}
    {count : Nat} (hevents : env.features.digitalEvents = true)
    (h : DigitalRounds env interruptEnable start count after) :
    DigitalRounds env interruptEnable start (count + 1)
      (refreshDigitalInput env interruptEnable after count) := by
  have hdevice := refreshDigitalInput_device env interruptEnable after count hevents
  have hfires : digitalFires env interruptEnable after count =
      digitalFires env interruptEnable start count :=
    digitalFires_congr h.kept.bound (h.column count (Nat.le_refl count))
  rw [hfires] at hdevice
  constructor
  case kept => exact h.kept.trans (refreshDigitalInput_inputs ..).kept
  case marked =>
      intro bank
      have hround : (refreshDigitalInput env interruptEnable after
          count).device.digitalInputEventTpdoPending.test bank =
            (after.device.digitalInputEventTpdoPending.test bank ||
              decide (count = bank) && digitalFires env interruptEnable start bank) := by
        rw [hdevice]
        by_cases hbank : count = bank
        · subst hbank
          split
          case isTrue hfire => simp [markDigital, hfire]
          case isFalse hfire => simp [hfire]
        · split
          · simp [markDigital, hbank]
          · simp [hbank]
      have hlt : decide (bank < count + 1) = (decide (bank < count) || decide (count = bank)) := by
        by_cases hbank : count = bank
        · simp [hbank]
        · have hiff : bank < count + 1 ↔ bank < count := by omega
          simp [hbank, hiff]
      rw [hround, h.marked bank, hlt, Bool.and_or_distrib_right, Bool.or_assoc]
  case column =>
      intro bank hbank
      rw [refreshDigitalInput_column _ _ _ _ hevents (by omega)]
      exact h.column bank (by omega)
  case requested =>
      intro bank entry hbank hentry hextension hmarked
      by_cases hlast : bank = count
      · subst hlast
        apply refreshDigitalInput_requests env interruptEnable hevents
        · rw [h.kept.bound, hentry]
        · rw [h.kept.extension]
          exact hextension
        · rw [h.marked bank, hmarked, Bool.true_or]
      · exact (refreshDigitalInput_inputs ..).kept.effects.subset
          (h.requested bank entry (by omega) hentry hextension hmarked)
  case device =>
      rw [hdevice]
      split
      · exact h.device
      · exact h.device

theorem refreshDigitalInputs_rounds (env : PassEnv) (interruptEnable : BitVec 8) (pass : Pass)
    (hevents : env.features.digitalEvents = true) :
    DigitalRounds env interruptEnable pass pass.device.config.digitalInputBanks
      (refreshDigitalInputs env interruptEnable pass) := by
  refine run_range_invariant ⟨.refl pass, ?_, fun _ _ => rfl, ?_, rfl⟩
    fun _ _ _ h => digitalRounds_step hevents h
  · intro bank
    simp
  · intro bank entry hbank
    exact absurd hbank (Nat.not_lt_zero bank)

/-! ### Analogue inputs -/

/-- The entries of a binding that an analogue round reads and writes are distinct. -/
structure Separate (bound : BoundOd) : Prop where
  parameters : ∀ p ∈ bound.analogParameters, ∀ entry, p.1 = some entry →
    bound.analogInput16 ≠ some entry ∧ bound.analogInterruptSource ≠ some entry
  input : ∀ entry, bound.analogInput16 = some entry → bound.analogInterruptSource ≠ some entry

/-- A changed input of one channel passes 0x6423 and the comparisons of 0x6421. -/
def analogComparison (env : PassEnv) (pass : Pass) (channel : Nat) (value : BitVec 16) : Bool :=
  let bound := pass.device.bound
  (pass.memory.getU8 env.access bound.analogInterruptEnable 0).any (· ≠ 0#8) &&
    (pass.memory.getU8 env.access bound.analogInterruptTrigger (channel + 1)).any fun trigger =>
      analogEventFires env pass channel trigger value

/-- One channel fires an event in this pass. -/
def analogFires (env : PassEnv) (pass : Pass) (channel : Nat) : Bool :=
  (analogSample env pass channel).any fun value =>
    value ≠ (pass.memory.getI16 env.access pass.device.bound.analogInput16
        (channel + 1)).getD 0#16 &&
      analogComparison env pass channel value

/-- Two pass states agree on what one channel is conditioned and compared with. -/
structure SameParameters (pass other : Pass) (channel : Nat) : Prop where
  bound : pass.device.bound = other.device.bound
  reference : pass.device.analogLastCommunicated channel =
    other.device.analogLastCommunicated channel
  valid : pass.device.analogLastCommunicatedValid channel =
    other.device.analogLastCommunicatedValid channel
  value : ∀ p ∈ other.device.bound.analogParameters, ∀ entry, p.1 = some entry →
    pass.memory.value entry (channel + 1) = other.memory.value entry (channel + 1)
  enable : pass.memory.column 0 = other.memory.column 0

namespace SameParameters

variable {pass other : Pass} {channel : Nat}

theorem getU32_eq (h : SameParameters pass other channel) (access : OdAccess)
    {p : Option OdEntry × Nat} (hp : p ∈ other.device.bound.analogParameters) :
    pass.memory.getU32 access p.1 (channel + 1) = other.memory.getU32 access p.1 (channel + 1) := by
  cases hentry : p.1 with
  | none => rfl
  | some entry => simp only [Memory.getU32, h.value p hp entry hentry]

theorem analogEventFires_eq (h : SameParameters pass other channel) (env : PassEnv)
    (trigger : BitVec 8) (value : BitVec 16) :
    analogEventFires env pass channel trigger value =
      analogEventFires env other channel trigger value := by
  have hupper := @getU32_eq _ _ _ h env.access
    (other.device.bound.analogInterruptUpper32, indexAnalogInterruptUpper32)
    (by simp [BoundOd.analogParameters])
  have hlower := @getU32_eq _ _ _ h env.access
    (other.device.bound.analogInterruptLower32, indexAnalogInterruptLower32)
    (by simp [BoundOd.analogParameters])
  have hdelta := @getU32_eq _ _ _ h env.access
    (other.device.bound.analogInterruptDeltaU32, indexAnalogInterruptDeltaU32)
    (by simp [BoundOd.analogParameters])
  have hnegative := @getU32_eq _ _ _ h env.access
    (other.device.bound.analogInterruptNegDeltaU32, indexAnalogInterruptNegDeltaU32)
    (by simp [BoundOd.analogParameters])
  have hpositive := @getU32_eq _ _ _ h env.access
    (other.device.bound.analogInterruptPosDeltaU32, indexAnalogInterruptPosDeltaU32)
    (by simp [BoundOd.analogParameters])
  unfold analogEventFires
  simp only [h.bound, h.reference, h.valid]
  rw [hupper, hlower, hdelta, hnegative, hpositive]

theorem analogComparison_eq (h : SameParameters pass other channel) (env : PassEnv)
    (value : BitVec 16) :
    analogComparison env pass channel value = analogComparison env other channel value := by
  have htrigger := @getU32_eq _ _ _ h env.access
    (other.device.bound.analogInterruptTrigger, indexAnalogInterruptTrigger)
    (by simp [BoundOd.analogParameters])
  have htrigger8 : pass.memory.getU8 env.access other.device.bound.analogInterruptTrigger
      (channel + 1) = other.memory.getU8 env.access other.device.bound.analogInterruptTrigger
        (channel + 1) :=
    congrArg (Option.map (BitVec.setWidth 8)) htrigger
  unfold analogComparison
  simp only [h.bound, h.analogEventFires_eq, Memory.getU8_congr h.enable, htrigger8]

theorem analogSample_eq (h : SameParameters pass other channel) (env : PassEnv) :
    analogSample env pass channel = analogSample env other channel := by
  have hoffset := @getU32_eq _ _ _ h env.access
    (other.device.bound.analogInputOffset32, indexAnalogInputOffset32)
    (by simp [BoundOd.analogParameters])
  have hscaling := @getU32_eq _ _ _ h env.access
    (other.device.bound.analogInputPrescaling32, indexAnalogInputPrescaling32)
    (by simp [BoundOd.analogParameters])
  unfold analogSample
  congr 1
  funext raw
  simp only [applyInputConditioning, applyConditioning, h.bound, hoffset, hscaling]

theorem analogFires_eq (h : SameParameters pass other channel) (env : PassEnv)
    (hinput : ∀ entry, other.device.bound.analogInput16 = some entry →
      pass.memory.value entry (channel + 1) = other.memory.value entry (channel + 1)) :
    analogFires env pass channel = analogFires env other channel := by
  have hprevious : pass.memory.getI16 env.access pass.device.bound.analogInput16 (channel + 1) =
      other.memory.getI16 env.access other.device.bound.analogInput16 (channel + 1) := by
    rw [h.bound]
    cases hentry : other.device.bound.analogInput16 with
    | none => rfl
    | some entry => simp only [Memory.getI16, Memory.getU32, hinput entry hentry]
  simp only [analogFires, h.analogSample_eq, h.analogComparison_eq, hprevious]

end SameParameters

/-- A successful or failed original write changes one stored value at most. -/
theorem value_put (pass : Pass) (access : OdAccess) (entry : Option OdEntry) (subIndex : Nat)
    (value : BitVec 32) {other : OdEntry} {otherSub : Nat}
    (h : ¬(entry = some other ∧ otherSub = subIndex)) :
    (pass.put (pass.memory.setU32 access entry subIndex value)).memory.value other otherSub =
      pass.memory.value other otherSub := by
  unfold put
  cases hset : pass.memory.setU32 access entry subIndex value with
  | none => rfl
  | some memory =>
      obtain ⟨target, rfl, -, rfl⟩ := Memory.exists_of_setU32 hset
      apply Memory.value_store_of_ne
      rintro ⟨rfl, hsub⟩
      exact h ⟨rfl, hsub⟩

theorem latchAnalogEvent_eq (env : PassEnv) (pass : Pass) (channel : Nat) (value : BitVec 16) :
    latchAnalogEvent env pass channel value =
      if analogComparison env pass channel value then fireAnalogEvent env pass channel
      else pass := by
  unfold latchAnalogEvent analogComparison
  dsimp only
  split
  case h_1 henable => simp [henable]
  case h_2 enabled henable =>
      by_cases hoff : enabled = 0#8
      · simp [henable, hoff]
      · rw [if_neg hoff]
        split
        case h_1 htrigger => simp [htrigger]
        case h_2 trigger htrigger => simp [henable, htrigger, hoff]

/-- The pass state after 0x6401 of one channel was stored. -/
def withAnalogInput (env : PassEnv) (pass : Pass) (channel : Nat) (value : BitVec 16) : Pass :=
  pass.put (pass.memory.setI16 env.access pass.device.bound.analogInput16 (channel + 1) value)

theorem withAnalogInput_value (env : PassEnv) (pass : Pass) (channel : Nat) (value : BitVec 16)
    {entry : OdEntry} {subIndex : Nat}
    (h : ¬(pass.device.bound.analogInput16 = some entry ∧ subIndex = channel + 1)) :
    (withAnalogInput env pass channel value).memory.value entry subIndex =
      pass.memory.value entry subIndex :=
  value_put pass env.access _ _ _ h

theorem withAnalogInput_parameters (env : PassEnv) {pass : Pass} (channel : Nat)
    (value : BitVec 16) (hseparate : Separate pass.device.bound) (other : Nat) :
    SameParameters (withAnalogInput env pass channel value) pass other := by
  refine ⟨rfl, rfl, rfl, ?_, ?_⟩
  · intro p hp entry hentry
    apply withAnalogInput_value
    exact fun heq => (hseparate.parameters p hp entry hentry).1 heq.1
  · funext entry
    apply withAnalogInput_value
    exact fun heq => absurd heq.2 (Nat.zero_ne_add_one channel)

/-- A round stores the sample and fires as decided before the store. -/
theorem storeAnalogInput_eq (env : PassEnv) {pass : Pass} (channel : Nat) (value : BitVec 16)
    (hevents : env.features.analogEvents = true) (hseparate : Separate pass.device.bound) :
    storeAnalogInput env pass channel value =
      if value ≠ (pass.memory.getI16 env.access pass.device.bound.analogInput16
          (channel + 1)).getD 0#16 && analogComparison env pass channel value then
        fireAnalogEvent env (withAnalogInput env pass channel value) channel
      else withAnalogInput env pass channel value := by
  have hcomparison := (withAnalogInput_parameters env channel value hseparate
    channel).analogComparison_eq env value
  unfold storeAnalogInput
  dsimp only
  rw [hevents, Bool.true_and, ← withAnalogInput, latchAnalogEvent_eq, hcomparison]
  by_cases hchanged : value = (pass.memory.getI16 env.access pass.device.bound.analogInput16
      (channel + 1)).getD 0#16
  · simp [hchanged]
  · simp [hchanged]

/-- The Device after its marker of one channel was set. -/
def markAnalog (device : Device) (channel : Nat) : Device :=
  { device with analogInputEventTpdoPending := device.analogInputEventTpdoPending.set channel }

theorem fireAnalogEvent_device (env : PassEnv) (pass : Pass) (channel : Nat) :
    (fireAnalogEvent env pass channel).device = markAnalog pass.device channel := by
  unfold fireAnalogEvent
  dsimp only
  split <;> rfl

theorem fireAnalogEvent_value (env : PassEnv) (pass : Pass) (channel : Nat) {entry : OdEntry}
    {subIndex : Nat}
    (h : ¬(pass.device.bound.analogInterruptSource = some entry ∧
      subIndex = channel / 32 + 1)) :
    (fireAnalogEvent env pass channel).memory.value entry subIndex =
      pass.memory.value entry subIndex := by
  unfold fireAnalogEvent
  dsimp only
  split
  · rfl
  · exact value_put pass env.access _ _ _ h

theorem requestPendingAnalogInputTpdo_device (pass : Pass) (channel : Nat) :
    (requestPendingAnalogInputTpdo pass channel).device = pass.device ∧
      (requestPendingAnalogInputTpdo pass channel).memory = pass.memory := by
  unfold requestPendingAnalogInputTpdo
  split
  · exact requestTPDO_device ..
  · exact ⟨rfl, rfl⟩

/-- One round without its final request. -/
theorem refreshAnalogInput_eq (env : PassEnv) {pass : Pass} (channel : Nat)
    (hevents : env.features.analogEvents = true) (hseparate : Separate pass.device.bound) :
    refreshAnalogInput env pass channel =
      requestPendingAnalogInputTpdo
        (match analogSample env pass channel with
          | none => pass
          | some value =>
              if analogFires env pass channel then
                fireAnalogEvent env (withAnalogInput env pass channel value) channel
              else withAnalogInput env pass channel value) channel := by
  unfold refreshAnalogInput analogFires
  dsimp only
  rw [if_pos hevents]
  cases analogSample env pass channel with
  | none => rfl
  | some value =>
      dsimp only
      rw [storeAnalogInput_eq env channel value hevents hseparate, Option.any_some]

theorem refreshAnalogInput_device (env : PassEnv) {pass : Pass} (channel : Nat)
    (hevents : env.features.analogEvents = true) (hseparate : Separate pass.device.bound) :
    (refreshAnalogInput env pass channel).device =
      if analogFires env pass channel then markAnalog pass.device channel else pass.device := by
  rw [refreshAnalogInput_eq env channel hevents hseparate,
    (requestPendingAnalogInputTpdo_device ..).1]
  cases hsample : analogSample env pass channel with
  | none =>
      have hquiet : analogFires env pass channel = false := by
        rw [analogFires, hsample]
        rfl
      rw [hquiet]
      rfl
  | some value =>
      dsimp only
      split
      · exact fireAnalogEvent_device ..
      · rfl

theorem refreshAnalogInput_value (env : PassEnv) {pass : Pass} (channel : Nat)
    (hevents : env.features.analogEvents = true) (hseparate : Separate pass.device.bound)
    {entry : OdEntry} {subIndex : Nat}
    (hinput : ¬(pass.device.bound.analogInput16 = some entry ∧ subIndex = channel + 1))
    (hsource : ¬(pass.device.bound.analogInterruptSource = some entry ∧
      subIndex = channel / 32 + 1)) :
    (refreshAnalogInput env pass channel).memory.value entry subIndex =
      pass.memory.value entry subIndex := by
  rw [refreshAnalogInput_eq env channel hevents hseparate,
    (requestPendingAnalogInputTpdo_device ..).2]
  split
  · rfl
  · split
    · exact (fireAnalogEvent_value env (withAnalogInput env pass channel _) channel hsource).trans
        (withAnalogInput_value _ _ _ _ hinput)
    · exact withAnalogInput_value _ _ _ _ hinput

/-- A marked channel is requested in its round, also when it was marked just now. -/
theorem refreshAnalogInput_requests (env : PassEnv) {pass : Pass} {channel : Nat}
    {entry : OdEntry} (hevents : env.features.analogEvents = true)
    (hentry : pass.device.bound.analogInput16 = some entry)
    (hextension : (pass.memory.extension entry).isSome = true)
    (hmarked : (refreshAnalogInput env pass
      channel).device.analogInputEventTpdoPending.test channel = true) :
    Effect.requestTPDO entry (channel + 1) ∈ (refreshAnalogInput env pass channel).effects := by
  have hround : ∀ stored, Kept pass stored →
      (requestPendingAnalogInputTpdo stored
        channel).device.analogInputEventTpdoPending.test channel = true →
        Effect.requestTPDO entry (channel + 1) ∈
          (requestPendingAnalogInputTpdo stored channel).effects := by
    intro stored hkept hset
    rw [(requestPendingAnalogInputTpdo_device ..).1] at hset
    rw [requestPendingAnalogInputTpdo, if_pos hset, hkept.bound, hentry]
    apply requestTPDO_mem
    rw [hkept.extension]
    exact hextension
  unfold refreshAnalogInput at hmarked ⊢
  dsimp only at hmarked ⊢
  rw [if_pos hevents] at hmarked ⊢
  cases hsample : analogSample env pass channel with
  | none =>
      rw [hsample] at hmarked
      exact hround pass (.refl pass) hmarked
  | some value =>
      rw [hsample] at hmarked
      exact hround _ (storeAnalogInput_inputs ..).kept hmarked

/-- What the rounds below `count` have done to the channels. -/
structure AnalogRounds (env : PassEnv) (start : Pass) (count : Nat) (after : Pass) : Prop where
  kept : Kept start after
  marked : ∀ channel, after.device.analogInputEventTpdoPending.test channel =
    (start.device.analogInputEventTpdoPending.test channel ||
      decide (channel < count) && analogFires env start channel)
  value : ∀ channel, count ≤ channel → ∀ entry,
    start.device.bound.analogInterruptSource ≠ some entry →
      after.memory.value entry (channel + 1) = start.memory.value entry (channel + 1)
  enable : after.memory.column 0 = start.memory.column 0
  requested : ∀ channel entry, channel < count →
    start.device.bound.analogInput16 = some entry →
      (start.memory.extension entry).isSome = true →
        after.device.analogInputEventTpdoPending.test channel = true →
          Effect.requestTPDO entry (channel + 1) ∈ after.effects
  device : { after.device with analogInputEventTpdoPending := Bitmap.empty } =
    { start.device with analogInputEventTpdoPending := Bitmap.empty }

/-- The channels not yet visited are as at the start. -/
theorem AnalogRounds.parameters {env : PassEnv} {start after : Pass} {count channel : Nat}
    (h : AnalogRounds env start count after) (hseparate : Separate start.device.bound)
    (hchannel : count ≤ channel) : SameParameters after start channel where
  bound := h.kept.bound
  reference := congrFun (congrArg Device.analogLastCommunicated h.device :) channel
  valid := congrFun (congrArg Device.analogLastCommunicatedValid h.device :) channel
  value := fun p hp entry hentry =>
    h.value channel hchannel entry (hseparate.parameters p hp entry hentry).2
  enable := h.enable

theorem analogRounds_step {env : PassEnv} {start after : Pass} {count : Nat}
    (hevents : env.features.analogEvents = true) (hseparate : Separate start.device.bound)
    (h : AnalogRounds env start count after) :
    AnalogRounds env start (count + 1) (refreshAnalogInput env after count) := by
  have hbound := h.kept.bound
  have hseparate' : Separate after.device.bound := by rwa [hbound]
  have hdevice := refreshAnalogInput_device env count hevents hseparate'
  have hfires : analogFires env after count = analogFires env start count :=
    (h.parameters hseparate (Nat.le_refl count)).analogFires_eq env fun entry hentry =>
      h.value count (Nat.le_refl count) entry (hseparate.input entry hentry)
  rw [hfires] at hdevice
  have hround : ∀ channel, (refreshAnalogInput env after
      count).device.analogInputEventTpdoPending.test channel =
        (after.device.analogInputEventTpdoPending.test channel ||
          decide (count = channel) && analogFires env start channel) := by
    intro channel
    rw [hdevice]
    by_cases hchannel : count = channel
    · subst hchannel
      split
      case isTrue hfire => simp [markAnalog, hfire]
      case isFalse hfire => simp [hfire]
    · split
      · simp [markAnalog, hchannel]
      · simp [hchannel]
  constructor
  case kept => exact h.kept.trans (refreshAnalogInput_inputs ..).kept
  case marked =>
      intro channel
      have hlt : decide (channel < count + 1) =
          (decide (channel < count) || decide (count = channel)) := by
        by_cases hchannel : count = channel
        · simp [hchannel]
        · have hiff : channel < count + 1 ↔ channel < count := by omega
          simp [hchannel, hiff]
      rw [hround, h.marked channel, hlt, Bool.and_or_distrib_right, Bool.or_assoc]
  case value =>
      intro channel hchannel entry hsource
      rw [refreshAnalogInput_value env count hevents hseparate']
      · exact h.value channel (by omega) entry hsource
      · exact fun heq => absurd heq.2 (by omega)
      · rw [hbound]
        exact fun heq => hsource heq.1
  case enable =>
      funext entry
      rw [← congrFun h.enable entry]
      apply refreshAnalogInput_value env count hevents hseparate'
      · exact fun heq => absurd heq.2 (by omega)
      · exact fun heq => absurd heq.2 (by omega)
  case requested =>
      intro channel entry hchannel hentry hextension hmarked
      by_cases hlast : channel = count
      · subst hlast
        apply refreshAnalogInput_requests env hevents (by rw [hbound, hentry]) _ hmarked
        rw [h.kept.extension]
        exact hextension
      · rw [hround, decide_eq_false (Ne.symm hlast), Bool.false_and, Bool.or_false] at hmarked
        exact (refreshAnalogInput_inputs ..).kept.effects.subset
          (h.requested channel entry (by omega) hentry hextension hmarked)
  case device =>
      rw [hdevice]
      split
      · exact h.device
      · exact h.device

theorem analogRounds (env : PassEnv) (pass : Pass) (count : Nat)
    (hevents : env.features.analogEvents = true) (hseparate : Separate pass.device.bound) :
    AnalogRounds env pass count (run (refreshAnalogInput env) pass (List.range count)) := by
  refine run_range_invariant ⟨.refl pass, ?_, fun _ _ _ _ => rfl, rfl, ?_, rfl⟩
    fun _ _ _ h => analogRounds_step hevents hseparate h
  · intro channel
    simp
  · intro channel entry hchannel
    exact absurd hchannel (Nat.not_lt_zero channel)

end Pass

end CanopenRtt.Cia401
