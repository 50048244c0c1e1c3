import CanopenRtt.Cia401.AnalogObjects
/-!
# The event law of analogue inputs

The comparisons of 0x6421 over the integers, and what a pass does to the
interrupt sources in 0x6422.
-/

namespace CanopenRtt.Cia401

open CanopenRtt.Profile CanopenRtt.Support

/-- The event parameters of one channel. -/
structure Thresholds where
  trigger : BitVec 8
  upper : BitVec 32
  lower : BitVec 32
  delta : BitVec 32
  negativeDelta : BitVec 32
  positiveDelta : BitVec 32
  deriving DecidableEq, Repr

/-- The trigger is zero or one of its enabled comparisons holds, over the integers and
on the value left-adjusted to 32 bits. The deltas count from the last communicated value. -/
def Thresholds.Hold (thresholds : Thresholds) (reference : Option (BitVec 16))
    (value : BitVec 16) : Prop :=
  thresholds.trigger = 0#8 ∨
    (thresholds.trigger.getLsbD 0 = true ∧ thresholds.upper.toInt ≤ value.toInt * 65536) ∨
    (thresholds.trigger.getLsbD 1 = true ∧ value.toInt * 65536 < thresholds.lower.toInt) ∨
    ∃ communicated : BitVec 16, reference = some communicated ∧
      ((thresholds.trigger.getLsbD 2 = true ∧
          thresholds.delta.toNat < ((value.toInt - communicated.toInt) * 65536).natAbs) ∨
        (thresholds.trigger.getLsbD 3 = true ∧
          (thresholds.negativeDelta.toNat : Int) < (communicated.toInt - value.toInt) * 65536) ∨
        (thresholds.trigger.getLsbD 4 = true ∧
          (thresholds.positiveDelta.toNat : Int) < (value.toInt - communicated.toInt) * 65536))

/-! ### The comparisons in 64-bit arithmetic -/

theorem leftAdjusted_toInt (value : BitVec 16) :
    (Pass.leftAdjusted value).toInt = value.toInt * 65536 := by
  have hlow := BitVec.le_toInt value
  have hhigh := @BitVec.toInt_lt 16 value
  have hconst : (65536#64).toInt = 65536 := by decide
  unfold Pass.leftAdjusted
  rw [BitVec.toInt_mul, BitVec.toInt_signExtend_of_le (by omega), hconst]
  apply Int.bmod_eq_of_le <;> omega

theorem clippedDifference_toNat (value communicated : BitVec 16) :
    ((if (Pass.leftAdjusted communicated).slt (Pass.leftAdjusted value) then
        Pass.leftAdjusted value - Pass.leftAdjusted communicated
      else 0#64).toNat : Int) = max ((value.toInt - communicated.toInt) * 65536) 0 := by
  have hvalue := leftAdjusted_toInt value
  have hcommunicated := leftAdjusted_toInt communicated
  have hlow := BitVec.le_toInt value
  have hhigh := @BitVec.toInt_lt 16 value
  have hlow' := BitVec.le_toInt communicated
  have hhigh' := @BitVec.toInt_lt 16 communicated
  by_cases hless : communicated.toInt < value.toInt
  · have hslt : (Pass.leftAdjusted communicated).slt (Pass.leftAdjusted value) = true := by
      rw [BitVec.slt_iff_toInt_lt]
      omega
    have hdifference : (Pass.leftAdjusted value - Pass.leftAdjusted communicated).toInt =
        (value.toInt - communicated.toInt) * 65536 := by
      rw [BitVec.toInt_sub, hvalue, hcommunicated, Int.bmod_eq_of_le] <;> omega
    have hnat := BitVec.toInt_eq_toNat_cond
      (Pass.leftAdjusted value - Pass.leftAdjusted communicated)
    have hlt := (Pass.leftAdjusted value - Pass.leftAdjusted communicated).isLt
    rw [if_pos hslt]
    split at hnat <;> omega
  · have hslt : (Pass.leftAdjusted communicated).slt (Pass.leftAdjusted value) = false := by
      rw [← Bool.not_eq_true, BitVec.slt_iff_toInt_lt]
      omega
    rw [hslt, if_neg Bool.false_ne_true, BitVec.toNat_zero]
    omega

theorem deltaExceeded_iff (delta : BitVec 32) (difference : BitVec 64) :
    (delta.setWidth 64).ult difference = true ↔
      delta.toNat < difference.toNat := by
  have hlt := delta.isLt
  rw [BitVec.ult_iff_toNat_lt, BitVec.toNat_setWidth, Nat.mod_eq_of_lt (by omega)]

theorem absoluteDifference_toNat (value communicated : BitVec 16) {rising falling : BitVec 64}
    (hrising : (rising.toNat : Int) = max ((value.toInt - communicated.toInt) * 65536) 0)
    (hfalling : (falling.toNat : Int) = max ((communicated.toInt - value.toInt) * 65536) 0) :
    (if rising ≠ 0#64 then rising else falling).toNat =
      ((value.toInt - communicated.toInt) * 65536).natAbs := by
  have hzero : rising = 0#64 ↔ rising.toNat = 0 := by
    rw [← BitVec.toNat_inj, BitVec.toNat_zero]
  by_cases hnone : rising = 0#64
  · have hnat := hzero.mp hnone
    rw [if_neg (not_not_intro hnone)]
    omega
  · have hnat : rising.toNat ≠ 0 := fun h => hnone (hzero.mpr h)
    rw [if_pos hnone]
    omega

theorem comparatorFires_some (trigger enableBit : BitVec 8) (threshold : BitVec 32)
    (compare : BitVec 32 → Bool) :
    Pass.comparatorFires trigger enableBit (some threshold) compare = true ↔
      trigger &&& enableBit ≠ 0#8 ∧ compare threshold = true := by
  simp [Pass.comparatorFires]

/-- The enable bits of 0x6421. -/
theorem trigger_bits (trigger : BitVec 8) :
    (trigger &&& 0x01#8 ≠ 0#8 ↔ trigger.getLsbD 0 = true) ∧
      (trigger &&& 0x02#8 ≠ 0#8 ↔ trigger.getLsbD 1 = true) ∧
      (trigger &&& 0x04#8 ≠ 0#8 ↔ trigger.getLsbD 2 = true) ∧
      (trigger &&& 0x08#8 ≠ 0#8 ↔ trigger.getLsbD 3 = true) ∧
      (trigger &&& 0x10#8 ≠ 0#8 ↔ trigger.getLsbD 4 = true) := by
  revert trigger
  decide

namespace Device

/-- The last communicated value of a channel, if there is one since the last bind. -/
def reference (device : Device) (channel : Nat) : Option (BitVec 16) :=
  if device.analogLastCommunicatedValid channel then
    some (device.analogLastCommunicated channel)
  else none

/-- The event parameters of one channel in the dictionary. -/
def thresholds (device : Device) (od : Nat) (memory : Memory) (channel : Nat) : Thresholds where
  trigger := (memory.value (device.entry od indexAnalogInterruptTrigger) (channel + 1)).setWidth 8
  upper := memory.value (device.entry od indexAnalogInterruptUpper32) (channel + 1)
  lower := memory.value (device.entry od indexAnalogInterruptLower32) (channel + 1)
  delta := memory.value (device.entry od indexAnalogInterruptDeltaU32) (channel + 1)
  negativeDelta := memory.value (device.entry od indexAnalogInterruptNegDeltaU32) (channel + 1)
  positiveDelta := memory.value (device.entry od indexAnalogInterruptPosDeltaU32) (channel + 1)

/-- Analogue events are enabled by 0x6423. -/
def eventsEnabled (device : Device) (od : Nat) (memory : Memory) : Bool :=
  (memory.value (device.entry od indexAnalogInterruptEnable) 0).setWidth 8 ≠ 0#8

end Device

namespace Pass

variable {env : PassEnv} {pass : Pass} {od : Nat}

theorem getU32_place (haccess : env.access = .always) {place : Option OdEntry} {entry : OdEntry}
    (hplace : place = some entry) (subIndex : Nat) :
    pass.memory.getU32 env.access place subIndex = some (pass.memory.value entry subIndex) := by
  rw [hplace, haccess]
  rfl

theorem analogEventFires_iff (haccess : env.access = .always)
    (hobjects : pass.device.EventObjects od)
    (channel : Nat) (value : BitVec 16) :
    analogEventFires env pass channel (pass.device.thresholds od pass.memory channel).trigger
        value = true ↔
      (pass.device.thresholds od pass.memory channel).Hold (pass.device.reference channel)
        value := by
  have hplace : ∀ p ∈ pass.device.bound.analogEventObjects,
      pass.memory.getU32 env.access p.1 (channel + 1) =
        some (pass.memory.value (pass.device.entry od p.2) (channel + 1)) :=
    fun p hp => getU32_place haccess (hobjects.objects p hp) _
  have hupper := hplace (pass.device.bound.analogInterruptUpper32, indexAnalogInterruptUpper32)
    (by simp [BoundOd.analogEventObjects])
  have hlower := hplace (pass.device.bound.analogInterruptLower32, indexAnalogInterruptLower32)
    (by simp [BoundOd.analogEventObjects])
  have hdelta := hplace (pass.device.bound.analogInterruptDeltaU32, indexAnalogInterruptDeltaU32)
    (by simp [BoundOd.analogEventObjects])
  have hnegative := hplace
    (pass.device.bound.analogInterruptNegDeltaU32, indexAnalogInterruptNegDeltaU32)
    (by simp [BoundOd.analogEventObjects])
  have hpositive := hplace
    (pass.device.bound.analogInterruptPosDeltaU32, indexAnalogInterruptPosDeltaU32)
    (by simp [BoundOd.analogEventObjects])
  have hrising := clippedDifference_toNat value (pass.device.analogLastCommunicated channel)
  have hfalling := clippedDifference_toNat (pass.device.analogLastCommunicated channel) value
  have habsolute := absoluteDifference_toNat value (pass.device.analogLastCommunicated channel)
    hrising hfalling
  obtain ⟨hbit0, hbit1, hbit2, hbit3, hbit4⟩ :=
    trigger_bits (pass.device.thresholds od pass.memory channel).trigger
  have hcurrent := leftAdjusted_toInt value
  have hsign : ∀ threshold : BitVec 32, (threshold.signExtend 64).toInt = threshold.toInt :=
    fun threshold => BitVec.toInt_signExtend_of_le (by omega)
  unfold analogEventFires
  dsimp only
  rw [hupper, hlower, hdelta, hnegative, hpositive]
  generalize (if (leftAdjusted (pass.device.analogLastCommunicated channel)).slt
      (leftAdjusted value) = true then
    leftAdjusted value - leftAdjusted (pass.device.analogLastCommunicated channel)
    else 0#64) = rising at hrising habsolute ⊢
  generalize (if (leftAdjusted value).slt
      (leftAdjusted (pass.device.analogLastCommunicated channel)) = true then
    leftAdjusted (pass.device.analogLastCommunicated channel) - leftAdjusted value
    else 0#64) = falling at hfalling habsolute ⊢
  have hrisen : ∀ n : Nat, n < rising.toNat ↔
      (n : Int) < (value.toInt - (pass.device.analogLastCommunicated channel).toInt) * 65536 := by
    omega
  have hfallen : ∀ n : Nat, n < falling.toNat ↔
      (n : Int) < ((pass.device.analogLastCommunicated channel).toInt - value.toInt) * 65536 := by
    omega
  simp only [Bool.or_eq_true, Bool.and_eq_true, decide_eq_true_eq, comparatorFires_some, hbit0,
    hbit1, hbit2, hbit3, hbit4, BitVec.sle_iff_toInt_le, BitVec.slt_iff_toInt_lt,
    deltaExceeded_iff, hcurrent, hsign, habsolute, hrisen, hfallen]
  unfold Thresholds.Hold Device.reference
  rw [or_assoc, or_assoc]
  cases pass.device.analogLastCommunicatedValid channel with
  | false => simp [Device.thresholds]
  | true => simp [Device.thresholds, or_assoc]

/-! ### The digital stage leaves the analogue objects alone -/

theorem storeDigitalInput_value (env : PassEnv) (interruptEnable : BitVec 8) (pass : Pass)
    (bank : Nat) (raw : BitVec 8) {entry : OdEntry} {subIndex : Nat}
    (h : ¬(pass.device.bound.digitalInput8 = some entry ∧ subIndex = bank + 1)) :
    (storeDigitalInput env interruptEnable pass bank raw).memory.value entry subIndex =
      pass.memory.value entry subIndex := by
  have hstored : ∀ {memory : Memory} {value : BitVec 8},
      pass.memory.setU8 env.access pass.device.bound.digitalInput8 (bank + 1) value =
        some memory → memory.value entry subIndex = pass.memory.value entry subIndex := by
    intro memory value hset
    obtain ⟨target, htarget, -, rfl⟩ := Memory.exists_of_setU32 hset
    apply Memory.value_store_of_ne
    rintro ⟨rfl, hsub⟩
    exact h ⟨htarget, hsub⟩
  unfold storeDigitalInput
  split
  · rfl
  · split
    · rfl
    · dsimp only
      split
      · rfl
      case h_2 hset =>
          split
          · rw [(latchDigitalEvent_device ..).2]
            exact hstored hset
          · exact hstored hset

theorem refreshDigitalInput_value (env : PassEnv) (interruptEnable : BitVec 8) (pass : Pass)
    (bank : Nat) {entry : OdEntry} {subIndex : Nat}
    (h : ¬(pass.device.bound.digitalInput8 = some entry ∧ subIndex = bank + 1)) :
    (refreshDigitalInput env interruptEnable pass bank).memory.value entry subIndex =
      pass.memory.value entry subIndex := by
  obtain ⟨hdevice, hmemory⟩ := requestPendingDigitalInputTpdo_device pass bank
  unfold refreshDigitalInput
  dsimp only
  cases env.features.digitalEvents with
  | true =>
      rw [if_pos rfl]
      split
      · rw [hmemory]
      · rw [if_pos rfl, storeDigitalInput_value _ _ _ _ _ (by rwa [hdevice]), hmemory]
  | false =>
      rw [if_neg Bool.false_ne_true]
      split
      · rfl
      · rw [if_neg Bool.false_ne_true]
        exact value_put pass env.access _ _ _ h

theorem refreshDigitalInputs_value (env : PassEnv) (interruptEnable : BitVec 8) (pass : Pass)
    {entry : OdEntry} {subIndex : Nat}
    (h : pass.device.bound.digitalInput8 ≠ some entry ∨ subIndex = 0) :
    (refreshDigitalInputs env interruptEnable pass).memory.value entry subIndex =
      pass.memory.value entry subIndex := by
  refine (@run_invariant _ _ (refreshDigitalInput env interruptEnable)
    (fun after => after.device.bound = pass.device.bound ∧
      after.memory.value entry subIndex = pass.memory.value entry subIndex) ?_ pass ⟨rfl, rfl⟩ _).2
  rintro after bank ⟨hbound, hvalue⟩
  refine ⟨(refreshDigitalInput_inputs ..).kept.bound.trans hbound, ?_⟩
  rw [refreshDigitalInput_value, hvalue]
  rintro ⟨hentry, hsub⟩
  rw [hbound] at hentry
  rcases h with hne | hzero
  · exact hne hentry
  · omega

/-- The digital stage stores 0x6000 and nothing else. -/
theorem digitalRefreshInputs_value (env : PassEnv) (pass : Pass) {entry : OdEntry}
    {subIndex : Nat} (h : pass.device.bound.digitalInput8 ≠ some entry ∨ subIndex = 0) :
    (digitalRefreshInputs env pass).memory.value entry subIndex =
      pass.memory.value entry subIndex := by
  obtain ⟨hdevice, hmemory, -⟩ := forwardInputFilterConfiguration_spec env pass
  have hbound : (forwardInputFilterConfiguration env pass).1.device.bound = pass.device.bound :=
    (congrArg Device.bound hdevice :)
  unfold digitalRefreshInputs
  split
  · rfl
  · split
    · split
      case h_1 heq =>
          rw [heq] at hmemory
          rw [hmemory]
      case h_2 heq =>
          rw [heq] at hmemory hbound
          rw [refreshDigitalInputs_value _ _ _ (by rwa [hbound]), hmemory]
    · exact refreshDigitalInputs_value env 0#8 pass h

/-! ### Interrupt sources -/

theorem getLsbD_sourceBit (sources : BitVec 32) (channel bit : Nat) :
    (sources ||| sourceBit channel).getLsbD bit =
      (sources.getLsbD bit || decide (bit = channel % 32)) := by
  have hchannel := Nat.mod_lt channel (by decide : 0 < 32)
  rw [BitVec.getLsbD_or, sourceBit, BitVec.getLsbD_shiftLeft, BitVec.getLsbD_one]
  congr 1
  by_cases heq : bit = channel % 32
  · simp [heq, hchannel]
  · by_cases hless : bit < channel % 32
    · simp [heq, hless]
    · have hdifference : bit - channel % 32 ≠ 0 := by omega
      simp [heq, hdifference]

section Sources

variable {source : OdEntry} (haccess : env.access = .always)

include haccess

theorem fireAnalogEvent_source (hsource : pass.device.bound.analogInterruptSource = some source)
    (channel : Nat) {bank bit : Nat} (hbit : bit < 32) :
    ((fireAnalogEvent env pass channel).memory.value source (bank + 1)).getLsbD bit =
      ((pass.memory.value source (bank + 1)).getLsbD bit ||
        decide (32 * bank + bit = channel)) := by
  have hread := @getU32_place env pass haccess _ _ hsource (channel / 32 + 1)
  unfold fireAnalogEvent
  dsimp only
  rw [hread]
  simp only [put, haccess, hsource, Memory.setU32, OdAccess.always, if_true, Option.getD_some]
  by_cases hbank : bank = channel / 32
  · subst hbank
    rw [Memory.value_store_self, getLsbD_sourceBit]
    congr 1
    rw [decide_eq_decide]
    omega
  · rw [Memory.value_store_of_ne _ _ (by omega)]
    have hchannel : 32 * bank + bit ≠ channel := by omega
    simp [hchannel]

theorem refreshAnalogInput_source (hevents : env.features.analogEvents = true)
    (hseparate : Separate pass.device.bound)
    (hsource : pass.device.bound.analogInterruptSource = some source) (channel : Nat)
    {bank bit : Nat} (hbit : bit < 32) :
    ((refreshAnalogInput env pass channel).memory.value source (bank + 1)).getLsbD bit =
      ((pass.memory.value source (bank + 1)).getLsbD bit ||
        decide (32 * bank + bit = channel) && analogFires env pass channel) := by
  have hinput : ∀ value, (withAnalogInput env pass channel value).memory.value source (bank + 1) =
      pass.memory.value source (bank + 1) :=
    fun value => withAnalogInput_value env pass channel value
      fun heq => hseparate.input source heq.1 hsource
  rw [refreshAnalogInput_eq env channel hevents hseparate,
    (requestPendingAnalogInputTpdo_device ..).2]
  cases hsample : analogSample env pass channel with
  | none => simp [analogFires, hsample]
  | some value =>
      cases analogFires env pass channel with
      | false => simp [hinput]
      | true =>
          dsimp only
          rw [if_pos rfl, @fireAnalogEvent_source _ (withAnalogInput env pass channel value) _
            haccess hsource _ _ _ hbit, hinput, Bool.and_true]

/-- The source bits after the rounds below `count`. -/
theorem analogRounds_source (hevents : env.features.analogEvents = true)
    (hseparate : Separate pass.device.bound)
    (hsource : pass.device.bound.analogInterruptSource = some source) (count : Nat)
    {bank bit : Nat} (hbit : bit < 32) :
    ((run (refreshAnalogInput env) pass (List.range count)).memory.value source
        (bank + 1)).getLsbD bit =
      ((pass.memory.value source (bank + 1)).getLsbD bit ||
        decide (32 * bank + bit < count) && analogFires env pass (32 * bank + bit)) := by
  induction count with
  | zero => simp
  | succ count ih =>
      have hrounds := analogRounds env pass count hevents hseparate
      have hbound := hrounds.kept.bound
      have hfires : analogFires env (run (refreshAnalogInput env) pass (List.range count)) count =
          analogFires env pass count :=
        (hrounds.parameters hseparate (Nat.le_refl count)).analogFires_eq env fun entry hentry =>
          hrounds.value count (Nat.le_refl count) entry (hseparate.input entry hentry)
      rw [List.range_succ, run_concat, @refreshAnalogInput_source _ _ _ haccess hevents
        (by rwa [hbound]) (by rwa [hbound]) count bank bit hbit, ih, hfires, Bool.or_assoc]
      congr 1
      by_cases hlast : 32 * bank + bit = count
      · subst hlast
        simp
      · have hiff : 32 * bank + bit < count + 1 ↔ 32 * bank + bit < count := by omega
        simp [hlast, hiff]

end Sources

end Pass

end CanopenRtt.Cia401
