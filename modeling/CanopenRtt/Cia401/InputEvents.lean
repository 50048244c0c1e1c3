import CanopenRtt.Cia401.InputLoops
import CanopenRtt.Cia401.Soundness
/-!
# No input event is dropped before its TPDO was accepted

A fired event leaves a marker that only an accepted TPDO mapping its input, a
bind or an initialisation takes away, and a pass that starts with a marker
requests the TPDO again. For digital inputs the second half needs the 0x6003
filter configuration to be forwarded in that pass: the pass returns before the
bank loop while it is not.
-/

namespace CanopenRtt.Cia401

open CanopenRtt.Profile CanopenRtt.Support

namespace Pass

/-! ### The digital stage -/

/-- The 0x6003 mask of one bank can be read and is taken by the product. -/
def forwardsBank (env : PassEnv) (pass : Pass) (bank : Nat) : Bool :=
  (pass.memory.getU8 env.access pass.device.bound.digitalInputFilter8 (bank + 1)).any fun mask =>
    env.product.setDigitalInputFilter8 bank mask = .ok

/-- No filter change is waiting, or every bank takes it in this pass. -/
def forwards (env : PassEnv) (pass : Pass) : Bool :=
  !pass.device.digitalInputFilterDirty ||
    (List.range pass.device.config.digitalInputBanks).all (forwardsBank env pass)

theorem forwardInputFilterBank_spec (env : PassEnv) (state : Pass × Bool) (bank : Nat) :
    (forwardInputFilterBank env state bank).1.device = state.1.device ∧
      (forwardInputFilterBank env state bank).1.memory = state.1.memory ∧
      (forwardInputFilterBank env state bank).2 = (state.2 && forwardsBank env state.1 bank) := by
  unfold forwardInputFilterBank forwardsBank
  dsimp only
  split
  case h_1 hread => simp [hread]
  case h_2 mask hread =>
      rw [hread]
      split
      case isTrue hfailed => exact ⟨rfl, rfl, by simp [hfailed]⟩
      case isFalse hok =>
          rw [not_not] at hok
          exact ⟨rfl, rfl, by simp [hok]⟩

theorem forwardInputFilterBanks_spec (env : PassEnv) (pass : Pass) (count : Nat) :
    (run (forwardInputFilterBank env) (pass, true) (List.range count)).1.device = pass.device ∧
      (run (forwardInputFilterBank env) (pass, true) (List.range count)).1.memory = pass.memory ∧
      (run (forwardInputFilterBank env) (pass, true) (List.range count)).2 =
        (List.range count).all (forwardsBank env pass) := by
  refine @run_range_invariant _ (forwardInputFilterBank env)
    (fun k state => state.1.device = pass.device ∧ state.1.memory = pass.memory ∧
      state.2 = (List.range k).all (forwardsBank env pass)) (pass, true) count
    ⟨rfl, rfl, rfl⟩ ?_
  rintro k state - ⟨hdevice, hmemory, hflag⟩
  obtain ⟨hdevice', hmemory', hflag'⟩ := forwardInputFilterBank_spec env state k
  refine ⟨hdevice'.trans hdevice, hmemory'.trans hmemory, ?_⟩
  have hbank : forwardsBank env state.1 k = forwardsBank env pass k := by
    simp only [forwardsBank, hdevice, hmemory]
  rw [hflag', hflag, hbank, List.range_succ, List.all_append]
  simp

/-- Forwarding touches the dirty flag only, and succeeds when every bank does. -/
theorem forwardInputFilterConfiguration_spec (env : PassEnv) (pass : Pass) :
    { (forwardInputFilterConfiguration env pass).1.device with digitalInputFilterDirty := true } =
        { pass.device with digitalInputFilterDirty := true } ∧
      (forwardInputFilterConfiguration env pass).1.memory = pass.memory ∧
      (pass.device.bound.digitalInputFilter8.isSome = true →
        pass.io.setDigitalInputFilter8 = true →
          (forwardInputFilterConfiguration env pass).2 = forwards env pass) := by
  obtain ⟨hdevice, hmemory, hflag⟩ := forwardInputFilterBanks_spec env pass
    pass.device.config.digitalInputBanks
  unfold forwardInputFilterConfiguration forwards
  split
  case isTrue hclean =>
      refine ⟨rfl, rfl, fun _ _ => ?_⟩
      rw [hclean, Bool.true_or]
  case isFalse hdirty =>
      split
      case isTrue hmissing =>
          refine ⟨rfl, rfl, fun hfilter hset => ?_⟩
          rw [hset, Option.isNone_eq_false_iff.mpr hfilter] at hmissing
          cases hmissing
      case isFalse =>
          rw [Bool.not_eq_true] at hdirty
          rw [hdirty, Bool.false_or, ← hflag]
          dsimp only
          split
          case isTrue hall => exact ⟨by rw [hdevice], hmemory, fun _ _ => hall.symm⟩
          case isFalse hall =>
              rw [Bool.not_eq_true] at hall
              exact ⟨by rw [hdevice], hmemory, fun _ _ => hall.symm⟩

/-- The digital loop of this pass is not skipped for want of inputs. -/
def digitalStage (pass : Pass) : Bool :=
  pass.device.odBound && pass.io.readDigital8 && pass.device.bound.digitalInput8.isSome &&
    pass.device.config.digitalInputBanks ≠ 0

/-- 0x6005 as the digital loop reads it. -/
def digitalInterruptEnable (env : PassEnv) (pass : Pass) : BitVec 8 :=
  (pass.memory.getU8 env.access pass.device.bound.digitalInterruptEnable 0).getD 0#8

/-- A digital event fires for a bank in the pass that starts here. -/
def digitalEvent (env : PassEnv) (pass : Pass) (bank : Nat) : Bool :=
  env.features.digitalEvents && digitalStage pass && (forwardInputFilterConfiguration env pass).2 &&
    (bank < pass.device.config.digitalInputBanks &&
      digitalFires env (digitalInterruptEnable env pass) pass bank)

theorem digitalRefreshInputs_eq (env : PassEnv) (pass : Pass)
    (hevents : env.features.digitalEvents = true) :
    digitalRefreshInputs env pass =
      if digitalStage pass then
        if (forwardInputFilterConfiguration env pass).2 then
          refreshDigitalInputs env (digitalInterruptEnable env pass)
            (forwardInputFilterConfiguration env pass).1
        else (forwardInputFilterConfiguration env pass).1
      else pass := by
  obtain ⟨hdevice, hmemory, -⟩ := forwardInputFilterConfiguration_spec env pass
  have hbound : (forwardInputFilterConfiguration env pass).1.device.bound = pass.device.bound :=
    (congrArg Device.bound hdevice :)
  unfold digitalRefreshInputs
  by_cases hstage : digitalStage pass = true
  · have hguard : (!pass.device.odBound || !pass.io.readDigital8 ||
        pass.device.bound.digitalInput8.isNone ||
          decide (pass.device.config.digitalInputBanks = 0)) = false := by
      simp only [digitalStage, Bool.and_eq_true, decide_eq_true_eq] at hstage
      simp [hstage]
    rw [if_pos hstage, if_neg (by simp [hguard]), if_pos hevents]
    split
    case h_1 heq => simp [heq]
    case h_2 after heq =>
        rw [heq] at hbound hmemory
        simp only [heq, if_true]
        rw [digitalInterruptEnable, ← hbound, ← hmemory]
  · have hguard : (!pass.device.odBound || !pass.io.readDigital8 ||
        pass.device.bound.digitalInput8.isNone ||
          decide (pass.device.config.digitalInputBanks = 0)) = true := by
      rw [Bool.not_eq_true] at hstage
      simp only [digitalStage, Bool.and_eq_false_iff, decide_eq_false_iff_not, not_not] at hstage
      rcases hstage with ((h | h) | h) | h
      · simp [h]
      · simp [h]
      · simp [Option.isSome_eq_false_iff.mp h]
      · simp [h]
    rw [if_neg hstage, if_pos hguard]

theorem refreshDigitalInput_quiet (env : PassEnv) (interruptEnable : BitVec 8) (pass : Pass)
    (bank : Nat) (hevents : env.features.digitalEvents = false) :
    (refreshDigitalInput env interruptEnable pass bank).device = pass.device := by
  unfold refreshDigitalInput
  dsimp only
  rw [hevents, if_neg (by decide)]
  split <;> rfl

theorem digitalRefreshInputs_quiet (env : PassEnv) (pass : Pass)
    (hevents : env.features.digitalEvents = false) :
    (digitalRefreshInputs env pass).device = pass.device := by
  unfold digitalRefreshInputs
  split
  · rfl
  · rw [hevents, if_neg (by decide)]
    exact @run_invariant _ _ (refreshDigitalInput env 0#8)
      (fun after => after.device = pass.device)
      (fun after bank h => (refreshDigitalInput_quiet env 0#8 after bank hevents).trans h)
      pass rfl _

theorem digitalRefreshInputs_marked (env : PassEnv) (pass : Pass) (bank : Nat) :
    (digitalRefreshInputs env pass).device.digitalInputEventTpdoPending.test bank =
      (pass.device.digitalInputEventTpdoPending.test bank || digitalEvent env pass bank) := by
  cases hevents : env.features.digitalEvents with
  | false => rw [digitalRefreshInputs_quiet env pass hevents, digitalEvent, hevents]; simp
  | true =>
      obtain ⟨hdevice, hmemory, -⟩ := forwardInputFilterConfiguration_spec env pass
      have hpending :
          (forwardInputFilterConfiguration env pass).1.device.digitalInputEventTpdoPending =
          pass.device.digitalInputEventTpdoPending :=
        (congrArg Device.digitalInputEventTpdoPending hdevice :)
      rw [digitalRefreshInputs_eq env pass hevents, digitalEvent, hevents, Bool.true_and]
      cases digitalStage pass with
      | false => simp
      | true =>
          cases hforward : (forwardInputFilterConfiguration env pass).2 with
          | false => simp [hpending]
          | true =>
              have hrounds := refreshDigitalInputs_rounds env (digitalInterruptEnable env pass)
                (forwardInputFilterConfiguration env pass).1 hevents
              have hfires : digitalFires env (digitalInterruptEnable env pass)
                  (forwardInputFilterConfiguration env pass).1 bank =
                    digitalFires env (digitalInterruptEnable env pass) pass bank :=
                digitalFires_congr (congrArg Device.bound hdevice :) (by rw [hmemory])
              have hconfig : (forwardInputFilterConfiguration env pass).1.device.config =
                  pass.device.config := (congrArg Device.config hdevice :)
              rw [if_pos rfl, if_pos rfl, hrounds.marked bank, hpending, hfires, hconfig]
              simp

/-- A marked bank is requested again when the filter configuration is forwarded. -/
theorem digitalRefreshInputs_requests (env : PassEnv) {pass : Pass} {bank : Nat}
    {entry : OdEntry} (hevents : env.features.digitalEvents = true)
    (hstage : digitalStage pass = true)
    (hforwards : (forwardInputFilterConfiguration env pass).2 = true)
    (hentry : pass.device.bound.digitalInput8 = some entry)
    (hextension : (pass.memory.extension entry).isSome = true)
    (hbank : bank < pass.device.config.digitalInputBanks)
    (hmarked : pass.device.digitalInputEventTpdoPending.test bank = true) :
    Effect.requestTPDO entry (bank + 1) ∈ (digitalRefreshInputs env pass).effects := by
  obtain ⟨hdevice, hmemory, -⟩ := forwardInputFilterConfiguration_spec env pass
  rw [digitalRefreshInputs_eq env pass hevents, if_pos hstage, if_pos hforwards]
  have hrounds := refreshDigitalInputs_rounds env (digitalInterruptEnable env pass)
    (forwardInputFilterConfiguration env pass).1 hevents
  have hconfig : (forwardInputFilterConfiguration env pass).1.device.config = pass.device.config :=
    (congrArg Device.config hdevice :)
  have hbound : (forwardInputFilterConfiguration env pass).1.device.bound = pass.device.bound :=
    (congrArg Device.bound hdevice :)
  have hpending : (forwardInputFilterConfiguration env pass).1.device.digitalInputEventTpdoPending =
      pass.device.digitalInputEventTpdoPending :=
    (congrArg Device.digitalInputEventTpdoPending hdevice :)
  apply hrounds.requested bank entry
  · rwa [hconfig]
  · rw [hbound, hentry]
  · rwa [hmemory]
  · rwa [hpending]

theorem digitalRefreshInputs_device (env : PassEnv) (pass : Pass) :
    { (digitalRefreshInputs env pass).device with
      digitalInputFilterDirty := true
      digitalInputEventTpdoPending := Bitmap.empty } =
    { pass.device with
      digitalInputFilterDirty := true
      digitalInputEventTpdoPending := Bitmap.empty } := by
  cases hevents : env.features.digitalEvents with
  | true =>
      obtain ⟨hdevice, -, -⟩ := forwardInputFilterConfiguration_spec env pass
      have hforward : { (forwardInputFilterConfiguration env pass).1.device with
            digitalInputFilterDirty := true
            digitalInputEventTpdoPending := Bitmap.empty } =
          { pass.device with
            digitalInputFilterDirty := true
            digitalInputEventTpdoPending := Bitmap.empty } :=
        (congrArg (fun device : Device =>
          { device with digitalInputEventTpdoPending := Bitmap.empty }) hdevice :)
      have hrounds := refreshDigitalInputs_rounds env (digitalInterruptEnable env pass)
        (forwardInputFilterConfiguration env pass).1 hevents
      rw [digitalRefreshInputs_eq env pass hevents]
      split
      · split
        · exact (congrArg (fun device : Device =>
            { device with digitalInputFilterDirty := true }) hrounds.device :).trans hforward
        · exact hforward
      · rfl
  | false =>
      rw [digitalRefreshInputs_quiet env pass hevents]

/-! ### The analogue stage -/

/-- The analogue loop of this pass is not skipped for want of inputs. -/
def analogStage (pass : Pass) : Bool :=
  pass.device.odBound && pass.io.readAnalog16 && pass.device.bound.analogInput16.isSome &&
    pass.device.config.analogInputChannels ≠ 0

/-- An analogue event fires for a channel in the stage that starts here. -/
def analogEvent (env : PassEnv) (pass : Pass) (channel : Nat) : Bool :=
  env.features.analogEvents && analogStage pass &&
    (channel < pass.device.config.analogInputChannels && analogFires env pass channel)

theorem analogStage_guard (pass : Pass) :
    (!pass.device.odBound || !pass.io.readAnalog16 || pass.device.bound.analogInput16.isNone ||
      decide (pass.device.config.analogInputChannels = 0)) = !analogStage pass := by
  have hnone : pass.device.bound.analogInput16.isNone =
      !pass.device.bound.analogInput16.isSome := by
    cases pass.device.bound.analogInput16 <;> rfl
  rw [analogStage, hnone]
  simp

theorem requestPendingAnalogSourceTpdo_device (env : PassEnv) (pass : Pass) (bank : Nat) :
    (requestPendingAnalogSourceTpdo env pass bank).device = pass.device ∧
      (requestPendingAnalogSourceTpdo env pass bank).memory = pass.memory := by
  unfold requestPendingAnalogSourceTpdo
  split
  · exact ⟨rfl, rfl⟩
  · split
    · exact requestTPDO_device ..
    · exact ⟨rfl, rfl⟩

theorem requestPendingAnalogSourceTpdos_device (env : PassEnv) (pass : Pass) (banks : List Nat) :
    (run (requestPendingAnalogSourceTpdo env) pass banks).device = pass.device ∧
      (run (requestPendingAnalogSourceTpdo env) pass banks).memory = pass.memory := by
  refine @run_invariant _ _ (requestPendingAnalogSourceTpdo env)
    (fun after => after.device = pass.device ∧ after.memory = pass.memory) ?_ pass ⟨rfl, rfl⟩ banks
  rintro after bank ⟨hdevice, hmemory⟩
  obtain ⟨hdevice', hmemory'⟩ := requestPendingAnalogSourceTpdo_device env after bank
  exact ⟨hdevice'.trans hdevice, hmemory'.trans hmemory⟩

theorem analogRefreshInputs_eq (env : PassEnv) (pass : Pass)
    (hevents : env.features.analogEvents = true) :
    analogRefreshInputs env pass =
      if analogStage pass then
        run (requestPendingAnalogSourceTpdo env)
          (run (refreshAnalogInput env) pass (List.range pass.device.config.analogInputChannels))
          (List.range (run (refreshAnalogInput env) pass
            (List.range pass.device.config.analogInputChannels)).device.config.sourceBanks)
      else pass := by
  unfold analogRefreshInputs
  rw [analogStage_guard]
  cases analogStage pass with
  | false => rfl
  | true =>
      dsimp only
      rw [Bool.not_true, if_neg (by decide), if_pos hevents, if_pos rfl]

/-- Without analogue events a round stores its sample and nothing else. -/
theorem refreshAnalogInput_quiet (env : PassEnv) (pass : Pass) (channel : Nat)
    (hevents : env.features.analogEvents = false) :
    (refreshAnalogInput env pass channel).device = pass.device := by
  unfold refreshAnalogInput storeAnalogInput
  rw [hevents]
  dsimp only
  rw [if_neg (by decide)]
  split
  · rfl
  · rw [Bool.false_and, if_neg (by decide)]
    rfl

theorem analogRefreshInputs_quiet (env : PassEnv) (pass : Pass)
    (hevents : env.features.analogEvents = false) :
    (analogRefreshInputs env pass).device = pass.device := by
  unfold analogRefreshInputs
  split
  · rfl
  · rw [hevents]
    exact @run_invariant _ _ (refreshAnalogInput env)
      (fun after => after.device = pass.device)
      (fun after channel h => (refreshAnalogInput_quiet env after channel hevents).trans h)
      pass rfl _

section Separated

variable {env : PassEnv} {pass : Pass}
  (hseparate : env.features.analogEvents = true → analogStage pass = true →
    Separate pass.device.bound)

include hseparate

theorem analogRefreshInputs_marked (channel : Nat) :
    (analogRefreshInputs env pass).device.analogInputEventTpdoPending.test channel =
      (pass.device.analogInputEventTpdoPending.test channel || analogEvent env pass channel) := by
  cases hevents : env.features.analogEvents with
  | false => rw [analogRefreshInputs_quiet env pass hevents, analogEvent, hevents]; simp
  | true =>
      rw [analogRefreshInputs_eq env pass hevents, analogEvent, hevents, Bool.true_and]
      cases hstage : analogStage pass with
      | false => simp
      | true =>
          have hrounds := analogRounds env pass pass.device.config.analogInputChannels hevents
            (hseparate hevents hstage)
          rw [if_pos rfl, (requestPendingAnalogSourceTpdos_device ..).1, hrounds.marked channel,
            Bool.true_and]

theorem analogRefreshInputs_requests {channel : Nat} {entry : OdEntry}
    (hevents : env.features.analogEvents = true) (hstage : analogStage pass = true)
    (hentry : pass.device.bound.analogInput16 = some entry)
    (hextension : (pass.memory.extension entry).isSome = true)
    (hchannel : channel < pass.device.config.analogInputChannels)
    (hmarked : pass.device.analogInputEventTpdoPending.test channel = true) :
    Effect.requestTPDO entry (channel + 1) ∈ (analogRefreshInputs env pass).effects := by
  have hrounds := analogRounds env pass pass.device.config.analogInputChannels hevents
    (hseparate hevents hstage)
  rw [analogRefreshInputs_eq env pass hevents, if_pos hstage]
  apply (run_inputs (requestPendingAnalogSourceTpdo_inputs env) ..).kept.effects.subset
  apply hrounds.requested channel entry hchannel hentry hextension
  rw [hrounds.marked channel, hmarked, Bool.true_or]

theorem analogRefreshInputs_device :
    { (analogRefreshInputs env pass).device with
      analogInputEventTpdoPending := Bitmap.empty } =
    { pass.device with analogInputEventTpdoPending := Bitmap.empty } := by
  cases hevents : env.features.analogEvents with
  | true =>
      rw [analogRefreshInputs_eq env pass hevents]
      cases hstage : analogStage pass with
      | false => rfl
      | true =>
          rw [if_pos rfl, (requestPendingAnalogSourceTpdos_device ..).1]
          exact (analogRounds env pass _ hevents (hseparate hevents hstage)).device
  | false =>
      rw [analogRefreshInputs_quiet env pass hevents]

end Separated

end Pass

end CanopenRtt.Cia401
