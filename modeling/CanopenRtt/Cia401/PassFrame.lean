import CanopenRtt.Cia401.Process
import Mathlib.Logic.Relation
/-!
# What one pass leaves alone

A pass changes the input bookkeeping and the completion flag of the Device and
stored values of the dictionary. The bound objects, the hooks, the extension
slots and the supervision latch are as before. The input phases are sequences of
three elementary changes, the output phases write outputs and clear the flag.
-/

namespace CanopenRtt.Cia401

open CanopenRtt.Support

/-- The Device without what a pass may change. -/
def Device.core (device : Device) : Device :=
  { device with
    digitalInputFilterDirty := false
    digitalInputEventTpdoPending := Bitmap.empty
    analogInputEventTpdoPending := Bitmap.empty
    failSafeOutputApplyComplete := false }

inductive OutputClass where
  | digital
  | analog
  deriving DecidableEq, Repr

/-- The class of a physical output write. -/
def Effect.outputClass : Effect → Option OutputClass
  | requestTPDO _ _ => none
  | setDigitalInputFilter8 _ _ => none
  | writeDigital8 _ _ => some .digital
  | writeDigital8Masked _ _ _ => some .digital
  | writeAnalog16 _ _ => some .analog

namespace Memory

theorem setU32_frame {memory after : Memory} {access : OdAccess} {entry : Option OdEntry}
    {subIndex : Nat} {value : BitVec 32}
    (h : memory.setU32 access entry subIndex value = some after) :
    after.shape = memory.shape ∧ after.extension = memory.extension := by
  obtain ⟨target, -, -, rfl⟩ := exists_of_setU32 h
  exact ⟨rfl, rfl⟩

end Memory

namespace Pass

/-- The second pass state differs from the first by pass effects only. -/
structure Kept (before after : Pass) : Prop where
  core : after.device.core = before.device.core
  shape : after.memory.shape = before.memory.shape
  extension : after.memory.extension = before.memory.extension
  effects : before.effects <+: after.effects

theorem Kept.refl (pass : Pass) : Kept pass pass := ⟨rfl, rfl, rfl, List.prefix_rfl⟩

theorem Kept.trans {first second third : Pass} (h : Kept first second) (h' : Kept second third) :
    Kept first third :=
  ⟨h'.core.trans h.core, h'.shape.trans h.shape, h'.extension.trans h.extension,
    h.effects.trans h'.effects⟩

section Fields

variable {before after : Pass} (h : Kept before after)

include h

theorem Kept.bound : after.device.bound = before.device.bound :=
  (congrArg Device.bound h.core :)

theorem Kept.config : after.device.config = before.device.config :=
  (congrArg Device.config h.core :)

theorem Kept.odBound : after.device.odBound = before.device.odBound :=
  (congrArg Device.odBound h.core :)

theorem Kept.od : after.device.od = before.device.od :=
  (congrArg Device.od h.core :)

theorem Kept.logicalDevice : after.device.logicalDevice = before.device.logicalDevice :=
  (congrArg Device.logicalDevice h.core :)

theorem Kept.extensions : after.device.extensions = before.device.extensions :=
  (congrArg Device.extensions h.core :)

theorem Kept.outputSupervisionReady :
    after.device.outputSupervisionReady = before.device.outputSupervisionReady :=
  (congrArg Device.outputSupervisionReady h.core :)

end Fields

/-! ### The input phases -/

/-- One elementary change of the input phases. -/
inductive InputStep : Pass → Pass → Prop where
  | emit (pass : Pass) {effect : Effect} (h : effect.outputClass = none) :
      InputStep pass (pass.emit effect)
  | store {pass : Pass} {access : OdAccess} {entry : Option OdEntry} {subIndex : Nat}
      {value : BitVec 32} {memory : Memory}
      (h : pass.memory.setU32 access entry subIndex value = some memory) :
      InputStep pass { pass with memory := memory }
  | mark (pass : Pass) (dirty : Bool) (digital analog : Bitmap) :
      InputStep pass
        { pass with
          device :=
            { pass.device with
              digitalInputFilterDirty := dirty
              digitalInputEventTpdoPending := digital
              analogInputEventTpdoPending := analog } }

/-- Any number of elementary changes. -/
abbrev Inputs : Pass → Pass → Prop := Relation.ReflTransGen InputStep

theorem InputStep.kept {before after : Pass} (h : InputStep before after) : Kept before after := by
  cases h with
  | emit _ => exact ⟨rfl, rfl, rfl, List.prefix_append _ _⟩
  | store hset =>
      exact ⟨rfl, (Memory.setU32_frame hset).1, (Memory.setU32_frame hset).2, List.prefix_rfl⟩
  | mark dirty digital analog => exact ⟨rfl, rfl, rfl, List.prefix_rfl⟩

theorem Inputs.kept {before after : Pass} (h : Inputs before after) : Kept before after := by
  induction h with
  | refl => exact .refl before
  | tail _ hstep ih => exact ih.trans hstep.kept

theorem emit_inputs (pass : Pass) {effect : Effect} (h : effect.outputClass = none) :
    Inputs pass (pass.emit effect) :=
  .single (.emit pass h)

theorem store_inputs {pass : Pass} {access : OdAccess} {entry : Option OdEntry} {subIndex : Nat}
    {value : BitVec 32} {memory : Memory}
    (h : pass.memory.setU32 access entry subIndex value = some memory) :
    Inputs pass { pass with memory := memory } :=
  .single (.store h)

theorem requestTPDO_inputs (pass : Pass) (entry : Option OdEntry) (subIndex : Nat) :
    Inputs pass (pass.requestTPDO entry subIndex) := by
  unfold requestTPDO
  split
  · exact .refl
  · split
    · exact emit_inputs pass rfl
    · exact .refl

theorem put_inputs (pass : Pass) (access : OdAccess) (entry : Option OdEntry) (subIndex : Nat)
    (value : BitVec 32) :
    Inputs pass (pass.put (pass.memory.setU32 access entry subIndex value)) := by
  unfold put
  cases hset : pass.memory.setU32 access entry subIndex value with
  | none => exact .refl
  | some memory => exact store_inputs hset

/-- A loop of input changes. -/
theorem run_inputs {ι : Type} {body : Pass → ι → Pass}
    (hbody : ∀ pass i, Inputs pass (body pass i)) (pass : Pass) (items : List ι) :
    Inputs pass (run body pass items) :=
  @run_invariant _ _ _ (Inputs pass) (fun after i h => h.trans (hbody after i)) _ .refl items

theorem forwardInputFilterBank_inputs (env : PassEnv) (state : Pass × Bool) (bank : Nat) :
    Inputs state.1 (forwardInputFilterBank env state bank).1 := by
  unfold forwardInputFilterBank
  dsimp only
  split
  · exact .refl
  · split <;> exact emit_inputs _ rfl

theorem forwardInputFilterConfiguration_inputs (env : PassEnv) (pass : Pass) :
    Inputs pass (forwardInputFilterConfiguration env pass).1 := by
  unfold forwardInputFilterConfiguration
  split
  · exact .refl
  · split
    · exact .refl
    · have hrun : Inputs pass (run (forwardInputFilterBank env) (pass, true)
          (List.range pass.device.config.digitalInputBanks)).1 :=
        @run_invariant _ _ _ (fun state : Pass × Bool => Inputs pass state.1)
          (fun state bank h => h.trans (forwardInputFilterBank_inputs env state bank)) _ .refl _
      dsimp only
      split
      · exact hrun.trans (.single (.mark _ ..))
      · exact hrun

theorem requestPendingDigitalInputTpdo_inputs (pass : Pass) (bank : Nat) :
    Inputs pass (requestPendingDigitalInputTpdo pass bank) := by
  unfold requestPendingDigitalInputTpdo
  split
  · exact requestTPDO_inputs ..
  · exact .refl

theorem latchDigitalEvent_inputs (pass : Pass) (bank : Nat) :
    Inputs pass (latchDigitalEvent pass bank) :=
  (Relation.ReflTransGen.single (.mark pass ..)).trans
    (requestPendingDigitalInputTpdo_inputs ..)

theorem storeDigitalInput_inputs (env : PassEnv) (interruptEnable : BitVec 8) (pass : Pass)
    (bank : Nat) (raw : BitVec 8) :
    Inputs pass (storeDigitalInput env interruptEnable pass bank raw) := by
  unfold storeDigitalInput
  split
  · exact .refl
  · split
    · exact .refl
    · dsimp only
      split
      · exact .refl
      case h_2 hset =>
          split
          · exact (store_inputs hset).trans (latchDigitalEvent_inputs ..)
          · exact store_inputs hset

theorem refreshDigitalInput_inputs (env : PassEnv) (interruptEnable : BitVec 8) (pass : Pass)
    (bank : Nat) : Inputs pass (refreshDigitalInput env interruptEnable pass bank) := by
  unfold refreshDigitalInput
  dsimp only
  cases env.features.digitalEvents with
  | true =>
      rw [if_pos rfl]
      have hrequest := requestPendingDigitalInputTpdo_inputs pass bank
      split
      · exact hrequest
      · exact hrequest.trans (storeDigitalInput_inputs ..)
  | false =>
      rw [if_neg (by decide)]
      split
      · exact .refl
      · exact put_inputs ..

theorem refreshDigitalInputs_inputs (env : PassEnv) (interruptEnable : BitVec 8) (pass : Pass) :
    Inputs pass (refreshDigitalInputs env interruptEnable pass) :=
  run_inputs (refreshDigitalInput_inputs env interruptEnable) ..

theorem digitalRefreshInputs_inputs (env : PassEnv) (pass : Pass) :
    Inputs pass (digitalRefreshInputs env pass) := by
  have hforward := forwardInputFilterConfiguration_inputs env pass
  unfold digitalRefreshInputs
  split
  · exact .refl
  · split
    · split
      case h_1 heq =>
          rw [heq] at hforward
          exact hforward
      case h_2 heq =>
          rw [heq] at hforward
          exact hforward.trans (refreshDigitalInputs_inputs ..)
    · exact refreshDigitalInputs_inputs ..

theorem fireAnalogEvent_inputs (env : PassEnv) (pass : Pass) (channel : Nat) :
    Inputs pass (fireAnalogEvent env pass channel) := by
  unfold fireAnalogEvent
  dsimp only
  split
  · exact .single (.mark pass ..)
  · exact (put_inputs ..).trans (.single (.mark _ ..))

theorem latchAnalogEvent_inputs (env : PassEnv) (pass : Pass) (channel : Nat)
    (value : BitVec 16) : Inputs pass (latchAnalogEvent env pass channel value) := by
  unfold latchAnalogEvent
  split
  · exact .refl
  · split
    · exact .refl
    · split
      · exact .refl
      · split
        · exact fireAnalogEvent_inputs ..
        · exact .refl

theorem requestPendingAnalogInputTpdo_inputs (pass : Pass) (channel : Nat) :
    Inputs pass (requestPendingAnalogInputTpdo pass channel) := by
  unfold requestPendingAnalogInputTpdo
  split
  · exact requestTPDO_inputs ..
  · exact .refl

theorem requestPendingAnalogSourceTpdo_inputs (env : PassEnv) (pass : Pass) (bank : Nat) :
    Inputs pass (requestPendingAnalogSourceTpdo env pass bank) := by
  unfold requestPendingAnalogSourceTpdo
  split
  · exact .refl
  · split
    · exact requestTPDO_inputs ..
    · exact .refl

theorem storeAnalogInput_inputs (env : PassEnv) (pass : Pass) (channel : Nat)
    (value : BitVec 16) : Inputs pass (storeAnalogInput env pass channel value) := by
  unfold storeAnalogInput
  dsimp only
  split
  · exact (put_inputs ..).trans (latchAnalogEvent_inputs ..)
  · exact put_inputs ..

theorem refreshAnalogInput_inputs (env : PassEnv) (pass : Pass) (channel : Nat) :
    Inputs pass (refreshAnalogInput env pass channel) := by
  have hstored : ∀ after, Inputs pass after →
      Inputs pass (if env.features.analogEvents = true then
        requestPendingAnalogInputTpdo after channel else after) := by
    intro after h
    split
    · exact h.trans (requestPendingAnalogInputTpdo_inputs ..)
    · exact h
  unfold refreshAnalogInput
  apply hstored
  split
  · exact .refl
  · exact storeAnalogInput_inputs ..

theorem analogRefreshInputs_inputs (env : PassEnv) (pass : Pass) :
    Inputs pass (analogRefreshInputs env pass) := by
  unfold analogRefreshInputs
  split
  · exact .refl
  · have hchannels := run_inputs (refreshAnalogInput_inputs env) pass
      (List.range pass.device.config.analogInputChannels)
    dsimp only
    split
    · exact hchannels.trans (run_inputs (requestPendingAnalogSourceTpdo_inputs env) ..)
    · exact hchannels

/-! ### The output phases -/

/-- The second pass state differs from the first by output writes only. -/
structure OutputsOnly (before after : Pass) : Prop where
  device : { after.device with failSafeOutputApplyComplete := true } =
    { before.device with failSafeOutputApplyComplete := true }
  memory : after.memory = before.memory
  effects : before.effects <+: after.effects

theorem OutputsOnly.refl (pass : Pass) : OutputsOnly pass pass := ⟨rfl, rfl, List.prefix_rfl⟩

theorem OutputsOnly.trans {first second third : Pass} (h : OutputsOnly first second)
    (h' : OutputsOnly second third) : OutputsOnly first third :=
  ⟨h'.device.trans h.device, h'.memory.trans h.memory, h.effects.trans h'.effects⟩

theorem OutputsOnly.kept {before after : Pass} (h : OutputsOnly before after) :
    Kept before after :=
  ⟨(congrArg Device.core h.device :), congrArg Memory.shape h.memory,
    congrArg Memory.extension h.memory, h.effects⟩

/-- One elementary change of the output phase of one class. -/
inductive OutputStep (output : OutputClass) : Pass → Pass → Prop where
  | emit (pass : Pass) {effect : Effect} (h : effect.outputClass = some output) :
      OutputStep output pass (pass.emit effect)
  | clear (pass : Pass) : OutputStep output pass pass.clearApplyComplete

abbrev Outputs (output : OutputClass) : Pass → Pass → Prop :=
  Relation.ReflTransGen (OutputStep output)

theorem Outputs.only {output : OutputClass} {before after : Pass}
    (h : Outputs output before after) :
    OutputsOnly before after := by
  induction h with
  | refl => exact .refl before
  | tail _ hstep ih =>
      refine ih.trans ?_
      cases hstep with
      | emit _ => exact ⟨rfl, rfl, List.prefix_append _ _⟩
      | clear => exact ⟨rfl, rfl, List.prefix_rfl⟩

/-- A write, after which the flag may be cleared. -/
theorem emit_outputs {output : OutputClass} (pass : Pass) {effect : Effect}
    (h : effect.outputClass = some output) : Outputs output pass (pass.emit effect) :=
  .single (.emit pass h)

theorem clear_outputs {output : OutputClass} (pass : Pass) :
    Outputs output pass pass.clearApplyComplete :=
  .single (.clear pass)

theorem applyDigitalErrorValue_outputs (env : PassEnv) (pass : Pass) (bank : Nat)
    (polarity filterMask : BitVec 8) :
    Outputs .digital pass (applyDigitalErrorValue env pass bank polarity filterMask) := by
  unfold applyDigitalErrorValue
  dsimp only
  split
  · split
    · exact .refl
    · split
      · exact (emit_outputs pass rfl).tail (.clear _)
      · exact emit_outputs pass rfl
  · exact clear_outputs pass

theorem applyDigitalCommand_outputs (pass : Pass) (bank : Nat)
    (command polarity filterMask : BitVec 8) :
    Outputs .digital pass (applyDigitalCommand pass bank command polarity filterMask) := by
  unfold applyDigitalCommand
  dsimp only
  split
  · exact .refl
  · split <;> exact emit_outputs pass rfl

theorem applyDigitalOutput_outputs (env : PassEnv) (pass : Pass) (bank : Nat) :
    Outputs .digital pass (applyDigitalOutput env pass bank) := by
  unfold applyDigitalOutput
  dsimp only
  split
  · split
    · split
      · exact applyDigitalErrorValue_outputs ..
      · exact applyDigitalCommand_outputs ..
    · split
      · exact clear_outputs pass
      · exact .refl
  · split
    · exact .refl
    · exact emit_outputs pass rfl

theorem writeAnalogOutput_outputs (env : PassEnv) (failSafeActive : Bool) (pass : Pass)
    (channel : Nat) (physical : BitVec 16) :
    Outputs .analog pass (writeAnalogOutput env failSafeActive pass channel physical) := by
  unfold writeAnalogOutput
  dsimp only
  split
  · exact (emit_outputs pass rfl).tail (.clear _)
  · exact emit_outputs pass rfl

theorem applyAnalogErrorValue_outputs (env : PassEnv) (pass : Pass) (channel : Nat) :
    Outputs .analog pass (applyAnalogErrorValue env pass channel) := by
  unfold applyAnalogErrorValue
  dsimp only
  split
  · exact clear_outputs pass
  · split
    · exact .refl
    · split
      · split
        · exact clear_outputs pass
        · exact writeAnalogOutput_outputs ..
      · exact clear_outputs pass

theorem applyAnalogOutput_outputs (env : PassEnv) (pass : Pass) (channel : Nat) :
    Outputs .analog pass (applyAnalogOutput env pass channel) := by
  unfold applyAnalogOutput
  dsimp only
  split
  · split
    · exact clear_outputs pass
    · exact .refl
  · split
    · exact applyAnalogErrorValue_outputs ..
    · split
      · exact .refl
      · exact writeAnalogOutput_outputs ..

theorem run_outputs {output : OutputClass} {ι : Type} {body : Pass → ι → Pass}
    (hbody : ∀ pass i, Outputs output pass (body pass i)) (pass : Pass) (items : List ι) :
    Outputs output pass (run body pass items) :=
  @run_invariant _ _ _ (Outputs output pass) (fun after i h => h.trans (hbody after i)) _ .refl
    items

theorem digitalApplyOutputs_outputs (env : PassEnv) (pass : Pass) :
    Outputs .digital pass (digitalApplyOutputs env pass) := by
  unfold digitalApplyOutputs
  split
  · exact .refl
  · exact run_outputs (applyDigitalOutput_outputs env) ..

theorem analogApplyOutputs_outputs (env : PassEnv) (pass : Pass) :
    Outputs .analog pass (analogApplyOutputs env pass) := by
  unfold analogApplyOutputs
  split
  · exact .refl
  · exact run_outputs (applyAnalogOutput_outputs env) ..

end Pass

namespace Device

theorem beginPass_kept (env : PassEnv) (device : Device) (memory : Memory) (complete : Bool) :
    Pass.Kept ⟨device, memory, []⟩ (device.beginPass env memory complete) := by
  unfold beginPass
  split <;> exact ⟨rfl, rfl, rfl, List.prefix_rfl⟩

theorem process_kept (env : PassEnv) (device : Device) (memory : Memory) :
    Pass.Kept ⟨device, memory, []⟩ (device.process env memory) := by
  unfold process
  split
  · exact beginPass_kept ..
  · exact (beginPass_kept ..).trans <| (Pass.digitalRefreshInputs_inputs ..).kept.trans <|
      (Pass.analogRefreshInputs_inputs ..).kept.trans <|
        (Pass.digitalApplyOutputs_outputs ..).only.kept.trans
          (Pass.analogApplyOutputs_outputs ..).only.kept

end Device

end CanopenRtt.Cia401
