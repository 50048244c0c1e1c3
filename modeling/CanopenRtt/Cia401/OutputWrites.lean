import CanopenRtt.Cia401.PassFrame
/-!
# The output writes of one pass

While a fail-safe source of an output class is active, the pass writes the error
values of that class and nothing else. The completion flag is the conjunction
over all banks and channels of "nothing to write, or written with result OK".
-/

namespace CanopenRtt.Cia401

open CanopenRtt.Support

/-- A bound Device can write every output class it has. -/
structure Device.Writable (device : Device) : Prop where
  digital : device.config.digitalOutputBanks ≠ 0 →
    (device.config.io.any (·.writeDigital8)) = true ∧ device.bound.digitalOutput8.isSome = true
  analog : device.config.analogOutputChannels ≠ 0 →
    (device.config.io.any (·.writeAnalog16)) = true ∧ device.bound.analogOutput16.isSome = true

namespace Pass

/-- The output writes of one class so far. -/
def writes (output : OutputClass) (pass : Pass) : List Effect :=
  pass.effects.filter fun effect => effect.outputClass = some output

/-! ### Error values -/

/-- The error value of one bank and the bits it applies to, when all reads succeed. -/
def digitalErrorValue (access : OdAccess) (bound : BoundOd) (memory : Memory) (bank : Nat) :
    Option (BitVec 8 × BitVec 8) := do
  let _command ← memory.getU8 access bound.digitalOutput8 (bank + 1)
  let polarity ← memory.getU8 access bound.digitalOutputPolarity8 (bank + 1)
  let filterMask ← memory.getU8 access bound.digitalOutputFilter8 (bank + 1)
  let errorMode ← memory.getU8 access bound.digitalOutputErrorMode8 (bank + 1)
  let errorValue ← memory.getU8 access bound.digitalOutputErrorValue8 (bank + 1)
  return (errorValue ^^^ polarity, errorMode &&& filterMask)

/-- The error value of one channel, if its mode asks for one; no answer when a read
fails or the mode is invalid. -/
def analogErrorValue (access : OdAccess) (bound : BoundOd) (memory : Memory) (channel : Nat) :
    Option (Option (BitVec 16)) := do
  let _command ← memory.getI16 access bound.analogOutput16 (channel + 1)
  let errorMode ← memory.getU8 access bound.analogOutputErrorMode (channel + 1)
  if errorMode = 0#8 then return none
  else if errorMode = 1#8 then
    let errorValue ← memory.getU32 access bound.analogOutputErrorValue32 (channel + 1)
    return some (physicalErrorValue errorValue)
  else none

/-- The fail-safe write of one bank; a bank without a selected bit is kept. -/
def digitalErrorWrite (access : OdAccess) (bound : BoundOd) (memory : Memory) (bank : Nat) :
    Option Effect :=
  match digitalErrorValue access bound memory bank with
  | none => none
  | some (value, mask) => if mask = 0#8 then none else some (.writeDigital8Masked bank value mask)

/-- The fail-safe write of one channel; a channel with mode zero is kept. -/
def analogErrorWrite (access : OdAccess) (bound : BoundOd) (memory : Memory) (channel : Nat) :
    Option Effect :=
  match analogErrorValue access bound memory channel with
  | some (some physical) => some (.writeAnalog16 channel physical)
  | _ => none

/-- The bank is in its error state: nothing to write, or written with result OK. -/
def digitalErrorApplied (env : PassEnv) (bound : BoundOd) (memory : Memory) (bank : Nat) : Bool :=
  match digitalErrorValue env.access bound memory bank with
  | none => false
  | some (value, mask) => mask = 0#8 || env.product.writeDigital8Masked bank value mask = .ok

def analogErrorApplied (env : PassEnv) (bound : BoundOd) (memory : Memory) (channel : Nat) :
    Bool :=
  match analogErrorValue env.access bound memory channel with
  | none => false
  | some none => true
  | some (some physical) => env.product.writeAnalog16 channel physical = .ok

/-- One round of a fail-safe loop. -/
def failSafe (pass : Pass) (write : Option Effect) (applied : Bool) : Pass where
  device :=
    { pass.device with
      failSafeOutputApplyComplete := pass.device.failSafeOutputApplyComplete && applied }
  memory := pass.memory
  effects := pass.effects ++ write.toList

theorem failSafe_none_true (pass : Pass) : pass.failSafe none true = pass := by
  simp [failSafe]

theorem failSafe_none_false (pass : Pass) : pass.failSafe none false = pass.clearApplyComplete := by
  simp [failSafe, clearApplyComplete]

theorem failSafe_some_true (pass : Pass) (effect : Effect) :
    pass.failSafe (some effect) true = pass.emit effect := by
  simp [failSafe, emit]

theorem failSafe_some_false (pass : Pass) (effect : Effect) :
    pass.failSafe (some effect) false = (pass.emit effect).clearApplyComplete := by
  simp [failSafe, emit, clearApplyComplete]

theorem applyDigitalOutput_failSafe {env : PassEnv} {pass : Pass}
    (hfeature : env.features.digitalOutputFailSafe = true)
    (hactive : digitalFailSafeActive pass.device = true) (bank : Nat) :
    applyDigitalOutput env pass bank =
      pass.failSafe (digitalErrorWrite env.access pass.device.bound pass.memory bank)
        (digitalErrorApplied env pass.device.bound pass.memory bank) := by
  unfold applyDigitalOutput digitalErrorWrite digitalErrorApplied digitalErrorValue
  simp only [hfeature, hactive, if_true]
  cases pass.memory.getU8 env.access pass.device.bound.digitalOutput8 (bank + 1) with
  | none => exact (failSafe_none_false pass).symm
  | some command =>
  cases pass.memory.getU8 env.access pass.device.bound.digitalOutputPolarity8 (bank + 1) with
  | none => exact (failSafe_none_false pass).symm
  | some polarity =>
  cases pass.memory.getU8 env.access pass.device.bound.digitalOutputFilter8 (bank + 1) with
  | none => exact (failSafe_none_false pass).symm
  | some filterMask =>
  dsimp only
  unfold applyDigitalErrorValue
  dsimp only
  cases pass.memory.getU8 env.access pass.device.bound.digitalOutputErrorMode8 (bank + 1) with
  | none => exact (failSafe_none_false pass).symm
  | some errorMode =>
  cases pass.memory.getU8 env.access pass.device.bound.digitalOutputErrorValue8 (bank + 1) with
  | none => exact (failSafe_none_false pass).symm
  | some errorValue =>
  change (if errorMode &&& filterMask = 0#8 then pass else _) =
    pass.failSafe (if errorMode &&& filterMask = 0#8 then none else some _)
      (decide (errorMode &&& filterMask = 0#8) || decide _)
  by_cases hmask : errorMode &&& filterMask = 0#8
  · rw [if_pos hmask, if_pos hmask, decide_eq_true hmask, Bool.true_or, failSafe_none_true]
  · rw [if_neg hmask, if_neg hmask, decide_eq_false hmask, Bool.false_or]
    by_cases hok : env.product.writeDigital8Masked bank (errorValue ^^^ polarity)
        (errorMode &&& filterMask) = .ok
    · rw [decide_eq_true hok, failSafe_some_true, if_neg (not_not_intro hok)]
    · rw [decide_eq_false hok, failSafe_some_false, if_pos hok]

theorem applyAnalogOutput_failSafe {env : PassEnv} {pass : Pass}
    (hfeature : env.features.analogOutputFailSafe = true)
    (hactive : analogFailSafeActive pass.device = true) (channel : Nat) :
    applyAnalogOutput env pass channel =
      pass.failSafe (analogErrorWrite env.access pass.device.bound pass.memory channel)
        (analogErrorApplied env pass.device.bound pass.memory channel) := by
  unfold applyAnalogOutput analogErrorWrite analogErrorApplied analogErrorValue
  simp only [hfeature, hactive, Bool.and_true, if_true]
  cases pass.memory.getI16 env.access pass.device.bound.analogOutput16 (channel + 1) with
  | none => exact (failSafe_none_false pass).symm
  | some command =>
  dsimp only
  unfold applyAnalogErrorValue
  dsimp only
  cases pass.memory.getU8 env.access pass.device.bound.analogOutputErrorMode (channel + 1) with
  | none => exact (failSafe_none_false pass).symm
  | some errorMode =>
  simp only [Option.bind_eq_bind, Option.bind_some]
  by_cases hkeep : errorMode = 0#8
  · simp only [hkeep, if_true]
    exact (failSafe_none_true pass).symm
  by_cases hvalue : errorMode = 1#8
  · simp only [hvalue, if_true]
    cases pass.memory.getU32 env.access pass.device.bound.analogOutputErrorValue32
        (channel + 1) with
    | none => exact (failSafe_none_false pass).symm
    | some errorValue =>
        change writeAnalogOutput env true pass channel (physicalErrorValue errorValue) =
          pass.failSafe (some (.writeAnalog16 channel (physicalErrorValue errorValue)))
            (decide (env.product.writeAnalog16 channel (physicalErrorValue errorValue) = .ok))
        unfold writeAnalogOutput
        by_cases hok : env.product.writeAnalog16 channel (physicalErrorValue errorValue) = .ok
        · simp [hok, failSafe_some_true]
        · simp [hok, failSafe_some_false]
  · simp only [hkeep, hvalue, if_false]
    exact (failSafe_none_false pass).symm

/-- The state after the first `count` rounds of a fail-safe loop. -/
def failSafeRounds (pass : Pass) (write : Nat → Option Effect) (applied : Nat → Bool)
    (count : Nat) : Pass where
  device :=
    { pass.device with
      failSafeOutputApplyComplete :=
        pass.device.failSafeOutputApplyComplete && (List.range count).all applied }
  memory := pass.memory
  effects := pass.effects ++ (List.range count).filterMap write

theorem failSafeRounds_zero (pass : Pass) (write : Nat → Option Effect) (applied : Nat → Bool) :
    pass.failSafeRounds write applied 0 = pass := by
  simp [failSafeRounds]

theorem failSafeRounds_succ (pass : Pass) (write : Nat → Option Effect) (applied : Nat → Bool)
    (count : Nat) :
    (pass.failSafeRounds write applied count).failSafe (write count) (applied count) =
      pass.failSafeRounds write applied (count + 1) := by
  have hwrite : (List.range (count + 1)).filterMap write =
      (List.range count).filterMap write ++ (write count).toList := by
    rw [List.range_succ, List.filterMap_append]
    cases h : write count <;> simp [h]
  have happlied : (List.range (count + 1)).all applied =
      ((List.range count).all applied && applied count) := by
    simp [List.range_succ]
  simp only [failSafe, failSafeRounds, hwrite, happlied, Bool.and_assoc, List.append_assoc]

/-- A loop whose rounds are fail-safe rounds. -/
theorem run_failSafe {body : Pass → Nat → Pass} {pass : Pass} {write : Nat → Option Effect}
    {applied : Nat → Bool} {count : Nat}
    (hbody : ∀ k, k < count → body (pass.failSafeRounds write applied k) k =
      (pass.failSafeRounds write applied k).failSafe (write k) (applied k)) :
    run body pass (List.range count) = pass.failSafeRounds write applied count := by
  refine @run_range_invariant _ body (fun k after => after = pass.failSafeRounds write applied k)
    pass count (failSafeRounds_zero pass write applied).symm ?_
  rintro k after hk rfl
  rw [hbody k hk, failSafeRounds_succ]

/-- A configured callback is set in the table a pass uses. -/
theorem io_callback {pass : Pass} {callback : IoIf → Bool}
    (h : (pass.device.config.io.any callback) = true) : callback pass.io = true := by
  unfold io
  cases hio : pass.device.config.io with
  | none =>
      rw [hio] at h
      cases h
  | some table =>
      rw [hio] at h
      exact h

theorem digitalApplyOutputs_failSafe {env : PassEnv} {pass : Pass}
    (hbound : pass.device.odBound = true) (hwritable : pass.device.Writable)
    (hfeature : env.features.digitalOutputFailSafe = true)
    (hactive : digitalFailSafeActive pass.device = true) :
    digitalApplyOutputs env pass =
      pass.failSafeRounds (digitalErrorWrite env.access pass.device.bound pass.memory)
        (digitalErrorApplied env pass.device.bound pass.memory)
        pass.device.config.digitalOutputBanks := by
  by_cases hbanks : pass.device.config.digitalOutputBanks = 0
  · simp [digitalApplyOutputs, hbanks, failSafeRounds_zero]
  · obtain ⟨hio, hentry⟩ := hwritable.digital hbanks
    have hopen : (!pass.device.odBound || !pass.io.writeDigital8 ||
        pass.device.bound.digitalOutput8.isNone ||
        decide (pass.device.config.digitalOutputBanks = 0)) = false := by
      simp [hbound, io_callback hio, hbanks, hentry]
    rw [digitalApplyOutputs, hopen, if_neg Bool.false_ne_true]
    apply run_failSafe
    intro k _
    exact @applyDigitalOutput_failSafe env (pass.failSafeRounds _ _ k) hfeature hactive k

theorem analogApplyOutputs_failSafe {env : PassEnv} {pass : Pass}
    (hbound : pass.device.odBound = true) (hwritable : pass.device.Writable)
    (hfeature : env.features.analogOutputFailSafe = true)
    (hactive : analogFailSafeActive pass.device = true) :
    analogApplyOutputs env pass =
      pass.failSafeRounds (analogErrorWrite env.access pass.device.bound pass.memory)
        (analogErrorApplied env pass.device.bound pass.memory)
        pass.device.config.analogOutputChannels := by
  by_cases hchannels : pass.device.config.analogOutputChannels = 0
  · simp [analogApplyOutputs, hchannels, failSafeRounds_zero]
  · obtain ⟨hio, hentry⟩ := hwritable.analog hchannels
    have hopen : (!pass.device.odBound || !pass.io.writeAnalog16 ||
        pass.device.bound.analogOutput16.isNone ||
        decide (pass.device.config.analogOutputChannels = 0)) = false := by
      simp [hbound, io_callback hio, hchannels, hentry]
    rw [analogApplyOutputs, hopen, if_neg Bool.false_ne_true]
    apply run_failSafe
    intro k _
    exact @applyAnalogOutput_failSafe env (pass.failSafeRounds _ _ k) hfeature hactive k

/-! ### Writes of a whole pass -/

/-- An effect that is no write of the class. -/
theorem writes_emit {output : OutputClass} {pass : Pass} {effect : Effect}
    (h : effect.outputClass ≠ some output) :
    (pass.emit effect).writes output = pass.writes output := by
  simp [writes, emit, h]

theorem Inputs.writes {before after : Pass} (h : Inputs before after) (output : OutputClass) :
    after.writes output = before.writes output := by
  induction h with
  | refl => rfl
  | tail _ hstep ih =>
      refine Eq.trans ?_ ih
      cases hstep with
      | emit hinput => exact writes_emit (by rw [hinput]; exact Option.some_ne_none _ |>.symm)
      | store => rfl
      | mark => rfl

/-- The input phases leave the completion flag alone. -/
theorem Inputs.complete {before after : Pass} (h : Inputs before after) :
    after.device.failSafeOutputApplyComplete = before.device.failSafeOutputApplyComplete := by
  induction h with
  | refl => rfl
  | tail _ hstep ih =>
      refine Eq.trans ?_ ih
      cases hstep <;> rfl

/-- The output phase of one class writes no output of the other. -/
theorem Outputs.writes {output other : OutputClass} {before after : Pass}
    (h : Outputs output before after) (hne : output ≠ other) :
    after.writes other = before.writes other := by
  induction h with
  | refl => rfl
  | tail _ hstep ih =>
      refine Eq.trans ?_ ih
      cases hstep with
      | emit houtput => exact writes_emit (by rw [houtput]; simpa using hne)
      | clear => rfl

theorem digitalErrorWrite_class {access : OdAccess} {bound : BoundOd} {memory : Memory}
    {bank : Nat} {effect : Effect} (h : digitalErrorWrite access bound memory bank = some effect) :
    effect.outputClass = some .digital := by
  unfold digitalErrorWrite at h
  split at h
  · cases h
  · split at h
    · cases h
    · rw [← Option.some.inj h]
      rfl

theorem analogErrorWrite_class {access : OdAccess} {bound : BoundOd} {memory : Memory}
    {channel : Nat} {effect : Effect}
    (h : analogErrorWrite access bound memory channel = some effect) :
    effect.outputClass = some .analog := by
  unfold analogErrorWrite at h
  split at h
  · rw [← Option.some.inj h]
    rfl
  · cases h

/-- A fail-safe loop of one class adds its writes to those of the class. -/
theorem writes_failSafeRounds {output : OutputClass} (pass : Pass) {write : Nat → Option Effect}
    (applied : Nat → Bool) (count : Nat)
    (hwrite : ∀ k effect, write k = some effect → effect.outputClass = some output) :
    (pass.failSafeRounds write applied count).writes output =
      pass.writes output ++ (List.range count).filterMap write := by
  unfold writes failSafeRounds
  rw [List.filter_append]
  congr 1
  apply List.filter_eq_self.mpr
  intro effect hmem
  obtain ⟨k, -, hk⟩ := List.mem_filterMap.mp hmem
  exact decide_eq_true (hwrite k effect hk)

end Pass

/-- The class has its fail-safe feature built in. -/
def Features.failSafeBuilt (features : Features) : OutputClass → Bool
  | .digital => features.digitalOutputFailSafe
  | .analog => features.analogOutputFailSafe

namespace Device

/-- The digital error values of a dictionary, bank by bank. -/
def digitalErrorWrites (access : OdAccess) (device : Device) (memory : Memory) : List Effect :=
  (List.range device.config.digitalOutputBanks).filterMap
    (Pass.digitalErrorWrite access device.bound memory)

/-- The analogue error values of a dictionary, channel by channel. -/
def analogErrorWrites (access : OdAccess) (device : Device) (memory : Memory) : List Effect :=
  (List.range device.config.analogOutputChannels).filterMap
    (Pass.analogErrorWrite access device.bound memory)

def errorWrites (access : OdAccess) (device : Device) (memory : Memory) :
    OutputClass → List Effect
  | .digital => device.digitalErrorWrites access memory
  | .analog => device.analogErrorWrites access memory

/-- Every bank and every channel is in its error state. -/
def errorApplied (env : PassEnv) (device : Device) (memory : Memory) : Bool :=
  (List.range device.config.digitalOutputBanks).all
      (Pass.digitalErrorApplied env device.bound memory) &&
    (List.range device.config.analogOutputChannels).all
      (Pass.analogErrorApplied env device.bound memory)

/-- A fail-safe source of the class is active. -/
def failSafeActive (device : Device) : OutputClass → Bool
  | .digital => Pass.digitalFailSafeActive device
  | .analog => Pass.analogFailSafeActive device

/-- What a pass works with after its input phases. -/
def inputsDone (env : PassEnv) (device : Device) (memory : Memory) : Pass :=
  Pass.analogRefreshInputs env (Pass.digitalRefreshInputs env (device.beginPass env memory true))

theorem inputsDone_inputs (env : PassEnv) (device : Device) (memory : Memory) :
    Pass.Inputs (device.beginPass env memory true) (device.inputsDone env memory) :=
  (Pass.digitalRefreshInputs_inputs ..).trans (Pass.analogRefreshInputs_inputs ..)

/-- The parts of the Device the output phases read. -/
theorem inputsDone_core (env : PassEnv) (device : Device) (memory : Memory) :
    (device.inputsDone env memory).device.core = device.core :=
  ((beginPass_kept env device memory true).trans (inputsDone_inputs env device memory).kept).core

theorem inputsDone_writes (env : PassEnv) (device : Device) (memory : Memory)
    (output : OutputClass) : (device.inputsDone env memory).writes output = [] := by
  rw [(inputsDone_inputs env device memory).writes output]
  unfold beginPass
  split <;> rfl

theorem process_idle {env : PassEnv} {device : Device} {memory : Memory}
    (h : (!device.odBound || device.config.io.isNone) = true) (output : OutputClass) :
    (device.process env memory).writes output = [] := by
  rw [process, if_pos h]
  unfold beginPass
  split <;> rfl

theorem process_busy {env : PassEnv} {device : Device} {memory : Memory}
    (h : (!device.odBound || device.config.io.isNone) = false) :
    device.process env memory = Pass.analogApplyOutputs env
      (Pass.digitalApplyOutputs env (device.inputsDone env memory)) := by
  rw [process, h, if_neg Bool.false_ne_true]
  rfl

theorem Writable.of_eq {before after : Device} (h : before.Writable)
    (hconfig : after.config = before.config) (hbound : after.bound = before.bound) :
    after.Writable := by
  constructor
  · rw [hconfig, hbound]
    exact h.digital
  · rw [hconfig, hbound]
    exact h.analog

theorem Writable.of_core {before after : Device} (h : before.Writable)
    (hcore : after.core = before.core) : after.Writable :=
  h.of_eq (congrArg Device.config hcore :) (congrArg Device.bound hcore :)

/-- While a source of a class is active, a bound pass writes the error values of the
class and no other output of it. The dictionary is the one the pass leaves behind,
which is the one its output phases have read. -/
theorem process_writes {env : PassEnv} {device : Device} {memory : Memory}
    (hbound : device.odBound = true) (hwritable : device.Writable) {output : OutputClass}
    (hbuilt : env.features.failSafeBuilt output = true)
    (hactive : device.failSafeActive output = true) :
    (device.process env memory).writes output =
      device.errorWrites env.access (device.process env memory).memory output := by
  by_cases hidle : (!device.odBound || device.config.io.isNone) = true
  · have hio : device.config.io = none := by simpa [hbound] using hidle
    have hdigital : device.config.digitalOutputBanks = 0 := by
      by_contra hbanks
      have hcallback := (hwritable.digital hbanks).1
      rw [hio] at hcallback
      cases hcallback
    have hanalog : device.config.analogOutputChannels = 0 := by
      by_contra hchannels
      have hcallback := (hwritable.analog hchannels).1
      rw [hio] at hcallback
      cases hcallback
    rw [process_idle hidle]
    cases output
    · simp [errorWrites, digitalErrorWrites, hdigital]
    · simp [errorWrites, analogErrorWrites, hanalog]
  · rw [process_busy (eq_false_of_ne_true hidle)]
    have hcore := inputsDone_core env device memory
    have hdigital := Pass.digitalApplyOutputs_outputs env (device.inputsDone env memory)
    have hanalog := Pass.analogApplyOutputs_outputs env
      (Pass.digitalApplyOutputs env (device.inputsDone env memory))
    have hconfig : (device.inputsDone env memory).device.config = device.config :=
      (congrArg Device.config hcore :)
    have hobjects : (device.inputsDone env memory).device.bound = device.bound :=
      (congrArg Device.bound hcore :)
    rw [hanalog.only.memory, hdigital.only.memory]
    cases output with
    | digital =>
        rw [hanalog.writes (by decide), Pass.digitalApplyOutputs_failSafe
          ((congrArg Device.odBound hcore :).trans hbound) (hwritable.of_core hcore) hbuilt
          ((congrArg Pass.digitalFailSafeActive hcore :).trans hactive),
          Pass.writes_failSafeRounds _ _ _ (fun _ _ => Pass.digitalErrorWrite_class),
          inputsDone_writes, hconfig, hobjects]
        rfl
    | analog =>
        have hsame := hdigital.only.kept.core.trans hcore
        have hconfig' : (Pass.digitalApplyOutputs env
            (device.inputsDone env memory)).device.config = device.config :=
          (congrArg Device.config hsame :)
        have hobjects' : (Pass.digitalApplyOutputs env
            (device.inputsDone env memory)).device.bound = device.bound :=
          (congrArg Device.bound hsame :)
        rw [Pass.analogApplyOutputs_failSafe
          ((congrArg Device.odBound hsame :).trans hbound) (hwritable.of_core hsame) hbuilt
          ((congrArg Pass.analogFailSafeActive hsame :).trans hactive),
          Pass.writes_failSafeRounds _ _ _ (fun _ _ => Pass.analogErrorWrite_class),
          hdigital.writes (by decide), inputsDone_writes, hconfig', hobjects',
          hdigital.only.memory]
        rfl

/-- With every class in fail-safe, the completion flag says that the pass was bound
and brought every bank and channel into its error state. -/
theorem process_complete {env : PassEnv} {device : Device} {memory : Memory}
    (hwritable : device.Writable) (hbuilt : ∀ output, env.features.failSafeBuilt output = true)
    (hactive : ∀ output, device.failSafeActive output = true)
    (hcomplete : (device.process env memory).device.failSafeOutputApplyComplete = true) :
    device.odBound = true ∧
      device.errorApplied env (device.process env memory).memory = true := by
  have hfeature : env.features.outputFailSafe = true := by
    rw [Features.outputFailSafe, Bool.or_eq_true]
    exact Or.inl (hbuilt .digital)
  by_cases hidle : (!device.odBound || device.config.io.isNone) = true
  · rw [process, if_pos hidle, beginPass, if_pos hfeature] at hcomplete
    cases hcomplete
  · rw [process_busy (eq_false_of_ne_true hidle)] at hcomplete ⊢
    have hbound : device.odBound = true := by
      rw [Bool.or_eq_true, not_or] at hidle
      simpa using hidle.1
    have hcore := inputsDone_core env device memory
    have hdigital := Pass.digitalApplyOutputs_outputs env (device.inputsDone env memory)
    have hanalog := Pass.analogApplyOutputs_outputs env
      (Pass.digitalApplyOutputs env (device.inputsDone env memory))
    have hsame := hdigital.only.kept.core.trans hcore
    have hconfig : (device.inputsDone env memory).device.config = device.config :=
      (congrArg Device.config hcore :)
    have hobjects : (device.inputsDone env memory).device.bound = device.bound :=
      (congrArg Device.bound hcore :)
    have hconfig' : (Pass.digitalApplyOutputs env (device.inputsDone env memory)).device.config =
        device.config := (congrArg Device.config hsame :)
    have hobjects' : (Pass.digitalApplyOutputs env (device.inputsDone env memory)).device.bound =
        device.bound := (congrArg Device.bound hsame :)
    refine ⟨hbound, ?_⟩
    rw [hanalog.only.memory, hdigital.only.memory]
    rw [Pass.analogApplyOutputs_failSafe
      ((congrArg Device.odBound hsame :).trans hbound) (hwritable.of_core hsame) (hbuilt .analog)
      ((congrArg Pass.analogFailSafeActive hsame :).trans (hactive .analog))] at hcomplete
    obtain ⟨hfirst, hchannels⟩ := Bool.and_eq_true_iff.mp hcomplete
    rw [hconfig', hobjects', hdigital.only.memory] at hchannels
    rw [Pass.digitalApplyOutputs_failSafe
      ((congrArg Device.odBound hcore :).trans hbound) (hwritable.of_core hcore) (hbuilt .digital)
      ((congrArg Pass.digitalFailSafeActive hcore :).trans (hactive .digital))] at hfirst
    obtain ⟨-, hbanks⟩ := Bool.and_eq_true_iff.mp hfirst
    rw [hconfig, hobjects] at hbanks
    exact Bool.and_eq_true_iff.mpr ⟨hbanks, hchannels⟩

end Device

end CanopenRtt.Cia401
