import CanopenRtt.Cia401.Soundness
/-!
# The output supervision gate

No network write reaches 0x6200 or 0x6411 of a bound Device before supervision
was established, and once it was, no bind and no communication reset takes the
permission back. The latch of the Device is compared with what an observer of
the calls knows: a notification, or a probe that answered true.
-/

namespace CanopenRtt.Cia401

open CanopenRtt.Support

/-- A world, and whether supervision was established since the last `init`. -/
structure Supervised where
  world : World
  established : Bool

namespace Supervised

/-- What an observer of one call knows about supervision after it. -/
def observe (before : Supervised) : Call → Bool
  | .init _ _ _ => false
  | .notifyOutputSupervision => true
  | .networkWrite write =>
      before.established ||
        (before.world.device.networkWrite write before.world.memory).2.probed = some true
  | _ => before.established

def step (features : Features) (before : Supervised) (call : Call) : Supervised where
  world := before.world.step features call
  established := before.observe call

/-- A network write above sub-index zero of a bound output object. -/
structure OutputWrite (device : Device) (write : NetworkWrite) : Prop where
  odBound : device.odBound = true
  entry : ∃ od owned, device.od = some od ∧
    (owned = OwnExtension.digitalOutput8 ∨ owned = OwnExtension.analogOutput16) ∧
    write.entry = device.object od owned
  subIndex : write.subIndex ≠ 0

/-- The gate at one state: closed without supervision, open with it. -/
structure Gate (features : Features) (state : Supervised) : Prop where
  closed : ∀ write, OutputWrite state.world.device write →
    (state.step features (.networkWrite write)).established = false →
      (state.world.device.networkWrite write state.world.memory).2.result ≠ .ok ∧
        (state.world.device.networkWrite write state.world.memory).2.countWritten = 0 ∧
        (state.step features (.networkWrite write)).world.memory = state.world.memory
  opened : ∀ write, OutputWrite state.world.device write →
    (state.step features (.networkWrite write)).established = true →
      (state.world.memory.getSub write.entry write.subIndex).isSome = true →
        (state.world.device.networkWrite write state.world.memory).2.result =
            write.original.result ∧
          (state.world.device.networkWrite write state.world.memory).2.countWritten =
            write.original.countWritten ∧
          (state.step features (.networkWrite write)).world.memory =
            state.world.memory.store write.entry write.subIndex write.original.value

/-- A call that does not initialise the Device again. -/
def keepsDevice : Call → Bool
  | .init _ _ _ => false
  | _ => true

/-- Supervision, once established, stays established until the next `init`. This holds of the
observer by construction; that the gate of the Device follows it is `Gate.opened`. -/
def Persists (features : Features) (state : Supervised) : Prop :=
  ∀ later : List Call, (∀ call ∈ later, keepsDevice call = true) →
    state.established = true → (run (step features) state later).established = true

/-! ### The latch agrees with the observer -/

/-- The latch of the Device is what the observer knows, and the Device is sound. -/
structure Agrees (features : Features) (state : Supervised) : Prop where
  sound : state.world.Sound features
  ready : state.world.device.outputSupervisionReady = state.established

theorem init_ready (features : Features) (access : OdAccess) (od : Option Nat)
    (config : Option DeviceConfig) (memory : Memory) :
    (Device.init features access od config memory).1.1.outputSupervisionReady = false := by
  unfold Device.init
  split
  · dsimp only
    split
    · rfl
    · rw [(Device.bindOD_same ..).1.outputSupervisionReady]
  · rfl

theorem probe_ready (write : NetworkWrite) (device : Device) :
    (Device.probeOutputSupervision write device).1.outputSupervisionReady =
      (device.outputSupervisionReady ||
        decide ((Device.probeOutputSupervision write device).2 = some true)) := by
  unfold Device.probeOutputSupervision
  split
  · cases write.probe <;> simp [Device.notifyOutputSupervision]
  · simp

theorem writeOutputCommand_ready (write : NetworkWrite) (device : Device) (memory : Memory)
    (object : Bool) :
    (Device.writeOutputCommand write object device memory).1.1.outputSupervisionReady =
      (device.outputSupervisionReady ||
        decide ((Device.writeOutputCommand write object device memory).2.probed = some true)) := by
  unfold Device.writeOutputCommand
  dsimp only
  split
  · simp
  · split <;> exact probe_ready write device

theorem callWriteHook_ready (hook : Option WriteHook) (object : Bool) (write : NetworkWrite)
    (device : Device) (memory : Memory) :
    (Device.callWriteHook hook object write device memory).1.1.outputSupervisionReady =
      (device.outputSupervisionReady ||
        decide ((Device.callWriteHook hook object write device memory).2.probed = some true)) := by
  unfold Device.callWriteHook
  split
  · simp
  · simp [Device.writeOriginal]
  · unfold Device.writeDigitalInputFilter Device.writeOriginal
    dsimp only
    split
    · simp
    · split <;> simp
  · exact writeOutputCommand_ready ..

theorem networkWrite_ready (write : NetworkWrite) (device : Device) (memory : Memory) :
    (device.networkWrite write memory).1.1.outputSupervisionReady =
      (device.outputSupervisionReady ||
        decide ((device.networkWrite write memory).2.probed = some true)) := by
  unfold Device.networkWrite
  split
  · simp
  · split
    · simp [Device.writeOriginal]
    · simp
    · exact callWriteHook_ready ..

theorem step_agrees {features : Features} {state : Supervised} (h : Agrees features state)
    (call : Call) : Agrees features (state.step features call) := by
  refine ⟨World.step_sound h.sound call, ?_⟩
  cases call with
  | init access od config => exact init_ready ..
  | bindOD access => exact (Device.bindOD_same ..).1.outputSupervisionReady.trans h.ready
  | notifyOutputSupervision => rfl
  | setNmtOperational access operational =>
      exact (World.setNmtOperational_unmoved access operational _).outputSupervisionReady.trans
        h.ready
  | takeErrorEvent => exact (World.takeErrorEvent_unmoved _).outputSupervisionReady.trans h.ready
  | process access product =>
      exact (World.process_unmoved features access product _).outputSupervisionReady.trans h.ready
  | networkWrite write =>
      have hready := networkWrite_ready write state.world.device state.world.memory
      rw [h.ready] at hready
      exact hready
  | networkRead access read =>
      exact (World.networkRead_unmoved access read _).outputSupervisionReady.trans h.ready
  | tpdoAccepted access mapping buffer =>
      exact (World.tpdoAccepted_unmoved features access mapping
        buffer _).outputSupervisionReady.trans h.ready
  | otherExtension entry owner =>
      have hsame : (state.world.otherExtension entry owner).device = state.world.device := by
        unfold World.otherExtension
        split <;> rfl
      exact (congrArg Device.outputSupervisionReady hsame).trans h.ready
  | setOutputSupervisionProbe probe => exact h.ready
  | setSdoReadMatcher matcher => exact h.ready
  | setDigitalOutputFault active => exact h.ready
  | setAnalogOutputFault active => exact h.ready
  | setNmtStopped stopped => exact h.ready
  | setCommunicationFault active => exact h.ready
  | resetCommunicationState => exact h.ready

/-! ### The gate -/

/-- A write to a bound output object is the gated hook, or finds no object at all. -/
theorem networkWrite_cases {features : Features} {state : Supervised}
    (h : state.world.Sound features) {write : NetworkWrite}
    (hwrite : OutputWrite state.world.device write) :
    state.world.memory.getSub write.entry write.subIndex = none ∨
      state.world.device.networkWrite write state.world.memory =
        Device.writeOutputCommand write true state.world.device state.world.memory := by
  obtain ⟨od, hod, hhooked⟩ := h.hooked hwrite.odBound
  obtain ⟨od', owned, hod', houtput, hentry⟩ := hwrite.entry
  obtain rfl : od = od' := Option.some.inj (hod.symm.trans hod')
  by_cases hcount : owned.count state.world.device.config = 0
  · left
    rw [Memory.getSub, hentry, hhooked.absent owned houtput hcount]
    rfl
  · have hcompiled : owned.compiled features = true := by
      rcases houtput with rfl | rfl <;> rfl
    have hinstalled : owned.installed features state.world.device.config = true := by
      simp [OwnExtension.installed, hcompiled, hcount]
    have hplace := hhooked.installed owned hinstalled
    have hhooks : state.world.device.extensions owned =
        ⟨true, some .original, some .outputCommand⟩ := by
      rw [hplace.hooks]
      rcases houtput with rfl | rfl <;> rfl
    cases hsub : state.world.memory.getSub write.entry write.subIndex with
    | none => exact Or.inl rfl
    | some sub =>
        right
        unfold Device.networkWrite
        rw [hsub, hentry, hplace.extension]
        dsimp only
        rw [hhooks]
        rfl

/-- The hook refuses exactly while the latch stays open. -/
theorem writeOutputCommand_closed {write : NetworkWrite} {device : Device} {memory : Memory}
    (hsub : write.subIndex ≠ 0)
    (hready : (Device.writeOutputCommand write true device memory).1.1.outputSupervisionReady =
      false) :
    (Device.writeOutputCommand write true device memory).2.result = .dataDevState ∧
      (Device.writeOutputCommand write true device memory).2.countWritten = 0 ∧
      (Device.writeOutputCommand write true device memory).1.2 = memory := by
  unfold Device.writeOutputCommand at hready ⊢
  dsimp only [Bool.not_true] at hready ⊢
  rw [if_neg (by decide)] at hready ⊢
  split at hready
  case isTrue hrefuse =>
      rw [if_pos hrefuse]
      exact ⟨rfl, rfl, rfl⟩
  case isFalse hrefuse =>
      refine absurd ?_ hrefuse
      have hprobe : (Device.probeOutputSupervision write device).1.outputSupervisionReady =
          false := hready
      simp [hsub, hprobe]

theorem writeOutputCommand_opened {write : NetworkWrite} {device : Device} {memory : Memory}
    (hready : (Device.writeOutputCommand write true device memory).1.1.outputSupervisionReady =
      true) :
    (Device.writeOutputCommand write true device memory).2.result = write.original.result ∧
      (Device.writeOutputCommand write true device memory).2.countWritten =
        write.original.countWritten ∧
      (Device.writeOutputCommand write true device memory).1.2 =
        memory.store write.entry write.subIndex write.original.value := by
  have hprobe : (Device.probeOutputSupervision write device).1.outputSupervisionReady = true := by
    rw [probe_ready]
    rw [writeOutputCommand_ready] at hready
    unfold Device.writeOutputCommand at hready
    dsimp only [Bool.not_true] at hready
    rw [if_neg (by decide)] at hready
    split at hready <;> exact hready
  unfold Device.writeOutputCommand
  dsimp only [Bool.not_true]
  rw [if_neg (by decide), if_neg (by simp [hprobe])]
  exact ⟨rfl, rfl, rfl⟩

theorem gate_of_agrees {features : Features} {state : Supervised}
    (h : Agrees features state) : Gate features state := by
  have hready : ∀ write, (state.world.device.networkWrite write
      state.world.memory).1.1.outputSupervisionReady =
        (state.step features (.networkWrite write)).established :=
    fun write => (step_agrees h (.networkWrite write)).ready
  constructor
  case closed =>
      intro write hwrite hestablished
      change _ ∧ _ ∧ (state.world.device.networkWrite write state.world.memory).1.2 = _
      have hlatch := (hready write).trans hestablished
      rcases networkWrite_cases h.sound hwrite with hnone | hhook
      · unfold Device.networkWrite
        rw [hnone]
        refine ⟨?_, rfl, rfl⟩
        intro hresult
        cases hresult
      · rw [hhook] at hlatch ⊢
        obtain ⟨hresult, hcount, hmemory⟩ := writeOutputCommand_closed hwrite.subIndex hlatch
        exact ⟨by rw [hresult]; decide, hcount, hmemory⟩
  case opened =>
      intro write hwrite hestablished hexists
      change _ ∧ _ ∧ (state.world.device.networkWrite write state.world.memory).1.2 = _
      have hlatch := (hready write).trans hestablished
      rcases networkWrite_cases h.sound hwrite with hnone | hhook
      · rw [hnone] at hexists
        cases hexists
      · rw [hhook] at hlatch ⊢
        exact writeOutputCommand_opened hlatch

theorem persists (features : Features) (state : Supervised) : Persists features state := by
  intro later hlater hestablished
  refine @run_invariant_of_everyStep _ _ (step features) (fun s => s.established = true)
    (fun _ call => keepsDevice call = true) ?_ state later hestablished
    ((everyStep_inputs state later).mpr hlater)
  intro s call hs hkeeps
  cases call with
  | init access od config => cases hkeeps
  | networkWrite write =>
      change (s.established || _) = true
      rw [hs, Bool.true_or]
  | notifyOutputSupervision => rfl
  | _ => exact hs

/-- From the first `init` on, the gate is closed without supervision and open with
it, and supervision is never lost by a bind or a communication reset. -/
theorem outputGate_of_run (features : Features) (start : Supervised) (access : OdAccess)
    (od : Option Nat) (config : Option DeviceConfig) (calls : List Call) :
    Gate features (run (step features) start (.init access od config :: calls)) ∧
      Persists features (run (step features) start (.init access od config :: calls)) := by
  refine ⟨gate_of_agrees ?_, persists features _⟩
  refine @run_invariant _ _ (step features) (Agrees features) (fun _ call h => step_agrees h call)
    (start.step features (.init access od config)) ⟨?_, ?_⟩ calls
  · exact Device.init_sound ..
  · exact init_ready ..

/-- A dictionary with one bank of digital outputs. -/
def outputMemory : Memory where
  shape := fun entry =>
    if entry.index = indexDeviceType then some (.variable 4 (odaSdoR ||| odaMb))
    else if entry.index = indexDigitalOutput8 then some (.array 1 1 (odaSdoRW ||| odaRpdo))
    else none
  extension := fun _ => none
  value := fun entry subIndex =>
    if entry.index = indexDeviceType then deviceTypeForCapabilities capDigitalOutput
    else if subIndex = 0 then 1#32
    else 0#32

/-- A peer sets the outputs of bank one; the probe would answer `probe`. -/
def outputWrite (probe : Bool) : NetworkWrite where
  entry := ⟨0, indexDigitalOutput8⟩
  subIndex := 1
  original := ⟨.ok, 1, 0x55#32⟩
  other := ⟨.ok, 1, 0x55#32⟩
  probe := probe

/-- The stored command after a bind and some calls. -/
def storedAfter (calls : List Call) : BitVec 32 :=
  let features : Features := ⟨false, false, false, false, false, 32⟩
  let config : DeviceConfig := { io := some {}, digitalOutputBanks := 1 }
  let start : Supervised := ⟨⟨{}, outputMemory⟩, false⟩
  (run (step features) start (.init .always (some 0) (some config) :: calls)).world.memory.value
    ⟨0, indexDigitalOutput8⟩ 1

example : storedAfter [.networkWrite (outputWrite true)] = 0x00#32 := by decide +kernel

example :
    storedAfter [.setOutputSupervisionProbe true, .networkWrite (outputWrite true)] = 0x55#32 := by
  decide +kernel

example :
    storedAfter [.notifyOutputSupervision, .bindOD .always, .resetCommunicationState,
      .networkWrite (outputWrite false)] = 0x55#32 := by
  decide +kernel

end Supervised

end CanopenRtt.Cia401
