import CanopenRtt.Cia401.BindLaw
/-!
# Bound Devices over whole runs

Every call keeps the shapes of the dictionary, and only a bind changes the cached entries. So the
places a bind has checked exist as long as the Device stays bound, and the pass and the commits of
a bound Device reach no other place.
-/

namespace CanopenRtt.Cia401

open CanopenRtt.Profile CanopenRtt.Support

namespace World

variable {features : Features}

/-! ## The shapes -/

theorem networkWrite_shape (write : NetworkWrite) (device : Device) (memory : Memory) :
    (device.networkWrite write memory).1.2.shape = memory.shape := by
  unfold Device.networkWrite
  split
  · rfl
  · split
    · rfl
    · rfl
    · unfold Device.callWriteHook
      split
      · rfl
      · rfl
      · unfold Device.writeDigitalInputFilter
        split <;> rfl
      · unfold Device.writeOutputCommand
        dsimp only
        split
        · rfl
        · split <;> rfl

theorem otherExtension_shape (world : World) (entry : OdEntry) (owner : Option Nat) :
    (world.otherExtension entry owner).memory.shape = world.memory.shape := by
  unfold otherExtension
  split
  · rfl
  · exact Memory.shape_extensionInit ..

theorem init_shape (access : OdAccess) (od : Option Nat) (config : Option DeviceConfig)
    (memory : Memory) :
    (Device.init features access od config memory).1.2.shape = memory.shape := by
  unfold Device.init
  split
  · dsimp only
    split
    · rfl
    · exact (Device.bindOD_same features access _ memory).2.1
  · rfl

theorem step_shape (world : World) (call : Call) :
    (world.step features call).memory.shape = world.memory.shape := by
  cases call with
  | init access od config => exact init_shape access od config world.memory
  | bindOD access => exact (Device.bindOD_same features access world.device world.memory).2.1
  | setNmtOperational access operational =>
      exact (setNmtOperational_unmoved access operational world).shape
  | takeErrorEvent => exact (takeErrorEvent_unmoved world).shape
  | process access product => exact (process_unmoved features access product world).shape
  | networkWrite write => exact networkWrite_shape write world.device world.memory
  | networkRead access read => exact (networkRead_unmoved access read world).shape
  | tpdoAccepted access mapping buffer =>
      exact (tpdoAccepted_unmoved features access mapping buffer world).shape
  | otherExtension entry owner => exact otherExtension_shape world entry owner
  | _ => rfl

/-! ## The places -/

/-- The counts were accepted, and the places of a bound Device exist. -/
structure Settled (features : Features) (world : World) : Prop where
  counts : world.device.config.CountsValid
  places : world.device.odBound = true → ∀ place ∈ world.device.accesses features,
    world.memory.Holds place

/-- The record that `init` clears has no capability. -/
theorem settled_cleared (memory : Memory) : Settled features ⟨{}, memory⟩ :=
  ⟨⟨Nat.zero_le _, Nat.zero_le _, Nat.zero_le _, Nat.zero_le _⟩, nofun⟩

theorem bindOD_settled (access : OdAccess) {device : Device} (memory : Memory)
    (h : device.config.CountsValid) :
    Settled features (ofPair (device.bindOD features access memory).1) := by
  have hlaw := Device.bindLaw features access device memory
  constructor
  · change (device.bindOD features access memory).1.1.config.CountsValid
    rw [(Device.bindOD_same features access device memory).1.config]
    exact h
  · intro hbound
    refine hlaw.completed ?_ h
    by_contra herror
    exact Bool.false_ne_true ((hlaw.unbound herror).symm.trans hbound)

theorem init_settled (access : OdAccess) (od : Option Nat) (config : Option DeviceConfig)
    (memory : Memory) :
    Settled features (ofPair (Device.init features access od config memory).1) := by
  unfold Device.init
  split
  · dsimp only
    split
    · exact settled_cleared memory
    case isFalse hvalid =>
        rw [not_not] at hvalid
        exact bindOD_settled access memory (countsValid_of_ok hvalid)
  · exact settled_cleared memory

theorem accesses_of_sameBinding {before after : Device} (h : SameBinding before after) :
    after.accesses features = before.accesses features := by
  unfold Device.accesses
  rw [h.bound, h.config]

theorem step_settled {world : World} (h : world.Settled features) (call : Call) :
    (world.step features call).Settled features := by
  cases hcall : keepsBinding call with
  | true =>
      have hsame := @step_sameBinding features world call hcall
      constructor
      · rw [hsame.config]
        exact h.counts
      · intro hbound place hplace
        rw [hsame.odBound] at hbound
        rw [accesses_of_sameBinding hsame] at hplace
        unfold Memory.Holds
        rw [step_shape]
        exact h.places hbound place hplace
  | false =>
      cases call with
      | init access od config => exact init_settled access od config world.memory
      | bindOD access => exact bindOD_settled access world.memory h.counts
      | _ => cases hcall

/-! ## What a bound Device reaches -/

/-- The access stays at these places: the calls do the same when every other one fails. -/
structure Confined (features : Features) (world : World) : Prop where
  process : ∀ access product,
    world.device.process
        (PassEnv.within (world.device.accesses features) ⟨features, access, product⟩)
        world.memory =
      world.device.process ⟨features, access, product⟩ world.memory
  tpdo : ∀ access mapping buffer,
    (∀ io ∈ mapping, io.index = entryIndex world.device.bound.analogInterruptSource →
      io.subIndex ≤ world.device.config.sourceBanks) →
    commitSuccessfulTpdo features (access.within (world.device.accesses features)) mapping buffer
        world.device world.memory =
      commitSuccessfulTpdo features access mapping buffer world.device world.memory
  sdo : features.analogEvents = true → ∀ access read,
    read.subIndex ≤ world.device.config.sourceBanks →
    world.device.networkRead (access.within (world.device.accesses features)) read world.memory =
      world.device.networkRead access read world.memory

theorem confined (features : Features) (world : World) : world.Confined features where
  process := fun access product =>
    Device.process_within ⟨features, access, product⟩ world.device world.memory
  tpdo := fun access _ buffer hgroup =>
    commitSuccessfulTpdo_within world.device access buffer world.memory hgroup
  sdo := fun hfeature access read hgroup =>
    networkRead_within hfeature world.device access read world.memory hgroup

/-- A bind is exact and all or nothing. In every run, the places that a bound Device reaches
exist, and after the first `init` every slot with an own extension is the one of a bound object. -/
theorem bindOD_contract (features : Features) :
    (∀ access device memory, Device.BindLaw features access device memory) ∧
      (∀ memory calls, Settled features (run (World.step features) ⟨{}, memory⟩ calls) ∧
        Confined features (run (World.step features) ⟨{}, memory⟩ calls)) ∧
      ∀ memory access od config calls, Device.NoSlots memory →
        (∀ call ∈ calls, ∀ access od config, call ≠ Call.init access od config) →
          (run (World.step features) ⟨{}, memory⟩ (.init access od config :: calls)).OwnsSlots
            features := by
  refine ⟨Device.bindLaw features, fun memory calls => ⟨?_, confined features _⟩, ?_⟩
  · exact @run_invariant _ _ (World.step features) (Settled features)
      (fun _ call h => step_settled h call) _ (settled_cleared memory) calls
  · intro memory access od config calls hnone hcalls
    rw [run_cons]
    exact @run_invariant_of_everyStep _ _ (World.step features) (·.OwnsSlots features)
      (fun _ call => ∀ access od config, call ≠ .init access od config)
      (fun _ call h hcall => step_ownsSlots h call hcall) _ calls
      (Device.init_ownsSlots access od config hnone) ((everyStep_inputs _ calls).mpr hcalls)

/-- One bank of digital inputs with events is accepted, and its places exist from then on. -/
theorem bindOD_contract_digital :
    let bound := run (World.step inputFeatures) ⟨{}, inputMemory⟩
      [.init .always (some 0) (some { io := some {}, digitalInputBanks := 1 })]
    bound.device.odBound = true ∧
      (some ⟨0, indexDigitalInterruptAny8⟩, 1) ∈ bound.device.accesses inputFeatures ∧
        bound.OwnsSlots inputFeatures ∧
          ∀ place ∈ bound.device.accesses inputFeatures, bound.memory.Holds place := by
  have hcontract := bindOD_contract inputFeatures
  have hbound : (run (World.step inputFeatures) ⟨{}, inputMemory⟩
      [.init .always (some 0)
        (some { io := some {}, digitalInputBanks := 1 })]).device.odBound = true := by
    decide +kernel
  refine ⟨hbound, by decide +kernel, ?_, (hcontract.2.1 inputMemory _).1.places hbound⟩
  exact hcontract.2.2 inputMemory .always (some 0) _ [] (fun _ _ => nofun)
    fun _ hmem => absurd hmem List.not_mem_nil

end World

end CanopenRtt.Cia401
