import CanopenRtt.Cia401.AnalogEvents
import Mathlib.Algebra.GroupWithZero.Nat
/-!
# Decoding an accepted TPDO

A frame that was packed from a snapshot of the dictionary is decoded to the same
bits, whatever the layout of its mapping. The commit therefore consumes exactly
the communicated source bits and takes over the last complete input value.
-/

namespace CanopenRtt.Cia401

open CanopenRtt.Profile CanopenRtt.Support

/-! ### Bits of a frame -/

theorem testBit_decode (data : Bitmap) (bitOffset bitLength : Nat) (hlength : bitLength ≤ 32)
    (bit : Nat) :
    ((List.range bitLength).foldl
      (fun decoded bit =>
        if data.test (bitOffset + bit) then decoded ||| 1#32 <<< bit else decoded)
      0#32).getLsbD bit = (decide (bit < bitLength) && data.test (bitOffset + bit)) := by
  induction bitLength with
  | zero => simp
  | succ last ih =>
      have hlast : last < 32 := by omega
      have hset : (1#32 <<< last).getLsbD bit = decide (bit = last) := by
        rw [BitVec.getLsbD_shiftLeft, BitVec.getLsbD_one]
        by_cases heq : bit = last
        · simp [heq, hlast]
        · by_cases hless : bit < last
          · simp [heq, hless]
          · have hdifference : bit - last ≠ 0 := by omega
            simp [heq, hdifference]
      rw [List.range_succ, List.foldl_append, List.foldl_cons, List.foldl_nil]
      by_cases heq : bit = last
      · subst heq
        split
        case isTrue htest => simp [hset, htest]
        case isFalse htest => rw [ih (by omega)]; simp [htest]
      · have hiff : bit < last + 1 ↔ bit < last := by omega
        split
        · rw [BitVec.getLsbD_or, ih (by omega), hset]
          simp [heq, hiff]
        · rw [ih (by omega)]
          simp [hiff]

/-- What `readTpdoBits` returns, and when. -/
theorem readTpdoBits_spec {buffer : TxFrame} (bitOffset : Nat) {bitLength : Nat}
    (hpositive : 0 < bitLength) (hlength : bitLength ≤ 32) (hdlc : buffer.dlc ≤ 8)
    (hfits : bitOffset + bitLength ≤ buffer.dlc * 8) :
    ∃ value, readTpdoBits buffer bitOffset bitLength = some value ∧
      ∀ bit, value.getLsbD bit =
        (decide (bit < bitLength) && buffer.data.test (bitOffset + bit)) := by
  refine ⟨_, ?_, testBit_decode buffer.data bitOffset bitLength hlength⟩
  rw [readTpdoBits, if_neg]
  simp only [Bool.or_eq_true, decide_eq_true_eq]
  omega

/-! ### Packing -/

/-- The length of a mapping on the wire. -/
def mappingBits (mapping : List MappedObject) : Nat := (mapping.map (·.mappedBits)).sum

theorem mappingBits_append (first second : List MappedObject) :
    mappingBits (first ++ second) = mappingBits first + mappingBits second := by
  simp [mappingBits]

theorem mappingBits_cons (io : MappedObject) (rest : List MappedObject) :
    mappingBits (io :: rest) = io.mappedBits + mappingBits rest := by
  simp [mappingBits]

/-- The frame carries the mapped objects as they are in `snapshot`: the low-order bits
of each one follow those of the objects before it. -/
structure Packed (od : Nat) (snapshot : Memory) (mapping : List MappedObject)
    (buffer : TxFrame) : Prop where
  dlc : buffer.dlc ≤ 8
  fits : mappingBits mapping ≤ buffer.dlc * 8
  bits : ∀ done io rest, mapping = done ++ io :: rest → ∀ bit, bit < io.mappedBits → bit < 32 →
    buffer.data.test (mappingBits done + bit) =
      (snapshot.value ⟨od, io.index⟩ io.subIndex).getLsbD bit

/-- The low-order bits of a mapped object in a snapshot. -/
def MappedObject.communicates (io : MappedObject) (od : Nat) (snapshot : Memory) (bit : Nat) :
    Bool :=
  bit < io.mappedBits && (snapshot.value ⟨od, io.index⟩ io.subIndex).getLsbD bit

/-- Decoding at the cumulative offset gives back what was packed. -/
theorem Packed.decode {od : Nat} {snapshot : Memory} {mapping : List MappedObject}
    {buffer : TxFrame} (h : Packed od snapshot mapping buffer) {done rest : List MappedObject}
    {io : MappedObject} (hsplit : mapping = done ++ io :: rest) (hpositive : 0 < io.mappedBits)
    (hlength : io.mappedBits ≤ 32) :
    ∃ value, readTpdoBits buffer (mappingBits done) io.mappedBits = some value ∧
      ∀ bit, value.getLsbD bit = io.communicates od snapshot bit := by
  have hfits := h.fits
  rw [hsplit, mappingBits_append, mappingBits_cons] at hfits
  obtain ⟨value, hread, hbits⟩ := readTpdoBits_spec (mappingBits done) hpositive hlength h.dlc
    (by omega)
  refine ⟨value, hread, ?_⟩
  intro bit
  rw [hbits, MappedObject.communicates]
  by_cases hbit : bit < io.mappedBits
  · rw [h.bits done io rest hsplit bit hbit (by omega)]
  · simp [hbit]

/-! ### One mapped object -/

/-- The last complete input value of each channel, after one mapped object. -/
def communicateObject (device : Device) (od : Nat) (snapshot : Memory)
    (references : Nat → Option (BitVec 16)) (io : MappedObject) : Nat → Option (BitVec 16) :=
  if io.index = (device.entry od indexAnalogInput16).index ∧ io.mappedBits = 16 ∧
      io.subIndex ≠ 0 then
    Function.update references (io.subIndex - 1)
      (some ((snapshot.value ⟨od, io.index⟩ io.subIndex).setWidth 16))
  else references

/-- A mapped object carries the source bit as 1. -/
def MappedObject.carriesSource (io : MappedObject) (device : Device) (od : Nat)
    (snapshot : Memory) (bank bit : Nat) : Prop :=
  io.index = (device.entry od indexAnalogInterruptSource).index ∧ io.subIndex = bank + 1 ∧
    io.communicates od snapshot bit = true

section Commit

variable {device : Device} {memory : Memory} {od : Nat}

theorem retireDigitalInputTpdoEvent_reference (device : Device) (subIndex channel : Nat) :
    (device.retireDigitalInputTpdoEvent subIndex).reference channel = device.reference channel := by
  unfold Device.retireDigitalInputTpdoEvent
  split <;> rfl

theorem retireAnalogInputTpdoEvent_reference (device : Device) (subIndex channel : Nat) :
    (device.retireAnalogInputTpdoEvent subIndex).reference channel = device.reference channel := by
  unfold Device.retireAnalogInputTpdoEvent
  split <;> rfl

theorem commitAnalogInputCommunication_reference (device : Device) {subIndex channel : Nat}
    (value : BitVec 16) (hchannel : channel < device.config.analogInputChannels) :
    (device.commitAnalogInputCommunication subIndex value).reference channel =
      if subIndex = channel + 1 then some value else device.reference channel := by
  unfold Device.commitAnalogInputCommunication
  by_cases hsub : subIndex = channel + 1
  · subst hsub
    have hrange : ¬(channel + 1 = 0 ∨ device.config.analogInputChannels < channel + 1) := by omega
    rw [if_neg (by simpa using hrange), if_pos rfl]
    simp [Device.reference]
  · rw [if_neg hsub]
    split
    · rfl
    case isFalse hrange =>
        have hne : channel ≠ subIndex - 1 := by
          simp only [Bool.or_eq_true, decide_eq_true_eq, not_or] at hrange
          omega
        simp [Device.reference, Function.update_of_ne hne]

theorem commitAnalogSourceCommunication_cleared {access : OdAccess} {source : OdEntry}
    (hsource : device.bound.analogInterruptSource = some source)
    {subIndex : Nat} {communicatedBits : BitVec 32} {bank bit : Nat}
    (hset : (memory.value source (bank + 1)).getLsbD bit = true)
    (hcleared : ((device.commitAnalogSourceCommunication access memory subIndex
      communicatedBits).value source (bank + 1)).getLsbD bit = false) :
    subIndex = bank + 1 ∧ communicatedBits.getLsbD bit = true := by
  unfold Device.commitAnalogSourceCommunication at hcleared
  split at hcleared
  · rw [hset] at hcleared
    cases hcleared
  · rw [hsource] at hcleared
    split at hcleared
    · rw [hset] at hcleared
      cases hcleared
    case h_2 current hread =>
        unfold Memory.getU32 at hread
        dsimp only at hread
        split at hread
        case isFalse => cases hread
        case isTrue =>
            obtain rfl := Option.some.inj hread
            unfold Memory.setU32 at hcleared
            dsimp only at hcleared
            split at hcleared
            case isFalse =>
                rw [Option.getD_none, hset] at hcleared
                cases hcleared
            case isTrue =>
                rw [Option.getD_some] at hcleared
                by_cases hsub : bank + 1 = subIndex
                · subst hsub
                  rw [Memory.value_store_self, BitVec.getLsbD_and, hset, Bool.true_and] at hcleared
                  refine ⟨rfl, ?_⟩
                  have hlow : bit < 32 := BitVec.lt_of_getLsbD hset
                  simpa [BitVec.getLsbD_not, hlow] using hcleared
                · rw [Memory.value_store_of_ne _ _ (fun heq => hsub heq.2), hset] at hcleared
                  cases hcleared

theorem entry_index_injective (hslot : logicalDeviceValid device.logicalDevice = true)
    {first second : Nat} (hfirst : canonicalIndexValid first = true)
    (hsecond : canonicalIndexValid second = true)
    (h : (device.entry od first).index = (device.entry od second).index) : first = second :=
  profileIndex_injective hslot hfirst hsecond h

theorem entryIndex_place {place : Option OdEntry} {canonicalIndex : Nat}
    (hslot : logicalDeviceValid device.logicalDevice = true)
    (hvalid : canonicalIndexValid canonicalIndex = true)
    (hplace : place = some (device.entry od canonicalIndex)) :
    entryIndex place = (device.entry od canonicalIndex).index ∧ entryIndex place ≠ 0 := by
  rw [hplace]
  exact ⟨rfl, profileIndex_ne_invalid hslot hvalid⟩

/-- What the mapped objects worked off so far have done to references and sources. -/
structure Committed (device : Device) (od : Nat) (snapshot : Memory)
    (before : Memory) (references : Nat → Option (BitVec 16)) (done : List MappedObject)
    (state : (Device × Memory) × Nat) : Prop where
  binding : World.SameBinding device state.1.1
  offset : state.2 = mappingBits done
  reference : ∀ channel, channel < device.config.analogInputChannels →
    state.1.1.reference channel =
      run (communicateObject device od snapshot) references done channel
  source : ∀ bank bit,
    (before.value (device.entry od indexAnalogInterruptSource) (bank + 1)).getLsbD bit = true →
      (state.1.2.value (device.entry od indexAnalogInterruptSource)
        (bank + 1)).getLsbD bit = false →
          ∃ io ∈ done, io.carriesSource device od snapshot bank bit

variable {features : Features} {access : OdAccess} {snapshot : Memory} {buffer : TxFrame}
  {mapping done rest : List MappedObject} {io : MappedObject}

theorem communicateObject_other {references : Nat → Option (BitVec 16)}
    (h : ¬(io.index = (device.entry od indexAnalogInput16).index ∧ io.mappedBits = 16)) :
    communicateObject device od snapshot references io = references := by
  rw [communicateObject, if_neg]
  exact fun hall => h ⟨hall.1, hall.2.1⟩

theorem communicateObject_input {references : Nat → Option (BitVec 16)} {channel : Nat}
    (hindex : io.index = (device.entry od indexAnalogInput16).index)
    (hbits : io.mappedBits = 16) :
    communicateObject device od snapshot references io channel =
      if io.subIndex = channel + 1 then
        some ((snapshot.value ⟨od, io.index⟩ io.subIndex).setWidth 16)
      else references channel := by
  unfold communicateObject
  by_cases hzero : io.subIndex = 0
  · have hne : ¬(0 = channel + 1) := by omega
    rw [if_neg (fun hall => hall.2.2 hzero), hzero, if_neg hne]
  · rw [if_pos ⟨hindex, hbits, hzero⟩]
    by_cases hchannel : io.subIndex = channel + 1
    · have heq : channel = io.subIndex - 1 := by omega
      rw [if_pos hchannel, heq, Function.update_self]
    · rw [if_neg hchannel, Function.update_of_ne (by omega)]

theorem committed_step {before : Memory} {references : Nat → Option (BitVec 16)}
    (hevents : features.analogEvents = true)
    (hslot : logicalDeviceValid device.logicalDevice = true) (hobjects : device.EventObjects od)
    (hpacked : Packed od snapshot mapping buffer) (hsplit : mapping = done ++ io :: rest)
    {state : (Device × Memory) × Nat}
    (h : Committed device od snapshot before references done state) :
    Committed device od snapshot before references (done ++ [io])
      (commitMappedObject features access buffer state io) := by
  obtain ⟨⟨current, memory⟩, bitOffset⟩ := state
  have hoffset : bitOffset = mappingBits done := h.offset
  subst hoffset
  have hfits := hpacked.fits
  have hdlc := hpacked.dlc
  rw [hsplit, mappingBits_append, mappingBits_cons] at hfits
  have hnext : (mappingBits done + io.mappedBits) % 65536 = mappingBits (done ++ [io]) := by
    rw [mappingBits_append, mappingBits_cons, Nat.mod_eq_of_lt (by omega)]
    rfl
  have hbound : current.bound = device.bound := h.binding.bound
  have hchannels : current.config.analogInputChannels = device.config.analogInputChannels :=
    congrArg DeviceConfig.analogInputChannels h.binding.config
  have hinput := hobjects.analogInput16
  have hsource := hobjects.analogInterruptSource
  have hmaps : ∀ {place : Option OdEntry} {canonicalIndex : Nat} (limit : Nat),
      place = some (device.entry od canonicalIndex) → canonicalIndexValid canonicalIndex = true →
      (decide (entryIndex place ≠ 0) && decide (io.index = entryIndex place) &&
          decide (0 < io.mappedBits) && decide (io.mappedBits ≤ limit)) =
        decide (io.index = (device.entry od canonicalIndex).index ∧ 0 < io.mappedBits ∧
          io.mappedBits ≤ limit) := by
    intro place canonicalIndex limit hplace hvalid
    obtain ⟨heq, hne⟩ := entryIndex_place hslot hvalid hplace
    rw [heq] at hne ⊢
    simp [hne, Bool.and_assoc]
  have hbinding := h.binding.trans (World.sameBinding_of_unmoved
    (World.commitMappedObject_unmoved features access buffer ((current, memory), mappingBits done)
      io))
  have hreferences : run (communicateObject device od snapshot) references (done ++ [io]) =
      communicateObject device od snapshot
        (run (communicateObject device od snapshot) references done) io := run_concat ..
  have hearlier : ∀ {bank bit}, (∃ io ∈ done, io.carriesSource device od snapshot bank bit) →
      ∃ io' ∈ done ++ [io], io'.carriesSource device od snapshot bank bit := by
    rintro bank bit ⟨io', hmem, hcarries⟩
    exact ⟨io', List.mem_append_left _ hmem, hcarries⟩
  -- No complete input value: only the references of the Device have to stay.
  have hquiet : ∀ {after : Device},
      ¬(io.index = (device.entry od indexAnalogInput16).index ∧ io.mappedBits = 16) →
      World.SameBinding device after →
      (∀ channel, after.reference channel = current.reference channel) →
      Committed device od snapshot before references (done ++ [io])
        ((after, memory), (mappingBits done + io.mappedBits) % 65536) := by
    intro after hother hsame hkept
    refine ⟨hsame, hnext, ?_, fun bank bit hset hclear => hearlier (h.source bank bit hset hclear)⟩
    intro channel hchannel
    rw [hreferences, communicateObject_other hother, hkept]
    exact h.reference channel hchannel
  unfold commitMappedObject at hbinding ⊢
  dsimp only at hbinding ⊢
  split at hbinding
  case isTrue hdigital =>
      rw [if_pos hdigital]
      apply hquiet _ hbinding (retireDigitalInputTpdoEvent_reference current io.subIndex)
      rintro ⟨hindex, -⟩
      simp only [Bool.and_eq_true, decide_eq_true_eq, hbound] at hdigital
      rcases hobjects.digitalInput8 with hnone | hsome
      · rw [hnone] at hdigital
        exact hdigital.2.1.1.1 rfl
      · rw [hsome] at hdigital
        have hsame : indexAnalogInput16 = indexDigitalInput8 :=
          entry_index_injective hslot rfl rfl (hindex.symm.trans hdigital.2.1.1.2)
        exact absurd hsame (by decide)
  case isFalse hdigital =>
      rw [if_neg hdigital]
      rw [hevents, Bool.not_true, if_neg Bool.false_ne_true] at hbinding ⊢
      rw [hbound, hmaps 16 hinput rfl, hmaps 32 hsource rfl] at hbinding ⊢
      by_cases hinputMapped : io.index = (device.entry od indexAnalogInput16).index ∧
          0 < io.mappedBits ∧ io.mappedBits ≤ 16
      · obtain ⟨value, hread, hvalue⟩ := hpacked.decode hsplit hinputMapped.2.1 (by omega)
        rw [hread, decide_eq_true hinputMapped] at hbinding ⊢
        dsimp only at hbinding ⊢
        by_cases hcomplete : io.mappedBits = 16
        · rw [if_pos hcomplete] at hbinding ⊢
          have hsame : value.setWidth 16 =
              (snapshot.value ⟨od, io.index⟩ io.subIndex).setWidth 16 := by
            apply BitVec.eq_of_getLsbD_eq
            intro bit hbit
            rw [BitVec.getLsbD_setWidth, BitVec.getLsbD_setWidth, hvalue,
              MappedObject.communicates, hcomplete, decide_eq_true hbit, Bool.true_and]
          refine ⟨hbinding, hnext, ?_,
            fun bank bit hset hclear => hearlier (h.source bank bit hset hclear)⟩
          intro channel hchannel
          rw [hreferences, communicateObject_input hinputMapped.1 hcomplete, ← hsame]
          unfold Device.commitAnalogInputTpdoCommunication
          rw [retireAnalogInputTpdoEvent_reference,
            commitAnalogInputCommunication_reference current _ (by rwa [hchannels]),
            h.reference channel hchannel]
        · rw [if_neg hcomplete] at hbinding ⊢
          exact hquiet (fun hall => hcomplete hall.2) hbinding
            (retireAnalogInputTpdoEvent_reference current io.subIndex)
      · have hother : ¬(io.index = (device.entry od indexAnalogInput16).index ∧
            io.mappedBits = 16) := fun hall => hinputMapped ⟨hall.1, by omega, by omega⟩
        rw [decide_eq_false hinputMapped] at hbinding ⊢
        by_cases hsourceMapped : io.index = (device.entry od indexAnalogInterruptSource).index ∧
            0 < io.mappedBits ∧ io.mappedBits ≤ 32
        · obtain ⟨value, hread, hvalue⟩ := hpacked.decode hsplit hsourceMapped.2.1
            hsourceMapped.2.2
          rw [hread, decide_eq_true hsourceMapped]
          dsimp only
          refine ⟨h.binding, hnext, ?_, ?_⟩
          · intro channel hchannel
            rw [hreferences, communicateObject_other hother]
            exact h.reference channel hchannel
          · intro bank bit hset hclear
            by_cases hstill : (memory.value (device.entry od indexAnalogInterruptSource)
                (bank + 1)).getLsbD bit = true
            · obtain ⟨hsub, hcarried⟩ := commitAnalogSourceCommunication_cleared
                (by rw [hbound, hsource]) hstill hclear
              refine ⟨io, List.mem_append_right _ (List.mem_singleton.mpr rfl), hsourceMapped.1,
                hsub, ?_⟩
              rw [← hvalue, hcarried]
            · exact hearlier (h.source bank bit hset (eq_false_of_ne_true hstill))
        · rw [decide_eq_false hsourceMapped]
          have hnothing := hquiet hother h.binding (fun _ => rfl)
          cases readTpdoBits buffer (mappingBits done) io.mappedBits with
          | none => exact hnothing
          | some value => exact hnothing

/-- A packed frame that was accepted: the last complete values are the references,
and a source bit it clears was carried as 1. -/
theorem commitSuccessfulTpdo_committed (hevents : features.analogEvents = true)
    (hslot : logicalDeviceValid device.logicalDevice = true) (hobjects : device.EventObjects od)
    (hpacked : Packed od snapshot mapping buffer) {references : Nat → Option (BitVec 16)}
    (hreferences : ∀ channel, channel < device.config.analogInputChannels →
      device.reference channel = references channel) :
    Committed device od snapshot memory references mapping
      (mapping.foldl (commitMappedObject features access buffer) ((device, memory), 0)) := by
  refine run_prefix_invariant ⟨⟨rfl, rfl, rfl, rfl, rfl⟩, rfl, hreferences, ?_⟩
    fun _ _ _ _ hsplit h => committed_step hevents hslot hobjects hpacked hsplit h
  intro bank bit hset hclear
  rw [hset] at hclear
  cases hclear

end Commit

end CanopenRtt.Cia401
