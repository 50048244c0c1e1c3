import CanopenRtt.Cia401.Device
/-!
# Network access through the entries, and accepted TPDOs

The extension hooks of `CO_401_device_od.c`, reached the way the Object
Dictionary interface documents: `OD_getSub` without `odOrig` hands out the hooks
of the installed extension. `commitSuccessfulTpdo` of `CO_401_device_RTT.c`
decodes a frame the CAN transport has accepted.
-/

namespace CanopenRtt.Cia401

open CanopenRtt.Support

inductive Odr where
  | ok
  | devIncompat
  | dataDevState
  | unsuppAccess
  | subNotExist
  | failed (code : Nat)
  deriving DecidableEq, Repr

/-- What one write procedure outside the Device would do. -/
structure WriteOutcome where
  result : Odr
  countWritten : Nat
  value : BitVec 32
  deriving DecidableEq, Repr

/-- One write by a network peer, with the answers it may meet. -/
structure NetworkWrite where
  entry : OdEntry
  subIndex : Nat
  /-- The effect of `OD_writeOriginal`. -/
  original : WriteOutcome
  /-- The effect of an extension of another owner. -/
  other : WriteOutcome
  /-- The answer of the supervision probe. -/
  probe : Bool

/-- The result, the caller's byte count and the probe answer that was asked for. -/
structure WriteReport where
  result : Odr
  countWritten : Nat
  probed : Option Bool
  deriving DecidableEq, Repr

/-- One read by a network peer. -/
structure NetworkRead where
  entry : OdEntry
  subIndex : Nat
  result : Odr
  countRead : Nat
  /-- The answer of the SDO read matcher. -/
  sdo : Bool

namespace Device

/-- `OD_writeOriginal`. -/
def writeOriginal (write : NetworkWrite) (probed : Option Bool) (device : Device)
    (memory : Memory) : (Device × Memory) × WriteReport :=
  ((device, memory.store write.entry write.subIndex write.original.value),
    ⟨write.original.result, write.original.countWritten, probed⟩)

def writeDigitalInputFilter (write : NetworkWrite) (object : Bool) (device : Device)
    (memory : Memory) : (Device × Memory) × WriteReport :=
  if !object then ((device, memory), ⟨.devIncompat, 0, none⟩)
  else
    let dirty := write.original.result = .ok && write.subIndex ≠ 0
    writeOriginal write none
      (if dirty then { device with digitalInputFilterDirty := true } else device) memory

/-- Ask the probe when the latch is still open; it closes the window between the
qualifying event and this write. -/
def probeOutputSupervision (write : NetworkWrite) (device : Device) : Device × Option Bool :=
  if write.subIndex ≠ 0 && !device.outputSupervisionReady && device.outputSupervisionProbe then
    (if write.probe then device.notifyOutputSupervision else device, some write.probe)
  else (device, none)

def writeOutputCommand (write : NetworkWrite) (object : Bool) (device : Device)
    (memory : Memory) : (Device × Memory) × WriteReport :=
  if !object then ((device, memory), ⟨.devIncompat, 0, none⟩)
  else
    let (device, probed) := probeOutputSupervision write device
    if write.subIndex ≠ 0 && !device.outputSupervisionReady then
      ((device, memory), ⟨.dataDevState, 0, probed⟩)
    else writeOriginal write probed device memory

/-- The write procedure `OD_getSub` hands out for an own extension. -/
def callWriteHook (hook : Option WriteHook) (object : Bool) (write : NetworkWrite)
    (device : Device) (memory : Memory) : (Device × Memory) × WriteReport :=
  match hook with
  | none => ((device, memory), ⟨.unsuppAccess, 0, none⟩)
  | some .original => writeOriginal write none device memory
  | some .digitalInputFilter => writeDigitalInputFilter write object device memory
  | some .outputCommand => writeOutputCommand write object device memory

/-- A network write, dispatched through the extension of its entry. -/
def networkWrite (write : NetworkWrite) (device : Device) (memory : Memory) :
    (Device × Memory) × WriteReport :=
  match memory.getSub write.entry write.subIndex with
  | none => ((device, memory), ⟨.subNotExist, 0, none⟩)
  | some _ =>
      match memory.extension write.entry with
      | none => writeOriginal write none device memory
      | some (.other _) =>
          ((device, memory.store write.entry write.subIndex write.other.value),
            ⟨write.other.result, write.other.countWritten, none⟩)
      | some (.own owned) =>
          callWriteHook (device.extensions owned).write (device.extensions owned).object write
            device memory

/-- A complete SDO read of a sub-index above zero. -/
def sdoReadCompletes (read : NetworkRead) (object : Bool) (device : Device) (size : Nat) : Bool :=
  read.result = .ok && read.subIndex ≠ 0 && read.countRead = size && object &&
    device.sdoReadMatch && read.sdo

/-- The read procedure `OD_getSub` hands out for an own extension. -/
def callReadHook (hook : Option ReadHook) (object : Bool) (access : OdAccess) (read : NetworkRead)
    (device : Device) (memory : Memory) : Device × Memory :=
  let stored := memory.value read.entry read.subIndex
  match hook with
  | some .analogInput16 =>
      if sdoReadCompletes read object device 2 then
        (device.commitAnalogInputCommunication read.subIndex (stored.setWidth 16), memory)
      else (device, memory)
  | some .analogInterruptSource =>
      if sdoReadCompletes read object device 4 then
        (device, device.commitAnalogSourceCommunication access memory read.subIndex stored)
      else (device, memory)
  | _ => (device, memory)

/-- The effect of a network read; the value read is the stored one. -/
def networkRead (access : OdAccess) (read : NetworkRead) (device : Device) (memory : Memory) :
    Device × Memory :=
  match memory.extension read.entry with
  | some (.own owned) =>
      callReadHook (device.extensions owned).read (device.extensions owned).object access read
        device memory
  | _ => (device, memory)

end Device

/-! ### Accepted TPDOs -/

/-- One object of a TPDO mapping: its stream and mapped length in bits. -/
structure MappedObject where
  index : Nat
  subIndex : Nat
  mappedBits : Nat
  deriving DecidableEq, Repr

/-- The frame of a transmit buffer. -/
structure TxFrame where
  dlc : Nat
  data : Bitmap

def readTpdoBits (buffer : TxFrame) (bitOffset bitLength : Nat) : Option (BitVec 32) :=
  if bitLength = 0 || 32 < bitLength || 8 < buffer.dlc ||
      buffer.dlc * 8 < bitOffset + bitLength then none
  else
    some ((List.range bitLength).foldl
      (fun decoded bit =>
        if buffer.data.test (bitOffset + bit) then decoded ||| 1#32 <<< bit else decoded) 0#32)

/-- `OD_getIndex` of a bound entry, zero for NULL. -/
def entryIndex (entry : Option OdEntry) : Nat := (entry.map OdEntry.index).getD 0

/-- The loop body of `commitSuccessfulTpdo`, with the bit offset it accumulates. -/
def commitMappedObject (features : Features) (access : OdAccess) (buffer : TxFrame)
    (state : (Device × Memory) × Nat) (io : MappedObject) : (Device × Memory) × Nat :=
  let ((device, memory), bitOffset) := state
  let maps := fun (entry : Option OdEntry) (limit : Nat) =>
    entryIndex entry ≠ 0 && io.index = entryIndex entry && 0 < io.mappedBits &&
      io.mappedBits ≤ limit
  let next := (bitOffset + io.mappedBits) % 65536
  if features.digitalEvents && maps device.bound.digitalInput8 8 then
    ((device.retireDigitalInputTpdoEvent io.subIndex, memory), next)
  else if !features.analogEvents then ((device, memory), next)
  else
    let communicated := readTpdoBits buffer bitOffset io.mappedBits
    match communicated, maps device.bound.analogInput16 16,
        maps device.bound.analogInterruptSource 32 with
    | some communicated, true, _ =>
        if io.mappedBits = 16 then
          ((device.commitAnalogInputTpdoCommunication io.subIndex (communicated.setWidth 16),
            memory), next)
        else ((device.retireAnalogInputTpdoEvent io.subIndex, memory), next)
    | some communicated, false, true =>
        ((device, device.commitAnalogSourceCommunication access memory io.subIndex communicated),
          next)
    | _, _, _ => ((device, memory), next)

def commitSuccessfulTpdo (features : Features) (access : OdAccess) (mapping : List MappedObject)
    (buffer : TxFrame) (device : Device) (memory : Memory) : Device × Memory :=
  (mapping.foldl (commitMappedObject features access buffer) ((device, memory), 0)).1

end CanopenRtt.Cia401
