import CanopenRtt.Storage.At24cLayout
/-!
# Storage entries in an EEPROM

`port/rtthread/storage/CO_storage_RTT_eeprom.c` over the AT24CXX provider. Every entry has a
payload and a signature with the CRC and the length of the payload.
-/

namespace CanopenRtt.Storage

open Support

variable {w : Nat}

/-- `CO_storage_entry_t` with its payload in RAM. -/
structure EepromEntry (w : Nat) where
  auto : Bool
  ram : List Byte
  eepromAddr : BitVec w
  eepromAddrSignature : BitVec w
  offset : BitVec w
  crc : BitVec 16
  payloadChanged : Bool
  deriving DecidableEq

/-- The provider under the backend: the CRC and byte order of the target, the configuration
and the instance, which is open. `size_t` has 16 bits at least. -/
structure Provider (w : Nat) where
  host : Host
  config : At24cConfig w
  device : At24c w
  opened : device.Opened config
  streams : host.Streams
  wide : 16 ≤ w

namespace EepromEntry

/-- `entry->len` -/
def len (entry : EepromEntry w) : BitVec w := BitVec.ofNat w entry.ram.length

/-- The signature of a payload, as it is in memory. -/
def signatureBytes (host : Host) (crc : BitVec 16) (len : Nat) : List Byte :=
  hostBytes host.bigEndian 4 (crc.toNat * 65536 + len % 65536)

/-- `co_storage_rtt_eeprom_update_signature` -/
def updateSignature (p : Provider w) (entry : EepromEntry w) (e : Eeprom) :
    Eeprom × EepromEntry w × Bool :=
  if entry.len = 0 then (e, entry, false)
  else
    let crc := p.host.crc16 entry.ram 0
    let (e, crcRead) := p.device.getCrcBlock p.host p.config entry.eepromAddr entry.len e
    if crc ≠ crcRead then (e, { entry with crc }, false)
    else
      let signature := signatureBytes p.host crc entry.ram.length
      let (e, writeOk) := p.device.writeBlock signature entry.eepromAddrSignature 4 e
      let (e, signatureRead) := p.device.eepromReadBlock entry.eepromAddrSignature 4 e
      (e, { entry with crc }, signatureRead = signature && writeOk)

/-- `co_storage_rtt_eeprom_store` -/
def store (p : Provider w) (entry : EepromEntry w) (e : Eeprom) : Eeprom × EepromEntry w × Bool :=
  if entry.len = 0 then (e, entry, false)
  else
    let (e, writeOk) := p.device.writeBlock entry.ram entry.eepromAddr entry.len e
    if !writeOk then (e, entry, false) else entry.updateSignature p e

/-- `co_storage_rtt_eeprom_restore` -/
def restore (p : Provider w) (entry : EepromEntry w) (e : Eeprom) : Eeprom × Bool :=
  let signature := List.replicate 4 0xFF#8
  let (e, writeOk) := p.device.writeBlock signature entry.eepromAddrSignature 4 e
  let (e, signatureRead) := p.device.eepromReadBlock entry.eepromAddrSignature 4 e
  (e, signatureRead = signature && writeOk)

/-- `co_storage_rtt_eeprom_read` -/
def read (p : Provider w) (entry : EepromEntry w) (e : Eeprom) : Eeprom × EepromEntry w × Bool :=
  if entry.len = 0 then (e, entry, false)
  else
    let (e, bytes) := p.device.eepromReadBlock entry.eepromAddr entry.len e
    (e, { entry with ram := bytes }, true)

/-- `co_storage_rtt_eeprom_update_payload_byte`: success, and whether the stored byte has
changed. -/
def updatePayloadByte (p : Provider w) (entry : EepromEntry w) (offset : BitVec w) (e : Eeprom) :
    Eeprom × Bool × Bool :=
  let byte := entry.ram.getD offset.toNat 0
  let addr := entry.eepromAddr + offset
  let (e, stored) := p.device.eepromReadBlock addr 1 e
  let (e, ok) := p.device.updateByte byte addr e
  if !ok then (e, false, false) else (e, true, decide (stored ≠ [byte]))

/-- The loop of a `saveAll` over the payload from `offset` on. -/
def saveLoop (p : Provider w) (entry : EepromEntry w) (offset : BitVec w) (changed : Bool)
    (e : Eeprom) : Eeprom × Bool × Bool :=
  if _h : offset < entry.len then
    match entry.updatePayloadByte p offset e with
    | (e, false, _) => (e, false, changed)
    | (e, true, byteChanged) => saveLoop p entry (offset + 1) (changed || byteChanged) e
  else (e, true, changed)
termination_by entry.len.toNat - offset.toNat
decreasing_by
  have hlt : offset.toNat < entry.len.toNat := _h
  have hnext := At24c.toNat_add_one _h
  omega

/-- The signature of an entry is refreshed after its payload has changed. -/
def settle (p : Provider w) (entry : EepromEntry w) (e : Eeprom) : Eeprom × EepromEntry w × Bool :=
  if entry.payloadChanged then
    match entry.updateSignature p e with
    | (e, entry, true) => (e, { entry with payloadChanged := false }, true)
    | (e, entry, false) => (e, entry, false)
  else (e, entry, true)

/-- One iteration of `co_storage_rtt_eeprom_auto_process` with `saveAll`. -/
def saveEntry (p : Provider w) (entry : EepromEntry w) (e : Eeprom) :
    Eeprom × EepromEntry w × Bool :=
  let (e, entryOk, changed) := entry.saveLoop p 0 false e
  let entry := if changed then { entry with payloadChanged := true } else entry
  if entryOk then entry.settle p e else (e, entry, false)

/-- One cyclic iteration of `co_storage_rtt_eeprom_auto_process`. -/
def cycleEntry (p : Provider w) (entry : EepromEntry w) (e : Eeprom) :
    Eeprom × EepromEntry w × Bool :=
  match entry.updatePayloadByte p entry.offset e with
  | (e, false, _) => (e, entry, false)
  | (e, true, changed) =>
      let entry := if changed then { entry with payloadChanged := true } else entry
      let entry := { entry with offset := entry.offset + 1 }
      if entry.len ≤ entry.offset then ({ entry with offset := 0 } : EepromEntry w).settle p e
      else (e, entry, true)

/-- One iteration of `co_storage_rtt_eeprom_auto_process`. -/
def autoEntry (p : Provider w) (saveAll : Bool) (entry : EepromEntry w) (e : Eeprom) :
    Eeprom × EepromEntry w × Bool :=
  if !entry.auto then (e, entry, true)
  else if saveAll then entry.saveEntry p e
  else entry.cycleEntry p e

end EepromEntry

/-- `co_storage_rtt_eeprom_auto_process` -/
def eepromAutoProcess (p : Provider w) (saveAll : Bool) :
    List (EepromEntry w) → Eeprom → Eeprom × List (EepromEntry w) × Bool
  | [], e => (e, [], true)
  | entry :: entries, e =>
      let (e, entry, entryOk) := entry.autoEntry p saveAll e
      let (e, entries, ok) := eepromAutoProcess p saveAll entries e
      (e, entry :: entries, entryOk && ok)

end CanopenRtt.Storage
