import CanopenRtt.Storage.Auxiliary
import Mathlib.Data.BitVec
/-!
# Persistent LSS Node-ID and bitrate

`port/rtthread/storage/CO_lss_persist_RTT.c`. A single record holds the pair; its
commit marker is taken away before the body is rewritten and put back last. The
CRC, the bit-timing table, the code of an unassigned Node-ID, `CO_setUint16` and
`CO_getUint16` belong to the stack.
-/

namespace CanopenRtt.Storage

open Support

def highByte (value : BitVec 16) : Byte := (value >>> 8).setWidth 8

def lowByte (value : BitVec 16) : Byte := value.setWidth 8

/-- What the record uses of the stack. `CO_setUint16` stores the two bytes of a value, and
`CO_getUint16` reads back what it has stored. -/
structure LssStack where
  bitTimingTable : List (BitVec 16)
  nodeIdAssignment : Byte
  crc16 : List Byte → BitVec 16 → BitVec 16
  setUint16 : BitVec 16 → Byte × Byte
  getUint16 : Byte × Byte → BitVec 16
  getUint16_setUint16 : ∀ value, getUint16 (setUint16 value) = value
  setUint16_getUint16 : ∀ bytes, setUint16 (getUint16 bytes) = bytes
  setUint16_bytes : ∀ value, setUint16 value = (highByte value, lowByte value) ∨
    setUint16 value = (lowByte value, highByte value)

namespace LssStack

variable (stack : LssStack)

/-- `co_lss_persist_node_id_valid`. -/
def nodeIdValid (nodeId : Byte) : Bool :=
  (1 ≤ nodeId && nodeId ≤ 0x7F) || nodeId = stack.nodeIdAssignment

/-- `co_lss_persist_bitrate_valid`. -/
def bitrateValid (bitrate : BitVec 16) : Bool :=
  stack.bitTimingTable.any fun entry => entry ≠ 0 && entry = bitrate

end LssStack

/-! ## The record -/

/-- `CO_lss_persist_record_t`. -/
structure LssRecord where
  magic : List Byte
  version : Byte
  flags : Byte
  length : Byte × Byte
  nodeId : Byte
  reserved : Byte
  bitrate : Byte × Byte
  crc : Byte × Byte
  commit : Byte × Byte
  deriving DecidableEq

/-- `"LSS1"`. -/
def lssMagic : List Byte := [0x4C, 0x53, 0x53, 0x31]
def lssFormatVersion : Byte := 1
def lssFlags : Byte := 0
def lssCommitMarker : BitVec 16 := 0xA55A
def lssInvalidMarker : BitVec 16 := 0x0000
def lssRecordSize : Nat := 16
def lssCrcOffset : Nat := 12
def lssCommitOffset : Nat := 14

namespace LssRecord

/-- The record as it lies in memory and on the media. -/
def bytes (record : LssRecord) : List Byte :=
  record.magic ++ [record.version, record.flags, record.length.1, record.length.2, record.nodeId,
    record.reserved, record.bitrate.1, record.bitrate.2, record.crc.1, record.crc.2,
    record.commit.1, record.commit.2]

/-- A record buffer after a read has filled it. -/
def ofBytes (buffer : List Byte) : LssRecord where
  magic := buffer.take 4
  version := buffer.getD 4 0
  flags := buffer.getD 5 0
  length := (buffer.getD 6 0, buffer.getD 7 0)
  nodeId := buffer.getD 8 0
  reserved := buffer.getD 9 0
  bitrate := (buffer.getD 10 0, buffer.getD 11 0)
  crc := (buffer.getD 12 0, buffer.getD 13 0)
  commit := (buffer.getD 14 0, buffer.getD 15 0)

/-- `co_lss_persist_record_erased`. -/
def erased (record : LssRecord) : Bool :=
  record.bytes.all fun byte => byte = 0xFF

/-- `co_lss_persist_record_encode`. -/
def encode (stack : LssStack) (nodeId : Byte) (bitrate : BitVec 16) : LssRecord :=
  let record : LssRecord :=
    { magic := lssMagic
      version := lssFormatVersion
      flags := lssFlags
      length := stack.setUint16 (BitVec.ofNat 16 lssRecordSize)
      nodeId := nodeId
      reserved := 0
      bitrate := stack.setUint16 bitrate
      crc := (0, 0)
      commit := (0, 0) }
  { record with
    crc := stack.setUint16 (stack.crc16 (record.bytes.take lssCrcOffset) 0)
    commit := stack.setUint16 lssInvalidMarker }

/-- `co_lss_persist_record_decode`. -/
def decode (stack : LssStack) (record : LssRecord) : Option (Byte × BitVec 16) :=
  if record.magic ≠ lssMagic then none
  else if record.version ≠ lssFormatVersion ∨ record.flags ≠ lssFlags ∨
      stack.getUint16 record.length ≠ BitVec.ofNat 16 lssRecordSize ∨ record.reserved ≠ 0 ∨
      stack.getUint16 record.commit ≠ lssCommitMarker then none
  else
    let savedBitrate := stack.getUint16 record.bitrate
    let savedCrc := stack.getUint16 record.crc
    let calculatedCrc := stack.crc16 (record.bytes.take lssCrcOffset) 0
    if savedCrc ≠ calculatedCrc ∨ !stack.nodeIdValid record.nodeId ∨
        !stack.bitrateValid savedBitrate then none
    else some (record.nodeId, savedBitrate)

/-- The encoded record once its commit marker has been written. -/
def committed (stack : LssStack) (nodeId : Byte) (bitrate : BitVec 16) : LssRecord :=
  { encode stack nodeId bitrate with commit := stack.setUint16 lssCommitMarker }

end LssRecord

/-! ## Load and store -/

inductive LoadResult where
  | ok
  | empty
  | invalid
  | ioError
  deriving DecidableEq

/-- `co_lss_persist_rtt_load`: the result and the caller's Node-ID and bitrate
afterwards; nothing if power is lost. -/
def lssLoad (stack : LssStack) (aux : AuxStorage) (media : aux.State) (answer : aux.ReadAnswer)
    (nodeId : Byte) (bitrate : BitVec 16) : Option (LoadResult × Byte × BitVec 16) :=
  match aux.auxRead media 0 lssRecordSize answer with
  | .powerLost => none
  | .failed => some (.ioError, nodeId, bitrate)
  | .done buffer =>
      let record := LssRecord.ofBytes buffer
      if record.erased then some (.empty, nodeId, bitrate)
      else
        match record.decode stack with
        | none => some (.invalid, nodeId, bitrate)
        | some (savedNodeId, savedBitrate) => some (.ok, savedNodeId, savedBitrate)

/-- The answers of the backend to the accesses of one store. -/
structure StoreAnswers (aux : AuxStorage) where
  invalidate : aux.WriteAnswer
  body : aux.WriteAnswer
  readBack : aux.ReadAnswer
  commit : aux.WriteAnswer
  verify : aux.ReadAnswer
  rollback : aux.WriteAnswer

/-- The two bytes of a marker. -/
def markerBytes (stack : LssStack) (marker : BitVec 16) : List Byte :=
  [(stack.setUint16 marker).1, (stack.setUint16 marker).2]

/-- The best-effort invalidation with which a store gives up. -/
def lssRollback (stack : LssStack) (aux : AuxStorage) (media : aux.State)
    (answer : aux.WriteAnswer) : aux.State × Option Bool :=
  match aux.auxWrite media lssCommitOffset (markerBytes stack lssInvalidMarker) answer with
  | (media, .powerLost) => (media, none)
  | (media, _) => (media, some false)

/-- The second half of `co_lss_persist_rtt_store`: commit the verified body. -/
def lssCommit (stack : LssStack) (aux : AuxStorage) (media : aux.State) (nodeId : Byte)
    (bitrate : BitVec 16) (answers : StoreAnswers aux) : aux.State × Option Bool :=
  match aux.auxWrite media lssCommitOffset (markerBytes stack lssCommitMarker) answers.commit with
  | (media, .powerLost) => (media, none)
  | (media, .failed) => lssRollback stack aux media answers.rollback
  | (media, .done _) =>
      match aux.auxRead media 0 lssRecordSize answers.verify with
      | .powerLost => (media, none)
      | .failed => lssRollback stack aux media answers.rollback
      | .done buffer =>
          if (LssRecord.ofBytes buffer).decode stack = some (nodeId, bitrate) then
            (media, some true)
          else lssRollback stack aux media answers.rollback

/-- `co_lss_persist_rtt_store`: its result, or nothing if power is lost. -/
def lssStore (stack : LssStack) (aux : AuxStorage) (media : aux.State) (nodeId : Byte)
    (bitrate : BitVec 16) (answers : StoreAnswers aux) : aux.State × Option Bool :=
  if !stack.nodeIdValid nodeId || !stack.bitrateValid bitrate then (media, some false)
  else
    let body := (LssRecord.encode stack nodeId bitrate).bytes.take lssCommitOffset
    match aux.auxWrite media lssCommitOffset (markerBytes stack lssInvalidMarker)
        answers.invalidate with
    | (media, .powerLost) => (media, none)
    | (media, .failed) => (media, some false)
    | (media, .done _) =>
        match aux.auxWrite media 0 body answers.body with
        | (media, .powerLost) => (media, none)
        | (media, .failed) => (media, some false)
        | (media, .done _) =>
            match aux.auxRead media 0 lssCommitOffset answers.readBack with
            | .powerLost => (media, none)
            | .failed => (media, some false)
            | .done verify =>
                if verify ≠ body then (media, some false)
                else lssCommit stack aux media nodeId bitrate answers

/-! ## The decoder -/

namespace LssStack

theorem getUint16_eq_iff (stack : LssStack) {bytes : Byte × Byte} {value : BitVec 16} :
    stack.getUint16 bytes = value ↔ bytes = stack.setUint16 value := by
  constructor
  · intro h
    rw [← h, setUint16_getUint16]
  · intro h
    rw [h, getUint16_setUint16]

end LssStack

namespace LssRecord

theorem ofBytes_bytes {record : LssRecord} (h : record.magic.length = 4) :
    ofBytes record.bytes = record := by
  obtain ⟨magic, version, flags, len, nodeId, reserved, bitrate, crc, commit⟩ := record
  obtain ⟨a, b, c, d, rfl⟩ := List.length_eq_four.mp h
  rfl

theorem bytes_ofBytes {buffer : List Byte} (h : buffer.length = lssRecordSize) :
    (ofBytes buffer).bytes = buffer := by
  match buffer, h with
  | [_, _, _, _, _, _, _, _, _, _, _, _, _, _, _, _], _ => rfl

/-- The CRC covers the bytes before it, which a commit does not touch. -/
theorem crc_committed (stack : LssStack) (nodeId : Byte) (bitrate : BitVec 16) :
    (committed stack nodeId bitrate).crc =
      stack.setUint16 (stack.crc16 ((committed stack nodeId bitrate).bytes.take lssCrcOffset) 0) :=
  rfl

theorem decode_eq_some_iff (stack : LssStack) (record : LssRecord) (nodeId : Byte)
    (bitrate : BitVec 16) :
    record.decode stack = some (nodeId, bitrate) ↔
      stack.nodeIdValid nodeId = true ∧ stack.bitrateValid bitrate = true ∧
        record = committed stack nodeId bitrate := by
  constructor
  · intro h
    unfold decode at h
    split at h
    · contradiction
    next hmagic =>
    split at h
    · contradiction
    next hfields =>
    dsimp only at h
    split at h
    · contradiction
    next hvalues =>
    injection h with h
    obtain ⟨rfl, hbitrate⟩ := Prod.mk.inj h
    rw [LssStack.getUint16_eq_iff] at hbitrate
    simp only [not_or, not_not, LssStack.getUint16_eq_iff] at hmagic hfields hvalues
    obtain ⟨hversion, hflags, hlength, hreserved, hcommit⟩ := hfields
    obtain ⟨hcrc, hnode, hrate⟩ := hvalues
    rw [hbitrate, LssStack.getUint16_setUint16] at hrate
    refine ⟨by simpa using hnode, by simpa using hrate, ?_⟩
    obtain ⟨magic, version, flags, len, id, reserved, rate, crc, commit⟩ := record
    dsimp only at *
    subst hmagic hversion hflags hlength hreserved hcommit hbitrate
    rw [hcrc]
    rfl
  · rintro ⟨hnode, hrate, rfl⟩
    have hcrc := stack.getUint16_eq_iff.mpr (crc_committed stack nodeId bitrate)
    have hbitrate : stack.getUint16 (committed stack nodeId bitrate).bitrate = bitrate :=
      stack.getUint16_setUint16 bitrate
    unfold decode
    rw [if_neg (by simp [committed, encode]),
      if_neg (by simp [committed, encode, LssStack.getUint16_setUint16])]
    dsimp only
    rw [hcrc, hbitrate, if_neg (by simp [committed, encode, hnode, hrate])]
    rfl

/-- The decoder accepts the committed encodings of valid pairs and nothing else. -/
theorem decode_ofBytes_iff (stack : LssStack) {buffer : List Byte}
    (h : buffer.length = lssRecordSize) (nodeId : Byte) (bitrate : BitVec 16) :
    (ofBytes buffer).decode stack = some (nodeId, bitrate) ↔
      stack.nodeIdValid nodeId = true ∧ stack.bitrateValid bitrate = true ∧
        buffer = (committed stack nodeId bitrate).bytes := by
  rw [decode_eq_some_iff]
  constructor
  · rintro ⟨hnode, hrate, hrecord⟩
    exact ⟨hnode, hrate, by rw [← hrecord, bytes_ofBytes h]⟩
  · rintro ⟨hnode, hrate, rfl⟩
    exact ⟨hnode, hrate, ofBytes_bytes rfl⟩

end LssRecord

end CanopenRtt.Storage
