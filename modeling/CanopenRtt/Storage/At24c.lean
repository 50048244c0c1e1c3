import CanopenRtt.Storage.Host
/-!
# The AT24CXX provider

`port/rtthread/storage/CO_storage_RTT_at24c.c`. `size_t` has `w` bits and wraps. The device
behind `at24cxx_page_read` and `at24cxx_page_write` answers the `n`-th page call with the
`n`-th answer of its environment and records the call.
-/

namespace CanopenRtt.Storage

open Support

variable {w : Nat}

/-- A call of `at24cxx_page_read` or `at24cxx_page_write`. -/
structure PageTransfer where
  write : Bool
  address : BitVec 32
  count : BitVec 16
  deriving DecidableEq

/-- The addresses that a transfer touches, in order. -/
def PageTransfer.addresses (t : PageTransfer) : List Nat :=
  List.range' t.address.toNat t.count.toNat

/-- How the device answers one call. A failed write may have applied any of its bytes. -/
structure PageAnswer where
  ok : Bool
  applied : Nat → Bool

/-- The EEPROM with the calls made so far and the answers to all calls. -/
structure Eeprom where
  medium : Medium
  log : List PageTransfer
  answers : Nat → PageAnswer

namespace Eeprom

/-- One page call: it writes the bytes given, or returns the bytes read. -/
def page (e : Eeprom) (data : Option (List Byte)) (address : BitVec 32) (count : BitVec 16) :
    Eeprom × Option (List Byte) :=
  let answer := e.answers e.log.length
  match data with
  | none =>
      ({ e with log := e.log ++ [⟨false, address, count⟩] },
        if answer.ok then some (slice e.medium address.toNat count.toNat) else none)
  | some bytes =>
      let applied := if answer.ok then fun _ => true else answer.applied
      ({ e with
          medium := patch applied e.medium address.toNat bytes
          log := e.log ++ [⟨true, address, count⟩] },
        if answer.ok then some [] else none)

end Eeprom

/-- The build configuration and the constants of `at24cxx.h`. Addresses of the device are
those of its 32-bit interface. -/
structure At24cConfig (w : Nat) where
  size : BitVec w
  offset : BitVec w
  regionSize : BitVec w
  pageByte : BitVec w
  crcBufSize : BitVec w
  lssPersist : Bool
  addressable : size.toNat ≤ 2 ^ 32
  crcBufSize_pos : 0 < crcBufSize.toNat

/-- `CO_storage_rtt_at24c_instance_t`. -/
structure At24c (w : Nat) where
  size : BitVec w
  storageOffset : BitVec w
  storageRegionSize : BitVec w
  auxOffset : BitVec w
  auxRegionSize : BitVec w
  nextAddress : BitVec w
  device : Bool
  initialized : Bool
  deriving DecidableEq

namespace At24c

/-- `co_storage_rtt_at24c_config_init` -/
def configInit (config : At24cConfig w) (i : At24c w) : At24c w :=
  let region :=
    if config.regionSize = 0 ∧ config.offset < config.size then config.size - config.offset
    else config.regionSize
  if config.lssPersist = true ∧ config.pageByte < region then
    { i with
      size := config.size
      storageOffset := config.offset
      storageRegionSize := region - config.pageByte
      auxOffset := config.offset + (region - config.pageByte)
      auxRegionSize := config.pageByte
      nextAddress := config.offset }
  else
    { i with
      size := config.size
      storageOffset := config.offset
      storageRegionSize := region
      auxOffset := 0
      auxRegionSize := 0
      nextAddress := config.offset }

/-- The checks of `co_storage_rtt_at24c_device_init`; the bus name is given. -/
def regionsValid (config : At24cConfig w) (i : At24c w) : Bool :=
  i.size ≠ 0 && i.storageOffset < i.size && i.storageRegionSize ≠ 0 &&
    i.storageRegionSize ≤ i.size - i.storageOffset &&
    (!config.lssPersist ||
      i.auxRegionSize = config.pageByte && i.auxOffset = i.storageOffset + i.storageRegionSize &&
        i.auxRegionSize ≤ i.size - i.auxOffset)

/-- `co_storage_rtt_at24c_device_init`; `opens` is the answer of `at24cxx_init`. -/
def deviceInit (config : At24cConfig w) (i : At24c w) (opens : Bool) : At24c w × Bool :=
  if !i.regionsValid config then (i, false)
  else if !i.device && !opens then (i, false)
  else ({ i with device := true, initialized := true }, true)

/-- `co_storage_rtt_at24c_device_range_valid` -/
def deviceRangeValid (i : At24c w) (addr len : BitVec w) : Bool :=
  i.initialized && i.device && i.size ≠ 0 && len ≠ 0 && addr < i.size && len ≤ i.size - addr

/-- `co_storage_rtt_at24c_range_valid` -/
def rangeValid (i : At24c w) (addr len : BitVec w) : Bool :=
  i.deviceRangeValid addr len && i.storageOffset < i.size && i.storageRegionSize ≠ 0 &&
    i.storageRegionSize ≤ i.size - i.storageOffset && i.storageOffset ≤ addr &&
    addr < i.storageOffset + i.storageRegionSize &&
    len ≤ i.storageOffset + i.storageRegionSize - addr

/-- `co_storage_rtt_at24c_aux_range_valid` -/
def auxRangeValid (i : At24c w) (offset len : BitVec w) : Bool :=
  i.auxRegionSize ≠ 0 && len ≠ 0 && offset < i.auxRegionSize &&
    len ≤ i.auxRegionSize - offset && i.deviceRangeValid (i.auxOffset + offset) len

end At24c

def uint16Max : Nat := 0xFFFF

/-- The size of the next chunk of a transfer loop. -/
def transferChunk (len offset : BitVec w) : BitVec 16 :=
  if BitVec.ofNat w uint16Max < len - offset then BitVec.ofNat 16 uint16Max
  else (len - offset).setWidth 16

theorem toNat_transferChunk {len offset : BitVec w} (h : offset < len) :
    (transferChunk len offset).toNat = min (len.toNat - offset.toNat) uint16Max := by
  have hremaining : (len - offset).toNat = len.toNat - offset.toNat :=
    BitVec.toNat_sub_of_le (BitVec.le_of_lt h)
  have hbound := (len - offset).isLt
  have hlong : BitVec.ofNat w uint16Max < len - offset ↔
      uint16Max % 2 ^ w < len.toNat - offset.toNat := by
    rw [BitVec.lt_def, hremaining, BitVec.toNat_ofNat]
  rw [hremaining] at hbound
  unfold transferChunk
  by_cases hw : 16 ≤ w
  · have hpow : 2 ^ 16 ≤ 2 ^ w := Nat.pow_le_pow_right (by decide) hw
    rw [Nat.mod_eq_of_lt (show uint16Max < 2 ^ w by unfold uint16Max; omega)] at hlong
    by_cases hmore : uint16Max < len.toNat - offset.toNat
    · rw [if_pos (hlong.mpr hmore), Nat.min_eq_right (Nat.le_of_lt hmore)]
      rfl
    · rw [if_neg (mt hlong.mp hmore), Nat.min_eq_left (Nat.not_lt.mp hmore), BitVec.toNat_setWidth,
        hremaining]
      unfold uint16Max at hmore
      exact Nat.mod_eq_of_lt (by omega)
  · have hpow : 2 ^ w ≤ 2 ^ 15 := Nat.pow_le_pow_right (by decide) (by omega)
    have hall : ∀ n < 16, uint16Max % 2 ^ n = 2 ^ n - 1 := by decide
    rw [hall w (by omega)] at hlong
    have hshort : ¬ 2 ^ w - 1 < len.toNat - offset.toNat := by omega
    have hfits : len.toNat - offset.toNat ≤ uint16Max := by
      unfold uint16Max
      omega
    rw [if_neg (mt hlong.mp hshort), Nat.min_eq_left hfits, BitVec.toNat_setWidth, hremaining]
    exact Nat.mod_eq_of_lt (by omega)

/-- A chunk is never empty and never longer than what is left, and adding it does not wrap. -/
theorem add_transferChunk {len offset : BitVec w} (h : offset < len) :
    0 < (transferChunk len offset).toNat ∧
      (offset + (transferChunk len offset).setWidth w).toNat =
        offset.toNat + (transferChunk len offset).toNat ∧
      offset.toNat + (transferChunk len offset).toNat ≤ len.toNat := by
  have hlt : offset.toNat < len.toNat := h
  have hlen := len.isLt
  have hchunk := toNat_transferChunk h
  have hfits : (transferChunk len offset).toNat ≤ len.toNat - offset.toNat := by
    rw [hchunk]
    exact Nat.min_le_left _ _
  have hpositive : 0 < (transferChunk len offset).toNat := by
    rw [hchunk]
    unfold uint16Max
    omega
  refine ⟨hpositive, ?_, by omega⟩
  have hwide : ((transferChunk len offset).setWidth w).toNat =
      (transferChunk len offset).toNat := by
    rw [BitVec.toNat_setWidth, Nat.mod_eq_of_lt (by omega)]
  rw [BitVec.toNat_add_of_lt (by omega), hwide]

namespace At24c

/-- The loop of `co_storage_rtt_at24c_read_block`, `co_storage_rtt_at24c_write_block` and
`co_storage_rtt_at24c_raw_transfer` from `offset` on: the bytes of `data` are written, or
bytes are read. `none` is a failed page call. -/
def transferLoop (addr len : BitVec w) (data : Option (List Byte)) (offset : BitVec w)
    (e : Eeprom) : Eeprom × Option (List Byte) :=
  if _h : offset < len then
    let chunk := transferChunk len offset
    let bytes := data.map fun all => (all.drop offset.toNat).take chunk.toNat
    match e.page bytes ((addr + offset).setWidth 32) chunk with
    | (e, none) => (e, none)
    | (e, some done) =>
        let (e, rest) := transferLoop addr len data (offset + chunk.setWidth w) e
        (e, rest.map (done ++ ·))
  else (e, some [])
termination_by len.toNat - offset.toNat
decreasing_by
  obtain ⟨hpositive, hnext, hfits⟩ := add_transferChunk _h
  omega

/-- `co_storage_rtt_at24c_read_block` -/
def readBlock (i : At24c w) (addr len : BitVec w) (e : Eeprom) : Eeprom × Option (List Byte) :=
  if i.rangeValid addr len then transferLoop addr len none 0 e else (e, none)

/-- `co_storage_rtt_at24c_write_block` -/
def writeBlock (i : At24c w) (data : List Byte) (addr len : BitVec w) (e : Eeprom) :
    Eeprom × Bool :=
  if i.rangeValid addr len then
    let (e, done) := transferLoop addr len (some data) 0 e
    (e, done.isSome)
  else (e, false)

/-- `co_storage_rtt_at24c_raw_transfer` -/
def rawTransfer (i : At24c w) (addr len : BitVec w) (data : Option (List Byte))
    (storageRegionOnly : Bool) (e : Eeprom) : Eeprom × Option (List Byte) :=
  if if storageRegionOnly then i.rangeValid addr len else i.deviceRangeValid addr len then
    transferLoop addr len data 0 e
  else (e, none)

/-- `co_storage_rtt_at24c_raw_read` -/
def rawRead (i : At24c w) (addr len : BitVec w) (e : Eeprom) : Eeprom × Option (List Byte) :=
  i.rawTransfer addr len none true e

/-- `co_storage_rtt_at24c_raw_write` -/
def rawWrite (i : At24c w) (addr : BitVec w) (data : List Byte) (len : BitVec w) (e : Eeprom) :
    Eeprom × Option (List Byte) :=
  i.rawTransfer addr len (some data) true e

/-- `co_storage_rtt_eeprom_aux_read` -/
def auxRead (i : At24c w) (offset len : BitVec w) (e : Eeprom) : Eeprom × Option (List Byte) :=
  if i.auxRangeValid offset len then i.rawTransfer (i.auxOffset + offset) len none false e
  else (e, none)

/-- `co_storage_rtt_eeprom_aux_write` -/
def auxWrite (i : At24c w) (offset : BitVec w) (data : List Byte) (len : BitVec w) (e : Eeprom) :
    Eeprom × Option (List Byte) :=
  if i.auxRangeValid offset len then i.rawTransfer (i.auxOffset + offset) len (some data) false e
  else (e, none)

/-- `CO_eeprom_getAddr`: the address, and whether it overflows. -/
def getAddr (i : At24c w) (len : BitVec w) : At24c w × BitVec w × Bool :=
  if i.initialized = false ∨ len = 0 then (i, 0, true)
  else if i.nextAddress < i.storageOffset ∨ i.storageOffset + i.storageRegionSize ≤ i.nextAddress ∨
      i.storageOffset + i.storageRegionSize - i.nextAddress < len then
    (i, i.nextAddress, true)
  else ({ i with nextAddress := i.nextAddress + len }, i.nextAddress, false)

/-- `CO_eeprom_readBlock`: a buffer that cannot be read is filled. -/
def eepromReadBlock (i : At24c w) (addr len : BitVec w) (e : Eeprom) : Eeprom × List Byte :=
  match i.readBlock addr len e with
  | (e, some bytes) => (e, bytes)
  | (e, none) => (e, List.replicate len.toNat 0xFF)

/-- The size of the next chunk of `CO_eeprom_getCrcBlock`. -/
def crcChunk (bufSize len offset : BitVec w) : BitVec w :=
  if len - offset < bufSize then len - offset else bufSize

theorem add_crcChunk {config : At24cConfig w} {len offset : BitVec w} (h : offset < len) :
    0 < (crcChunk config.crcBufSize len offset).toNat ∧
      (offset + crcChunk config.crcBufSize len offset).toNat =
        offset.toNat + (crcChunk config.crcBufSize len offset).toNat ∧
      offset.toNat + (crcChunk config.crcBufSize len offset).toNat ≤ len.toNat := by
  have hlt : offset.toNat < len.toNat := h
  have hlen := len.isLt
  have hremaining : (len - offset).toNat = len.toNat - offset.toNat :=
    BitVec.toNat_sub_of_le (BitVec.le_of_lt h)
  have hbuffer := config.crcBufSize_pos
  have hbounds : 0 < (crcChunk config.crcBufSize len offset).toNat ∧
      (crcChunk config.crcBufSize len offset).toNat ≤ len.toNat - offset.toNat := by
    unfold crcChunk
    by_cases hshort : len - offset < config.crcBufSize
    · rw [if_pos hshort, hremaining]
      omega
    · have hle : config.crcBufSize.toNat ≤ (len - offset).toNat := Nat.not_lt.mp hshort
      rw [if_neg hshort]
      omega
  refine ⟨hbounds.1, ?_, by omega⟩
  exact BitVec.toNat_add_of_lt (by omega)

/-- The loop of `CO_eeprom_getCrcBlock` from `offset` on. -/
def crcLoop (host : Host) (config : At24cConfig w) (i : At24c w) (addr len offset : BitVec w)
    (crc : BitVec 16) (e : Eeprom) : Eeprom × BitVec 16 :=
  if _h : offset < len then
    let chunk := crcChunk config.crcBufSize len offset
    match i.readBlock (addr + offset) chunk e with
    | (e, none) => (e, 0)
    | (e, some bytes) => crcLoop host config i addr len (offset + chunk) (host.crc16 bytes crc) e
  else (e, crc)
termination_by len.toNat - offset.toNat
decreasing_by
  obtain ⟨hpositive, hnext, hfits⟩ := @add_crcChunk w config len offset _h
  omega

/-- `CO_eeprom_getCrcBlock` -/
def getCrcBlock (host : Host) (config : At24cConfig w) (i : At24c w) (addr len : BitVec w)
    (e : Eeprom) : Eeprom × BitVec 16 :=
  if i.rangeValid addr len then crcLoop host config i addr len 0 0 e else (e, 0)

/-- `CO_eeprom_updateByte` -/
def updateByte (i : At24c w) (byte : Byte) (addr : BitVec w) (e : Eeprom) : Eeprom × Bool :=
  match i.readBlock addr 1 e with
  | (e, none) => (e, false)
  | (e, some stored) => if stored = [byte] then (e, true) else i.writeBlock [byte] addr 1 e

/-! ## Ranges -/

theorem toNat_zero : (0 : BitVec w).toNat = 0 := BitVec.toNat_zero

theorem toNat_one {bound : BitVec w} (h : 0 < bound.toNat) : (1 : BitVec w).toNat = 1 := by
  have hbound := bound.isLt
  have hone : (1 : BitVec w).toNat = 1 % 2 ^ w := BitVec.toNat_ofNat 1 w
  rw [hone]
  exact Nat.mod_eq_of_lt (by omega)

theorem toNat_add_one {offset len : BitVec w} (h : offset < len) :
    (offset + 1).toNat = offset.toNat + 1 := by
  have hlt : offset.toNat < len.toNat := h
  have hlen := len.isLt
  have hone := @toNat_one w len (by omega)
  rw [BitVec.toNat_add_of_lt (by omega), hone]

theorem toNat_pos_of_ne_zero {x : BitVec w} (h : x ≠ 0) : 0 < x.toNat := by
  rcases Nat.eq_zero_or_pos x.toNat with hzero | hpositive
  · exact absurd (BitVec.eq_of_toNat_eq (hzero.trans BitVec.toNat_zero.symm)) h
  · exact hpositive

/-- A length that fits below a bound, as the checks compute it. -/
theorem add_le_of_le_sub {start len bound : BitVec w} (hstart : start < bound)
    (hlen : len ≤ bound - start) : start.toNat + len.toNat ≤ bound.toNat := by
  have hlt : start.toNat < bound.toNat := hstart
  have hle : len.toNat ≤ (bound - start).toNat := hlen
  rw [BitVec.toNat_sub_of_le (BitVec.le_of_lt hstart)] at hle
  omega

theorem toNat_add_of_le {start len bound : BitVec w}
    (h : start.toNat + len.toNat ≤ bound.toNat) : (start + len).toNat = start.toNat + len.toNat :=
  BitVec.toNat_add_of_lt (Nat.lt_of_le_of_lt h bound.isLt)

theorem deviceRangeValid_bounds {i : At24c w} {addr len : BitVec w}
    (h : i.deviceRangeValid addr len = true) :
    addr.toNat + len.toNat ≤ i.size.toNat ∧ 0 < len.toNat := by
  unfold deviceRangeValid at h
  simp only [Bool.and_eq_true, decide_eq_true_eq, ne_eq] at h
  obtain ⟨⟨⟨-, hlen⟩, hstart⟩, hfits⟩ := h
  exact ⟨add_le_of_le_sub hstart hfits, toNat_pos_of_ne_zero hlen⟩

theorem rangeValid_bounds {i : At24c w} {addr len : BitVec w} (h : i.rangeValid addr len = true) :
    i.storageOffset.toNat ≤ addr.toNat ∧
      addr.toNat + len.toNat ≤ i.storageOffset.toNat + i.storageRegionSize.toNat ∧
      i.storageOffset.toNat + i.storageRegionSize.toNat ≤ i.size.toNat ∧ 0 < len.toNat := by
  unfold rangeValid at h
  simp only [Bool.and_eq_true, decide_eq_true_eq, ne_eq] at h
  obtain ⟨⟨⟨⟨⟨⟨hdevice, hoffset⟩, -⟩, hregion⟩, hstart⟩, hinside⟩, hfits⟩ := h
  have hend := add_le_of_le_sub hoffset hregion
  have haccess := add_le_of_le_sub hinside hfits
  rw [toNat_add_of_le hend] at haccess
  exact ⟨hstart, haccess, hend, (deviceRangeValid_bounds hdevice).2⟩

end At24c

/-! ## The transfer loop -/

/-- What a transfer of `data` has done from `offset` on: page calls for consecutive bytes, and
the bytes of the medium accordingly. -/
structure Ran (data : Option (List Byte)) (addr offset len : Nat) (e : Eeprom)
    (out : Eeprom × Option (List Byte)) : Prop where
  answers : out.1.answers = e.answers
  log : ∃ transfers k, out.1.log = e.log ++ transfers ∧
    (∀ t ∈ transfers, t.write = data.isSome) ∧
    transfers.flatMap PageTransfer.addresses = List.range' (addr + offset) k ∧
    offset + k ≤ len ∧ (out.2.isSome = true → offset + k = len)
  ok : out.2.isSome = true ↔
    ∀ n, e.log.length ≤ n → n < out.1.log.length → (e.answers n).ok = true
  kept : ∀ a, out.1.medium a = e.medium a ∨
    addr ≤ a ∧ a < addr + len ∧ ∃ d, data = some d ∧ d[a - addr]? = some (out.1.medium a)
  read : data = none → out.1.medium = e.medium ∧
    ∀ bytes, out.2 = some bytes → bytes = slice e.medium (addr + offset) (len - offset)
  written : ∀ d, data = some d → out.2.isSome = true →
    ∀ i byte, offset ≤ i → i < len → d[i]? = some byte → out.1.medium (addr + i) = byte

section Ran

variable {data : Option (List Byte)} {addr offset middle len : Nat} {e e' : Eeprom}
  {out : Eeprom × Option (List Byte)}

theorem ran_nothing (data : Option (List Byte)) (addr len : Nat) (e : Eeprom) :
    Ran data addr len len e (e, some []) where
  answers := rfl
  log := ⟨[], 0, by simp, nofun, rfl, Nat.le_refl _, fun _ => rfl⟩
  ok := ⟨fun _ n hlow hhigh => absurd hhigh (Nat.not_lt.mpr hlow), fun _ => rfl⟩
  kept _ := .inl rfl
  read _ := by
    refine ⟨rfl, fun bytes hbytes => ?_⟩
    cases hbytes
    rw [Nat.sub_self]
    rfl
  written _ _ _ i _ hlow hhigh := absurd hhigh (Nat.not_lt.mpr hlow)

/-- A page call that fails ends the transfer. -/
theorem Ran.stop (h : Ran data addr offset middle e (e', none)) (hmiddle : middle ≤ len) :
    Ran data addr offset len e (e', none) where
  answers := h.answers
  log := by
    obtain ⟨transfers, k, hlog, hwrite, hrange, hk, -⟩ := h.log
    exact ⟨transfers, k, hlog, hwrite, hrange, Nat.le_trans hk hmiddle, nofun⟩
  ok := h.ok
  kept a := by
    rcases h.kept a with hsame | ⟨hlow, hhigh, hbyte⟩
    · exact .inl hsame
    · exact .inr ⟨hlow, by omega, hbyte⟩
  read hnone := ⟨(h.read hnone).1, nofun⟩
  written _ _ := nofun

/-- A page call that succeeds is followed by the rest of the transfer. -/
theorem Ran.trans {done : List Byte} (h : Ran data addr offset middle e (e', some done))
    (hrest : Ran data addr middle len e' out) (hoffset : offset ≤ middle) (hmiddle : middle ≤ len) :
    Ran data addr offset len e (out.1, out.2.map (done ++ ·)) where
  answers := hrest.answers.trans h.answers
  log := by
    obtain ⟨first, k, hlog, hwrite, hrange, -, hall⟩ := h.log
    obtain ⟨second, m, hlog', hwrite', hrange', hm, hall'⟩ := hrest.log
    have hk : offset + k = middle := hall rfl
    refine ⟨first ++ second, k + m, ?_, ?_, ?_, by omega, ?_⟩
    · rw [hlog', hlog, List.append_assoc]
    · intro t ht
      rcases List.mem_append.mp ht with hfirst | hsecond
      · exact hwrite t hfirst
      · exact hwrite' t hsecond
    · rw [List.flatMap_append, hrange, hrange', ← hk, ← Nat.add_assoc, List.range'_append_1]
    · intro hsome
      rw [Option.isSome_map] at hsome
      have hend := hall' hsome
      omega
  ok := by
    obtain ⟨first, k, hlog, -⟩ := h.log
    obtain ⟨second, m, hlog', -⟩ := hrest.log
    have hlength : e'.log.length = e.log.length + first.length := by
      have heq := congrArg List.length hlog
      rwa [List.length_append] at heq
    have hlength' : out.1.log.length = e'.log.length + second.length := by
      have heq := congrArg List.length hlog'
      rwa [List.length_append] at heq
    rw [Option.isSome_map, hrest.ok, h.answers]
    constructor
    · intro hsecond n hlow hhigh
      by_cases hn : n < e'.log.length
      · exact h.ok.mp rfl n hlow hn
      · exact hsecond n (Nat.not_lt.mp hn) hhigh
    · intro hall n hlow hhigh
      exact hall n (by omega) hhigh
  kept a := by
    rcases hrest.kept a with hsame | ⟨hlow, hhigh, hbyte⟩
    · rw [hsame]
      rcases h.kept a with hsame' | ⟨hlow, hhigh, hbyte⟩
      · exact .inl hsame'
      · exact .inr ⟨hlow, by omega, hbyte⟩
    · exact .inr ⟨hlow, hhigh, hbyte⟩
  read hnone := by
    obtain ⟨hmedium, hbytes⟩ := h.read hnone
    obtain ⟨hmedium', hbytes'⟩ := hrest.read hnone
    refine ⟨hmedium'.trans hmedium, fun bytes hsome => ?_⟩
    obtain ⟨rest, hout, rfl⟩ := Option.map_eq_some_iff.mp hsome
    rw [hbytes done rfl, hbytes' rest hout, hmedium]
    have hsplit := slice_add e.medium (addr + offset) (middle - offset) (len - middle)
    have hstart : addr + offset + (middle - offset) = addr + middle := by omega
    have hlength : middle - offset + (len - middle) = len - offset := by omega
    rw [hstart, hlength] at hsplit
    exact hsplit.symm
  written d hd hsome i byte hlow hhigh hbyte := by
    rw [Option.isSome_map] at hsome
    by_cases hi : i < middle
    · have hfirst := h.written d hd rfl i byte hlow hi hbyte
      rcases hrest.kept (addr + i) with hsame | ⟨-, -, d', hd', hbyte'⟩
      · exact hsame.trans hfirst
      · rw [hd] at hd'
        cases hd'
        rw [Nat.add_sub_cancel_left, hbyte] at hbyte'
        exact (Option.some.inj hbyte').symm
    · exact hrest.written d hd hsome i byte (Nat.not_lt.mp hi) hhigh hbyte

end Ran

/-- One page call of the loop. -/
theorem page_ran (e : Eeprom) (data : Option (List Byte)) {addr offset : Nat} {address : BitVec 32}
    {count : BitVec 16} (haddress : address.toNat = addr + offset) :
    Ran data addr offset (offset + count.toNat) e
      (e.page (data.map fun all => (all.drop offset).take count.toNat) address count) := by
  have hanswer (bytes : List Byte) :
      (if (e.answers e.log.length).ok then some bytes else none).isSome = true ↔
        (e.answers e.log.length).ok = true := by
    cases (e.answers e.log.length).ok <;> simp
  have hone (log : List PageTransfer) (hlog : log.length = e.log.length + 1) :
      (e.answers e.log.length).ok = true ↔
        ∀ n, e.log.length ≤ n → n < log.length → (e.answers n).ok = true := by
    constructor
    · intro hok n hlow hhigh
      have hn : n = e.log.length := by omega
      rw [hn]
      exact hok
    · exact fun hall => hall _ (Nat.le_refl _) (by omega)
  have hrange : [(⟨data.isSome, address, count⟩ : PageTransfer)].flatMap PageTransfer.addresses =
      List.range' (addr + offset) count.toNat := by
    rw [List.flatMap_singleton, PageTransfer.addresses, haddress]
  cases data with
  | none =>
      refine ⟨rfl, ⟨[⟨false, address, count⟩], count.toNat, rfl, ?_, hrange, Nat.le_refl _,
        fun _ => rfl⟩, (hanswer _).trans (hone _ (by simp [Eeprom.page])), fun _ => .inl rfl,
        fun _ => ⟨rfl, ?_⟩, nofun⟩
      · intro t ht
        rw [List.mem_singleton.mp ht]
        rfl
      · intro bytes hbytes
        unfold Eeprom.page at hbytes
        dsimp only [Option.map_none] at hbytes
        split at hbytes
        · cases hbytes
          rw [haddress, Nat.add_sub_cancel_left]
        · contradiction
  | some all =>
      have hbyte (j : Nat) (byte : Byte) :
          ((all.drop offset).take count.toNat)[j]? = some byte ↔
            j < count.toNat ∧ all[offset + j]? = some byte := by
        by_cases hj : j < count.toNat
        · rw [List.getElem?_take_of_lt hj, List.getElem?_drop]
          exact ⟨fun h => ⟨hj, h⟩, fun h => h.2⟩
        · rw [List.getElem?_eq_none (by rw [List.length_take]; omega)]
          exact ⟨nofun, fun h => absurd h.1 hj⟩
      refine ⟨rfl, ⟨[⟨true, address, count⟩], count.toNat, rfl, ?_, hrange, Nat.le_refl _,
        fun _ => rfl⟩, (hanswer _).trans (hone _ (by simp [Eeprom.page])), ?_, nofun, ?_⟩
      · intro t ht
        rw [List.mem_singleton.mp ht]
        rfl
      · intro a
        unfold Eeprom.page
        dsimp only [Option.map_some]
        rcases patch_apply_cases
          (if (e.answers e.log.length).ok = true then fun _ => true
            else (e.answers e.log.length).applied) e.medium address.toNat
          ((all.drop offset).take count.toNat) a with hsame | ⟨hput, hlow⟩
        · exact .inl hsame
        · obtain ⟨hj, hall⟩ := (hbyte _ _).mp hput
          have hindex : offset + (a - address.toNat) = a - addr := by omega
          rw [hindex] at hall
          exact .inr ⟨by omega, by omega, all, rfl, hall⟩
      · intro d hd hsome i byte hlow hhigh hi
        cases hd
        have hok : (e.answers e.log.length).ok = true := (hanswer []).mp hsome
        have hj : ((all.drop offset).take count.toNat)[i - offset]? = some byte := by
          refine (hbyte _ _).mpr ⟨by omega, ?_⟩
          rwa [Nat.add_sub_cancel' hlow]
        obtain ⟨hlength, -⟩ := List.getElem?_eq_some_iff.mp hj
        unfold Eeprom.page
        dsimp only [Option.map_some]
        rw [if_pos hok]
        have hput := @patch_apply_of_inside (fun _ => true) e.medium address.toNat (i - offset) _
          hlength rfl
        have hat : address.toNat + (i - offset) = addr + i := by omega
        rw [hat, hj] at hput
        exact (Option.some.inj hput).symm

namespace At24c

theorem transferLoop_ran {config : At24cConfig w} {addr len : BitVec w}
    (hfits : addr.toNat + len.toNat ≤ config.size.toNat) (data : Option (List Byte))
    (offset : BitVec w) (e : Eeprom) (hoffset : offset.toNat ≤ len.toNat) :
    Ran data addr.toNat offset.toNat len.toNat e (transferLoop addr len data offset e) := by
  have haddress (offset : BitVec w) (hlt : offset < len) :
      ((addr + offset).setWidth 32).toNat = addr.toNat + offset.toNat := by
    have hoffset : offset.toNat < len.toNat := hlt
    have hsize := config.size.isLt
    have hlimit := config.addressable
    rw [BitVec.toNat_setWidth, BitVec.toNat_add_of_lt (by omega)]
    exact Nat.mod_eq_of_lt (by omega)
  induction offset, e using transferLoop.induct addr len data with
  | case1 offset e hlt chunk bytes e' hpage =>
      have hran := @page_ran e data addr.toNat offset.toNat _ chunk (haddress offset hlt)
      rw [hpage] at hran
      rw [transferLoop, dif_pos hlt]
      dsimp only
      rw [hpage]
      exact hran.stop (add_transferChunk hlt).2.2
  | case2 offset e hlt chunk bytes e' done hpage e₂ rest hloop ih =>
      obtain ⟨-, hnext, hend⟩ := add_transferChunk hlt
      have hran := @page_ran e data addr.toNat offset.toNat _ chunk (haddress offset hlt)
      have hrest := ih (by rw [hnext]; exact hend)
      rw [hpage] at hran
      rw [hnext] at hrest
      rw [transferLoop, dif_pos hlt]
      dsimp only
      rw [hpage]
      exact hran.trans hrest (Nat.le_add_right _ _) hend
  | case3 offset e hdone =>
      have hend : offset.toNat = len.toNat := Nat.le_antisymm hoffset (Nat.not_lt.mp hdone)
      rw [transferLoop, dif_neg hdone, hend]
      exact ran_nothing data addr.toNat len.toNat e

end At24c

end CanopenRtt.Storage
