import CanopenRtt.Storage.At24c
/-!
# The layout of the AT24CXX provider

An instance that was opened has a storage region and an auxiliary page inside the device and
apart from each other; every access stays in its own, whatever address and length it is given.
-/

namespace CanopenRtt.Storage

open Support

variable {w : Nat}

/-- `crc16_ccitt` goes on from the CRC of what came before. -/
structure Host.Streams (host : Host) : Prop where
  nil : ∀ seed, host.crc16 [] seed = seed
  append : ∀ a b seed, host.crc16 (a ++ b) seed = host.crc16 b (host.crc16 a seed)

theorem Host.ccitt_streams : Host.ccitt.Streams where
  nil _ := rfl
  append _ _ _ := List.foldl_append

namespace At24c

/-- The storage region and the auxiliary page of an instance. -/
structure Laid (config : At24cConfig w) (i : At24c w) : Prop where
  size : i.size = config.size
  storage : i.storageOffset.toNat + i.storageRegionSize.toNat ≤ i.size.toNat
  aux : config.lssPersist = true → i.auxRegionSize = config.pageByte ∧
    i.auxOffset.toNat = i.storageOffset.toNat + i.storageRegionSize.toNat ∧
    i.auxOffset.toNat + i.auxRegionSize.toNat ≤ i.size.toNat
  plain : config.lssPersist = false → i.auxRegionSize = 0

/-- The device is open. -/
structure Opened (config : At24cConfig w) (i : At24c w) : Prop where
  laid : Laid config i
  device : i.device = true
  initialized : i.initialized = true

variable {config : At24cConfig w} {i : At24c w} {addr len offset : BitVec w} {host : Host}

theorem configInit_fields (config : At24cConfig w) (i : At24c w) :
    (configInit config i).size = config.size ∧
      (configInit config i).nextAddress = (configInit config i).storageOffset ∧
      (config.lssPersist = false → (configInit config i).auxRegionSize = 0) := by
  unfold configInit
  dsimp only
  generalize (if config.regionSize = 0 ∧ config.offset < config.size then
    config.size - config.offset else config.regionSize) = region
  by_cases hpersist : config.lssPersist = true ∧ config.pageByte < region
  · rw [if_pos hpersist]
    refine ⟨rfl, rfl, fun hplain => ?_⟩
    rw [hplain] at hpersist
    exact absurd hpersist.1 Bool.false_ne_true
  · rw [if_neg hpersist]
    exact ⟨rfl, rfl, fun _ => rfl⟩

theorem regionsValid_bounds (h : i.regionsValid config = true) :
    i.storageOffset.toNat + i.storageRegionSize.toNat ≤ i.size.toNat ∧
      (config.lssPersist = true → i.auxRegionSize = config.pageByte ∧
        i.auxOffset.toNat = i.storageOffset.toNat + i.storageRegionSize.toNat ∧
        i.auxOffset.toNat + i.auxRegionSize.toNat ≤ i.size.toNat) := by
  unfold regionsValid at h
  simp only [Bool.and_eq_true, Bool.or_eq_true, Bool.not_eq_true', decide_eq_true_eq, ne_eq] at h
  obtain ⟨⟨⟨⟨-, hoffset⟩, -⟩, hregion⟩, haux⟩ := h
  have hend := add_le_of_le_sub hoffset hregion
  refine ⟨hend, fun hpersist => ?_⟩
  rw [hpersist] at haux
  obtain ⟨⟨hpage, hstart⟩, hfits⟩ := haux.resolve_left (by decide)
  have hoffsetAux : i.auxOffset.toNat = i.storageOffset.toNat + i.storageRegionSize.toNat := by
    rw [hstart, toNat_add_of_le hend]
  refine ⟨hpage, hoffsetAux, ?_⟩
  have hle : i.auxOffset.toNat ≤ i.size.toNat := by omega
  have hfitsNat : i.auxRegionSize.toNat ≤ (i.size - i.auxOffset).toNat := hfits
  rw [BitVec.toNat_sub_of_le hle] at hfitsNat
  omega

/-- An initialisation that succeeds leaves an open instance whose allocator is empty. -/
theorem opened_of_deviceInit {start : At24c w} {opens : Bool}
    (h : deviceInit config (configInit config start) opens = (i, true)) :
    Opened config i ∧ i.nextAddress = i.storageOffset := by
  obtain ⟨hsize, hnext, hplain⟩ := configInit_fields config start
  unfold deviceInit at h
  split_ifs at h with hinvalid hclosed
  · cases h
  · cases h
  · have hvalid : (configInit config start).regionsValid config = true := by
      simpa using hinvalid
    obtain ⟨hstorage, haux⟩ := regionsValid_bounds hvalid
    cases h
    exact ⟨⟨⟨hsize, hstorage, haux, hplain⟩, rfl, rfl⟩, hnext⟩

/-! ## Accesses -/

/-- The access was rejected without a page call; or it lies in the region and touches its
bytes in order, all of them when it succeeds. -/
inductive Confined (start stop addr len : Nat) (write : Bool) (e e' : Eeprom) (ok : Bool) :
    Prop where
  | rejected (hsame : e' = e) (hfailed : ok = false)
  | inside (hstart : start ≤ addr) (hstop : addr + len ≤ stop) (transfers : List PageTransfer)
      (k : Nat) (hlog : e'.log = e.log ++ transfers) (hwrite : ∀ t ∈ transfers, t.write = write)
      (hrange : transfers.flatMap PageTransfer.addresses = List.range' addr k) (hk : k ≤ len)
      (hall : ok = true → k = len)

/-- The storage region, as an interval of addresses. -/
def storageStart (i : At24c w) : Nat := i.storageOffset.toNat

def storageEnd (i : At24c w) : Nat := i.storageOffset.toNat + i.storageRegionSize.toNat

def auxStart (i : At24c w) : Nat := i.auxOffset.toNat

def auxEnd (i : At24c w) : Nat := i.auxOffset.toNat + i.auxRegionSize.toNat

/-- An accepted range of the storage region runs through the transfer loop. -/
theorem transferLoop_storage (h : Opened config i) (hrange : i.rangeValid addr len = true)
    (data : Option (List Byte)) (e : Eeprom) :
    Ran data addr.toNat 0 len.toNat e (transferLoop addr len data 0 e) := by
  obtain ⟨-, hend, hsize, -⟩ := rangeValid_bounds hrange
  have hfits : addr.toNat + len.toNat ≤ config.size.toNat := by
    rw [← h.laid.size]
    omega
  have hran := transferLoop_ran hfits data 0 e (Nat.zero_le _)
  rwa [toNat_zero] at hran

theorem le_sub_of_add_le {start len bound : BitVec w} (h : start.toNat + len.toNat ≤ bound.toNat) :
    len ≤ bound - start := by
  have hle : start ≤ bound := Nat.le_trans (Nat.le_add_right _ _) h
  rw [BitVec.le_def, BitVec.toNat_sub_of_le hle]
  omega

theorem rangeValid_part {part : BitVec w} (h : i.rangeValid addr len = true)
    (hpart : offset.toNat + part.toNat ≤ len.toNat) (hpositive : 0 < part.toNat) :
    i.rangeValid (addr + offset) part = true ∧
      (addr + offset).toNat = addr.toNat + offset.toNat := by
  obtain ⟨hstart, hend, hsize, -⟩ := rangeValid_bounds h
  have hsum : (addr + offset).toNat = addr.toNat + offset.toNat :=
    toNat_add_of_le (show addr.toNat + offset.toNat ≤ i.size.toNat by omega)
  refine ⟨?_, hsum⟩
  have hregionEnd : (i.storageOffset + i.storageRegionSize).toNat =
      i.storageOffset.toNat + i.storageRegionSize.toNat := toNat_add_of_le hsize
  have hne : part ≠ 0 := by
    rintro rfl
    rw [toNat_zero] at hpositive
    exact Nat.lt_irrefl 0 hpositive
  unfold rangeValid deviceRangeValid at h ⊢
  simp only [Bool.and_eq_true, decide_eq_true_eq] at h ⊢
  obtain ⟨⟨⟨⟨⟨⟨⟨⟨⟨⟨⟨hinitialized, hdevice⟩, hsizeNe⟩, -⟩, -⟩, -⟩, hoffset⟩, hregionNe⟩, hregion⟩,
    -⟩, -⟩, -⟩ := h
  have hbelow : addr + offset < i.size := by
    rw [BitVec.lt_def, hsum]
    omega
  have hfits : part ≤ i.size - (addr + offset) := le_sub_of_add_le (by rw [hsum]; omega)
  have habove : i.storageOffset ≤ addr + offset := by
    rw [BitVec.le_def, hsum]
    omega
  have hinside : addr + offset < i.storageOffset + i.storageRegionSize := by
    rw [BitVec.lt_def, hsum, hregionEnd]
    omega
  have hregionFits : part ≤ i.storageOffset + i.storageRegionSize - (addr + offset) :=
    le_sub_of_add_le (by rw [hsum, hregionEnd]; omega)
  exact ⟨⟨⟨⟨⟨⟨⟨⟨⟨⟨⟨hinitialized, hdevice⟩, hsizeNe⟩, hne⟩, hbelow⟩, hfits⟩, hoffset⟩, hregionNe⟩,
    hregion⟩, habove⟩, hinside⟩, hregionFits⟩

theorem ran_shift {start skip n : Nat} {e : Eeprom} {out : Eeprom × Option (List Byte)}
    (h : Ran none (start + skip) 0 n e out) : Ran none start skip (skip + n) e out where
  answers := h.answers
  log := by
    obtain ⟨transfers, k, hlog, hwrite, hrange, hk, hall⟩ := h.log
    refine ⟨transfers, k, hlog, hwrite, hrange, by omega, fun hok => ?_⟩
    have hend := hall hok
    omega
  ok := h.ok
  kept a := by
    rcases h.kept a with hsame | ⟨-, -, d, hd, -⟩
    · exact .inl hsame
    · contradiction
  read hnone := by
    obtain ⟨hmedium, hbytes⟩ := h.read hnone
    refine ⟨hmedium, fun bytes hsome => ?_⟩
    rw [hbytes bytes hsome, Nat.add_zero, Nat.sub_zero, Nat.add_sub_cancel_left]
  written d hd := by contradiction

theorem crcLoop_ran (h : Opened config i) (hstreams : host.Streams)
    (hrange : i.rangeValid addr len = true) (offset : BitVec w) (crc : BitVec 16) (e : Eeprom)
    (hoffset : offset.toNat ≤ len.toNat) :
    ∃ result : Option (List Byte),
      Ran none addr.toNat offset.toNat len.toNat e
          ((crcLoop host config i addr len offset crc e).1, result) ∧
        (crcLoop host config i addr len offset crc e).2 =
          match result with
          | some bytes => host.crc16 bytes crc
          | none => 0 := by
  have hchunk (offset : BitVec w) (e : Eeprom) (hlt : offset < len) :
      Ran none addr.toNat offset.toNat
        (offset.toNat + (crcChunk config.crcBufSize len offset).toNat) e
        (i.readBlock (addr + offset) (crcChunk config.crcBufSize len offset) e) := by
    obtain ⟨hpositive, -, hend⟩ := @add_crcChunk w config len offset hlt
    obtain ⟨hvalid, hsum⟩ := rangeValid_part hrange hend hpositive
    have hran := transferLoop_storage h hvalid none e
    rw [hsum] at hran
    unfold readBlock
    rw [if_pos hvalid]
    exact ran_shift hran
  induction offset, crc, e using crcLoop.induct host config i addr len with
  | case1 offset crc e hlt chunk e' hread =>
      have hran := hchunk offset e hlt
      rw [hread] at hran
      refine ⟨none, ?_, ?_⟩
      · rw [crcLoop, dif_pos hlt]
        dsimp only
        rw [hread]
        exact hran.stop (@add_crcChunk w config len offset hlt).2.2
      · rw [crcLoop, dif_pos hlt]
        dsimp only
        rw [hread]
  | case2 offset crc e hlt chunk e' bytes hread ih =>
      obtain ⟨-, hnext, hend⟩ := @add_crcChunk w config len offset hlt
      have hran := hchunk offset e hlt
      rw [hread] at hran
      obtain ⟨rest, hrest, hcrc⟩ := ih (by rw [hnext]; exact hend)
      rw [hnext] at hrest
      refine ⟨rest.map (bytes ++ ·), ?_, ?_⟩
      · rw [crcLoop, dif_pos hlt]
        dsimp only
        rw [hread]
        exact hran.trans hrest (Nat.le_add_right _ _) hend
      · rw [crcLoop, dif_pos hlt]
        dsimp only
        rw [hread]
        dsimp only
        rw [hcrc]
        cases rest with
        | none => rfl
        | some rest => exact (hstreams.append bytes rest crc).symm
  | case3 offset crc e hdone =>
      have hend : offset.toNat = len.toNat := Nat.le_antisymm hoffset (Nat.not_lt.mp hdone)
      refine ⟨some [], ?_, ?_⟩
      · rw [crcLoop, dif_neg hdone, hend]
        exact ran_nothing none addr.toNat len.toNat e
      · rw [crcLoop, dif_neg hdone]
        exact (hstreams.nil crc).symm

/-- `CO_eeprom_getCrcBlock` on a valid range. -/
theorem getCrcBlock_ran (h : Opened config i) (hstreams : host.Streams)
    (hrange : i.rangeValid addr len = true) (e : Eeprom) :
    ∃ result : Option (List Byte),
      Ran none addr.toNat 0 len.toNat e ((getCrcBlock host config i addr len e).1, result) ∧
        (getCrcBlock host config i addr len e).2 =
          match result with
          | some bytes => host.crc16 bytes 0
          | none => 0 := by
  obtain ⟨result, hran, hcrc⟩ := crcLoop_ran h hstreams hrange 0 0 e (by rw [toNat_zero]; omega)
  rw [toNat_zero] at hran
  unfold getCrcBlock
  rw [if_pos hrange]
  exact ⟨result, hran, hcrc⟩

/-- The allocator after a sequence of requests, and the ranges it has granted. -/
def allocate (i : At24c w) : List (BitVec w) → At24c w × List (Nat × Nat)
  | [] => (i, [])
  | len :: lens =>
      let (next, addr, overflow) := i.getAddr len
      let (last, ranges) := next.allocate lens
      (last, if overflow then ranges else (addr.toNat, len.toNat) :: ranges)

/-- What a sequence of requests leaves: granted ranges that follow each other. -/
structure Granted (i : At24c w) (out : At24c w × List (Nat × Nat)) : Prop where
  same : { out.1 with nextAddress := i.nextAddress } = i
  after : i.nextAddress.toNat ≤ out.1.nextAddress.toNat
  inside : out.1.nextAddress.toNat ≤ i.storageEnd
  ranges : ∀ r ∈ out.2, i.nextAddress.toNat ≤ r.1 ∧ r.1 + r.2 ≤ out.1.nextAddress.toNat
  apart : out.2.Pairwise fun r r' => r.1 + r.2 ≤ r'.1

/-- The allocator keeps the instance as it is. -/
theorem Granted.opened {out : At24c w × List (Nat × Nat)} (h : Granted i out)
    (hopened : Opened config i) :
    Opened config out.1 ∧ out.1.storageStart = i.storageStart ∧
      out.1.storageEnd = i.storageEnd := by
  have hlaid := hopened.laid
  have hdevice := hopened.device
  have hinitialized := hopened.initialized
  have hstart := congrArg storageStart h.same
  have hend := congrArg storageEnd h.same
  rw [← h.same] at hlaid hdevice hinitialized
  exact ⟨⟨⟨hlaid.size, hlaid.storage, hlaid.aux, hlaid.plain⟩, hdevice, hinitialized⟩, hstart, hend⟩

/-- The layout of an open instance, and what its accesses and its allocator do. -/
structure Law (host : Host) (config : At24cConfig w) (i : At24c w) : Prop where
  storage : i.storageEnd ≤ config.size.toNat
  aux : config.lssPersist = true → i.storageEnd ≤ i.auxStart ∧
    i.auxEnd = i.auxStart + config.pageByte.toNat ∧ i.auxEnd ≤ config.size.toNat
  apart : ∀ lens, (i.allocate lens).2.Pairwise fun r r' => r.1 + r.2 ≤ r'.1
  inside : ∀ lens, ∀ r ∈ (i.allocate lens).2, i.storageStart ≤ r.1 ∧ r.1 + r.2 ≤ i.storageEnd
  overflow : ∀ lens len, (((i.allocate lens).1.getAddr len).2.2 = true ↔
    len = 0 ∨ i.storageEnd < (i.allocate lens).1.nextAddress.toNat + len.toNat)
  unchanged : ∀ lens len, ((i.allocate lens).1.getAddr len).2.2 = true →
    ((i.allocate lens).1.getAddr len).1 = (i.allocate lens).1
  readBlock : ∀ addr len e, Confined i.storageStart i.storageEnd addr.toNat len.toNat false e
    (i.readBlock addr len e).1 (i.readBlock addr len e).2.isSome
  writeBlock : ∀ data addr len e, Confined i.storageStart i.storageEnd addr.toNat len.toNat true e
    (i.writeBlock data addr len e).1 (i.writeBlock data addr len e).2
  rawRead : ∀ addr len e, Confined i.storageStart i.storageEnd addr.toNat len.toNat false e
    (i.rawRead addr len e).1 (i.rawRead addr len e).2.isSome
  rawWrite : ∀ addr data len e, Confined i.storageStart i.storageEnd addr.toNat len.toNat true e
    (i.rawWrite addr data len e).1 (i.rawWrite addr data len e).2.isSome
  updateByte : ∀ byte addr e, ∃ middle readOk,
    Confined i.storageStart i.storageEnd addr.toNat (1 : BitVec w).toNat false e middle readOk ∧
      ((i.updateByte byte addr e).1 = middle ∨
        Confined i.storageStart i.storageEnd addr.toNat (1 : BitVec w).toNat true middle
          (i.updateByte byte addr e).1 (i.updateByte byte addr e).2)
  auxRead : ∀ offset len e,
    Confined i.auxStart i.auxEnd (i.auxStart + offset.toNat) len.toNat false e
    (i.auxRead offset len e).1 (i.auxRead offset len e).2.isSome
  auxWrite : ∀ offset data len e,
    Confined i.auxStart i.auxEnd (i.auxStart + offset.toNat) len.toNat true e
      (i.auxWrite offset data len e).1 (i.auxWrite offset data len e).2.isSome
  crc : ∀ addr len e, ∃ ok, Confined i.storageStart i.storageEnd addr.toNat len.toNat false e
      (getCrcBlock host config i addr len e).1 ok ∧
    (ok = true → (getCrcBlock host config i addr len e).2 =
      host.crc16 (slice e.medium addr.toNat len.toNat) 0) ∧
    (i.rangeValid addr len = true →
      (∀ n, e.log.length ≤ n → n < (getCrcBlock host config i addr len e).1.log.length →
        (e.answers n).ok = true) → ok = true)

/-- The static instance before its first use. -/
def zeroed : At24c w where
  size := 0
  storageOffset := 0
  storageRegionSize := 0
  auxOffset := 0
  auxRegionSize := 0
  nextAddress := 0
  device := false
  initialized := false

/-- An AT24C32 with its last page for the auxiliary area. -/
def at24c32 : At24cConfig 32 where
  size := 4096
  offset := 256
  regionSize := 0
  pageByte := 32
  crcBufSize := 32
  lssPersist := true
  addressable := by decide
  crcBufSize_pos := by decide

end At24c

end CanopenRtt.Storage
