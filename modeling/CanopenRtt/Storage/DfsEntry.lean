import CanopenRtt.Storage.Host
import Mathlib.Data.List.Basic
/-!
# Storage entries in DFS files

`port/rtthread/storage/CO_storage_RTT_dfs.c`. Every entry has a file of its own:
a header with the CRC of the payload, then the payload. An answer says how the
file system treats the calls of one operation.
-/

namespace CanopenRtt.Storage

open Support

def uint32Max : Nat := 0xFFFFFFFF

def dfsMagic : Nat := 0x43524446
def dfsVersion : Nat := 1

/-- `CO_storage_rtt_dfs_header_t`. -/
structure DfsHeader where
  magic : Nat
  version : Nat
  subIndexOD : Nat
  len : Nat
  crc : Nat
  reserved : Nat
  deriving DecidableEq

def dfsHeaderSize : Nat := 16

/-- The header as it is written to the file. -/
def DfsHeader.bytes (host : Host) (header : DfsHeader) : List Byte :=
  hostBytes host.bigEndian 4 header.magic ++ (hostBytes host.bigEndian 2 header.version ++
    (hostBytes host.bigEndian 2 header.subIndexOD ++ (hostBytes host.bigEndian 4 header.len ++
      (hostBytes host.bigEndian 2 header.crc ++ hostBytes host.bigEndian 2 header.reserved))))

/-- The header buffer after a read has filled it. -/
def DfsHeader.ofBytes (host : Host) (buffer : List Byte) : DfsHeader where
  magic := hostValue host.bigEndian (buffer.take 4)
  version := hostValue host.bigEndian ((buffer.drop 4).take 2)
  subIndexOD := hostValue host.bigEndian ((buffer.drop 6).take 2)
  len := hostValue host.bigEndian ((buffer.drop 8).take 4)
  crc := hostValue host.bigEndian ((buffer.drop 12).take 2)
  reserved := hostValue host.bigEndian ((buffer.drop 14).take 2)

/-- `CO_storage_rtt_dfs_entry_t`, less the path. -/
structure DfsConfig where
  autoCrc : BitVec 16
  autoCrcValid : Bool
  dataCorrupt : Bool
  deriving DecidableEq

/-- `CO_storage_entry_t` with its payload in RAM, its DFS metadata once they are
bound, and its file. `pathFits` is the result of `co_storage_rtt_dfs_make_path`. -/
structure DfsEntry where
  subIndexOD : Byte
  auto : Bool
  pathFits : Bool
  ram : List Byte
  config : Option DfsConfig
  file : Option (List Byte)
  deriving DecidableEq

/-- The answers to the calls of one store, and the file that a failed store leaves. -/
structure DfsStoreAnswer where
  opens : Bool
  writesHeader : Bool
  writesPayload : Bool
  flushes : Bool
  closes : Bool
  left : Option (List Byte)
  deriving DecidableEq

structure DfsRestoreAnswer where
  opens : Bool
  closes : Bool
  unlinks : Bool
  deriving DecidableEq

/-- The answers to the calls of one read; `allocates` is that of `rt_malloc`. -/
structure DfsReadAnswer where
  opens : Bool
  readsHeader : Bool
  allocates : Bool
  readsPayload : Bool
  readsEnd : Bool
  closes : Bool
  deriving DecidableEq

/-- A file system that works. -/
def DfsReadAnswer.clean : DfsReadAnswer where
  opens := true
  readsHeader := true
  allocates := true
  readsPayload := true
  readsEnd := true
  closes := true

namespace DfsEntry

/-- `crc16_ccitt` over the payload in RAM. -/
def payloadCrc (host : Host) (entry : DfsEntry) : BitVec 16 := host.crc16 entry.ram 0

/-- `co_storage_rtt_dfs_header_init`. -/
def header (host : Host) (entry : DfsEntry) : DfsHeader where
  magic := dfsMagic
  version := dfsVersion
  subIndexOD := entry.subIndexOD.toNat
  len := entry.ram.length
  crc := (entry.payloadCrc host).toNat
  reserved := 0

/-- `co_storage_rtt_dfs_mark_missing`. -/
def markMissing (entry : DfsEntry) : DfsEntry :=
  { entry with config := entry.config.map fun _ =>
      { autoCrc := 0, autoCrcValid := false, dataCorrupt := false } }

/-- `co_storage_rtt_dfs_mark_loaded`. -/
def markLoaded (entry : DfsEntry) (crc : BitVec 16) : DfsEntry :=
  { entry with config := entry.config.map fun _ =>
      { autoCrc := crc, autoCrcValid := true, dataCorrupt := false } }

/-- `co_storage_rtt_dfs_mark_corrupt`. -/
def markCorrupt (host : Host) (entry : DfsEntry) : DfsEntry :=
  { entry with config := entry.config.map fun _ =>
      { autoCrc := entry.payloadCrc host, autoCrcValid := true, dataCorrupt := true } }

/-- `co_storage_rtt_dfs_header_matches`. -/
def headerMatches (entry : DfsEntry) (header : DfsHeader) : Bool :=
  header.magic = dfsMagic && header.version = dfsVersion &&
    header.subIndexOD = entry.subIndexOD.toNat && header.len = entry.ram.length

/-- What a store writes if nothing fails. -/
def fileImage (host : Host) (entry : DfsEntry) : List Byte :=
  (entry.header host).bytes host ++ entry.ram

/-- The checks of a store before it touches the file. -/
def storable (entry : DfsEntry) : Bool :=
  entry.ram ≠ [] && entry.pathFits && entry.ram.length ≤ uint32Max

/-- `co_storage_rtt_dfs_store`; the result is true for `ODR_OK`. -/
def store (host : Host) (entry : DfsEntry) (answer : DfsStoreAnswer) : DfsEntry × Bool :=
  if !entry.storable then (entry, false)
  else if answer.opens && answer.writesHeader && answer.writesPayload && answer.flushes &&
      answer.closes then
    (markLoaded { entry with file := some (entry.fileImage host) } (entry.payloadCrc host), true)
  else ({ entry with file := answer.left }, false)

/-- `co_storage_rtt_dfs_restore`. -/
def restore (entry : DfsEntry) (answer : DfsRestoreAnswer) : DfsEntry × Bool :=
  if !entry.pathFits || !answer.opens then (entry, false)
  else
    match entry.file with
    | none => (entry.markMissing, true)
    | some _ =>
        if !answer.closes || !answer.unlinks then (entry, false)
        else (markMissing { entry with file := none }, true)

/-- What a read finds: no file, an error that leaves no mark, a file to reject, or
a payload. -/
inductive Load where
  | missing
  | unread
  | corrupt
  | loaded (payload : List Byte)
  deriving DecidableEq

def Load.isLoaded : Load → Bool
  | .loaded _ => true
  | _ => false

/-- The checks of `co_storage_rtt_dfs_read`, in their order. -/
def load (host : Host) (entry : DfsEntry) (answer : DfsReadAnswer) : Load :=
  if entry.ram = [] || !entry.pathFits || !answer.opens then .unread
  else
    match entry.file with
    | none => .missing
    | some content =>
        let header := DfsHeader.ofBytes host (content.take dfsHeaderSize)
        let payload := (content.drop dfsHeaderSize).take entry.ram.length
        if !answer.readsHeader || content.length < dfsHeaderSize then .corrupt
        else if !entry.headerMatches header then .corrupt
        else if !answer.allocates then .unread
        else if !answer.readsPayload || payload.length ≠ entry.ram.length then .corrupt
        else if header.crc ≠ (host.crc16 payload 0).toNat then .corrupt
        else if !answer.readsEnd || dfsHeaderSize + entry.ram.length < content.length then .corrupt
        else .loaded payload

/-- `co_storage_rtt_dfs_read`. -/
def read (host : Host) (entry : DfsEntry) (answer : DfsReadAnswer) : DfsEntry × Bool :=
  match entry.load host answer with
  | .missing => (entry.markMissing, true)
  | .unread => (entry, false)
  | .corrupt => (entry.markCorrupt host, false)
  | .loaded payload =>
      (markLoaded { entry with ram := payload } (host.crc16 payload 0), answer.closes)

/-- `co_storage_rtt_dfs_entries_bind` for one entry. -/
def bind (entry : DfsEntry) : DfsEntry :=
  { entry with config := some { autoCrc := 0, autoCrcValid := false, dataCorrupt := false } }

/-- `co_storage_rtt_dfs_is_corrupt`. -/
def isCorrupt (entry : DfsEntry) : Bool :=
  match entry.config with
  | none => false
  | some config => config.dataCorrupt

/-- One iteration of `co_storage_rtt_dfs_auto_process`: the entry afterwards, and
false if the iteration clears `ok`. -/
def autoStore (host : Host) (saveAll : Bool) (entry : DfsEntry) (answer : DfsStoreAnswer) :
    DfsEntry × Bool :=
  if !entry.auto then (entry, true)
  else
    match entry.config with
    | none => (entry, false)
    | some config =>
        if saveAll || !config.autoCrcValid || config.autoCrc ≠ entry.payloadCrc host then
          entry.store host answer
        else (entry, true)

/-- A startup read accepts the file and yields the payload in RAM. -/
def HoldsPayload (host : Host) (entry : DfsEntry) : Prop :=
  entry.load host .clean = .loaded entry.ram

instance (host : Host) (entry : DfsEntry) : Decidable (entry.HoldsPayload host) :=
  inferInstanceAs (Decidable (_ = _))

/-! ## The image of a payload -/

theorem length_headerBytes (host : Host) (header : DfsHeader) :
    (header.bytes host).length = dfsHeaderSize := by
  unfold DfsHeader.bytes dfsHeaderSize
  simp only [List.length_append, length_hostBytes]

theorem ofBytes_headerBytes (host : Host) {header : DfsHeader} (hmagic : header.magic < 256 ^ 4)
    (hversion : header.version < 256 ^ 2) (hsub : header.subIndexOD < 256 ^ 2)
    (hlen : header.len < 256 ^ 4) (hcrc : header.crc < 256 ^ 2)
    (hreserved : header.reserved < 256 ^ 2) :
    DfsHeader.ofBytes host (header.bytes host) = header := by
  have hmagicBytes := hostValue_hostBytes host.bigEndian hmagic
  have hversionBytes := hostValue_hostBytes host.bigEndian hversion
  have hsubBytes := hostValue_hostBytes host.bigEndian hsub
  have hlenBytes := hostValue_hostBytes host.bigEndian hlen
  have hcrcBytes := hostValue_hostBytes host.bigEndian hcrc
  have hreservedBytes := hostValue_hostBytes host.bigEndian hreserved
  unfold DfsHeader.ofBytes DfsHeader.bytes
  obtain ⟨m₀, m₁, m₂, m₃, hm⟩ :=
    List.length_eq_four.mp (length_hostBytes host.bigEndian 4 header.magic)
  obtain ⟨v₀, v₁, hv⟩ :=
    List.length_eq_two.mp (length_hostBytes host.bigEndian 2 header.version)
  obtain ⟨s₀, s₁, hs⟩ :=
    List.length_eq_two.mp (length_hostBytes host.bigEndian 2 header.subIndexOD)
  obtain ⟨l₀, l₁, l₂, l₃, hl⟩ :=
    List.length_eq_four.mp (length_hostBytes host.bigEndian 4 header.len)
  obtain ⟨c₀, c₁, hc⟩ :=
    List.length_eq_two.mp (length_hostBytes host.bigEndian 2 header.crc)
  obtain ⟨r₀, r₁, hr⟩ :=
    List.length_eq_two.mp (length_hostBytes host.bigEndian 2 header.reserved)
  rw [hm] at hmagicBytes ⊢
  rw [hv] at hversionBytes ⊢
  rw [hs] at hsubBytes ⊢
  rw [hl] at hlenBytes ⊢
  rw [hc] at hcrcBytes ⊢
  rw [hr] at hreservedBytes ⊢
  obtain ⟨magic, version, subIndexOD, len, crc, reserved⟩ := header
  rw [DfsHeader.mk.injEq]
  exact ⟨hmagicBytes, hversionBytes, hsubBytes, hlenBytes, hcrcBytes, hreservedBytes⟩

theorem ofBytes_header (host : Host) {entry : DfsEntry} (h : entry.ram.length ≤ uint32Max) :
    DfsHeader.ofBytes host ((entry.header host).bytes host) = entry.header host := by
  have hsub : entry.subIndexOD.toNat < 256 ^ 2 := entry.subIndexOD.isLt.trans (by decide)
  have hlen : entry.ram.length < 256 ^ 4 := by
    unfold uint32Max at h
    omega
  exact ofBytes_headerBytes host (show dfsMagic < 256 ^ 4 by decide)
    (show dfsVersion < 256 ^ 2 by decide) hsub hlen (entry.payloadCrc host).isLt
    (show 0 < 256 ^ 2 by decide)

theorem holdsPayload_of_fileImage (host : Host) {entry : DfsEntry}
    (hstorable : entry.storable = true)
    (hfile : entry.file = some (entry.fileImage host)) : entry.HoldsPayload host := by
  unfold storable at hstorable
  simp only [Bool.and_eq_true, decide_eq_true_eq] at hstorable
  obtain ⟨⟨hram, hpath⟩, hlen⟩ := hstorable
  have hheader := length_headerBytes host (entry.header host)
  have htake : (entry.fileImage host).take dfsHeaderSize = (entry.header host).bytes host :=
    List.take_left' hheader
  have hdrop : (entry.fileImage host).drop dfsHeaderSize = entry.ram :=
    List.drop_left' hheader
  have hlength : (entry.fileImage host).length = dfsHeaderSize + entry.ram.length := by
    rw [fileImage, List.length_append, hheader]
  have hmatches : entry.headerMatches (entry.header host) = true := by
    simp [headerMatches, header]
  unfold HoldsPayload load
  rw [hfile]
  simp only [htake, hdrop, hlength, ofBytes_header host hlen, hmatches, List.take_length]
  simp [hram, hpath, DfsReadAnswer.clean, header, payloadCrc]

/-- A payload found with faults is found without them, and has the length of the
entry. -/
theorem load_clean_of_loaded {host : Host} {entry : DfsEntry} {answer : DfsReadAnswer}
    {payload : List Byte} (h : entry.load host answer = .loaded payload) :
    entry.load host .clean = .loaded payload ∧ payload.length = entry.ram.length := by
  unfold load at h ⊢
  split at h
  · contradiction
  next hopen =>
  split at h
  · contradiction
  next content hfile =>
  dsimp only at h ⊢
  split at h
  · contradiction
  next hheader =>
  split at h
  · contradiction
  next hmatches =>
  split at h
  · contradiction
  next halloc =>
  split at h
  · contradiction
  next hpayload =>
  split at h
  · contradiction
  next hcrc =>
  split at h
  · contradiction
  next hend =>
  injection h with h
  subst h
  simp only [Bool.or_eq_true, not_or, decide_eq_true_eq] at hopen hheader hpayload hend
  refine ⟨?_, of_not_not hpayload.2⟩
  rw [if_neg (by simpa [DfsReadAnswer.clean] using hopen.1)]
  rw [if_neg (by simpa [DfsReadAnswer.clean] using hheader.2), if_neg hmatches,
    if_neg (by simp [DfsReadAnswer.clean]),
    if_neg (by simpa [DfsReadAnswer.clean] using hpayload.2),
    if_neg hcrc, if_neg (by simpa [DfsReadAnswer.clean] using hend.2)]

/-- What a read finds depends on the file, the identity and the length of the entry. -/
theorem load_congr {host : Host} {entry other : DfsEntry} {answer : DfsReadAnswer}
    (hsub : other.subIndexOD = entry.subIndexOD) (hpath : other.pathFits = entry.pathFits)
    (hlen : other.ram.length = entry.ram.length) (hfile : other.file = entry.file) :
    other.load host answer = entry.load host answer := by
  have hempty : (other.ram = []) = (entry.ram = []) := by
    rw [← List.length_eq_zero_iff, ← List.length_eq_zero_iff, hlen]
  unfold load headerMatches
  simp only [hsub, hpath, hlen, hfile, hempty]

end DfsEntry

end CanopenRtt.Storage
