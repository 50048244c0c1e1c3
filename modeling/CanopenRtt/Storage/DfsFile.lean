import CanopenRtt.Storage.DfsEntry
/-!
# What a DFS file must hold to be read

`co_storage_rtt_dfs_store` and `co_storage_rtt_dfs_read` meet at a file format: a header
for the entry, then its payload, then nothing.
-/

namespace CanopenRtt.Storage

open Support

/-- The header of `payload`, whatever its reserved field holds. -/
def DfsEntry.headerFor (host : Host) (entry : DfsEntry) (payload : List Byte) (reserved : Nat) :
    DfsHeader where
  magic := dfsMagic
  version := dfsVersion
  subIndexOD := entry.subIndexOD.toNat
  len := entry.ram.length
  crc := (host.crc16 payload 0).toNat
  reserved := reserved

/-- The file is a header for the entry, with the CRC of the payload, the payload, and nothing
more. -/
structure AcceptedFile (host : Host) (entry : DfsEntry) (content payload : List Byte) : Prop where
  length : payload.length = entry.ram.length
  fits : entry.ram.length ≤ uint32Max
  content : ∃ reserved < 256 ^ 2,
    content = (entry.headerFor host payload reserved).bytes host ++ payload

/-- Every call of a read but the close succeeds. -/
def DfsReadAnswer.reads (answer : DfsReadAnswer) : Bool :=
  answer.opens && answer.readsHeader && answer.allocates && answer.readsPayload && answer.readsEnd

/-! ## The format -/

theorem headerBytes_ofBytes (host : Host) {buffer : List Byte} (h : buffer.length = dfsHeaderSize) :
    (DfsHeader.ofBytes host buffer).bytes host = buffer := by
  unfold dfsHeaderSize at h
  have hfield (skip width : Nat) (hfits : skip + width ≤ 16) :
      hostBytes host.bigEndian width
          (hostValue host.bigEndian ((buffer.drop skip).take width)) =
        (buffer.drop skip).take width := by
    apply hostBytes_hostValue
    rw [List.length_take, List.length_drop]
    omega
  have hsplit (skip width : Nat) :
      (buffer.drop skip).take width ++ buffer.drop (skip + width) = buffer.drop skip := by
    rw [← List.drop_drop, List.take_append_drop]
  have hend : (buffer.drop 14).take 2 = buffer.drop 14 := by
    apply List.take_of_length_le
    rw [List.length_drop]
    omega
  have hmagic := hfield 0 4 (by decide)
  rw [List.drop_zero] at hmagic
  unfold DfsHeader.bytes DfsHeader.ofBytes
  dsimp only
  rw [hmagic, hfield 4 2 (by decide), hfield 6 2 (by decide), hfield 8 4 (by decide),
    hfield 12 2 (by decide), hfield 14 2 (by decide), hend, hsplit 12 2, hsplit 8 4, hsplit 6 2,
    hsplit 4 2, List.take_append_drop]

namespace DfsEntry

variable {host : Host} {entry : DfsEntry} {answer : DfsReadAnswer} {content payload : List Byte}

theorem ofBytes_headerFor (hfits : entry.ram.length ≤ uint32Max) {reserved : Nat}
    (hreserved : reserved < 256 ^ 2) :
    DfsHeader.ofBytes host ((entry.headerFor host payload reserved).bytes host) =
      entry.headerFor host payload reserved := by
  have hsub : entry.subIndexOD.toNat < 256 ^ 2 := entry.subIndexOD.isLt.trans (by decide)
  have hlen : entry.ram.length < 256 ^ 4 := by
    unfold uint32Max at hfits
    omega
  exact ofBytes_headerBytes host (show dfsMagic < 256 ^ 4 by decide)
    (show dfsVersion < 256 ^ 2 by decide) hsub hlen (host.crc16 payload 0).isLt hreserved

theorem load_of_accepted (hram : entry.ram ≠ []) (hpath : entry.pathFits = true)
    (hreads : answer.reads = true) (hfile : entry.file = some content)
    (h : AcceptedFile host entry content payload) : entry.load host answer = .loaded payload := by
  unfold DfsReadAnswer.reads at hreads
  simp only [Bool.and_eq_true] at hreads
  obtain ⟨⟨⟨⟨hopens, hheader⟩, hallocates⟩, hpayload⟩, hend⟩ := hreads
  obtain ⟨reserved, hreserved, hcontent⟩ := h.content
  have hsize := length_headerBytes host (entry.headerFor host payload reserved)
  have htake : content.take dfsHeaderSize = (entry.headerFor host payload reserved).bytes host := by
    rw [hcontent]
    exact List.take_left' hsize
  have hdrop : (content.drop dfsHeaderSize).take entry.ram.length = payload := by
    rw [hcontent, List.drop_left' hsize, ← h.length, List.take_length]
  have hlength : content.length = dfsHeaderSize + entry.ram.length := by
    rw [hcontent, List.length_append, hsize, h.length]
  have hmatches : entry.headerMatches (entry.headerFor host payload reserved) = true := by
    simp [headerMatches, headerFor]
  unfold load
  rw [hfile]
  simp only [htake, hdrop, ofBytes_headerFor h.fits hreserved, hmatches, hlength, h.length]
  simp [hram, hpath, hopens, hheader, hallocates, hpayload, hend, headerFor]

theorem accepted_of_load (hfile : entry.file = some content)
    (h : entry.load host answer = .loaded payload) :
    AcceptedFile host entry content payload ∧ answer.reads = true ∧ entry.ram ≠ [] ∧
      entry.pathFits = true := by
  unfold load at h
  rw [hfile] at h
  dsimp only at h
  by_cases hopen : (decide (entry.ram = []) || !entry.pathFits || !answer.opens) = true
  · rw [if_pos hopen] at h
    contradiction
  rw [if_neg hopen] at h
  split_ifs at h with hheader hmatches hallocates hpayload hcrc hend
  injection h with h
  simp only [Bool.or_eq_true, not_or, decide_eq_true_eq, Bool.not_eq_true', Bool.not_eq_false,
    Nat.not_lt, not_not] at hopen hheader hmatches hallocates hpayload hcrc hend
  obtain ⟨⟨hram, hpath⟩, hopens⟩ := hopen
  have hsize : (content.take dfsHeaderSize).length = dfsHeaderSize := by
    rw [List.length_take, Nat.min_eq_left hheader.2]
  unfold headerMatches at hmatches
  simp only [Bool.and_eq_true, decide_eq_true_eq] at hmatches
  obtain ⟨⟨⟨hmagic, hversion⟩, hsub⟩, hlen⟩ := hmatches
  have hpayloadLength : payload.length = entry.ram.length := by
    rw [← h]
    exact hpayload.2
  have hrest : content.drop dfsHeaderSize = payload := by
    rw [← h]
    refine (List.take_of_length_le ?_).symm
    rw [List.length_drop]
    omega
  have hlenBound : (DfsHeader.ofBytes host (content.take dfsHeaderSize)).len < 256 ^ 4 :=
    hostValue_lt host.bigEndian (List.length_take_le 4 _)
  have hreservedBound : (DfsHeader.ofBytes host (content.take dfsHeaderSize)).reserved < 256 ^ 2 :=
    hostValue_lt host.bigEndian (List.length_take_le 2 _)
  have hfor : DfsHeader.ofBytes host (content.take dfsHeaderSize) = entry.headerFor host payload
      (DfsHeader.ofBytes host (content.take dfsHeaderSize)).reserved := by
    rw [h] at hcrc
    unfold headerFor
    rw [← hmagic, ← hversion, ← hsub, ← hlen, ← hcrc]
  have hcontent : content = (DfsHeader.ofBytes host (content.take dfsHeaderSize)).bytes host ++
      payload := by
    rw [headerBytes_ofBytes host hsize, ← hrest, List.take_append_drop]
  refine ⟨⟨hpayloadLength, ?_, _, hreservedBound, ?_⟩, ?_, hram, hpath⟩
  · unfold uint32Max
    omega
  · rw [← hfor]
    exact hcontent
  · simp only [DfsReadAnswer.reads, hopens, hheader.1, hallocates, hpayload.1, hend.1,
      Bool.and_true]

theorem load_iff_accepted (hram : entry.ram ≠ []) (hpath : entry.pathFits = true)
    (hfile : entry.file = some content) :
    entry.load host .clean = .loaded payload ↔ AcceptedFile host entry content payload :=
  ⟨fun h => (accepted_of_load hfile h).1, load_of_accepted hram hpath rfl hfile⟩

theorem accepted_fileImage (h : entry.storable = true) :
    AcceptedFile host entry (entry.fileImage host) entry.ram := by
  unfold storable at h
  simp only [Bool.and_eq_true, decide_eq_true_eq] at h
  exact ⟨rfl, h.2, 0, by decide, rfl⟩

theorem length_of_accepted (h : AcceptedFile host entry content payload) :
    content.length = dfsHeaderSize + entry.ram.length := by
  obtain ⟨reserved, -, hcontent⟩ := h.content
  rw [hcontent, List.length_append, length_headerBytes, h.length]

theorem length_fileImage (host : Host) (entry : DfsEntry) :
    (entry.fileImage host).length = dfsHeaderSize + entry.ram.length := by
  rw [fileImage, List.length_append, length_headerBytes]

/-! ## What a read does to the payload in RAM -/

theorem ram_read (host : Host) (entry : DfsEntry) (answer : DfsReadAnswer) :
    (entry.read host answer).1.ram =
      match entry.load host answer with
      | .loaded payload => payload
      | _ => entry.ram := by
  unfold read
  cases entry.load host answer <;> rfl

theorem loaded_of_changed (hfailed : (entry.read host answer).2 = false)
    (hchanged : (entry.read host answer).1.ram ≠ entry.ram) :
    ∃ payload, entry.load host answer = .loaded payload ∧ payload ≠ entry.ram ∧
      answer.closes = false := by
  rw [ram_read] at hchanged
  unfold read at hfailed
  cases hload : entry.load host answer with
  | loaded payload =>
      rw [hload] at hfailed hchanged
      exact ⟨payload, rfl, hchanged, hfailed⟩
  | missing =>
      rw [hload] at hchanged
      contradiction
  | unread =>
      rw [hload] at hchanged
      contradiction
  | corrupt =>
      rw [hload] at hchanged
      contradiction

/-- What the claim about store and read says of one entry, one file and one pattern of
failing calls. -/
structure FileLaw (host : Host) (entry : DfsEntry) (answer : DfsReadAnswer) : Prop where
  /-- With working calls a payload is copied exactly from a file of the format. -/
  accepts : entry.ram ≠ [] → entry.pathFits = true → ∀ content, entry.file = some content →
    ∀ payload, entry.load host .clean = .loaded payload ↔ AcceptedFile host entry content payload
  copies : (entry.read host .clean).1.ram =
    match entry.load host .clean with
    | .loaded payload => payload
    | _ => entry.ram
  /-- After a store any RAM of the same length is restored to the stored payload. -/
  roundTrip : ∀ stores ram, (entry.store host stores).2 = true → ram.length = entry.ram.length →
    (({ (entry.store host stores).1 with ram := ram } : DfsEntry).read host .clean).1.ram =
      entry.ram ∧
      (({ (entry.store host stores).1 with ram := ram } : DfsEntry).read host .clean).2 = true
  /-- A store that was interrupted has left nothing to load. -/
  interrupted : ∀ n < (entry.fileImage host).length, ∀ ram, ram.length = entry.ram.length →
    ∀ reads, ¬ (({ entry with ram := ram, file := some ((entry.fileImage host).take n) } :
      DfsEntry).load host reads).isLoaded
  kept : (entry.read host answer).2 = false → (entry.read host answer).1.ram = entry.ram

/-- The close is not the only call to fail, after a payload that differs from the RAM was
accepted. -/
def ClosesWhenLoaded (host : Host) (entry : DfsEntry) (answer : DfsReadAnswer) : Prop :=
  entry.ram ≠ [] → entry.pathFits = true → answer.reads = true → answer.closes = false →
    ∀ content payload, entry.file = some content → AcceptedFile host entry content payload →
      payload = entry.ram

theorem read_store {stores : DfsStoreAnswer} {ram : List Byte}
    (hstored : (entry.store host stores).2 = true) (hlength : ram.length = entry.ram.length) :
    (({ (entry.store host stores).1 with ram := ram } : DfsEntry).read host .clean).1.ram =
      entry.ram ∧
      (({ (entry.store host stores).1 with ram := ram } : DfsEntry).read host .clean).2 = true := by
  unfold store at hstored ⊢
  split_ifs at hstored ⊢ with hstorable hall
  rw [Bool.not_eq_true', Bool.not_eq_false] at hstorable
  have hholds : ({ entry with file := some (entry.fileImage host) } : DfsEntry).load host .clean =
      .loaded entry.ram := by
    have haccepted := @accepted_fileImage host entry hstorable
    unfold storable at hstorable
    simp only [Bool.and_eq_true, decide_eq_true_eq] at hstorable
    exact load_of_accepted hstorable.1.1 hstorable.1.2 rfl rfl
      ⟨haccepted.length, haccepted.fits, haccepted.content⟩
  have hload : ({ markLoaded { entry with file := some (entry.fileImage host) }
      (entry.payloadCrc host) with ram := ram } : DfsEntry).load host .clean =
        .loaded entry.ram := by
    rw [← hholds]
    exact load_congr rfl rfl hlength rfl
  unfold read
  rw [hload]
  exact ⟨rfl, rfl⟩

theorem not_loaded_of_interrupted {n : Nat} (hn : n < (entry.fileImage host).length)
    {ram : List Byte} (hlength : ram.length = entry.ram.length) (reads : DfsReadAnswer) :
    ¬ (({ entry with ram := ram, file := some ((entry.fileImage host).take n) } :
      DfsEntry).load host reads).isLoaded := by
  intro hloaded
  cases hload : ({ entry with ram := ram, file := some ((entry.fileImage host).take n) } :
      DfsEntry).load host reads with
  | loaded payload =>
      have hsize := length_of_accepted (accepted_of_load rfl hload).1
      rw [List.length_take, Nat.min_eq_left (Nat.le_of_lt hn), hlength] at hsize
      rw [length_fileImage, hsize] at hn
      exact Nat.lt_irrefl _ hn
  | _ =>
      rw [hload] at hloaded
      contradiction

/-- Store and read keep to the file format, and a read that fails keeps the payload in RAM,
unless it fails to close the file it has accepted. -/
theorem fileLaw_iff (host : Host) (entry : DfsEntry) (answer : DfsReadAnswer) :
    FileLaw host entry answer ↔ ClosesWhenLoaded host entry answer := by
  constructor
  · intro h hram hpath hreads hcloses content payload hfile haccepted
    have hload := load_of_accepted hram hpath hreads hfile haccepted
    have hfailed : (entry.read host answer).2 = false := by
      unfold read
      rw [hload]
      exact hcloses
    have hkept := h.kept hfailed
    rw [ram_read, hload] at hkept
    exact hkept
  · intro h
    refine ⟨fun hram hpath content hfile payload => load_iff_accepted hram hpath hfile,
      ram_read host entry .clean, fun stores ram => read_store, ?_, ?_⟩
    · exact fun n hn ram hlength reads => not_loaded_of_interrupted hn hlength reads
    · intro hfailed
      by_contra hchanged
      obtain ⟨payload, hload, hother, hcloses⟩ := loaded_of_changed hfailed hchanged
      cases hfile : entry.file with
      | none =>
          unfold load at hload
          rw [hfile] at hload
          split at hload
          · contradiction
          · contradiction
      | some content =>
          obtain ⟨haccepted, hreads, hram, hpath⟩ := accepted_of_load hfile hload
          exact hother (h hram hpath hreads hcloses content payload hfile haccepted)

/-- An entry of one byte whose file holds another value than the RAM. -/
def changedEntry : DfsEntry where
  subIndexOD := 2#8
  auto := false
  pathFits := true
  ram := [0x00#8]
  config := some { autoCrc := 0, autoCrcValid := false, dataCorrupt := false }
  file := some (({ subIndexOD := 2#8, auto := false, pathFits := true, ram := [0x5A#8]
                   config := none, file := none } : DfsEntry).fileImage .ccitt)

/-- The payload is in RAM when the close fails and the read with it. -/
theorem fileLaw_failedClose :
    (changedEntry.read .ccitt { DfsReadAnswer.clean with closes := false }).2 = false ∧
      (changedEntry.read .ccitt { DfsReadAnswer.clean with closes := false }).1.ram = [0x5A#8] ∧
      ¬ FileLaw .ccitt changedEntry { DfsReadAnswer.clean with closes := false } := by
  have hfailed :
      (changedEntry.read .ccitt { DfsReadAnswer.clean with closes := false }).2 = false := by
    decide
  have hram :
      (changedEntry.read .ccitt { DfsReadAnswer.clean with closes := false }).1.ram = [0x5A#8] := by
    decide
  refine ⟨hfailed, hram, fun h => ?_⟩
  have hkept := h.kept hfailed
  rw [hram] at hkept
  exact absurd hkept (by decide)

end DfsEntry

end CanopenRtt.Storage
