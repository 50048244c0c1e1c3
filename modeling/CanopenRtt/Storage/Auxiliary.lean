import CanopenRtt.Support.ByteMedium
/-!
# Auxiliary persistence area

`port/rtthread/storage/CO_storage_RTT.c`, `CO_storage_RTT_dfs.c`. A backend
offers `aux_read` and `aux_write` over a small byte area. An answer says what the
device below the backend does during one call.
-/

namespace CanopenRtt.Storage

open Support

def int32Max : Nat := 0x7FFFFFFF

/-- A storage backend's auxiliary interface and what it owes its callers. -/
structure AuxStorage where
  State : Type
  ReadAnswer : Type
  WriteAnswer : Type
  /-- The bytes that a read without faults returns. -/
  image : State → Medium
  inRange : Nat → Nat → Bool
  auxRead : State → Nat → Nat → ReadAnswer → Access (List Byte)
  auxWrite : State → Nat → List Byte → WriteAnswer → State × Access Unit
  faultFree : ReadAnswer → Bool
  /-- The answer of a device that works. -/
  clean : ReadAnswer
  clean_faultFree : faultFree clean = true
  /-- A short read is padded with zeros and still reported as successful. -/
  auxRead_done : ∀ {s offset len answer bytes}, auxRead s offset len answer = .done bytes →
    inRange offset len = true ∧
      ∃ k ≤ len, bytes = slice (image s) offset k ++ List.replicate (len - k) 0
  auxRead_faultFree : ∀ {s offset len answer}, inRange offset len = true →
    faultFree answer = true → auxRead s offset len answer = .done (slice (image s) offset len)
  auxWrite_wrote : ∀ s offset data answer,
    Wrote (image s) (image (auxWrite s offset data answer).1) offset data
      (auxWrite s offset data answer).2

/-! ## A plain byte area -/

/-- How a write to a plain byte area goes: its outcome, and the bytes that reach
the area if it is not done. -/
structure ByteWrite where
  outcome : Access Unit
  applied : Nat → Bool

def byteRead (m : Medium) (offset len : Nat) : Access Unit → Access (List Byte)
  | .done _ => .done (slice m offset len)
  | .failed => .failed
  | .powerLost => .powerLost

def byteWrite (m : Medium) (offset : Nat) (data : List Byte) (answer : ByteWrite) :
    Medium × Access Unit :=
  match answer.outcome with
  | .done _ => (patch (fun _ => true) m offset data, .done ())
  | .failed => (patch answer.applied m offset data, .failed)
  | .powerLost => (patch answer.applied m offset data, .powerLost)

theorem wrote_patch (applied : Nat → Bool) (m : Medium) (offset : Nat) (data : List Byte)
    {outcome : Access Unit} (h : outcome = .done () → applied = fun _ => true) :
    Wrote m (patch applied m offset data) offset data outcome where
  complete hdone := by rw [h hdone, slice_patch_all]
  bytes i := by
    rcases patch_apply_cases applied m offset data i with hkept | hput
    · exact .inl hkept
    · exact .inr (.inl hput)

theorem byteWrite_wrote (m : Medium) (offset : Nat) (data : List Byte) (answer : ByteWrite) :
    Wrote m (byteWrite m offset data answer).1 offset data (byteWrite m offset data answer).2 := by
  unfold byteWrite
  split
  · exact wrote_patch _ m offset data fun _ => rfl
  · exact wrote_patch _ m offset data fun h => by contradiction
  · exact wrote_patch _ m offset data fun h => by contradiction

theorem byteRead_done {m : Medium} {offset len : Nat} {answer : Access Unit}
    {bytes : List Byte} (h : byteRead m offset len answer = .done bytes) :
    bytes = slice m offset len := by
  unfold byteRead at h
  split at h
  · injection h with hbytes
    exact hbytes.symm
  · contradiction
  · contradiction

/-- The area itself as a backend: a write that is not done applies any subset of
its bytes. -/
def byteArea : AuxStorage where
  State := Medium
  ReadAnswer := Access Unit
  WriteAnswer := ByteWrite
  image m := m
  inRange _ _ := true
  auxRead := byteRead
  auxWrite := byteWrite
  faultFree answer := answer = .done ()
  clean := .done ()
  clean_faultFree := rfl
  auxRead_done {m offset len _ _} h := by
    refine ⟨rfl, len, Nat.le_refl len, ?_⟩
    rw [byteRead_done h, Nat.sub_self, List.replicate_zero, List.append_nil]
  auxRead_faultFree _ h := by rw [of_decide_eq_true h, byteRead]
  auxWrite_wrote := byteWrite_wrote

/-! ## The DFS auxiliary file -/

/-- The bytes of the auxiliary file; a missing file reads as erased. -/
def fileImage (file : Option (List Byte)) : Medium := fun i =>
  match file with
  | none => 0xFF
  | some content => content.getD i 0

/-- The answers of the file system to one `aux_read`. `limit` cuts a read short. -/
structure DfsRead where
  powered : Bool
  opens : Bool
  seeks : Bool
  reads : Bool
  limit : Option Nat
  closes : Bool
  deriving DecidableEq

/-- The answers of the file system to one `aux_write`. When the write is not
known to be complete, `applied` and `extent` say which bytes reached the file and
how long it has become. -/
structure DfsWrite where
  powered : Bool
  opens : Bool
  creates : Bool
  seeks : Bool
  writes : Bool
  flushes : Bool
  closes : Bool
  applied : Nat → Bool
  extent : Nat

def dfsInRange (offset len : Nat) : Bool :=
  len ≠ 0 && offset ≤ int32Max && len ≤ int32Max

/-- `co_storage_rtt_dfs_aux_read` of a registered instance. -/
def dfsAuxRead (file : Option (List Byte)) (offset len : Nat) (answer : DfsRead) :
    Access (List Byte) :=
  if !dfsInRange offset len then .failed
  else if !answer.powered then .powerLost
  else if !answer.opens then .failed
  else
    match file with
    | none => .done (List.replicate len 0xFF)
    | some content =>
        if !answer.seeks || !answer.reads || !answer.closes then .failed
        else
          let bytes := (content.drop offset).take (min len (answer.limit.getD len))
          .done (bytes ++ List.replicate (len - bytes.length) 0)

/-- The file after a write that reached `applied` bytes and a length of `extent`. -/
def fileWritten (applied : Nat → Bool) (extent : Nat) (content : List Byte) (offset : Nat)
    (data : List Byte) : List Byte :=
  (List.range (max content.length (min extent (offset + data.length)))).map
    (patch applied (fun i => content.getD i 0) offset data)

/-- `co_storage_rtt_dfs_aux_write` of a registered instance. -/
def dfsAuxWrite (file : Option (List Byte)) (offset : Nat) (data : List Byte)
    (answer : DfsWrite) : Option (List Byte) × Access Unit :=
  if !dfsInRange offset data.length then (file, .failed)
  else if !answer.opens then
    (if answer.creates then some (file.getD []) else file,
      if answer.powered then .failed else .powerLost)
  else
    let content := file.getD []
    if !answer.seeks then (some content, if answer.powered then .failed else .powerLost)
    else if answer.powered && answer.writes && answer.flushes && answer.closes then
      (some (fileWritten (fun _ => true) (offset + data.length) content offset data), .done ())
    else
      (some (fileWritten answer.applied answer.extent content offset data),
        if answer.powered then .failed else .powerLost)

@[simp] theorem fileImage_some (content : List Byte) (i : Nat) :
    fileImage (some content) i = content.getD i 0 := rfl

theorem fileImage_getD (file : Option (List Byte)) :
    (∀ i, fileImage (some (file.getD [])) i = fileImage file i) ∨
      Erased (fileImage file) ∧ ∀ i, fileImage (some (file.getD [])) i = 0 := by
  cases file with
  | none => exact .inr ⟨fun _ => rfl, fun _ => rfl⟩
  | some content => exact .inl fun _ => rfl

theorem fileImage_fileWritten (applied : Nat → Bool) (extent : Nat) (content : List Byte)
    (offset : Nat) (data : List Byte) (i : Nat) :
    fileImage (some (fileWritten applied extent content offset data)) i =
      if i < max content.length (min extent (offset + data.length)) then
        patch applied (fileImage (some content)) offset data i
      else 0 := by
  rw [fileImage_some, fileWritten, List.getD, List.getElem?_map]
  split
  · next h => rw [List.getElem?_range h]; rfl
  · next h => rw [List.getElem?_eq_none (by rw [List.length_range]; omega)]; rfl

/-- A byte of the file after a write: the old one or the one written. -/
theorem fileWritten_cases (applied : Nat → Bool) (extent : Nat) (content : List Byte)
    (offset : Nat) (data : List Byte) (i : Nat) :
    fileImage (some (fileWritten applied extent content offset data)) i =
        fileImage (some content) i ∨
      data[i - offset]? =
        some (fileImage (some (fileWritten applied extent content offset data)) i) ∧
        offset ≤ i := by
  rw [fileImage_fileWritten]
  split
  · exact patch_apply_cases applied (fileImage (some content)) offset data i
  · next h =>
      have hbeyond : content.length ≤ i := by omega
      exact .inl (List.getD_eq_default content 0 hbeyond).symm

theorem slice_fileWritten (content : List Byte) (offset : Nat) (data : List Byte) :
    slice (fileImage (some (fileWritten (fun _ => true) (offset + data.length) content offset
      data))) offset data.length = data := by
  refine slice_ext_iff.mpr fun i hi => ?_
  rw [fileImage_fileWritten, if_pos (by omega)]
  exact patch_apply_of_inside hi rfl

/-- A write to the created file, seen from the file as it was before. -/
theorem wrote_of_created {file : Option (List Byte)} {after : Medium} {offset : Nat}
    {data : List Byte} {outcome : Access Unit}
    (h : Wrote (fileImage (some (file.getD []))) after offset data outcome) :
    Wrote (fileImage file) after offset data outcome where
  complete := h.complete
  bytes i := by
    rcases fileImage_getD file with hsame | ⟨herased, hzero⟩
    · rw [← funext hsame]
      exact h.bytes i
    · rcases h.bytes i with hkept | hput | ⟨hff, -⟩
      · exact .inr (.inr ⟨herased, hkept.trans (hzero i)⟩)
      · exact .inr (.inl hput)
      · exact absurd (hff 0) (by rw [hzero 0]; decide)

theorem wrote_nothing (m : Medium) (offset : Nat) (data : List Byte) {outcome : Access Unit}
    (h : outcome ≠ .done ()) : Wrote m m offset data outcome where
  complete hdone := absurd hdone h
  bytes _ := .inl rfl

theorem wrote_fileWritten (applied : Nat → Bool) (extent : Nat) (content : List Byte)
    (offset : Nat) (data : List Byte) {outcome : Access Unit} (h : outcome ≠ .done ()) :
    Wrote (fileImage (some content))
      (fileImage (some (fileWritten applied extent content offset data))) offset data outcome where
  complete hdone := absurd hdone h
  bytes i := by
    rcases fileWritten_cases applied extent content offset data i with hkept | hput
    · exact .inl hkept
    · exact .inr (.inl hput)

theorem failure_ne_done (powered : Bool) :
    (if powered then .failed else .powerLost : Access Unit) ≠ .done () := by
  cases powered <;> decide

theorem dfsAuxWrite_wrote (file : Option (List Byte)) (offset : Nat) (data : List Byte)
    (answer : DfsWrite) :
    Wrote (fileImage file) (fileImage (dfsAuxWrite file offset data answer).1) offset data
      (dfsAuxWrite file offset data answer).2 := by
  unfold dfsAuxWrite
  split
  · exact wrote_nothing _ offset data fun h => by contradiction
  split
  · split
    · exact wrote_of_created (wrote_nothing _ offset data (failure_ne_done _))
    · exact wrote_nothing _ offset data (failure_ne_done _)
  dsimp only
  split
  · exact wrote_of_created (wrote_nothing _ offset data (failure_ne_done _))
  split
  · apply wrote_of_created
    constructor
    · intro _
      exact slice_fileWritten _ offset data
    · intro i
      rcases fileWritten_cases (fun _ => true) (offset + data.length) (file.getD []) offset data i
        with hkept | hput
      · exact .inl hkept
      · exact .inr (.inl hput)
  · exact wrote_of_created (wrote_fileWritten _ _ _ offset data (failure_ne_done _))

/-- What a file delivers from `offset` on is a piece of its image. -/
theorem drop_take_eq_slice (content : List Byte) (offset n : Nat) :
    (content.drop offset).take n =
      slice (fileImage (some content)) offset (min n (content.length - offset)) := by
  apply List.ext_getElem?
  intro i
  by_cases hi : i < min n (content.length - offset)
  · rw [getElem?_slice _ _ hi, List.getElem?_take_of_lt (by omega), List.getElem?_drop]
    have hlt : offset + i < content.length := by omega
    rw [fileImage_some, List.getD_eq_getElem content 0 hlt, List.getElem?_eq_getElem hlt]
  · rw [List.getElem?_eq_none (by rw [List.length_take, List.length_drop]; omega),
      List.getElem?_eq_none (by rw [length_slice]; omega)]

/-- Past the end of the file its image is zero. -/
theorem slice_fileImage_beyond (content : List Byte) {offset : Nat} (len : Nat)
    (h : content.length ≤ offset) :
    slice (fileImage (some content)) offset len = List.replicate len 0 := by
  apply List.ext_getElem?
  intro i
  by_cases hi : i < len
  · rw [getElem?_slice _ _ hi, List.getElem?_replicate_of_lt hi]
    rw [fileImage_some, List.getD_eq_default content 0 (by omega)]
  · rw [List.getElem?_eq_none (by rw [length_slice]; omega),
      List.getElem?_eq_none (by rw [List.length_replicate]; omega)]

theorem slice_erased (offset len : Nat) :
    slice (fileImage none) offset len = List.replicate len 0xFF := by
  unfold slice fileImage
  rw [List.map_const', List.length_range]

theorem dfsAuxRead_done {file : Option (List Byte)} {offset len : Nat} {answer : DfsRead}
    {bytes : List Byte} (h : dfsAuxRead file offset len answer = .done bytes) :
    dfsInRange offset len = true ∧
      ∃ k ≤ len, bytes = slice (fileImage file) offset k ++ List.replicate (len - k) 0 := by
  unfold dfsAuxRead at h
  split at h
  · contradiction
  next hrange =>
  refine ⟨by simpa using hrange, ?_⟩
  split at h
  · contradiction
  split at h
  · contradiction
  split at h
  · injection h with hbytes
    refine ⟨len, Nat.le_refl len, ?_⟩
    rw [← hbytes, slice_erased, Nat.sub_self, List.replicate_zero, List.append_nil]
  · split at h
    · contradiction
    · injection h with hbytes
      rw [← hbytes, drop_take_eq_slice, length_slice]
      exact ⟨_, by omega, rfl⟩

theorem dfsAuxRead_faultFree {file : Option (List Byte)} {offset len : Nat} {answer : DfsRead}
    (hrange : dfsInRange offset len = true)
    (h : (answer.powered && answer.opens && answer.seeks && answer.reads &&
      answer.limit.isNone && answer.closes) = true) :
    dfsAuxRead file offset len answer = .done (slice (fileImage file) offset len) := by
  obtain ⟨powered, opens, seeks, reads, limit, closes⟩ := answer
  simp only [Bool.and_eq_true, Option.isNone_iff_eq_none] at h
  obtain ⟨⟨⟨⟨⟨rfl, rfl⟩, rfl⟩, rfl⟩, rfl⟩, rfl⟩ := h
  cases file with
  | none => simp [dfsAuxRead, hrange, slice_erased]
  | some content =>
      simp only [dfsAuxRead, hrange, Bool.not_true, Bool.false_eq_true, if_false, Bool.or_false,
        Option.getD_none, Nat.min_self]
      rw [drop_take_eq_slice, length_slice]
      congr 1
      by_cases hend : content.length - offset < len
      · have hmin : min len (content.length - offset) = content.length - offset := by omega
        have hpad := slice_fileImage_beyond content (len - (content.length - offset))
          (show content.length ≤ offset + (content.length - offset) by omega)
        rw [hmin, ← hpad, ← slice_add]
        congr 1
        omega
      · have hmin : min len (content.length - offset) = len := by omega
        rw [hmin, Nat.sub_self, List.replicate_zero, List.append_nil]

/-- The DFS backend: an auxiliary file that is created by the first write. -/
def dfsAux : AuxStorage where
  State := Option (List Byte)
  ReadAnswer := DfsRead
  WriteAnswer := DfsWrite
  image := fileImage
  inRange := dfsInRange
  auxRead := dfsAuxRead
  auxWrite := dfsAuxWrite
  faultFree answer := answer.powered && answer.opens && answer.seeks && answer.reads &&
    answer.limit.isNone && answer.closes
  clean := { powered := true, opens := true, seeks := true, reads := true, limit := none
             closes := true }
  clean_faultFree := rfl
  auxRead_done := dfsAuxRead_done
  auxRead_faultFree := dfsAuxRead_faultFree
  auxWrite_wrote := dfsAuxWrite_wrote

end CanopenRtt.Storage
