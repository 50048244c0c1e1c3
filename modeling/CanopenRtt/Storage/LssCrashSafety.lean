import CanopenRtt.Storage.Host
import CanopenRtt.Storage.LssPersist
import CanopenRtt.Support.Run
/-!
# Crash safety of the LSS record

The commit marker guards the body: an interrupted write of either marker leaves
the old marker bytes, the new ones or a pair that is no marker, and the body is
only rewritten while the marker is invalid. So whatever a store leaves behind is
the record that was there before, the new record, or nothing a load accepts.
-/

namespace CanopenRtt.Storage

open Support

/-- The record slot of the media. -/
def slot (m : Medium) : List Byte := slice m 0 lssRecordSize

/-- The slot carries the commit marker. -/
def Marked (stack : LssStack) (m : Medium) : Prop :=
  slice m lssCommitOffset 2 = markerBytes stack lssCommitMarker

/-- The slot carries the invalid marker. -/
def Unmarked (stack : LssStack) (m : Medium) : Prop :=
  slice m lssCommitOffset 2 = markerBytes stack lssInvalidMarker

/-- The bytes of a record before its commit marker. -/
def bodyBytes (stack : LssStack) (nodeId : Byte) (bitrate : BitVec 16) : List Byte :=
  (LssRecord.encode stack nodeId bitrate).bytes.take lssCommitOffset

/-- A marked slot holds what `before` held, or the new pair. -/
def OldOrNew (stack : LssStack) (nodeId : Byte) (bitrate : BitVec 16) (before after : Medium) :
    Prop :=
  Marked stack after →
    slot after = slot before ∨ slot after = (LssRecord.committed stack nodeId bitrate).bytes

theorem slot_eq (m : Medium) :
    slot m = slice m 0 lssCommitOffset ++ slice m lssCommitOffset 2 :=
  slice_add m 0 lssCommitOffset 2

theorem slice_marker (m : Medium) (x y : Byte) :
    slice m lssCommitOffset 2 = [x, y] ↔ m 14 = x ∧ m 15 = y := by
  have hslice : slice m lssCommitOffset 2 = [m 14, m 15] := rfl
  rw [hslice, List.cons_eq_cons, List.cons_eq_cons]
  simp

theorem marked_iff (stack : LssStack) (m : Medium) :
    Marked stack m ↔ (m 14, m 15) = stack.setUint16 lssCommitMarker := by
  unfold Marked markerBytes
  rw [slice_marker, Prod.ext_iff]

theorem setUint16_invalidMarker (stack : LssStack) :
    stack.setUint16 lssInvalidMarker = (0, 0) := by
  rcases stack.setUint16_bytes lssInvalidMarker with hbytes | hbytes
  · exact hbytes
  · exact hbytes

theorem setUint16_commitMarker (stack : LssStack) :
    stack.setUint16 lssCommitMarker = (0xA5, 0x5A) ∨
      stack.setUint16 lssCommitMarker = (0x5A, 0xA5) :=
  stack.setUint16_bytes lssCommitMarker

theorem unmarked_iff (stack : LssStack) (m : Medium) :
    Unmarked stack m ↔ m 14 = 0 ∧ m 15 = 0 := by
  unfold Unmarked markerBytes
  rw [slice_marker, setUint16_invalidMarker]

theorem marker_bytes_ne (stack : LssStack) {m : Medium} (h : Marked stack m) :
    m 14 ≠ 0 ∧ m 15 ≠ 0 ∧ m 14 ≠ 0xFF := by
  rw [marked_iff] at h
  rcases setUint16_commitMarker stack with hbytes | hbytes
  · obtain ⟨hfirst, hsecond⟩ := Prod.mk.inj (h.trans hbytes)
    rw [hfirst, hsecond]
    decide
  · obtain ⟨hfirst, hsecond⟩ := Prod.mk.inj (h.trans hbytes)
    rw [hfirst, hsecond]
    decide

theorem committed_eq (stack : LssStack) (nodeId : Byte) (bitrate : BitVec 16) :
    (LssRecord.committed stack nodeId bitrate).bytes =
      bodyBytes stack nodeId bitrate ++ markerBytes stack lssCommitMarker := rfl

theorem length_bodyBytes (stack : LssStack) (nodeId : Byte) (bitrate : BitVec 16) :
    (bodyBytes stack nodeId bitrate).length = lssCommitOffset := rfl

theorem slot_eq_committed_iff (stack : LssStack) (m : Medium) (nodeId : Byte)
    (bitrate : BitVec 16) :
    slot m = (LssRecord.committed stack nodeId bitrate).bytes ↔
      slice m 0 lssCommitOffset = bodyBytes stack nodeId bitrate ∧ Marked stack m := by
  rw [slot_eq, committed_eq]
  constructor
  · intro h
    exact List.append_inj h (by rw [length_slice, length_bodyBytes])
  · rintro ⟨hbody, hmarker⟩
    rw [hbody, hmarker]

/-! ## What each write leaves behind -/

/-- An invalidation that leaves a marked slot has changed nothing in it. -/
theorem slot_of_invalidate {stack : LssStack} {before after : Medium} {outcome : Access Unit}
    (h : Wrote before after lssCommitOffset (markerBytes stack lssInvalidMarker) outcome)
    (hmarked : Marked stack after) : slot after = slot before := by
  obtain ⟨hfirst, hsecond, hff⟩ := marker_bytes_ne stack hmarked
  have hnonerased : ¬ Erased before := by
    intro herased
    rcases h.bytes 14 with hkept | ⟨hput, -⟩ | ⟨-, hcleared⟩
    · exact hff (hkept.trans (herased 14))
    · rw [markerBytes, setUint16_invalidMarker] at hput
      exact hfirst (Option.some.inj hput).symm
    · exact hfirst hcleared
  apply slice_congr
  intro i _ hi
  rcases h.bytes i with hkept | ⟨hput, hfrom⟩ | ⟨herased, -⟩
  · exact hkept
  · rw [markerBytes, setUint16_invalidMarker] at hput
    have hsmall : i = 14 ∨ i = 15 := by
      unfold lssCommitOffset at hfrom
      unfold lssRecordSize at hi
      omega
    rcases hsmall with rfl | rfl
    · exact absurd (Option.some.inj hput).symm hfirst
    · exact absurd (Option.some.inj hput).symm hsecond
  · exact absurd herased hnonerased

theorem not_erased_of_unmarked {stack : LssStack} {m : Medium} (h : Unmarked stack m) :
    ¬ Erased m := by
  intro herased
  have hzero := ((unmarked_iff stack m).mp h).1
  rw [herased 14] at hzero
  exact absurd hzero (by decide)

theorem unmarked_of_body {stack : LssStack} {before after : Medium} {data : List Byte}
    {outcome : Access Unit} (h : Wrote before after 0 data outcome)
    (hlength : data.length = lssCommitOffset) (hunmarked : Unmarked stack before) :
    Unmarked stack after := by
  have hkeep (i : Nat) (hi : lssCommitOffset ≤ i) : after i = before i := by
    rcases h.bytes i with hkept | ⟨hput, -⟩ | ⟨herased, -⟩
    · exact hkept
    · rw [List.getElem?_eq_none (by omega)] at hput
      contradiction
    · exact absurd herased (not_erased_of_unmarked hunmarked)
  unfold Unmarked at hunmarked ⊢
  rw [← hunmarked]
  apply slice_congr
  intro i hi _
  exact hkeep i hi

/-- Writing a marker over a slot that is in use leaves its body alone. -/
theorem body_of_marker {before after : Medium} {marker : List Byte} {outcome : Access Unit}
    (h : Wrote before after lssCommitOffset marker outcome) (hused : ¬ Erased before) :
    slice after 0 lssCommitOffset = slice before 0 lssCommitOffset := by
  apply slice_congr
  intro i _ hi
  rcases h.bytes i with hkept | ⟨-, hfrom⟩ | ⟨herased, -⟩
  · exact hkept
  · omega
  · exact absurd herased hused

theorem not_marked_of_unmarked {stack : LssStack} {m : Medium} (h : Unmarked stack m) :
    ¬ Marked stack m := by
  intro hmarked
  exact (marker_bytes_ne stack hmarked).1 ((unmarked_iff stack m).mp h).1

/-! ## The store -/

variable {stack : LssStack} {aux : AuxStorage} {nodeId : Byte} {bitrate : BitVec 16}

theorem lssRollback_result (media : aux.State) (answer : aux.WriteAnswer) :
    (lssRollback stack aux media answer).2 ≠ some true := by
  unfold lssRollback
  split
  · simp
  · simp

theorem lssRollback_slot {media : aux.State} {answer : aux.WriteAnswer}
    (hbody : slice (aux.image media) 0 lssCommitOffset = bodyBytes stack nodeId bitrate)
    (hmarked : Marked stack (aux.image (lssRollback stack aux media answer).1)) :
    slot (aux.image (lssRollback stack aux media answer).1) =
      (LssRecord.committed stack nodeId bitrate).bytes := by
  have hstate : (lssRollback stack aux media answer).1 =
      (aux.auxWrite media lssCommitOffset (markerBytes stack lssInvalidMarker) answer).1 := by
    unfold lssRollback
    split
    · next h => rw [h]
    · next h => rw [h]
  rw [hstate] at hmarked ⊢
  have hslot := slot_of_invalidate (aux.auxWrite_wrote media lssCommitOffset _ answer) hmarked
  have hsplit := hslot
  rw [slot_eq, slot_eq, hbody] at hsplit
  obtain ⟨hnew, -⟩ := List.append_inj hsplit (by rw [length_slice, length_bodyBytes])
  rw [slot_eq_committed_iff]
  exact ⟨hnew, hmarked⟩

theorem lssCommit_slot {media : aux.State} {answers : StoreAnswers aux}
    (hbody : slice (aux.image media) 0 lssCommitOffset = bodyBytes stack nodeId bitrate)
    (hunmarked : Unmarked stack (aux.image media))
    (hmarked : Marked stack (aux.image (lssCommit stack aux media nodeId bitrate answers).1)) :
    slot (aux.image (lssCommit stack aux media nodeId bitrate answers).1) =
      (LssRecord.committed stack nodeId bitrate).bytes := by
  have hwrote := aux.auxWrite_wrote media lssCommitOffset (markerBytes stack lssCommitMarker)
    answers.commit
  unfold lssCommit at hmarked ⊢
  generalize aux.auxWrite media lssCommitOffset (markerBytes stack lssCommitMarker)
    answers.commit = written at hwrote hmarked ⊢
  obtain ⟨after, outcome⟩ := written
  have hnew : slice (aux.image after) 0 lssCommitOffset = bodyBytes stack nodeId bitrate :=
    (body_of_marker hwrote (not_erased_of_unmarked hunmarked)).trans hbody
  cases outcome with
  | powerLost => exact (slot_eq_committed_iff stack _ nodeId bitrate).mpr ⟨hnew, hmarked⟩
  | failed => exact lssRollback_slot hnew hmarked
  | done =>
      dsimp only at hmarked ⊢
      split at hmarked
      · exact (slot_eq_committed_iff stack _ nodeId bitrate).mpr ⟨hnew, hmarked⟩
      · exact lssRollback_slot hnew hmarked
      · split at hmarked
        · next h =>
            rw [if_pos h]
            exact (slot_eq_committed_iff stack _ nodeId bitrate).mpr ⟨hnew, hmarked⟩
        · next h =>
            rw [if_neg h]
            exact lssRollback_slot hnew hmarked

/-- A store gives up with the old record or none in the slot, or reaches the commit
with the new body in an invalid slot. -/
theorem lssStore_cases (media : aux.State) (answers : StoreAnswers aux) :
    ((lssStore stack aux media nodeId bitrate answers).2 ≠ some true ∧
      (Marked stack (aux.image (lssStore stack aux media nodeId bitrate answers).1) →
        slot (aux.image (lssStore stack aux media nodeId bitrate answers).1) =
          slot (aux.image media))) ∨
    ∃ prepared, slice (aux.image prepared) 0 lssCommitOffset = bodyBytes stack nodeId bitrate ∧
      Unmarked stack (aux.image prepared) ∧
      lssStore stack aux media nodeId bitrate answers =
        lssCommit stack aux prepared nodeId bitrate answers := by
  unfold lssStore
  split
  · exact .inl ⟨by simp, fun _ => rfl⟩
  have hinvalidate := aux.auxWrite_wrote media lssCommitOffset
    (markerBytes stack lssInvalidMarker) answers.invalidate
  dsimp only
  split
  · next _ unmarked h =>
      rw [h] at hinvalidate
      exact .inl ⟨by simp, slot_of_invalidate hinvalidate⟩
  · next _ unmarked h =>
      rw [h] at hinvalidate
      exact .inl ⟨by simp, slot_of_invalidate hinvalidate⟩
  next _ unmarked _ h =>
  rw [h] at hinvalidate
  have hunmarked : Unmarked stack (aux.image unmarked) := hinvalidate.complete rfl
  have hbody := aux.auxWrite_wrote unmarked 0 (bodyBytes stack nodeId bitrate) answers.body
  have hstill := unmarked_of_body hbody (length_bodyBytes stack nodeId bitrate) hunmarked
  have hquiet (m : aux.State) (h : Unmarked stack (aux.image m)) :
      Marked stack (aux.image m) → slot (aux.image m) = slot (aux.image media) :=
    fun hmarked => absurd hmarked (not_marked_of_unmarked h)
  rw [← bodyBytes]
  split
  · next _ prepared h =>
      rw [h] at hstill
      exact .inl ⟨by simp, hquiet prepared hstill⟩
  · next _ prepared h =>
      rw [h] at hstill
      exact .inl ⟨by simp, hquiet prepared hstill⟩
  next _ prepared _ h =>
  rw [h] at hbody hstill
  split
  · exact .inl ⟨by simp, hquiet prepared hstill⟩
  · exact .inl ⟨by simp, hquiet prepared hstill⟩
  · split
    · exact .inl ⟨by simp, hquiet prepared hstill⟩
    · exact .inr ⟨prepared, hbody.complete rfl, hstill, rfl⟩

/-- Whatever a store leaves behind, in whichever of its accesses it ends. -/
theorem lssStore_oldOrNew (media : aux.State) (answers : StoreAnswers aux) :
    OldOrNew stack nodeId bitrate (aux.image media)
      (aux.image (lssStore stack aux media nodeId bitrate answers).1) := by
  intro hmarked
  rcases lssStore_cases media answers with ⟨-, hold⟩ | ⟨prepared, hbody, hunmarked, hcommit⟩
  · exact .inl (hold hmarked)
  · rw [hcommit] at hmarked ⊢
    exact .inr (lssCommit_slot hbody hunmarked hmarked)

/-! ## The load -/

theorem getLast_committed_ne (stack : LssStack) (nodeId : Byte) (bitrate : BitVec 16) :
    (LssRecord.committed stack nodeId bitrate).bytes[15]? ≠ some 0 := by
  have hlast : (LssRecord.committed stack nodeId bitrate).bytes[15]? =
      some (stack.setUint16 lssCommitMarker).2 := rfl
  rw [hlast]
  rcases setUint16_commitMarker stack with hbytes | hbytes
  · rw [hbytes]
    decide
  · rw [hbytes]
    decide

theorem slot_of_decode {media : aux.State} {answer : aux.ReadAnswer} {buffer : List Byte}
    (hread : aux.auxRead media 0 lssRecordSize answer = .done buffer)
    (hdecode : (LssRecord.ofBytes buffer).decode stack = some (nodeId, bitrate)) :
    (stack.nodeIdValid nodeId = true ∧ stack.bitrateValid bitrate = true) ∧
      slot (aux.image media) = (LssRecord.committed stack nodeId bitrate).bytes := by
  obtain ⟨-, k, hk, hbuffer⟩ := aux.auxRead_done hread
  have hlength : buffer.length = lssRecordSize := by
    rw [hbuffer, List.length_append, length_slice, List.length_replicate]
    omega
  obtain ⟨hnode, hrate, heq⟩ :=
    (LssRecord.decode_ofBytes_iff stack hlength nodeId bitrate).mp hdecode
  refine ⟨⟨hnode, hrate⟩, ?_⟩
  by_cases hshort : k < lssRecordSize
  · -- the padding of a short read ends in a zero where the marker has none
    exfalso
    apply getLast_committed_ne stack nodeId bitrate
    unfold lssRecordSize at hshort hlength hk
    rw [← heq, hbuffer, List.getElem?_append_right (by rw [length_slice]; omega), length_slice]
    exact List.getElem?_replicate_of_lt (by unfold lssRecordSize; omega)
  · have hfull : k = lssRecordSize := by omega
    rw [hfull, Nat.sub_self, List.replicate_zero, List.append_nil] at hbuffer
    rw [← heq, hbuffer]
    rfl

theorem slot_of_lssLoad {media : aux.State} {answer : aux.ReadAnswer} {nodeId₀ nodeId : Byte}
    {bitrate₀ bitrate : BitVec 16}
    (h : lssLoad stack aux media answer nodeId₀ bitrate₀ = some (.ok, nodeId, bitrate)) :
    (stack.nodeIdValid nodeId = true ∧ stack.bitrateValid bitrate = true) ∧
      slot (aux.image media) = (LssRecord.committed stack nodeId bitrate).bytes ∧
      aux.inRange 0 lssRecordSize = true := by
  unfold lssLoad at h
  split at h
  · contradiction
  · simp at h
  next buffer hread =>
  dsimp only at h
  split at h
  · simp at h
  split at h
  · simp at h
  next savedNodeId savedBitrate hdecode =>
  obtain ⟨rfl, rfl⟩ : savedNodeId = nodeId ∧ savedBitrate = bitrate := by simpa using h
  obtain ⟨hvalid, hslot⟩ := slot_of_decode hread hdecode
  exact ⟨hvalid, hslot, (aux.auxRead_done hread).1⟩

theorem not_erased_committed (stack : LssStack) (nodeId : Byte) (bitrate : BitVec 16) :
    (LssRecord.committed stack nodeId bitrate).erased = false := by
  simp [LssRecord.erased, LssRecord.bytes, LssRecord.committed, LssRecord.encode, lssMagic]

theorem committed_injective {nodeId nodeId' : Byte} {bitrate bitrate' : BitVec 16}
    (h : (LssRecord.committed stack nodeId bitrate).bytes =
      (LssRecord.committed stack nodeId' bitrate').bytes) :
    nodeId = nodeId' ∧ bitrate = bitrate' := by
  have hrecord := congrArg LssRecord.ofBytes h
  rw [LssRecord.ofBytes_bytes rfl, LssRecord.ofBytes_bytes rfl] at hrecord
  refine ⟨congrArg LssRecord.nodeId hrecord, ?_⟩
  have hbitrate : stack.setUint16 bitrate = stack.setUint16 bitrate' :=
    congrArg LssRecord.bitrate hrecord
  rw [← stack.getUint16_setUint16 bitrate, hbitrate, stack.getUint16_setUint16]

theorem lssLoad_of_slot {media : aux.State} {answer : aux.ReadAnswer}
    (hanswer : aux.faultFree answer = true) (hrange : aux.inRange 0 lssRecordSize = true)
    (hvalid : stack.nodeIdValid nodeId = true ∧ stack.bitrateValid bitrate = true)
    (hslot : slot (aux.image media) = (LssRecord.committed stack nodeId bitrate).bytes)
    (nodeId₀ : Byte) (bitrate₀ : BitVec 16) :
    lssLoad stack aux media answer nodeId₀ bitrate₀ = some (.ok, nodeId, bitrate) := by
  have hread : aux.auxRead media 0 lssRecordSize answer =
      .done (LssRecord.committed stack nodeId bitrate).bytes := by
    rw [aux.auxRead_faultFree hrange hanswer, ← hslot]
    rfl
  have hrecord : LssRecord.ofBytes (LssRecord.committed stack nodeId bitrate).bytes =
      LssRecord.committed stack nodeId bitrate := LssRecord.ofBytes_bytes rfl
  have hdecode := (LssRecord.decode_eq_some_iff stack _ nodeId bitrate).mpr
    ⟨hvalid.1, hvalid.2, rfl⟩
  unfold lssLoad
  rw [hread]
  dsimp only
  rw [hrecord, hdecode, if_neg (by rw [not_erased_committed]; decide)]

theorem lssLoad_keeps {media : aux.State} {answer : aux.ReadAnswer} {nodeId₀ nodeId : Byte}
    {bitrate₀ bitrate : BitVec 16} {result : LoadResult}
    (h : lssLoad stack aux media answer nodeId₀ bitrate₀ = some (result, nodeId, bitrate))
    (hresult : result ≠ .ok) : nodeId = nodeId₀ ∧ bitrate = bitrate₀ := by
  unfold lssLoad at h
  split at h
  · contradiction
  · obtain ⟨-, rfl, rfl⟩ : LoadResult.ioError = result ∧ nodeId₀ = nodeId ∧ bitrate₀ = bitrate := by
      simpa using h
    exact ⟨rfl, rfl⟩
  dsimp only at h
  split at h
  · obtain ⟨-, rfl, rfl⟩ : LoadResult.empty = result ∧ nodeId₀ = nodeId ∧ bitrate₀ = bitrate := by
      simpa using h
    exact ⟨rfl, rfl⟩
  split at h
  · obtain ⟨-, rfl, rfl⟩ : LoadResult.invalid = result ∧ nodeId₀ = nodeId ∧ bitrate₀ = bitrate := by
      simpa using h
    exact ⟨rfl, rfl⟩
  · obtain ⟨hok, -⟩ := Prod.mk.inj (Option.some.inj h)
    exact absurd hok.symm hresult

/-- A commit reports success only after it has read the new record back. -/
theorem slot_of_lssCommit_true {media : aux.State} {answers : StoreAnswers aux}
    (h : (lssCommit stack aux media nodeId bitrate answers).2 = some true) :
    (stack.nodeIdValid nodeId = true ∧ stack.bitrateValid bitrate = true) ∧
      slot (aux.image (lssCommit stack aux media nodeId bitrate answers).1) =
        (LssRecord.committed stack nodeId bitrate).bytes ∧
      aux.inRange 0 lssRecordSize = true := by
  unfold lssCommit at h ⊢
  split at h
  · contradiction
  · exact absurd h (lssRollback_result _ _)
  split at h
  · contradiction
  · exact absurd h (lssRollback_result _ _)
  next hread =>
  split at h
  · next hdecode =>
      rw [if_pos hdecode]
      obtain ⟨hvalid, hslot⟩ := slot_of_decode hread hdecode
      exact ⟨hvalid, hslot, (aux.auxRead_done hread).1⟩
  · exact absurd h (lssRollback_result _ _)

theorem slot_of_lssStore_true {media : aux.State} {answers : StoreAnswers aux}
    (h : (lssStore stack aux media nodeId bitrate answers).2 = some true) :
    (stack.nodeIdValid nodeId = true ∧ stack.bitrateValid bitrate = true) ∧
      slot (aux.image (lssStore stack aux media nodeId bitrate answers).1) =
        (LssRecord.committed stack nodeId bitrate).bytes ∧
      aux.inRange 0 lssRecordSize = true := by
  rcases lssStore_cases media answers with ⟨hresult, -⟩ | ⟨prepared, -, -, hcommit⟩
  · exact absurd h hresult
  · rw [hcommit] at h ⊢
    exact slot_of_lssCommit_true h

/-- One attempt to store a pair. -/
structure StoreAttempt (aux : AuxStorage) where
  nodeId : Byte
  bitrate : BitVec 16
  answers : StoreAnswers aux

/-- The media after a store that may have been interrupted. -/
def lssAttempt (stack : LssStack) (media : aux.State) (attempt : StoreAttempt aux) : aux.State :=
  (lssStore stack aux media attempt.nodeId attempt.bitrate attempt.answers).1

/-- After any number of attempts the slot holds its first record, the record of
one of the attempts, or none that a load accepts. -/
theorem slot_of_lssAttempts (media : aux.State) (attempts : List (StoreAttempt aux))
    (hmarked : Marked stack (aux.image (run (lssAttempt stack) media attempts))) :
    slot (aux.image (run (lssAttempt stack) media attempts)) = slot (aux.image media) ∨
      ∃ attempt ∈ attempts, slot (aux.image (run (lssAttempt stack) media attempts)) =
        (LssRecord.committed stack attempt.nodeId attempt.bitrate).bytes := by
  induction attempts using List.reverseRecOn with
  | nil => exact .inl rfl
  | append_singleton attempts attempt ih =>
      rw [run_concat] at hmarked ⊢
      rcases lssStore_oldOrNew _ attempt.answers hmarked with hold | hnew
      · have hbefore : Marked stack (aux.image (run (lssAttempt stack) media attempts)) := by
          rw [slot_eq, slot_eq] at hold
          obtain ⟨-, hmarker⟩ := List.append_inj hold (by rw [length_slice, length_slice])
          exact hmarker.symm.trans hmarked
        rw [lssAttempt, hold]
        rcases ih hbefore with hfirst | ⟨earlier, hmem, hearlier⟩
        · exact .inl hfirst
        · exact .inr ⟨earlier, List.mem_append_left _ hmem, hearlier⟩
      · exact .inr ⟨attempt, List.mem_append_right _ (List.mem_singleton_self _), hnew⟩

/-- What stores and loads on a medium promise, in whichever of its accesses each of them ends. -/
structure CrashSafe (stack : LssStack) (aux : AuxStorage) (media : aux.State) : Prop where
  /-- A later load reports the pair that was loadable before or the pair of the store. -/
  oldOrNew : ∀ nodeId bitrate answers later nodeId₀ bitrate₀ savedNodeId savedBitrate,
    lssLoad stack aux (lssStore stack aux media nodeId bitrate answers).1 later nodeId₀ bitrate₀ =
        some (.ok, savedNodeId, savedBitrate) →
      (stack.nodeIdValid savedNodeId = true ∧ stack.bitrateValid savedBitrate = true) ∧
      ((savedNodeId = nodeId ∧ savedBitrate = bitrate) ∨
        lssLoad stack aux media aux.clean nodeId₀ bitrate₀ =
          some (.ok, savedNodeId, savedBitrate))
  /-- So after any number of stores: the first pair or the pair of one of them. -/
  attempts : ∀ attempts later nodeId₀ bitrate₀ savedNodeId savedBitrate,
    lssLoad stack aux (run (lssAttempt stack) media attempts) later nodeId₀ bitrate₀ =
        some (.ok, savedNodeId, savedBitrate) →
      (∃ attempt ∈ attempts, savedNodeId = attempt.nodeId ∧ savedBitrate = attempt.bitrate) ∨
        lssLoad stack aux media aux.clean nodeId₀ bitrate₀ =
          some (.ok, savedNodeId, savedBitrate)
  /-- A successful store is followed by loads of exactly its pair. -/
  stored : ∀ nodeId bitrate answers,
    (lssStore stack aux media nodeId bitrate answers).2 = some true →
      ∀ later nodeId₀ bitrate₀, aux.faultFree later = true →
        lssLoad stack aux (lssStore stack aux media nodeId bitrate answers).1 later nodeId₀
          bitrate₀ = some (.ok, nodeId, bitrate)
  /-- The decoder accepts the committed encodings of valid pairs only. -/
  decoder : ∀ buffer : List Byte, buffer.length = lssRecordSize → ∀ savedNodeId savedBitrate,
    (LssRecord.ofBytes buffer).decode stack = some (savedNodeId, savedBitrate) ↔
      stack.nodeIdValid savedNodeId = true ∧ stack.bitrateValid savedBitrate = true ∧
        buffer = (LssRecord.committed stack savedNodeId savedBitrate).bytes
  /-- An unsuccessful load leaves the caller's values alone. -/
  untouched : ∀ later nodeId₀ bitrate₀ result savedNodeId savedBitrate,
    lssLoad stack aux media later nodeId₀ bitrate₀ =
        some (result, savedNodeId, savedBitrate) → result ≠ .ok →
      savedNodeId = nodeId₀ ∧ savedBitrate = bitrate₀

/-- For every medium, every pair and every way the accesses of a store can end. -/
theorem lssPersist_crashSafe (stack : LssStack) (aux : AuxStorage) (media : aux.State) :
    CrashSafe stack aux media where
  oldOrNew nodeId bitrate answers later nodeId₀ bitrate₀ savedNodeId savedBitrate hload := by
    obtain ⟨hvalid, hslot, hrange⟩ := slot_of_lssLoad hload
    refine ⟨hvalid, ?_⟩
    have hmarked := ((slot_eq_committed_iff stack _ _ _).mp hslot).2
    rcases lssStore_oldOrNew media answers hmarked with hold | hnew
    · right
      exact lssLoad_of_slot aux.clean_faultFree hrange hvalid (hold ▸ hslot) nodeId₀ bitrate₀
    · left
      exact committed_injective (hslot.symm.trans hnew)
  attempts attempts later nodeId₀ bitrate₀ savedNodeId savedBitrate hload := by
    obtain ⟨hvalid, hslot, hrange⟩ := slot_of_lssLoad hload
    have hmarked := ((slot_eq_committed_iff stack _ _ _).mp hslot).2
    rcases slot_of_lssAttempts media attempts hmarked with hold | ⟨attempt, hmem, hnew⟩
    · right
      exact lssLoad_of_slot aux.clean_faultFree hrange hvalid (hold ▸ hslot) nodeId₀ bitrate₀
    · left
      exact ⟨attempt, hmem, committed_injective (hslot.symm.trans hnew)⟩
  stored nodeId bitrate answers hstored later nodeId₀ bitrate₀ hlater := by
    obtain ⟨hvalid, hslot, hrange⟩ := slot_of_lssStore_true hstored
    exact lssLoad_of_slot hlater hrange hvalid hslot nodeId₀ bitrate₀
  decoder buffer hlength savedNodeId savedBitrate :=
    LssRecord.decode_ofBytes_iff stack hlength savedNodeId savedBitrate
  untouched later nodeId₀ bitrate₀ result savedNodeId savedBitrate hload hresult :=
    lssLoad_keeps hload hresult

/-! ## A stack and both backends -/

theorem highByte_append_lowByte (value : BitVec 16) :
    (highByte value ++ lowByte value : BitVec 16) = value := by
  unfold highByte lowByte
  ext i hi
  simp only [BitVec.getElem_append, BitVec.getElem_setWidth, BitVec.getLsbD_ushiftRight]
  split
  · exact BitVec.getLsbD_eq_getElem hi
  · rw [show 8 + (i - 8) = i by omega]
    exact BitVec.getLsbD_eq_getElem hi

theorem highByte_append (high low : Byte) : highByte (high ++ low : BitVec 16) = high := by
  unfold highByte
  ext i hi
  simp only [BitVec.getElem_setWidth, BitVec.getLsbD_ushiftRight, BitVec.getLsbD_append]
  rw [if_neg (by omega), show 8 + i - 8 = i by omega]
  exact BitVec.getLsbD_eq_getElem hi

theorem lowByte_append (high low : Byte) : lowByte (high ++ low : BitVec 16) = low := by
  unfold lowByte
  ext i hi
  simp only [BitVec.getElem_setWidth, BitVec.getLsbD_append]
  rw [if_pos hi]
  exact BitVec.getLsbD_eq_getElem hi

/-- A little-endian host, with the CRC of the storage backends and the bit timings of CiA 305. -/
def LssStack.littleEndian : LssStack where
  bitTimingTable := [1000, 800, 500, 250, 125, 0, 50, 20, 10, 0]
  nodeIdAssignment := 0xFF
  crc16 := Host.ccitt.crc16
  setUint16 value := (lowByte value, highByte value)
  getUint16 bytes := bytes.2 ++ bytes.1
  getUint16_setUint16 := highByte_append_lowByte
  setUint16_getUint16 bytes := Prod.ext (lowByte_append _ _) (highByte_append _ _)
  setUint16_bytes _ := .inr rfl

/-- An erased byte area, and a DFS partition without the auxiliary file. -/
theorem lssPersist_bothBackends :
    CrashSafe .littleEndian byteArea (fun _ => 0xFF) ∧ CrashSafe .littleEndian dfsAux none :=
  ⟨lssPersist_crashSafe .littleEndian byteArea fun _ => 0xFF,
    lssPersist_crashSafe .littleEndian dfsAux none⟩

end CanopenRtt.Storage
