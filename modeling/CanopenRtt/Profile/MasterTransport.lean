import CanopenRtt.Profile.Transport
import CanopenRtt.Support.Run
/-!
# The critical sections of the profile master

The sections of `profile/common/port/rtthread/CO_profile_master_RTT.c` that hold
`requestMutex`. What CANopenNode's SDO client and NMT service return is an argument;
`used` lists the communication generations whose objects a section worked with, and
`received` the upload bytes it read.
-/

namespace CanopenRtt.Profile

open Support

/-- `CO_profile_master_RTT_request_kind_t` -/
inductive RequestKind where
  | none
  | upload
  | download
  | nmt
  deriving DecidableEq

/-- `CO_profile_master_RTT_phase_t` -/
inductive MasterPhase where
  | idle
  | pending
  | upload
  | download
  deriving DecidableEq

/-- What is built in: the NMT master and the SDO client of the ASCII gateway, and the error codes
of RT-Thread. -/
structure MasterBuild where
  nmtMaster : Bool
  gatewaySdo : Bool
  rtEfull : BitVec 32
  rtEnosys : BitVec 32
  rtEinval : BitVec 32

/-- What a bind reads of a `CO_t`: its generation, and the objects it has. -/
structure CoObject where
  generation : Nat
  nmt : Bool
  sdoClient : Bool
  sdoClientCount : Nat
  deriving DecidableEq

/-- The request fields of `CO_profile_master_RTT_t`. -/
structure MasterCall where
  kind : RequestKind
  remoteNodeId : Nat
  index : Nat
  subIndex : Nat
  size : Nat
  data : List (BitVec 8)
  nmtCommand : Nat
  deriving DecidableEq

/-- `CO_profile_master_RTT_t` without its IPC objects. A client is known by its
generation, and `uploadData` holds the `uploadSize` staged bytes. -/
structure MasterRuntime where
  sdoClientIndex : Nat
  co : Option CoObject
  client : Option Nat
  request : MasterCall
  phase : MasterPhase
  uploadData : List (BitVec 8)
  uploadOverflow : Bool
  result : TransferResult
  communicationReady : Bool
  mainlineReady : Bool
  deriving DecidableEq

/-- After `CO_profileMasterRTT_attach`. -/
def MasterRuntime.attached (sdoClientIndex : Nat) : MasterRuntime where
  sdoClientIndex := sdoClientIndex
  co := none
  client := none
  request := { kind := .none, remoteNodeId := 0, index := 0, subIndex := 0, size := 0, data := []
               nmtCommand := 0 }
  phase := .idle
  uploadData := []
  uploadOverflow := false
  result := { status := .ok }
  communicationReady := false
  mainlineReady := false

/-- The answers of CANopenNode in one pass, and the reset status of the pass. Return
values of the SDO client are those of `CO_SDO_return_t`. -/
structure PassAnswers where
  reset : Bool
  nmtSend : BitVec 32
  setup : Int
  initiate : Int
  bufWrite : Nat
  transfer : Int
  abortCode : BitVec 32
  sizeIndicated : Nat
  sizeTransferred : Nat
  chunks : List (List (BitVec 8))

def sdoOk : Int := 0

def sdoUploadDataBufferFull : Int := 5

def sdoAbortNone : BitVec 32 := 0#32

def sdoAbortTimeout : BitVec 32 := 0x05040000#32

/-- The bytes at the front of a scalar buffer of zeros. -/
def scalarBytes (bytes : List (BitVec 8)) : Vector (BitVec 8) controllerValueSizeMax :=
  Vector.ofFn fun i => bytes.getD i 0#8

/-- The outcome of a section in the mainline. -/
structure PassOutcome where
  runtime : MasterRuntime
  signal : Bool
  used : List Nat := []
  received : List (BitVec 8) := []

namespace MasterRuntime

/-- `clearResultLocked` -/
def clearedResult : TransferResult := { status := .localError }

/-- `finishLocked` -/
def finish (r : MasterRuntime) (status : TransferStatus) (abortCode localError : BitVec 32) :
    MasterRuntime :=
  let result : TransferResult :=
    { r.result with status := status, abortCode := abortCode, localError := localError }
  { r with
    result :=
      if status ≠ .ok then { result with size := 0#8, data := Vector.replicate _ 0#8 } else result
    phase := .idle
    request := { r.request with kind := .none } }

/-- The section of `cancelActive`, and whether it signals. -/
def cancelActive (r : MasterRuntime) : MasterRuntime × Bool :=
  if r.phase ≠ .idle then (r.finish .canceled 0 0, true) else (r, false)

/-- `publishCommunicationState` -/
def publish (r : MasterRuntime) (co : Option CoObject) (client : Option Nat) (ready : Bool) :
    MasterRuntime :=
  { r with
    co := co
    client := client
    communicationReady := ready
    mainlineReady := if ready then r.mainlineReady else false }

/-- `finishSdoErrorLocked` -/
def finishSdoError (r : MasterRuntime) (sdoRet : Int) (abortCode : BitVec 32) : MasterRuntime :=
  if abortCode = sdoAbortTimeout then r.finish .timeout abortCode 0
  else if abortCode ≠ sdoAbortNone then r.finish .abort abortCode 0
  else r.finish .localError 0 (BitVec.ofInt 32 sdoRet)

/-- The inner loop of `drainUploadLocked`. -/
def stageByte (r : MasterRuntime) (byte : BitVec 8) : MasterRuntime :=
  if r.uploadData.length < r.request.size then { r with uploadData := r.uploadData ++ [byte] }
  else { r with uploadOverflow := true }

/-- `drainUploadLocked`: a read that does not fill the buffer is the last one. -/
def drainUpload (r : MasterRuntime) : List (List (BitVec 8)) → MasterRuntime × List (BitVec 8)
  | [] => (r, [])
  | chunk :: chunks =>
      let staged := run stageByte r chunk
      if chunk.length = controllerValueSizeMax then
        let (drained, more) := staged.drainUpload chunks
        (drained, chunk ++ more)
      else (staged, chunk)

/-- `startPendingLocked` -/
def startPending (build : MasterBuild) (answers : PassAnswers) (r : MasterRuntime) :
    PassOutcome :=
  if r.request.kind = .nmt then
    if build.nmtMaster then
      match r.co with
      | none => { runtime := r.finish .canceled 0 0, signal := true }
      | some co =>
          if co.nmt then
            { runtime :=
                if answers.nmtSend = 0 then r.finish .ok 0 0
                else r.finish .localError 0 answers.nmtSend
              signal := true
              used := [co.generation] }
          else { runtime := r.finish .canceled 0 0, signal := true }
    else { runtime := r.finish .localError 0 (-build.rtEnosys), signal := true }
  else
    match r.client, r.co with
    | some client, some _ =>
        if answers.setup ≠ sdoOk then
          { runtime := r.finish .localError 0 (BitVec.ofInt 32 answers.setup)
            signal := true
            used := [client] }
        else if answers.initiate ≠ sdoOk then
          { runtime := r.finish .localError 0 (BitVec.ofInt 32 answers.initiate)
            signal := true
            used := [client] }
        else if r.request.kind = .upload then
          { runtime := { r with uploadData := [], uploadOverflow := false, phase := .upload }
            signal := false
            used := [client] }
        else if answers.bufWrite ≠ r.request.size then
          { runtime := r.finish .localError 0 (-build.rtEfull), signal := true, used := [client] }
        else { runtime := { r with phase := .download }, signal := false, used := [client] }
    | _, _ => { runtime := r.finish .canceled 0 0, signal := true }

/-- The end of an upload: the staged bytes are checked and become the result. -/
def finishUpload (build : MasterBuild) (answers : PassAnswers) (r : MasterRuntime) :
    MasterRuntime :=
  if r.uploadOverflow = true ∨ r.uploadData.length ≠ r.request.size ∨
      answers.sizeTransferred ≠ r.request.size ∨
      (answers.sizeIndicated ≠ 0 ∧ answers.sizeIndicated ≠ r.request.size) then
    r.finish .localError 0 (-build.rtEinval)
  else
    { r with
      result :=
        { r.result with
          size := BitVec.ofNat 8 r.uploadData.length
          data := scalarBytes r.uploadData } }.finish .ok 0 0

/-- `processSdoLocked` in the upload phase -/
def processUpload (build : MasterBuild) (answers : PassAnswers) (r : MasterRuntime) :
    PassOutcome :=
  let (drained, received) :=
    if answers.transfer = sdoUploadDataBufferFull ∨ answers.transfer = sdoOk then
      r.drainUpload answers.chunks
    else (r, [])
  let used := r.client.toList
  if answers.transfer < sdoOk then
    { runtime := drained.finishSdoError answers.transfer answers.abortCode
      signal := true
      used := used
      received := received }
  else if answers.transfer = sdoOk then
    { runtime := drained.finishUpload build answers
      signal := true
      used := used
      received := received }
  else { runtime := drained, signal := false, used := used, received := received }

/-- `processSdoLocked` in the download phase -/
def processDownload (build : MasterBuild) (answers : PassAnswers) (r : MasterRuntime) :
    PassOutcome :=
  let used := r.client.toList
  if answers.transfer < sdoOk then
    { runtime := r.finishSdoError answers.transfer answers.abortCode, signal := true, used := used }
  else if answers.transfer = sdoOk then
    if answers.sizeTransferred ≠ r.request.size then
      { runtime := r.finish .localError 0 (-build.rtEinval), signal := true, used := used }
    else
      { runtime := { r with result := { r.result with size := 0#8 } }.finish .ok 0 0
        signal := true
        used := used }
  else { runtime := r, signal := false, used := used }

/-- `processSdoLocked` -/
def processSdo (build : MasterBuild) (answers : PassAnswers) (r : MasterRuntime) : PassOutcome :=
  match r.phase with
  | .upload => r.processUpload build answers
  | .download => r.processDownload build answers
  | _ => { runtime := r, signal := false }

/-- The section of `onMainlineProcess`. -/
def mainlineProcess (build : MasterBuild) (answers : PassAnswers) (r : MasterRuntime) :
    PassOutcome :=
  if answers.reset then
    let r := { r with mainlineReady := false }
    let (r, signal) := r.cancelActive
    { runtime := r, signal := signal }
  else if r.communicationReady then
    let r := { r with mainlineReady := true }
    let started : PassOutcome :=
      if r.phase = .pending then r.startPending build answers
      else { runtime := r, signal := false }
    if started.runtime.phase = .upload ∨ started.runtime.phase = .download then
      let processed := started.runtime.processSdo build answers
      { processed with used := started.used ++ processed.used }
    else started
  else { runtime := r, signal := false }

/-- The section of `submitAndWait` that publishes a request; `none` is `-RT_EBUSY`. -/
def submit (r : MasterRuntime) (call : MasterCall) : Option MasterRuntime :=
  if r.communicationReady ≠ true ∨ r.mainlineReady ≠ true ∨ r.co = none ∨ r.client = none ∨
      r.phase ≠ .idle then none
  else
    some
      { r with
        result := clearedResult
        request := call
        phase := .pending
        uploadData := []
        uploadOverflow := false }

/-- `onCommunicationBind`; `none` refuses the generation. -/
def communicationBind (build : MasterBuild) (r : MasterRuntime) (co : CoObject) :
    Option MasterRuntime :=
  if co.sdoClient = false ∨ co.sdoClientCount ≤ r.sdoClientIndex then none
  else if build.gatewaySdo = true ∧ r.sdoClientIndex = 0 then none
  else some (r.publish (some co) (some co.generation) false)

/-- `onCommunicationReady` -/
def communicationReadyAt (r : MasterRuntime) : MasterRuntime :=
  if r.co ≠ none ∧ r.client ≠ none then r.publish r.co r.client true else r

end MasterRuntime

/-- The argument checks of `CO_profileMasterRTT_sdoUpload`, `CO_profileMasterRTT_sdoDownload`
and `CO_profileMasterRTT_nmtCommand`. -/
def MasterCall.valid (call : MasterCall) : Bool :=
  match call.kind with
  | .none => false
  | .upload | .download => sdoArgumentsValid call.remoteNodeId call.index call.size
  | .nmt => decide (call.remoteNodeId ≤ 127) && [1, 2, 128, 129, 130].contains call.nmtCommand

/-! ### What a section does to the request -/

namespace MasterRuntime

/-- What no section of the mainline and no cancellation touches. -/
structure SameGeneration (r r' : MasterRuntime) : Prop where
  sdoClientIndex : r'.sdoClientIndex = r.sdoClientIndex
  co : r'.co = r.co
  client : r'.client = r.client
  communicationReady : r'.communicationReady = r.communicationReady

theorem SameGeneration.trans {r r' r'' : MasterRuntime} (h : SameGeneration r r')
    (h' : SameGeneration r' r'') : SameGeneration r r'' where
  sdoClientIndex := h'.sdoClientIndex.trans h.sdoClientIndex
  co := h'.co.trans h.co
  client := h'.client.trans h.client
  communicationReady := h'.communicationReady.trans h.communicationReady

/-- An upload that succeeds has received the requested bytes, no fewer and no more. -/
def UploadExact (call : MasterCall) (received : List (BitVec 8)) (result : TransferResult) : Prop :=
  call.kind = .upload → result.status = .ok →
    received.length = call.size ∧ result.size = BitVec.ofNat 8 call.size ∧
      result.data = scalarBytes received

/-- The runtime works on `call` and has read `received` for it. -/
structure Staged (call : MasterCall) (received : List (BitVec 8)) (r : MasterRuntime) : Prop where
  active : r.phase ≠ .idle
  request : r.request = call
  pending : r.phase = .pending → received = []
  upload : r.phase = .upload → r.uploadData = received.take call.size ∧
    (r.uploadOverflow = true ↔ call.size < received.length)
  download : r.phase = .download → call.kind ≠ .upload

/-- A section has either kept the request active or ended it with a result. -/
inductive Progress (call : MasterCall) (received : List (BitVec 8)) (r : MasterRuntime) :
    PassOutcome → Prop where
  | active (r' : MasterRuntime) (used : List Nat) (more : List (BitVec 8))
      (hstaged : r'.Staged call (received ++ more)) (hsame : SameGeneration r r')
      (hused : used ≠ [] → r.communicationReady = true) :
      Progress call received r { runtime := r', signal := false, used := used, received := more }
  | ended (r' : MasterRuntime) (used : List Nat) (more : List (BitVec 8))
      (hidle : r'.phase = .idle) (hexact : UploadExact call (received ++ more) r'.result)
      (hsame : SameGeneration r r') (hused : used ≠ [] → r.communicationReady = true) :
      Progress call received r { runtime := r', signal := true, used := used, received := more }

theorem finish_same (r : MasterRuntime) (status : TransferStatus)
    (abortCode localError : BitVec 32) :
    SameGeneration r (r.finish status abortCode localError) := ⟨rfl, rfl, rfl, rfl⟩

theorem status_finish (r : MasterRuntime) (status : TransferStatus)
    (abortCode localError : BitVec 32) :
    (r.finish status abortCode localError).result.status = status := by
  unfold finish
  dsimp only
  split <;> rfl

/-- A request that ends without success promises nothing. -/
theorem uploadExact_failed {call : MasterCall} {received : List (BitVec 8)} {r : MasterRuntime}
    (status : TransferStatus) (h : status ≠ .ok) (abortCode localError : BitVec 32) :
    UploadExact call received (r.finish status abortCode localError).result := by
  intro _ hok
  rw [status_finish] at hok
  exact absurd hok h

theorem uploadExact_other {call : MasterCall} (h : call.kind ≠ .upload)
    (received : List (BitVec 8)) (result : TransferResult) : UploadExact call received result :=
  fun hkind => absurd hkind h

theorem Progress.failed {call : MasterCall} {received : List (BitVec 8)} {r : MasterRuntime}
    (status : TransferStatus) (hstatus : status ≠ .ok) (abortCode localError : BitVec 32)
    {used : List Nat} (hused : used ≠ [] → r.communicationReady = true) :
    Progress call received r
      { runtime := r.finish status abortCode localError, signal := true, used := used } :=
  .ended _ _ _ rfl (uploadExact_failed status hstatus abortCode localError) (finish_same ..) hused

/-- The staging buffer holds the front of what was read, and remembers an excess. -/
structure Uploading (size : Nat) (received : List (BitVec 8)) (r : MasterRuntime) : Prop where
  request : r.request.size = size
  data : r.uploadData = received.take size
  overflow : r.uploadOverflow = true ↔ size < received.length

theorem Uploading.stageByte {size : Nat} {received : List (BitVec 8)} {r : MasterRuntime}
    (h : r.Uploading size received) (byte : BitVec 8) :
    (r.stageByte byte).Uploading size (received ++ [byte]) := by
  have hlength : r.uploadData.length = min size received.length := by
    rw [h.data, List.length_take]
  unfold MasterRuntime.stageByte
  rw [h.request]
  by_cases hroom : r.uploadData.length < size
  · rw [if_pos hroom]
    have hshort : received.length < size := by omega
    refine ⟨h.request, ?_, ?_⟩
    · have hall : received.take size = received := List.take_of_length_le (Nat.le_of_lt hshort)
      have hnext : (received ++ [byte]).take size = received ++ [byte] :=
        List.take_of_length_le (by rw [List.length_append, List.length_singleton]; omega)
      dsimp only
      rw [h.data, hall, hnext]
    · rw [List.length_append, List.length_singleton]
      dsimp only
      rw [h.overflow]
      omega
  · rw [if_neg hroom]
    have hfull : size ≤ received.length := by omega
    refine ⟨h.request, ?_, ?_⟩
    · dsimp only
      rw [h.data, List.take_append_of_le_length hfull]
    · rw [List.length_append, List.length_singleton]
      simp only [true_iff]
      omega

/-- What draining leaves alone. -/
structure DrainFrame (r r' : MasterRuntime) : Prop where
  same : SameGeneration r r'
  request : r'.request = r.request
  phase : r'.phase = r.phase

theorem DrainFrame.refl (r : MasterRuntime) : DrainFrame r r := ⟨⟨rfl, rfl, rfl, rfl⟩, rfl, rfl⟩

theorem DrainFrame.trans {r r' r'' : MasterRuntime} (h : DrainFrame r r')
    (h' : DrainFrame r' r'') : DrainFrame r r'' :=
  ⟨h.same.trans h'.same, h'.request.trans h.request, h'.phase.trans h.phase⟩

theorem stageByte_frame (r : MasterRuntime) (byte : BitVec 8) :
    DrainFrame r (r.stageByte byte) := by
  unfold MasterRuntime.stageByte
  split <;> exact ⟨⟨rfl, rfl, rfl, rfl⟩, rfl, rfl⟩

/-- A chunk is staged byte by byte. -/
theorem run_stageByte {size : Nat} {received : List (BitVec 8)} {r : MasterRuntime}
    (h : r.Uploading size received) (chunk : List (BitVec 8)) :
    (run MasterRuntime.stageByte r chunk).Uploading size (received ++ chunk) ∧
      DrainFrame r (run MasterRuntime.stageByte r chunk) := by
  induction chunk generalizing r received with
  | nil =>
      rw [List.append_nil]
      exact ⟨h, .refl r⟩
  | cons byte chunk ih =>
      obtain ⟨hstaged, hframe⟩ := ih (h.stageByte byte)
      rw [List.append_assoc, List.singleton_append] at hstaged
      exact ⟨hstaged, (stageByte_frame r byte).trans hframe⟩

/-- All bytes that the client has are drained. -/
theorem drainUpload_spec {size : Nat} {received : List (BitVec 8)} {r : MasterRuntime}
    (h : r.Uploading size received) (chunks : List (List (BitVec 8))) :
    (r.drainUpload chunks).1.Uploading size (received ++ (r.drainUpload chunks).2) ∧
      DrainFrame r (r.drainUpload chunks).1 := by
  induction chunks generalizing r received with
  | nil =>
      unfold drainUpload
      rw [List.append_nil]
      exact ⟨h, .refl r⟩
  | cons chunk chunks ih =>
      obtain ⟨hchunk, hframe⟩ := run_stageByte h chunk
      unfold drainUpload
      dsimp only
      split
      · obtain ⟨hrest, hmore⟩ := ih hchunk
        rw [List.append_assoc] at hrest
        exact ⟨hrest, hframe.trans hmore⟩
      · exact ⟨hchunk, hframe⟩

/-- The checks at the end of an upload pass only for the requested number of bytes. -/
theorem finishUpload_exact {call : MasterCall} {received : List (BitVec 8)} {r : MasterRuntime}
    (h : r.Uploading call.size received) (build : MasterBuild) (answers : PassAnswers) :
    UploadExact call received (r.finishUpload build answers).result := by
  unfold finishUpload
  split
  · exact uploadExact_failed .localError nofun _ _
  · rename_i hchecked
    rw [not_or, not_or, h.request] at hchecked
    obtain ⟨hoverflow, hsize, -⟩ := hchecked
    have hlength : r.uploadData.length = min call.size received.length := by
      rw [h.data, List.length_take]
    have hexcess : ¬ call.size < received.length := fun hlt => hoverflow (h.overflow.mpr hlt)
    have hexact : received.length = call.size := by omega
    intro _ _
    refine ⟨hexact, ?_, ?_⟩
    · unfold finish
      dsimp only
      rw [if_neg (not_not_intro rfl), not_not.mp hsize]
    · unfold finish
      dsimp only
      rw [if_neg (not_not_intro rfl), h.data, List.take_of_length_le (Nat.le_of_eq hexact)]

theorem finishUpload_frame (build : MasterBuild) (answers : PassAnswers) (r : MasterRuntime) :
    (r.finishUpload build answers).phase = .idle ∧
      SameGeneration r (r.finishUpload build answers) := by
  unfold finishUpload
  split
  · exact ⟨rfl, finish_same ..⟩
  · exact ⟨rfl, rfl, rfl, rfl, rfl⟩

theorem finishSdoError_spec (call : MasterCall) (received : List (BitVec 8)) (r : MasterRuntime)
    (sdoRet : Int) (abortCode : BitVec 32) :
    (r.finishSdoError sdoRet abortCode).phase = .idle ∧
      SameGeneration r (r.finishSdoError sdoRet abortCode) ∧
      UploadExact call received (r.finishSdoError sdoRet abortCode).result := by
  unfold finishSdoError
  split
  · exact ⟨rfl, finish_same .., uploadExact_failed .timeout nofun _ _⟩
  · split
    · exact ⟨rfl, finish_same .., uploadExact_failed .abort nofun _ _⟩
    · exact ⟨rfl, finish_same .., uploadExact_failed .localError nofun _ _⟩

section Sections

variable {call : MasterCall} {received : List (BitVec 8)} {r : MasterRuntime}

theorem Staged.uploading (h : r.Staged call received) (hphase : r.phase = .upload) :
    r.Uploading call.size received :=
  ⟨congrArg MasterCall.size h.request, (h.upload hphase).1, (h.upload hphase).2⟩

theorem staged_of_uploading (hrequest : r.request = call) (hphase : r.phase = .upload)
    (h : r.Uploading call.size received) : r.Staged call received where
  active := by
    rw [hphase]
    nofun
  request := hrequest
  pending hpending := by
    rw [hphase] at hpending
    contradiction
  upload _ := ⟨h.data, h.overflow⟩
  download hdownload := by
    rw [hphase] at hdownload
    contradiction

theorem processUpload_progress (h : r.Staged call received) (hphase : r.phase = .upload)
    (hready : r.communicationReady = true) (build : MasterBuild) (answers : PassAnswers) :
    Progress call received r (r.processUpload build answers) := by
  have hdrained : ∃ drained more,
      (if answers.transfer = sdoUploadDataBufferFull ∨ answers.transfer = sdoOk then
        r.drainUpload answers.chunks else (r, [])) = (drained, more) ∧
      drained.Uploading call.size (received ++ more) ∧ DrainFrame r drained := by
    split
    · obtain ⟨huploading, hframe⟩ := drainUpload_spec (h.uploading hphase) answers.chunks
      exact ⟨_, _, rfl, huploading, hframe⟩
    · refine ⟨r, [], rfl, ?_, .refl r⟩
      rw [List.append_nil]
      exact h.uploading hphase
  obtain ⟨drained, more, hdrain, huploading, hframe⟩ := hdrained
  unfold processUpload
  rw [hdrain]
  dsimp only
  split
  · obtain ⟨hidle, hsame, hexact⟩ := finishSdoError_spec call (received ++ more) drained
      answers.transfer answers.abortCode
    exact .ended _ _ _ hidle hexact (hframe.same.trans hsame) fun _ => hready
  · split
    · obtain ⟨hidle, hsame⟩ := finishUpload_frame build answers drained
      exact .ended _ _ _ hidle (finishUpload_exact huploading build answers)
        (hframe.same.trans hsame) fun _ => hready
    · have hstaged := staged_of_uploading (hframe.request.trans h.request)
        (hframe.phase.trans hphase) huploading
      exact .active _ _ _ hstaged hframe.same fun _ => hready

theorem processDownload_progress (h : r.Staged call received) (hphase : r.phase = .download)
    (hready : r.communicationReady = true) (build : MasterBuild) (answers : PassAnswers) :
    Progress call received r (r.processDownload build answers) := by
  have hexact := fun result => uploadExact_other (h.download hphase) received result
  unfold processDownload
  dsimp only
  split
  · obtain ⟨hidle, hsame, -⟩ := finishSdoError_spec call received r answers.transfer
      answers.abortCode
    refine .ended _ _ _ hidle ?_ hsame fun _ => hready
    rw [List.append_nil]
    exact hexact _
  · split
    · split
      · exact .failed .localError nofun _ _ fun _ => hready
      · refine .ended _ _ _ rfl ?_ ⟨rfl, rfl, rfl, rfl⟩ fun _ => hready
        rw [List.append_nil]
        exact hexact _
    · refine .active _ _ _ ?_ ⟨rfl, rfl, rfl, rfl⟩ fun _ => hready
      rw [List.append_nil]
      exact h

theorem startPending_progress (h : r.Staged call received) (hphase : r.phase = .pending)
    (hready : r.communicationReady = true) (build : MasterBuild) (answers : PassAnswers) :
    Progress call received r (r.startPending build answers) := by
  have hnone : received = [] := h.pending hphase
  unfold startPending
  split
  · rename_i hnmt
    rw [h.request] at hnmt
    have hother : call.kind ≠ .upload := by
      rw [hnmt]
      nofun
    split
    · split
      · exact .failed .canceled nofun _ _ nofun
      · split
        · split
          · exact .ended _ _ _ rfl (uploadExact_other hother _ _) (finish_same ..) fun _ => hready
          · exact .failed .localError nofun _ _ fun _ => hready
        · exact .failed .canceled nofun _ _ nofun
    · exact .failed .localError nofun _ _ nofun
  · split
    · split
      · exact .failed .localError nofun _ _ fun _ => hready
      · split
        · exact .failed .localError nofun _ _ fun _ => hready
        · split
          · refine .active _ _ _ ?_ ⟨rfl, rfl, rfl, rfl⟩ fun _ => hready
            rw [List.append_nil, hnone]
            have hempty : ({ r with uploadData := [], uploadOverflow := false, phase := .upload } :
                MasterRuntime).Uploading call.size [] :=
              ⟨congrArg MasterCall.size h.request, by rw [List.take_nil],
                by simp⟩
            exact staged_of_uploading h.request rfl hempty
          · rename_i hkind
            split
            · exact .failed .localError nofun _ _ fun _ => hready
            · refine .active _ _ _ ?_ ⟨rfl, rfl, rfl, rfl⟩ fun _ => hready
              rw [List.append_nil]
              rw [h.request] at hkind
              exact ⟨nofun, h.request, nofun, nofun, fun _ => hkind⟩
    · exact .failed .canceled nofun _ _ nofun

theorem received_startPending (build : MasterBuild) (answers : PassAnswers) (r : MasterRuntime) :
    (r.startPending build answers).received = [] := by
  unfold startPending
  repeat' split
  all_goals rfl

theorem processSdo_progress (h : r.Staged call received)
    (hphase : r.phase = .upload ∨ r.phase = .download) (hready : r.communicationReady = true)
    (build : MasterBuild) (answers : PassAnswers) :
    Progress call received r (r.processSdo build answers) := by
  unfold processSdo
  rcases hphase with hupload | hdownload
  · rw [hupload]
    exact processUpload_progress h hupload hready build answers
  · rw [hdownload]
    exact processDownload_progress h hdownload hready build answers

/-- The request goes on in the pass that has started it. -/
theorem Progress.continued {r' : MasterRuntime} {used : List Nat} {outcome : PassOutcome}
    (h : Progress call received r' outcome) (hsame : SameGeneration r r')
    (hready : r.communicationReady = true) :
    Progress call received r { outcome with used := used ++ outcome.used } := by
  cases h with
  | active r'' _ more hstaged hsame' =>
      exact .active r'' _ more hstaged (hsame.trans hsame') fun _ => hready
  | ended r'' _ more hidle hexact hsame' =>
      exact .ended r'' _ more hidle hexact (hsame.trans hsame') fun _ => hready

theorem Staged.withMainlineReady (h : r.Staged call received) (ready : Bool) :
    ({ r with mainlineReady := ready } : MasterRuntime).Staged call received :=
  ⟨h.active, h.request, h.pending, h.upload, h.download⟩

theorem phase_of_staged (h : r.Staged call received) (hpending : r.phase ≠ .pending) :
    r.phase = .upload ∨ r.phase = .download := by
  have hactive := h.active
  cases hphase : r.phase with
  | idle => exact absurd hphase hactive
  | pending => exact absurd hphase hpending
  | upload => exact .inl rfl
  | download => exact .inr rfl

/-- A pass keeps the request going, or ends it. -/
theorem mainlineProcess_progress (h : r.Staged call received) (build : MasterBuild)
    (answers : PassAnswers) : Progress call received r (r.mainlineProcess build answers) := by
  unfold mainlineProcess
  by_cases hreset : answers.reset = true
  · rw [if_pos hreset]
    have hcancel : ({ r with mainlineReady := false } : MasterRuntime).cancelActive =
        (({ r with mainlineReady := false } : MasterRuntime).finish .canceled 0 0, true) :=
      if_pos h.active
    dsimp only
    rw [hcancel]
    exact .ended _ _ _ rfl (uploadExact_failed .canceled nofun _ _) ⟨rfl, rfl, rfl, rfl⟩ nofun
  · rw [if_neg hreset]
    by_cases hready : r.communicationReady = true
    · rw [if_pos hready]
      have hstaged := h.withMainlineReady true
      have hsame : SameGeneration r { r with mainlineReady := true } := ⟨rfl, rfl, rfl, rfl⟩
      dsimp only
      by_cases hpending : r.phase = .pending
      · rw [if_pos hpending]
        have hstarted := startPending_progress hstaged hpending hready build answers
        have hnothing := received_startPending build answers { r with mainlineReady := true }
        generalize ({ r with mainlineReady := true } : MasterRuntime).startPending build answers =
          started at hstarted hnothing ⊢
        cases hstarted with
        | active r' used more hstaged' hsame' =>
            dsimp only at hnothing ⊢
            rw [hnothing, List.append_nil] at hstaged'
            split
            · rename_i hphase
              have hready' : r'.communicationReady = true := hsame'.communicationReady.trans hready
              exact (processSdo_progress hstaged' hphase hready' build answers).continued
                (hsame.trans hsame') hready
            · refine .active r' used more ?_ (hsame.trans hsame') fun _ => hready
              rwa [hnothing, List.append_nil]
        | ended r' used more hidle hexact hsame' =>
            dsimp only
            rw [if_neg (by rw [hidle]; decide)]
            exact .ended r' used more hidle hexact (hsame.trans hsame') fun _ => hready
      · rw [if_neg hpending]
        have hphase := phase_of_staged h hpending
        rw [if_pos hphase]
        exact (processSdo_progress hstaged hphase hready build answers).continued hsame hready
    · rw [if_neg hready]
      refine .active r [] [] ?_ ⟨rfl, rfl, rfl, rfl⟩ nofun
      rw [List.append_nil]
      exact h

/-- Without a request a pass only notes that the mainline runs. -/
theorem mainlineProcess_idle (h : r.phase = .idle) (build : MasterBuild) (answers : PassAnswers) :
    ∃ ready, r.mainlineProcess build answers =
      { runtime := { r with mainlineReady := ready }, signal := false } := by
  unfold mainlineProcess
  by_cases hreset : answers.reset = true
  · rw [if_pos hreset]
    have hcancel : ({ r with mainlineReady := false } : MasterRuntime).cancelActive =
        ({ r with mainlineReady := false }, false) := if_neg (not_not_intro h)
    dsimp only
    rw [hcancel]
    exact ⟨false, rfl⟩
  · rw [if_neg hreset]
    by_cases hready : r.communicationReady = true
    · rw [if_pos hready]
      have hpending : r.phase ≠ .pending := by
        rw [h]
        decide
      have htransfer : ¬ (r.phase = .upload ∨ r.phase = .download) := by
        rw [h]
        decide
      dsimp only
      rw [if_neg hpending, if_neg htransfer]
      exact ⟨true, rfl⟩
    · rw [if_neg hready]
      exact ⟨r.mainlineReady, rfl⟩

theorem submit_some {r' : MasterRuntime} (h : r.submit call = some r') :
    r.phase = .idle ∧ r.communicationReady = true ∧ r'.Staged call [] ∧ SameGeneration r r' := by
  unfold submit at h
  split at h
  · contradiction
  · rename_i hadmits
    simp only [not_or, not_not] at hadmits
    obtain ⟨hready, -, -, -, hidle⟩ := hadmits
    cases h
    exact ⟨hidle, hready, ⟨nofun, rfl, fun _ => rfl, nofun, nofun⟩, rfl, rfl, rfl, rfl⟩

end Sections

end MasterRuntime

end CanopenRtt.Profile
