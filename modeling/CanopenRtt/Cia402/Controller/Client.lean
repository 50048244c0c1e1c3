import CanopenRtt.Profile.Layout
import CanopenRtt.Profile.Transport
import CanopenRtt.Cia402.Controller.Core
/-!
# The transport-backed Controller client

`controller/CO_402_controller_client.c`: the Controller core behind blocking SDO
transfers to one remote axis. A call with a NULL client has no state to act on
and is left out.
-/

namespace CanopenRtt.Cia402.Controller

open CanopenRtt.Profile

def indexControlword : Nat := 0x6040
def indexStatusword : Nat := 0x6041

structure ClientConfig where
  nodeId : Nat
  logicalDevice : Nat
  controller : Config
  deriving DecidableEq, Repr

/-- `CO_402_controller_client_t`. -/
structure Client where
  transport : Transport
  controller : Axis
  nodeId : Nat
  logicalDevice : Nat
  pendingUpdate : ControlwordUpdate := {}
  deferredElapsed : UInt32 := 0
  pendingUpdateValid : Bool := false
  pendingFaultResetEdge : Bool := false
  initialized : Bool := false
  deriving DecidableEq, Repr

/-- A cleared transfer result: an unattempted local error. -/
def clearedTransfer : TransferResult := { status := .localError }

/-- `CO_402_controller_client_step_result_t`. -/
structure StepResult where
  controllerResult : Result := .idle
  statuswordTransfer : TransferResult := clearedTransfer
  controlwordReadTransfer : TransferResult := clearedTransfer
  controlwordWriteTransfer : TransferResult := clearedTransfer
  statusword : Word := 0
  controlword : Word := 0
  statuswordValid : Bool := false
  commandPending : Bool := false
  commandAccepted : Bool := false
  deriving DecidableEq, Repr

/-- What the backend answers during one process call. Each transfer is attempted at
most once. -/
structure Answers where
  statuswordUpload : SdoAnswer
  controlwordUpload : SdoAnswer
  controlwordDownload : SdoAnswer
  deriving DecidableEq, Repr

/-- One attempted SDO download, with its answer. -/
structure Download where
  index : Nat
  data : BitVec 8 × BitVec 8
  answer : SdoAnswer
  deriving DecidableEq, Repr

/-- What one process call leaves: the client, the step result, the returned call
status, and the download it attempted. -/
structure Outcome where
  client : Client
  step : StepResult
  call : CallResult
  download : Option Download := none
  deriving DecidableEq, Repr

def okCall : CallResult := { status := .ok }

/-- Commit deferred elapsed time to feedback age. -/
def commitDeferredFeedbackElapsed (client : Client) : Client :=
  { client with
    controller :=
      { client.controller with
        feedbackElapsed :=
          saturatingAddU32 client.controller.feedbackElapsed client.deferredElapsed }
    deferredElapsed := 0 }

def decodeU16 (result : TransferResult) : Word :=
  result.data[0].setWidth 16 ||| result.data[1].setWidth 16 <<< 8

def encodeU16 (value : Word) : BitVec 8 × BitVec 8 :=
  (value.setWidth 8, (value >>> 8).setWidth 8)

/-- The value two little-endian bytes carry. -/
def wordOfBytes (data : BitVec 8 × BitVec 8) : Word :=
  data.1.setWidth 16 ||| data.2.setWidth 16 <<< 8

def clearPendingUpdate (client : Client) : Client :=
  { client with pendingUpdateValid := false, pendingUpdate := {} }

/-- The read-modify-write pair on the remote Controlword. -/
def flushPendingUpdate (client : Client) (step : StepResult) (answers : Answers) : Outcome :=
  let index := profileIndex client.logicalDevice indexControlword
  let step := { step with commandPending := true }
  let read := sdoUpload client.transport client.nodeId index 2 answers.controlwordUpload
  if read.call.status ≠ .ok then { client := client, step := step, call := read.call }
  else
    let step := { step with controlwordReadTransfer := read.transfer }
    if read.transfer.status ≠ .ok then { client := client, step := step, call := okCall }
    else
      let controlword :=
        applyControlwordUpdate (decodeU16 read.transfer) client.pendingUpdate
      let step := { step with controlword := controlword }
      let write :=
        sdoDownload client.transport client.nodeId index 2 answers.controlwordDownload
      let download :=
        { index := index, data := encodeU16 controlword, answer := write : Download }
      if write.call.status ≠ .ok then
        { client := client, step := step, call := write.call, download := some download }
      else
        let step := { step with controlwordWriteTransfer := write.transfer }
        if write.transfer.status = .ok then
          { client := { clearPendingUpdate client with pendingFaultResetEdge := false }
            step := { step with commandPending := false, commandAccepted := true }
            call := okCall
            download := some download }
        else { client := client, step := step, call := okCall, download := some download }

/-- `CO_402_controller_client_init` with non-NULL pointers; `opsGiven` says that the
transport has an operation table. -/
def clientInit (transport : Transport) (opsGiven : Bool) (config : ClientConfig) :
    Option Client :=
  if !opsGiven || config.nodeId = 0 || 127 < config.nodeId
      || !logicalDeviceValid config.logicalDevice then
    none
  else
    some
      { transport := transport
        controller := init config.controller
        nodeId := config.nodeId
        logicalDevice := config.logicalDevice
        initialized := true }

/-- `CO_402_controller_client_setTarget`, with its return value. -/
def clientSetTarget (client : Client) (code : Int) : Client × Bool :=
  if !client.initialized || client.pendingFaultResetEdge then (client, false)
  else
    let sameTarget :=
      client.controller.targetValid && targetOfCode code = some client.controller.target
    let (controller, accepted) := setTarget client.controller code
    let client := { client with controller := controller }
    if accepted && !sameTarget then
      (clearPendingUpdate (commitDeferredFeedbackElapsed client), accepted)
    else (client, accepted)

def clientClearTarget (client : Client) : Client :=
  if !client.initialized then client
  else
    let client :=
      commitDeferredFeedbackElapsed { client with controller := clearTarget client.controller }
    if !client.pendingFaultResetEdge then clearPendingUpdate client else client

/-- `CO_402_controller_client_requestFaultReset`, with its return value. -/
def clientRequestFaultReset (client : Client) : Client × Bool :=
  if !client.initialized || client.pendingFaultResetEdge then (client, false)
  else
    let (controller, accepted) := requestFaultReset client.controller
    let client := { client with controller := controller }
    if accepted then (clearPendingUpdate client, accepted) else (client, accepted)

/-- The retry of a pending update, which does not advance the core. -/
def retryPendingUpdate (client : Client) (step : StepResult) (timeDifference : UInt32)
    (answers : Answers) : Outcome :=
  let client :=
    { client with deferredElapsed := saturatingAddU32 client.deferredElapsed timeDifference }
  let outcome := flushPendingUpdate client step answers
  if outcome.step.commandAccepted then
    { outcome with client := commitDeferredFeedbackElapsed outcome.client }
  else outcome

/-- The feedback that a terminal Statusword transfer gives to the core. -/
def transferFeedback (transfer : TransferResult) : Feedback :=
  if transfer.status = .ok then { statuswordValid := true, statusword := decodeU16 transfer }
  else { statuswordValid := false, statusword := 0 }

/-- The semantic step after an admitted Statusword upload. -/
def processStatusword (client : Client) (step : StepResult) (timeDifference : UInt32)
    (transfer : TransferResult) (answers : Answers) : Outcome :=
  let semanticElapsed := saturatingAddU32 client.deferredElapsed timeDifference
  let client := { client with deferredElapsed := 0 }
  let feedback := transferFeedback transfer
  let step :=
    { step with
      statuswordTransfer := transfer
      statusword := feedback.statusword
      statuswordValid := feedback.statuswordValid }
  let faultResetPulseWasHigh := client.controller.faultResetPulseHigh
  let (controller, update) := process client.controller feedback semanticElapsed
  let client := { client with controller := controller }
  let step := { step with controllerResult := controller.result }
  if !update.valid then { client := client, step := step, call := okCall }
  else
    flushPendingUpdate
      { client with
        pendingUpdate := update
        pendingUpdateValid := true
        pendingFaultResetEdge := faultResetPulseWasHigh || controller.faultResetPulseHigh }
      step answers

/-- `CO_402_controller_client_process` on an initialized client and a non-NULL result. -/
def clientProcess (client : Client) (timeDifference : UInt32) (answers : Answers) : Outcome :=
  let step := { controllerResult := getResult client.controller : StepResult }
  if client.pendingUpdateValid then retryPendingUpdate client step timeDifference answers
  else
    let statusIndex := profileIndex client.logicalDevice indexStatusword
    if statusIndex = indexInvalid then
      { client := client, step := step, call := invalidArgument }
    else
      let status :=
        sdoUpload client.transport client.nodeId statusIndex 2 answers.statuswordUpload
      if status.call.status ≠ .ok then
        { client :=
            { client with
              deferredElapsed := saturatingAddU32 client.deferredElapsed timeDifference }
          step := step
          call := status.call }
      else processStatusword client step timeDifference status.transfer answers

/-- `CO_402_controller_client_process`; `resultGiven` says that the result pointer is
not NULL. -/
def clientProcessCall (client : Client) (timeDifference : UInt32) (resultGiven : Bool)
    (answers : Answers) : Outcome :=
  if !resultGiven || !client.initialized then
    { client := client, step := {}, call := invalidArgument }
  else clientProcess client timeDifference answers

/-- The complete Controlword that a process call got accepted by the remote axis. -/
def Outcome.written (outcome : Outcome) : Option Word :=
  outcome.download.bind fun download =>
    if download.answer.accepted then some (wordOfBytes download.data) else none

/-! ## Encoding of a Controlword -/

/-- The bytes of a Controlword carry it. -/
theorem wordOfBytes_encodeU16 (value : Word) : wordOfBytes (encodeU16 value) = value := by
  unfold wordOfBytes encodeU16
  apply BitVec.eq_of_getLsbD_eq
  intro i hi
  simp only [BitVec.getLsbD_or, BitVec.getLsbD_setWidth, BitVec.getLsbD_shiftLeft,
    BitVec.getLsbD_ushiftRight]
  by_cases hlow : i < 8
  · simp [hlow]
    omega
  · have hshift : 8 + (i - 8) = i := by omega
    have hhigh : i - 8 < 8 := by omega
    have hword : i - 8 < 16 := by omega
    simp [hlow, hshift, hhigh, hword, hi]

end CanopenRtt.Cia402.Controller
