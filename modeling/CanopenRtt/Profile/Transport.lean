import Mathlib.Data.BitVec
/-!
# The portable profile transport

`profile/common/port/CO_profile_transport.c`: argument checks in front of a
backend. The backend and the remote node are outside the repository, so the
answer a call gets is data of the call.
-/

namespace CanopenRtt.Profile

def controllerValueSizeMax : Nat := 8

/-- Stack-neutral admission result (`CO_profile_call_status_t`). -/
inductive CallStatus where
  | ok
  | invalidArgument
  | notReady
  | busy
  | contextError
  | backendError
  deriving DecidableEq, Repr

/-- Portable call status, and the backend-native error value. -/
structure CallResult where
  status : CallStatus
  backendError : BitVec 32 := 0
  deriving DecidableEq, Repr

/-- Terminal classification of one transfer (`CO_profile_transfer_status_t`). -/
inductive TransferStatus where
  | ok
  | abort
  | timeout
  | canceled
  | localError
  deriving DecidableEq, Repr

/-- Terminal transfer result; `data` are the bytes of the scalar, in CANopen
little-endian order. -/
structure TransferResult where
  status : TransferStatus
  abortCode : BitVec 32 := 0
  localError : BitVec 32 := 0
  data : Vector (BitVec 8) controllerValueSizeMax := Vector.replicate _ 0
  size : BitVec 8 := 0
  deriving DecidableEq, Repr

/-- What the backend answers to one SDO call. The transfer result is written only
when the call is accepted. -/
structure SdoAnswer where
  call : CallResult
  transfer : TransferResult
  deriving DecidableEq, Repr

/-- The call and the transfer it admitted both succeeded. -/
def SdoAnswer.accepted (answer : SdoAnswer) : Bool :=
  answer.call.status = .ok && answer.transfer.status = .ok

/-- Which backend operations are present. -/
structure Transport where
  sdoUpload : Bool
  sdoDownload : Bool
  deriving DecidableEq, Repr

def invalidArgument : CallResult := { status := .invalidArgument }

/-- The checks shared by the upload and the download of a scalar. -/
def sdoArgumentsValid (remoteNodeId index size : Nat) : Bool :=
  remoteNodeId ≠ 0 && remoteNodeId ≤ 127 && index ≠ 0
    && size ≠ 0 && size ≤ controllerValueSizeMax

def sdoUpload (transport : Transport) (remoteNodeId index expectedSize : Nat)
    (backend : SdoAnswer) : SdoAnswer :=
  if !transport.sdoUpload || !sdoArgumentsValid remoteNodeId index expectedSize then
    { backend with call := invalidArgument }
  else backend

def sdoDownload (transport : Transport) (remoteNodeId index size : Nat)
    (backend : SdoAnswer) : SdoAnswer :=
  if !transport.sdoDownload || !sdoArgumentsValid remoteNodeId index size then
    { backend with call := invalidArgument }
  else backend

end CanopenRtt.Profile
