import CanopenRtt.Driver.FilterRefresh
import CanopenRtt.Support.SerialTime
/-!
# The transmit path

`CO_CANtxBufferInit`, `CO_CANsend`, `CO_RTT_CANsetTxSuccessCallback`,
`CO_CANclearPendingSyncPDOs` and the status poll of `CO_CANmodule_process` of
`port/rtthread/CO_driver_rtthread.c`, one section under `canSendMutex` at a time.
-/

namespace CanopenRtt.Driver

open Support

/-! ## Frames -/

/-- `CO_CANtx_t`; `ident` holds the identifier in bits 0..10 and RTR in bit 11. -/
structure CanTx where
  ident : BitVec 32 := 0#32
  dlc : BitVec 8 := 0#8
  data : Vector (BitVec 8) 8 := .replicate 8 0#8
  bufferFull : Bool := false
  syncFlag : Bool := false

/-- The arguments of `CO_CANtxBufferInit` behind the module and the index. -/
structure TxArgs where
  ident : BitVec 16
  rtr : Bool
  noOfBytes : BitVec 8
  syncFlag : Bool

/-- The buffer that `CO_CANtxBufferInit` leaves. -/
def canTxBuffer (args : TxArgs) : CanTx where
  ident := ((args.ident &&& stdMask) ||| (if args.rtr then rtrFlag else 0#16)).setWidth 32
  dlc := args.noOfBytes
  syncFlag := args.syncFlag

structure TxFrame extends CanMsg where
  data : Vector (BitVec 8) 8

/-- The first part of `co_rtt_submit_msg`. -/
def CanTx.message (buffer : CanTx) : TxFrame where
  id := (buffer.ident &&& stdMask.setWidth 32).setWidth 29
  ide := .std
  rtr := if buffer.ident &&& rtrFlag.setWidth 32 ≠ 0#32 then .rtr else .dtr
  len := buffer.dlc
  data := .ofFn fun i => if i < buffer.dlc.toNat then buffer.data[i] else 0#8

/-- The values of `CO_ReturnError_t` that the transmit path returns. -/
inductive CanError where
  | no
  | illegalArgument
  | txOverflow
  | txBusy
  | syscall
  | timeout
  deriving DecidableEq

/-- The answer of `rt_device_write`. -/
inductive WriteAnswer where
  | written (bytes : Nat)
  | einval
  | etimeout
  | failed

/-- `co_rtt_write_result_to_error` -/
def writeResultToError (msgSize : Nat) : WriteAnswer → CanError
  | .written bytes =>
      if bytes = msgSize then .no else if bytes = 0 then .txBusy else .syscall
  | .einval => .illegalArgument
  | .etimeout => .timeout
  | .failed => .syscall

/-! ## Status -/

/-- The bits of `CANtxEventStatus`. -/
structure TxEvents where
  overflow : Bool := false
  pdoLate : Bool := false
  deriving DecidableEq

/-- The bits of `CANerrorStatus` that a poll may set. -/
structure ErrorStatus where
  txWarning : Bool := false
  txPassive : Bool := false
  txBusOff : Bool := false
  txOverflow : Bool := false
  pdoLate : Bool := false
  rxWarning : Bool := false
  rxPassive : Bool := false
  rxOverflow : Bool := false
  deriving DecidableEq

/-- `struct rt_can_status` -/
structure CanStatus where
  snderrcnt : Nat
  rcverrcnt : Nat
  dropedsndpkg : BitVec 32
  dropedrcvpkg : BitVec 32

def dropped (now old : BitVec 32) : Bool := now ≠ old && now - old < 0x80000000#32

structure Observer where
  callback : Nat
  object : Nat
  deriving DecidableEq

/-- The fields of `CO_CANmodule_t` that transmission uses. -/
structure TxModule where
  txArray : List CanTx
  txEvents : TxEvents := {}
  txEnabled : Bool := true
  bufferInhibitFlag : Bool := false
  firstCANtxMessage : Bool := true
  canTxCount : Nat := 0
  txSuccess : Option Observer := none
  rxDropOld : BitVec 32 := 0#32
  txDropOld : BitVec 32 := 0#32
  errorStatus : ErrorStatus := {}

namespace TxModule

/-- After `CO_CANmodule_init`. -/
def initialized (size : Nat) : TxModule where
  txArray := .replicate size {}

/-- `CO_CANtxBufferInit` -/
def canTxBufferInit (m : TxModule) (index : Nat) (args : TxArgs) : TxModule × Bool :=
  if index ≥ m.txArray.length ∨ 8#8 < args.noOfBytes then (m, false)
  else ({ m with txArray := m.txArray.set index (canTxBuffer args) }, true)

/-- `CO_RTT_CANsetTxSuccessCallback`; without a callback there is no object. -/
def setTxSuccessCallback (m : TxModule) (observer : Option Observer) : TxModule :=
  { m with txSuccess := observer }

/-- The first section of `CO_CANsend`. -/
def sendCheck (m : TxModule) (buffer : Nat) : TxModule × Bool :=
  if m.txArray[buffer]?.any (·.bufferFull) then
    ({ m with txEvents := { m.txEvents with overflow := true } }, true)
  else (m, false)

/-- The second section of `CO_CANsend`, and the observer to call behind it. -/
def sendCommit (m : TxModule) (ret : CanError) : TxModule × Option Observer :=
  ({ m with
      txEvents := { m.txEvents with overflow := m.txEvents.overflow || ret ≠ .no }
      firstCANtxMessage := false
      bufferInhibitFlag := false
      canTxCount := 0 },
    if ret = .no then m.txSuccess else none)

end TxModule

/-- The loop of `CO_CANclearPendingSyncPDOs`: the buffers, `CANtxCount` and `cleared`. -/
def clearPending (count : Nat) : List CanTx → List CanTx × Nat × Bool
  | [] => ([], count, false)
  | buffer :: rest =>
      if buffer.syncFlag && buffer.bufferFull then
        let (rest, count, _) := clearPending (count - 1) rest
        ({ buffer with bufferFull := false } :: rest, count, true)
      else
        let (rest, count, cleared) := clearPending count rest
        (buffer :: rest, count, cleared)

namespace TxModule

/-- `CO_CANclearPendingSyncPDOs` -/
def clearPendingSyncPDOs (m : TxModule) : TxModule × Bool :=
  let (txArray, count, cleared) := clearPending m.canTxCount m.txArray
  ({ m with
      txArray := txArray
      canTxCount := count
      bufferInhibitFlag := false
      txEvents := { m.txEvents with pdoLate := m.txEvents.pdoLate || cleared } }, cleared)

/-- The errors of one status, with the events that wait for a report. -/
def errors (m : TxModule) (status : CanStatus) : ErrorStatus where
  txBusOff := 256 ≤ status.snderrcnt
  txPassive := status.snderrcnt < 256 && 128 ≤ status.snderrcnt
  txWarning := status.snderrcnt < 128 && 96 ≤ status.snderrcnt
  rxPassive := 128 ≤ status.rcverrcnt
  rxWarning := status.rcverrcnt < 128 && 96 ≤ status.rcverrcnt
  rxOverflow := dropped status.dropedrcvpkg m.rxDropOld
  txOverflow := m.txEvents.overflow || dropped status.dropedsndpkg m.txDropOld
  pdoLate := m.txEvents.pdoLate

/-- The section of `CO_CANmodule_process`; without a status nothing changes. -/
def poll (m : TxModule) : Option CanStatus → TxModule
  | none => m
  | some status =>
      { m with
        txEvents := {}
        rxDropOld := status.dropedrcvpkg
        txDropOld := status.dropedsndpkg
        errorStatus := m.errors status }

end TxModule

/-! ## What the sections do -/

theorem clearPending_spec (count : Nat) (buffers : List CanTx) :
    clearPending count buffers =
      (buffers.map fun buffer =>
          if buffer.syncFlag && buffer.bufferFull then { buffer with bufferFull := false }
          else buffer,
        count - buffers.countP (fun buffer => buffer.syncFlag && buffer.bufferFull),
        buffers.any fun buffer => buffer.syncFlag && buffer.bufferFull) := by
  induction buffers generalizing count with
  | nil => simp [clearPending]
  | cons buffer rest ih =>
      cases hpending : buffer.syncFlag && buffer.bufferFull with
      | true =>
          simp only [clearPending, hpending, ih, List.map_cons, List.countP_cons, List.any_cons,
            if_true, Bool.true_or]
          congr 2
          omega
      | false =>
          simp only [clearPending, hpending, ih, List.map_cons, List.countP_cons, List.any_cons,
            Bool.false_eq_true, if_false, Bool.false_or, Nat.add_zero]

/-- A drop counter that shows a true count has moved forward exactly if the count has. -/
theorem dropped_iff {t t' : Nat} (hle : t ≤ t') (hclose : t' < t + 2 ^ 31) :
    dropped (tick 32 t') (tick 32 t) = true ↔ t < t' := by
  obtain ⟨d, rfl⟩ := Nat.exists_eq_add_of_le hle
  have hsmall : d < 2 ^ 31 := by omega
  have hdiff : tick 32 (t + d) - tick 32 t = tick 32 d := by
    rw [← tick_add]
    apply BitVec.eq_of_toNat_eq
    simp
  have hvalue : (tick 32 d).toNat = d := by
    rw [tick, BitVec.toNat_ofNat, Nat.mod_eq_of_lt (by omega)]
  have hbelow : tick 32 d < 0x80000000#32 := by
    rw [BitVec.lt_def, hvalue]
    exact hsmall
  unfold dropped
  rw [hdiff]
  by_cases hsame : d = 0
  · simp [hsame]
  · have hmoved : tick 32 (t + d) ≠ tick 32 t := by
      intro hequal
      rw [hequal, BitVec.sub_self] at hdiff
      have hzero := congrArg BitVec.toNat hdiff
      rw [hvalue] at hzero
      exact hsame hzero.symm
    simp only [hmoved, hbelow, ne_eq, not_false_eq_true, decide_true, Bool.and_self, true_iff]
    omega

/-! ## What a frame carries -/

/-- A frame as CANopen sends it: at most eight bytes, and nothing behind them. -/
structure TxFrame.Standard (frame : TxFrame) : Prop where
  ide : frame.ide = .std
  id : frame.id.toNat < 0x800
  len : frame.len.toNat ≤ 8
  data : ∀ i : Fin 8, frame.len.toNat ≤ i → frame.data[i] = 0#8

theorem message_standard {buffer : CanTx} (h : buffer.dlc.toNat ≤ 8) :
    buffer.message.Standard := by
  refine ⟨rfl, ?_, h, fun i hi => ?_⟩
  · have hmask : (buffer.ident &&& stdMask.setWidth 32).toNat ≤ 0x7FF := by
      rw [BitVec.toNat_and]
      exact Nat.and_le_right
    simp only [CanTx.message, BitVec.toNat_setWidth]
    omega
  · simp only [CanTx.message] at hi ⊢
    simp
    omega

end CanopenRtt.Driver
