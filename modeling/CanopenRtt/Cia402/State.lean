import Mathlib.Data.BitVec
/-!
# PDS states, commands and their Controlword and Statusword encodings

The stateless helpers of `common/CO_402_state.c`. Controlwords and Statuswords
are 16-bit vectors, and the masks are the source's own.
-/

namespace CanopenRtt.Cia402

/-- A Controlword or a Statusword. -/
abbrev Word := BitVec 16

/-- Internal symbolic PDS state (`CO_402_state_t`). -/
inductive State where
  | notReadyToSwitchOn
  | switchOnDisabled
  | readyToSwitchOn
  | switchedOn
  | operationEnabled
  | quickStopActive
  | faultReactionActive
  | fault
  | unknown
  deriving DecidableEq, Repr

/-- Stateless interpretation of the PDS Controlword bits (`CO_402_command_t`). -/
inductive Command where
  | disableVoltage
  | quickStop
  | shutdown
  | switchOnOrDisableOperation
  | enableOperation
  | faultReset
  | unknown
  deriving DecidableEq, Repr

def statusMaskShort : Word := 0x004F
def statusMaskLong : Word := 0x006F

def controlMaskDisableVoltage : Word := 0x0082
def controlMaskQuickStop : Word := 0x0086
def controlMaskShutdown : Word := 0x0087
def controlMaskStateCommand : Word := 0x008F
def controlFaultReset : Word := 0x0080

def decodeStatusword (statusword : Word) : State :=
  if statusword &&& statusMaskShort = 0x0000 then .notReadyToSwitchOn
  else if statusword &&& statusMaskShort = 0x0040 then .switchOnDisabled
  else if statusword &&& statusMaskLong = 0x0021 then .readyToSwitchOn
  else if statusword &&& statusMaskLong = 0x0023 then .switchedOn
  else if statusword &&& statusMaskLong = 0x0027 then .operationEnabled
  else if statusword &&& statusMaskLong = 0x0007 then .quickStopActive
  else if statusword &&& statusMaskShort = 0x000F then .faultReactionActive
  else if statusword &&& statusMaskShort = 0x0008 then .fault
  else .unknown

def statuswordForState : State → Word
  | .notReadyToSwitchOn => 0x0000
  | .switchOnDisabled => 0x0040
  | .readyToSwitchOn => 0x0021
  | .switchedOn => 0x0023
  | .operationEnabled => 0x0027
  | .quickStopActive => 0x0007
  | .faultReactionActive => 0x000F
  | .fault => 0x0008
  | .unknown => 0x0000

def decodeControlword (controlword : Word) : Command :=
  if controlword &&& controlFaultReset ≠ 0 then .faultReset
  else if controlword &&& controlMaskStateCommand = 0x000F then .enableOperation
  else if controlword &&& controlMaskStateCommand = 0x0007 then .switchOnOrDisableOperation
  else if controlword &&& controlMaskShutdown = 0x0006 then .shutdown
  else if controlword &&& controlMaskQuickStop = 0x0002 then .quickStop
  else if controlword &&& controlMaskDisableVoltage = 0x0000 then .disableVoltage
  else .unknown

/-- Bit 7 of a Controlword. -/
def faultResetBit (controlword : Word) : Bool :=
  decide (controlword &&& controlFaultReset ≠ 0)

/-- The command the Device reads off a Controlword: bit 7 is masked out first. -/
def pdsCommand (controlword : Word) : Command :=
  decodeControlword (controlword &&& ~~~controlFaultReset)

/-- The two states of the fault path. -/
def State.faulted : State → Bool
  | .faultReactionActive | .fault => true
  | _ => false

/-- The states whose handler only starts PDS transitions. -/
def State.operational : State → Bool
  | .switchOnDisabled | .readyToSwitchOn | .switchedOn | .operationEnabled
  | .quickStopActive => true
  | _ => false

@[simp] theorem faulted_iff (state : State) :
    state.faulted = true ↔ state = .faultReactionActive ∨ state = .fault := by
  cases state <;> simp [State.faulted]

/-- The state pattern survives any bits outside the long mask. -/
theorem decodeStatusword_or (state : State) (bits : Word)
    (hbits : bits &&& statusMaskLong = 0) (hstate : state ≠ .unknown) :
    decodeStatusword (statuswordForState state ||| bits) = state := by
  have hshort : bits &&& statusMaskShort = 0 := by
    have hmask : statusMaskShort = statusMaskLong &&& statusMaskShort := by decide
    rw [hmask, ← BitVec.and_assoc, hbits]
    rfl
  unfold decodeStatusword
  simp only [BitVec.and_or_distrib_right, hbits, hshort, BitVec.ofNat_eq_ofNat,
    BitVec.or_zero]
  cases state <;> first | exact absurd rfl hstate | decide

end CanopenRtt.Cia402
