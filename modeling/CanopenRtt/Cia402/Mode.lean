import CanopenRtt.Cia402.State
/-!
# Operation modes

The role-neutral mode identifiers of `common/CO_402_mode.h`, for a build with
every mode compiled in.
-/

namespace CanopenRtt.Cia402

/-- Raw INTEGER8 value of the mode objects 0x6060 and 0x6061. -/
abbrev ModeRaw := BitVec 8

/-- Symbolic operation mode (`CO_402_mode_t`). -/
inductive Mode where
  | none
  | profilePosition
  | profileVelocity
  | homing
  | cyclicSyncPosition
  | cyclicSyncVelocity
  | cyclicSyncTorque
  deriving DecidableEq, Repr

/-- The value of the mode's enumerator, as stored in 0x6061. -/
def Mode.raw : Mode → ModeRaw
  | .none => 0
  | .profilePosition => 1
  | .profileVelocity => 3
  | .homing => 6
  | .cyclicSyncPosition => 8
  | .cyclicSyncVelocity => 9
  | .cyclicSyncTorque => 10

def supportedModePP : BitVec 32 := 1 <<< 0
def supportedModePV : BitVec 32 := 1 <<< 2
def supportedModeHM : BitVec 32 := 1 <<< 5
def supportedModeCSP : BitVec 32 := 1 <<< 7
def supportedModeCSV : BitVec 32 := 1 <<< 8
def supportedModeCST : BitVec 32 := 1 <<< 9

def controlwordModeBit4 : Word := 1 <<< 4
def controlwordPPChangeImmediately : Word := 1 <<< 5
def controlwordPPRelative : Word := 1 <<< 6
def controlwordHalt : Word := 1 <<< 8

/-- `(controlword & mask) != 0U`. -/
def bitSet (controlword mask : Word) : Bool :=
  decide (controlword &&& mask ≠ 0)

def statuswordTargetReached : Word := 1 <<< 10
def statuswordPPSetpointAcknowledge : Word := 1 <<< 12
def statuswordHMAttained : Word := 1 <<< 12
def statuswordDriveFollowsCommand : Word := 1 <<< 12
def statuswordPPFollowingError : Word := 1 <<< 13
def statuswordHMError : Word := 1 <<< 13

/-- Convert an INTEGER8 mode value to a recognized semantic mode. -/
def modeFromRaw (raw : ModeRaw) : Option Mode :=
  if raw = Mode.none.raw then some .none
  else if raw = Mode.profilePosition.raw then some .profilePosition
  else if raw = Mode.profileVelocity.raw then some .profileVelocity
  else if raw = Mode.homing.raw then some .homing
  else if raw = Mode.cyclicSyncPosition.raw then some .cyclicSyncPosition
  else if raw = Mode.cyclicSyncVelocity.raw then some .cyclicSyncVelocity
  else if raw = Mode.cyclicSyncTorque.raw then some .cyclicSyncTorque
  else none

/-- The standard 0x6502 bit of a recognized operation mode. -/
def modeCapabilityBit : Mode → BitVec 32
  | .profilePosition => supportedModePP
  | .profileVelocity => supportedModePV
  | .homing => supportedModeHM
  | .cyclicSyncPosition => supportedModeCSP
  | .cyclicSyncVelocity => supportedModeCSV
  | .cyclicSyncTorque => supportedModeCST
  | .none => 0

/-- The modes whose Statusword bit 12 belongs to the SYNC path. -/
def isCyclicMode : Mode → Bool
  | .cyclicSyncPosition | .cyclicSyncVelocity | .cyclicSyncTorque => true
  | _ => false

@[simp] theorem modeFromRaw_raw (mode : Mode) : modeFromRaw mode.raw = some mode := by
  cases mode <;> rfl

/-- A recognized raw value is the value of the mode it is recognized as. -/
theorem raw_of_modeFromRaw {raw : ModeRaw} {mode : Mode}
    (h : modeFromRaw raw = some mode) : raw = mode.raw := by
  unfold modeFromRaw at h
  split_ifs at h <;> cases h <;> assumption

end CanopenRtt.Cia402
