import CanopenRtt.Support.BindingTable
import CanopenRtt.Support.Run
import CanopenRtt.Support.StackDiscipline
import Mathlib.Logic.Function.Basic
/-!
# CAN modules and their devices

`CO_CANmodule_init`, `CO_CANsetNormalMode`, `CO_RTT_CANsetBitrate`, `CO_CANmodule_disable` and the
device bindings of `port/rtthread/CO_driver_rtthread.c`, for any number of modules. A stopped RX
thread has ended: `co_rtt_rx_stop` waits for it.
-/

namespace CanopenRtt.Driver

open Support

/-- What the configuration decides; `filter` stands for the hardware receive filters. -/
structure CanBuild where
  filter : Bool
  gateway : Bool
  bindingCount : Nat

/-- What `CO_CANmodule_init` acquires. -/
inductive CanResource where
  | rxSem
  | rxExitSem
  | rxRuleMutex
  | canSendMutex
  | emcyMutex
  | odMutex
  | gtwaMutex
  | device
  deriving DecidableEq

/-- The labels of `CO_CANmodule_init`. -/
inductive ErrLabel where
  | deviceOpen
  | gtwaMutex
  | odMutex
  | emcyMutex
  | canSendMutex
  | rxRuleMutex
  | rxExitSem
  | rxSem
  deriving DecidableEq

namespace CanBuild

def acquisitions (build : CanBuild) : List CanResource :=
  [.rxSem, .rxExitSem] ++ (if build.filter then [.rxRuleMutex] else []) ++
    [.canSendMutex, .emcyMutex, .odMutex] ++ (if build.gateway then [.gtwaMutex] else []) ++
    [.device]

/-- Where a failed acquisition jumps; the first one returns. -/
def jump (build : CanBuild) : CanResource → Option ErrLabel
  | .rxSem => none
  | .rxExitSem => some .rxSem
  | .rxRuleMutex => some .rxExitSem
  | .canSendMutex => some (if build.filter then .rxRuleMutex else .rxExitSem)
  | .emcyMutex => some .canSendMutex
  | .odMutex => some .emcyMutex
  | .gtwaMutex => some .odMutex
  | .device => some (if build.gateway then .gtwaMutex else .odMutex)

/-- The labelled statements; each falls through to the next. -/
def labelled (build : CanBuild) : List (ErrLabel × CanResource) :=
  [(.deviceOpen, .device)] ++ (if build.gateway then [(.gtwaMutex, .gtwaMutex)] else []) ++
    [(.odMutex, .odMutex), (.emcyMutex, .emcyMutex), (.canSendMutex, .canSendMutex)] ++
    (if build.filter then [(.rxRuleMutex, .rxRuleMutex)] else []) ++
    [(.rxExitSem, .rxExitSem), (.rxSem, .rxSem)]

/-- What is released behind a label. -/
def releases (build : CanBuild) (label : ErrLabel) : List CanResource :=
  (build.labelled.dropWhile fun statement => statement.1 ≠ label).map (·.2)

/-- The order in `CO_CANmodule_disable`. -/
def detachments (build : CanBuild) : List CanResource :=
  [.device] ++ (if build.gateway then [.gtwaMutex] else []) ++
    [.odMutex, .emcyMutex, .canSendMutex] ++ (if build.filter then [.rxRuleMutex] else []) ++
    [.rxExitSem, .rxSem]

end CanBuild

/-- The fields of `CO_CANmodule_t` that these functions use; `dev` is `none` for `RT_NULL`. -/
structure CanUnit where
  dev : Option Nat := none
  canNormal : Bool := false
  rxStop : Bool := false
  rxThread : Bool := false

/-- All modules, the bindings of devices to modules, and the RX indications of the devices. -/
structure CanDevices where
  units : Nat → CanUnit
  bindings : BindingTable Nat Nat
  indicated : Nat → Bool
  trace : List (Nat × StackOp CanResource)

structure CanInitAnswers where
  /-- The bitrate is supported, and the device has a name and is found. -/
  found : Bool := true
  fails : CanResource → Bool := fun _ => false
  setBaud : Bool := true

structure NormalAnswers where
  setMode : Bool := true
  filter : Bool := true
  rxIndicate : Bool := true
  create : Bool := true
  startup : Bool := true
  start : Bool := true

/-- Acquisitions up to the first that fails. -/
def acquireUntil (fails : CanResource → Bool) :
    List CanResource → List CanResource × Option CanResource
  | [] => ([], none)
  | resource :: rest =>
      if fails resource then ([], some resource)
      else
        let (acquired, failed) := acquireUntil fails rest
        (resource :: acquired, failed)

namespace CanDevices

/-- No module is initialised. -/
def start (build : CanBuild) : CanDevices where
  units _ := {}
  bindings := .replicate build.bindingCount none
  indicated _ := false
  trace := []

def setUnit (s : CanDevices) (m : Nat) (unit : CanUnit) : CanDevices :=
  { s with units := Function.update s.units m unit }

def log (s : CanDevices) (m : Nat) (ops : List (StackOp CanResource)) : CanDevices :=
  { s with trace := s.trace ++ ops.map (Prod.mk m) }

/-- `CO_CANmodule_init` -/
def canModuleInit (build : CanBuild) (m dev : Nat) (answers : CanInitAnswers) (s : CanDevices) :
    CanDevices × Bool :=
  if !answers.found then (s, false)
  else
    let (acquired, failed) := acquireUntil answers.fails build.acquisitions
    let s := (s.setUnit m { dev := some dev }).log m (acquired.map .acquire)
    let unwind (released : List CanResource) :=
      (s.setUnit m {}).log m (released.map .release)
    match failed with
    | some resource => (unwind ((build.jump resource).elim [] build.releases), false)
    | none => if !answers.setBaud then (unwind (build.releases .deviceOpen), false) else (s, true)

/-- `co_rtt_rx_unbind` -/
def rxUnbind (m : Nat) (s : CanDevices) : CanDevices :=
  { s with
    indicated := fun dev => if (s.units m).dev = some dev then false else s.indicated dev
    bindings := s.bindings.remove m }

/-- `co_rtt_rx_bind` -/
def rxBind (m dev : Nat) (indicates : Bool) (s : CanDevices) : CanDevices × Bool :=
  let (bindings, added) := s.bindings.add dev m
  if !added then ({ s with bindings := bindings }, false)
  else if !indicates then ({ s with bindings := bindings.remove m }, false)
  else ({ s with bindings := bindings, indicated := Function.update s.indicated dev true }, true)

/-- `co_rtt_rx_start` -/
def rxStart (m dev : Nat) (answers : NormalAnswers) (s : CanDevices) : CanDevices × Bool :=
  if (s.units m).rxThread then (s, true)
  else
    let s := s.setUnit m { s.units m with rxStop := false }
    let (s, bound) := s.rxBind m dev answers.rxIndicate
    if !bound then (s, false)
    else if !answers.create then (s.rxUnbind m, false)
    else if !answers.startup then (s.rxUnbind m, false)
    else (s.setUnit m { s.units m with rxThread := true }, true)

/-- `co_rtt_rx_stop` -/
def rxStop (m : Nat) (s : CanDevices) : CanDevices :=
  let s := (s.setUnit m { s.units m with rxStop := true }).rxUnbind m
  s.setUnit m { s.units m with rxThread := false }

/-- `CO_CANsetNormalMode` of a module that has a device. -/
def setNormalMode (build : CanBuild) (m dev : Nat) (answers : NormalAnswers) (s : CanDevices) :
    CanDevices :=
  let s := s.setUnit m { s.units m with canNormal := false }
  if !answers.setMode then s
  else if build.filter && !answers.filter then s
  else
    let (s, started) := s.rxStart m dev answers
    if !started then s
    else if !answers.start then s.rxStop m
    else s.setUnit m { s.units m with canNormal := true }

/-- `CO_RTT_CANsetBitrate` -/
def setBitrate (build : CanBuild) (m : Nat) (supported setBaud : Bool) (answers : NormalAnswers)
    (s : CanDevices) : CanDevices :=
  match (s.units m).dev with
  | none => s
  | some dev =>
      if !supported then s
      else
        let s := s.setUnit m { s.units m with canNormal := false }
        if !setBaud then s else s.setNormalMode build m dev answers

/-- `CO_CANmodule_disable` -/
def canModuleDisable (build : CanBuild) (m : Nat) (s : CanDevices) : CanDevices :=
  let s := s.setUnit m { s.units m with canNormal := false }
  match (s.units m).dev with
  | none => s
  | some _ =>
      let s := (s.rxStop m).log m (build.detachments.map .release)
      s.setUnit m { s.units m with dev := none }

/-- The module whose semaphore `co_rtt_can_rx_indicate` releases. -/
def rxIndicate (s : CanDevices) (dev : Nat) : Option Nat :=
  (s.bindings.find dev).filter fun m => !(s.units m).rxStop

end CanDevices

/-- A call of the application; calls do not overlap. -/
inductive CanCall where
  | init (m dev : Nat) (answers : CanInitAnswers)
  | setNormalMode (m : Nat) (answers : NormalAnswers)
  | setBitrate (m : Nat) (supported setBaud : Bool) (answers : NormalAnswers)
  | disable (m : Nat)

def CanDevices.step (build : CanBuild) (s : CanDevices) : CanCall → CanDevices
  | .init m dev answers => (s.canModuleInit build m dev answers).1
  | .setNormalMode m answers =>
      (s.units m).dev.elim s fun dev => s.setNormalMode build m dev answers
  | .setBitrate m supported setBaud answers => s.setBitrate build m supported setBaud answers
  | .disable m => s.canModuleDisable build m

/-- A module is initialised when it is disabled, with a device that no other module has; the
normal mode is asked for when the module has a device. -/
def CanCall.Proper (s : CanDevices) : CanCall → Prop
  | .init m dev _ => (s.units m).dev = none ∧ ∀ other, (s.units other).dev ≠ some dev
  | .setNormalMode m _ => (s.units m).dev.isSome = true
  | _ => True

/-! ## The labels -/

theorem acquisitions_nodup (build : CanBuild) : build.acquisitions.Nodup := by
  rcases build with ⟨filter, gateway, bindingCount⟩
  cases filter <;> cases gateway <;> simp [CanBuild.acquisitions]

theorem detachments_eq (build : CanBuild) : build.detachments = build.acquisitions.reverse := by
  rcases build with ⟨filter, gateway, bindingCount⟩
  cases filter <;> cases gateway <;> rfl

theorem releases_deviceOpen (build : CanBuild) :
    build.releases .deviceOpen = build.acquisitions.reverse := by
  rcases build with ⟨filter, gateway, bindingCount⟩
  cases filter <;> cases gateway <;> rfl

/-- A label releases what was acquired in front of the jump, in reverse order. -/
theorem releases_jump (build : CanBuild) :
    ∀ resource ∈ build.acquisitions, (build.jump resource).elim [] build.releases =
      (build.acquisitions.takeWhile (· ≠ resource)).reverse := by
  rcases build with ⟨filter, gateway, bindingCount⟩
  rintro resource hmem
  cases filter <;> cases gateway <;> cases resource <;>
    first
    | rfl
    | simp [CanBuild.acquisitions] at hmem

theorem acquireUntil_spec (fails : CanResource → Bool) {resources : List CanResource}
    (hnodup : resources.Nodup) :
    (acquireUntil fails resources = (resources, none)) ∨
      ∃ resource ∈ resources, acquireUntil fails resources =
        (resources.takeWhile (· ≠ resource), some resource) := by
  induction resources with
  | nil => exact Or.inl rfl
  | cons first rest ih =>
      rw [List.nodup_cons] at hnodup
      cases hfails : fails first with
      | true =>
          refine Or.inr ⟨first, List.mem_cons_self, ?_⟩
          simp [acquireUntil, hfails]
      | false =>
          rcases ih hnodup.2 with hall | ⟨resource, hmem, hsome⟩
          · left
            simp [acquireUntil, hfails, hall]
          · have hne : first ≠ resource := by
              rintro rfl
              exact hnodup.1 hmem
            refine Or.inr ⟨resource, List.mem_cons_of_mem _ hmem, ?_⟩
            simp [acquireUntil, hfails, hsome, hne]

end CanopenRtt.Driver
