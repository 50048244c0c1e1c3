import CanopenRtt.Support.SlotArray
import Mathlib.Logic.Function.Basic
/-!
# The lifecycle extension registry

`CO_lifecycle_RTT.c`: the slots of one application and the process-wide factory
registry. Callback tables and contexts are addresses. Every answer of a callback
is an argument of the call, and the callbacks that ran are appended to a log.
-/

namespace CanopenRtt.Lifecycle

open CanopenRtt.Support

inductive RtErr where
  | ok
  | inval
  | busy
  | full
  | empty
  | error
  | other (code : Nat)
  deriving DecidableEq, Repr

/-- The callbacks of `CO_RTT_lifecycle_ops_t` the registry itself depends on. -/
inductive Hook where
  | runtimeInit
  | runtimeStart
  | communicationQuiesced
  | communicationBind
  | runtimeDeinit
  deriving DecidableEq, Repr

/-- What a registration is recognised by. -/
structure Key where
  ops : Option Nat
  context : Option Nat
  deriving DecidableEq, Repr

/-- `CO_RTT_lifecycle_slot_t`; the defaults are the cleared slot. -/
structure Slot where
  ops : Option Nat := none
  context : Option Nat := none
  release : Option Nat := none
  runtimeInitialized : Bool := false
  communicationBound : Bool := false
  deinitRequired : Bool := false
  deriving DecidableEq, Repr

def Slot.key (slot : Slot) : Key := ⟨slot.ops, slot.context⟩

/-- A callback that was run. -/
inductive Call where
  | attach (factory : Nat)
  | runtimeInit (slot : Key) (ret : RtErr)
  | runtimeStart (slot : Key) (ret : RtErr)
  | communicationBind (slot : Key) (ret : RtErr)
  | communicationQuiesced (slot : Key)
  | runtimeDeinit (slot : Key)
  | release (slot : Key)
  deriving DecidableEq, Repr

/-- `CO_RTT_lifecycle_factory_t`; a NULL name is `none`. -/
structure Factory where
  address : Nat
  name : Option String
  order : Nat
  attach : Bool
  deriving DecidableEq, Repr

/-- The capacity of a build and the callbacks each table sets. -/
structure Setup where
  capacity : Nat
  sets : Nat → Hook → Bool

def Setup.has (setup : Setup) (slot : Slot) (hook : Hook) : Bool :=
  slot.ops.any fun ops => setup.sets ops hook

/-- The answer of a callback; one that is NULL counts as a success. -/
def Setup.answer (setup : Setup) (answers : Key → RtErr) (hook : Hook) (slot : Slot) : RtErr :=
  if setup.has slot hook then answers slot.key else .ok

/-- The part of `CANopenNodeRTT` the registry reads. -/
structure App where
  slots : Nat → Slot := fun _ => {}
  count : Nat := 0
  mainThread : Bool := false
  rtThread : Bool := false
  rtTimer : Bool := false
  canOpenStack : Bool := false

/-- `CO_RTT_lifecycle_factory_registry_t`. -/
structure FactoryRegistry where
  factories : Nat → Option Factory := fun _ => none
  count : Nat := 0
  firstError : RtErr := .ok
  /-- The application is executing its auto attach. -/
  autoAttachApp : Bool := false

structure Host where
  app : App := {}
  registry : FactoryRegistry := {}
  log : List Call := []

namespace Host

def emit (host : Host) (call : Call) : Host := { host with log := host.log ++ [call] }

/-- Log a callback that may be NULL. -/
def emitIf (host : Host) (condition : Bool) (call : Call) : Host :=
  if condition then host.emit call else host

def slot (host : Host) (i : Nat) : Slot := host.app.slots i

def setSlot (host : Host) (i : Nat) (slot : Slot) : Host :=
  { host with app := { host.app with slots := Function.update host.app.slots i slot } }

/-- The registered slots in registration order. -/
def registered (host : Host) : List Slot := cells host.app.slots host.app.count

/-- A thread, the timer or a stack of the application exists. -/
def started (host : Host) : Bool :=
  host.app.mainThread || host.app.rtThread || host.app.rtTimer || host.app.canOpenStack

/-! ### Factories -/

def latchFactoryError (host : Host) (failure : RtErr) : Host × RtErr :=
  (if host.registry.firstError = .ok then
      { host with registry := { host.registry with firstError := failure } }
    else host, failure)

/-- The insertion loop of `CO_RTT_lifecycleFactoryRegister`. -/
def shiftFactories (order : Nat) (factories : Nat → Option Factory) :
    Nat → (Nat → Option Factory) × Nat
  | 0 => (factories, 0)
  | insertAt + 1 =>
      if (factories insertAt).any (order < ·.order) then
        shiftFactories order (Function.update factories (insertAt + 1) (factories insertAt))
          insertAt
      else (factories, insertAt + 1)

/-- A registered factory has the same descriptor, order or name. -/
def factoryTaken (registry : FactoryRegistry) (factory : Factory) : Bool :=
  (List.range registry.count).any fun i =>
    (registry.factories i).any fun registered =>
      registered.address = factory.address || registered.order = factory.order ||
        registered.name = factory.name

def factoryRegister (setup : Setup) (host : Host) (factory : Option Factory) : Host × RtErr :=
  match factory with
  | none => host.latchFactoryError .inval
  | some factory =>
      if factory.name.isNone || factory.name = some "" || !factory.attach then
        host.latchFactoryError .inval
      else if host.registry.autoAttachApp then host.latchFactoryError .busy
      else if factoryTaken host.registry factory then host.latchFactoryError .busy
      else if setup.capacity ≤ host.registry.count then host.latchFactoryError .full
      else
        let (factories, insertAt) :=
          shiftFactories factory.order host.registry.factories host.registry.count
        ({ host with
            registry := { host.registry with
              factories := Function.update factories insertAt (some factory)
              count := host.registry.count + 1 } }, .ok)

/-! ### Registration -/

/-- `CO_RTT_lifecycleRegisterEx`. -/
def registerEx (setup : Setup) (host : Host) (ops context release : Option Nat) : Host × RtErr :=
  if ops.isNone || (release.isSome && context.isNone) then (host, .inval)
  else if host.registry.autoAttachApp && release.isNone then (host, .inval)
  else if host.started then (host, .busy)
  else if (List.range host.app.count).any fun i =>
      (host.slot i).ops = ops && (host.slot i).context = context then (host, .busy)
  else if setup.capacity ≤ host.app.count then (host, .full)
  else
    let slot := { host.slot host.app.count with ops := ops, context := context, release := release }
    ({ host with
        app := { host.app with
          slots := Function.update host.app.slots host.app.count slot
          count := host.app.count + 1 } }, .ok)

/-- `CO_RTT_lifecycleRegister`. -/
def register (setup : Setup) (host : Host) (ops context : Option Nat) : Host × RtErr :=
  host.registerEx setup ops context none

/-! ### Auto attach -/

/-- What a factory may do with the registry while it attaches. -/
inductive AttachAction where
  | registerEx (ops context release : Option Nat)
  | factoryRegister (factory : Option Factory)
  deriving DecidableEq, Repr

/-- One run of a factory's attach callback. -/
structure Attach where
  actions : List AttachAction
  ret : RtErr
  deriving DecidableEq, Repr

def act (setup : Setup) (host : Host) : AttachAction → Host
  | .registerEx ops context release => (host.registerEx setup ops context release).1
  | .factoryRegister factory => (host.factoryRegister setup factory).1

/-- The loop body of `CO_RTT_lifecycleRollbackAutoSlots`. -/
def rollbackLast (host : Host) : Host :=
  let last := host.app.count - 1
  let host := host.emitIf (host.slot last).release.isSome (.release (host.slot last).key)
  { host.setSlot last {} with app := { (host.setSlot last {}).app with count := last } }

def rollbackAutoSlots (host : Host) (checkpoint : Nat) : Host :=
  run (fun host _ => host.rollbackLast) host (List.range (host.app.count - checkpoint))

def endAttach (host : Host) : Host :=
  { host with registry := { host.registry with autoAttachApp := false } }

/-- One factory of `CO_RTT_lifecycleAutoAttachAll`. -/
def attachFactory (setup : Setup) (answers : Nat → Attach) (checkpoint : Nat) (host : Host)
    (factoryIndex : Nat) : Host × RtErr :=
  let factoryCheckpoint := host.app.count
  let address := ((host.registry.factories factoryIndex).map Factory.address).getD 0
  let attached := run (act setup) (host.emit (.attach address)) (answers factoryIndex).actions
  let ret := (answers factoryIndex).ret
  if ret ≠ .ok then ((attached.rollbackAutoSlots checkpoint).endAttach, ret)
  else if attached.app.count ≤ factoryCheckpoint then
    ((attached.rollbackAutoSlots checkpoint).endAttach, .error)
  else if (List.range attached.app.count).any fun i =>
      factoryCheckpoint ≤ i && (attached.slot i).release.isNone then
    ((attached.rollbackAutoSlots checkpoint).endAttach, .inval)
  else (attached, .ok)

def autoAttachAll (setup : Setup) (answers : Nat → Attach) (host : Host) : Host × RtErr :=
  if host.registry.autoAttachApp then (host, .busy)
  else if host.started then (host, .busy)
  else if host.registry.firstError ≠ .ok then (host, host.registry.firstError)
  else if host.registry.count = 0 then (host, .empty)
  else
    let attaching := { host with registry := { host.registry with autoAttachApp := true } }
    let attached := runWhile .ok (attachFactory setup answers host.app.count) attaching
      (List.range host.registry.count)
    if attached.2 = .ok then (attached.1.endAttach, .ok) else attached

/-! ### Runtime -/

/-- The loop body of `CO_RTT_lifecycleRuntimeInit`. -/
def runtimeInitSlot (setup : Setup) (answers : Key → RtErr) (host : Host) (i : Nat) :
    Host × RtErr :=
  let slot := host.slot i
  let ret := setup.answer answers .runtimeInit slot
  let host := host.emitIf (setup.has slot .runtimeInit) (.runtimeInit slot.key ret)
  if ret ≠ .ok then (host, ret)
  else (host.setSlot i { slot with runtimeInitialized := true, deinitRequired := true }, .ok)

/-- `CO_RTT_lifecycleRuntimeInit`; `worker` is the answer of the shared worker. -/
def runtimeInit (setup : Setup) (answers : Key → RtErr) (worker : RtErr) (host : Host) :
    Host × RtErr :=
  let initialized := runWhile .ok (runtimeInitSlot setup answers) host (List.range host.app.count)
  if initialized.2 = .ok then (initialized.1, worker) else initialized

/-- The loop body of `CO_RTT_lifecycleRuntimeStart`. -/
def runtimeStartSlot (setup : Setup) (answers : Key → RtErr) (host : Host) (i : Nat) :
    Host × RtErr :=
  let slot := host.slot i
  if slot.runtimeInitialized && setup.has slot .runtimeStart then
    (host.emit (.runtimeStart slot.key (answers slot.key)), answers slot.key)
  else (host, .ok)

def runtimeStart (setup : Setup) (answers : Key → RtErr) (worker : RtErr) (host : Host) :
    Host × RtErr :=
  let begun := runWhile .ok (runtimeStartSlot setup answers) host (List.range host.app.count)
  if begun.2 = .ok then (begun.1, worker) else begun

/-! ### Communication -/

/-- Give up the binding of one slot, if it has one. -/
def quiesceSlot (setup : Setup) (host : Host) (i : Nat) : Host :=
  let slot := host.slot i
  if slot.communicationBound then
    (host.emitIf (setup.has slot .communicationQuiesced)
      (.communicationQuiesced slot.key)).setSlot i
      { slot with communicationBound := false }
  else host

/-- `CO_RTT_lifecycleCommunicationQuiesced`. -/
def communicationQuiesced (setup : Setup) (host : Host) : Host :=
  run (quiesceSlot setup) host (List.range host.app.count).reverse

/-- The loop body of `CO_RTT_lifecycleBindCommunication`, with its inner rollback. -/
def bindSlot (setup : Setup) (answers : Key → RtErr) (host : Host) (i : Nat) : Host × RtErr :=
  let slot := host.slot i
  if slot.communicationBound then (host, .busy)
  else
    let called := setup.has slot .communicationBind
    let ret := setup.answer answers .communicationBind slot
    let host := host.emitIf called (.communicationBind slot.key ret)
    if ret ≠ .ok then (run (quiesceSlot setup) host (List.range i).reverse, ret)
    else
      (host.setSlot i { slot with
        communicationBound := true
        deinitRequired := slot.deinitRequired || called }, .ok)

/-- `CO_RTT_lifecycleBindCommunication`; `present` says that stack and dictionary are given. -/
def bindCommunication (setup : Setup) (present : Bool) (answers : Key → RtErr) (host : Host) :
    Host × RtErr :=
  if !present then (host, .inval)
  else runWhile .ok (bindSlot setup answers) host (List.range host.app.count)

/-! ### Final teardown -/

/-- The first loop body of `CO_RTT_lifecycleRuntimeDeinit`. -/
def deinitSlot (setup : Setup) (host : Host) (i : Nat) : Host :=
  let slot := host.slot i
  let host := host.emitIf (slot.deinitRequired && setup.has slot .runtimeDeinit)
    (.runtimeDeinit slot.key)
  let host := host.emitIf slot.release.isSome (.release slot.key)
  host.setSlot i (if slot.release.isSome then {}
    else { slot with deinitRequired := false, runtimeInitialized := false })

def runtimeDeinit (setup : Setup) (host : Host) : Host :=
  let host := run (deinitSlot setup) host (List.range host.app.count).reverse
  let compacted := run (compactCell (fun slot => slot.ops.isSome) ({} : Slot))
    (host.app.slots, 0) (List.range host.app.count)
  { host with app := { host.app with slots := compacted.1, count := compacted.2 } }

end Host

end CanopenRtt.Lifecycle
