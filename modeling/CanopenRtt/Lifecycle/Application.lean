import CanopenRtt.Lifecycle.RegistryLoops
/-!
# The application node and its communication generations

`CO_app_RTT.c`: the stack of one `CANopenNodeRTT`, Communication Reset, and the dispatchers of
`CO_lifecycle_RTT.c`. Every answer of the kernel, of the stack and of a callback is an argument.
What the node acquires, releases and calls is appended to a trace.
-/

namespace CanopenRtt.Lifecycle

open CanopenRtt.Support

/-- `-RT_ENOMEM`. -/
def RtErr.nomem : RtErr := .other 5

/-- What a node acquires. Each `CO_new` makes a stack of its own. -/
inductive Resource where
  | timeSource
  | rtSem
  | mainlineEvent
  | lifecycleMutex
  | stack (generation : Nat)
  | canModule
  | mainThread
  | rtThread
  | sharedWorkerSem
  | sharedWorkerThread
  | rtTimer
  deriving DecidableEq, Repr

/-- The callbacks of `CO_RTT_lifecycle_ops_t` that answer nothing. -/
inductive Notice where
  | communicationStop
  | communicationReady
  | realtimeTick
  | resetWakeups
  | synchronousProcess
  | nmtStateChanged
  | deferredProcess
  | mainlineProcess
  deriving DecidableEq, Repr

/-- A callback is logged with the stack that `canOpenStack` points to. -/
inductive Event where
  | acquire (resource : Resource)
  | release (resource : Resource)
  | start (resource : Resource)
  | stop (resource : Resource)
  | lock
  | unlock
  | callback (stack : Option Nat) (call : Call)
  | notice (stack : Option Nat) (slot : Key) (notice : Notice)
  deriving DecidableEq, Repr

/-- The options of a build, and the notices that each table sets. -/
structure Build where
  setup : Setup
  notifies : Nat → Notice → Bool
  sharedWorker : Bool
  /-- The priorities put the shared worker below the realtime thread. -/
  workerBelowRt : Bool
  globalTimerNext : Bool
  lssSlave : Bool

def Build.sets (build : Build) (slot : Slot) (notice : Notice) : Bool :=
  slot.ops.any fun ops => build.notifies ops notice

/-- The answers of one `CO_RTT_lifecycleRuntimeInit` and `CO_RTT_lifecycleRuntimeStart`. -/
structure RuntimeAnswers where
  runtimeInit : Key → RtErr := fun _ => .ok
  workerSemInit : RtErr := .ok
  workerThreadCreate : Bool := true
  runtimeStart : Key → RtErr := fun _ => .ok
  workerStartup : RtErr := .ok

/-- The answers of one `co_app_rtt_reset_communication`. A step that a build leaves out succeeds. -/
structure ResetAnswers where
  auxiliaryStorage : Bool := true
  canInit : Bool := true
  /-- A persisted LSS configuration was loaded whose bitrate is not the startup one. -/
  persistedBitrate : Bool := false
  canInitAgain : Bool := true
  lssInit : Bool := true
  storage : Bool := true
  canOpenInit : Bool := true
  bind : Key → RtErr := fun _ => .ok
  initSrdo : Bool := true
  initPdo : Bool := true
  demoBind : Bool := true
  normalMode : Bool := true

/-- The part of `CANopenNodeRTT` that its lifecycle reads. -/
structure Node where
  host : Host := {}
  sharedWorkerSemInitialized : Bool := false
  sharedWorkerThread : Bool := false
  mainlineInitialized : Bool := false
  /-- The number of stacks made so far. -/
  generation : Nat := 0
  /-- `CANmodule->dev` of the current stack. -/
  canDevice : Bool := false
  canNormal : Bool := false
  trace : List Event := []

namespace Node

def emit (node : Node) (event : Event) : Node := { node with trace := node.trace ++ [event] }

def emitIf (node : Node) (condition : Bool) (event : Event) : Node :=
  if condition then node.emit event else node

/-- The pointer `canOpenStack`. -/
def stack (node : Node) : Option Nat :=
  if node.host.app.canOpenStack then some node.generation else none

/-- One call of the registry, with the callbacks it makes. -/
def registry (node : Node) (operation : Host → Host × RtErr) : Node × RtErr :=
  let result := operation node.host
  ({ node with
      host := result.1
      trace := node.trace ++
        (result.1.log.drop node.host.log.length).map (Event.callback node.stack) }, result.2)

/-! ### The dispatchers -/

/-- The loop body of a dispatcher. -/
def notifySlot (build : Build) (notice : Notice) (gate : Slot → Bool) (node : Node) (i : Nat) :
    Node :=
  let slot := node.host.slot i
  node.emitIf (gate slot && build.sets slot notice) (.notice node.stack slot.key notice)

/-- `CO_RTT_lifecycleCommunicationStop`. -/
def communicationStop (build : Build) (node : Node) : Node :=
  run (notifySlot build .communicationStop (·.communicationBound)) node
    (List.range node.host.app.count).reverse

/-- `CO_RTT_lifecycleCommunicationReady`. -/
def communicationReady (build : Build) (node : Node) : Node :=
  run (notifySlot build .communicationReady (·.communicationBound)) node
    (List.range node.host.app.count)

/-- `CO_RTT_lifecycleResetWakeups`. -/
def resetWakeups (build : Build) (node : Node) : Node :=
  run (notifySlot build .resetWakeups (·.runtimeInitialized)) node
    (List.range node.host.app.count).reverse

/-- `CO_RTT_lifecycleCommunicationQuiesced`. -/
def communicationQuiesced (build : Build) (node : Node) : Node :=
  (node.registry fun host => (host.communicationQuiesced build.setup, .ok)).1

/-! ### The shared worker -/

def hasDeferredProcess (build : Build) (node : Node) : Bool :=
  node.host.registered.any fun slot => build.sets slot .deferredProcess

/-- `CO_RTT_lifecycleSharedWorkerInit`. -/
def sharedWorkerInit (build : Build) (semInit : RtErr) (threadCreate : Bool) (node : Node) :
    Node × RtErr :=
  if !build.sharedWorker || !node.hasDeferredProcess build then (node, .ok)
  else if node.sharedWorkerSemInitialized || node.sharedWorkerThread then (node, .busy)
  else if !build.workerBelowRt then (node, .inval)
  else if semInit ≠ .ok then (node, semInit)
  else if !threadCreate then
    ((node.emit (.acquire .sharedWorkerSem)).emit (.release .sharedWorkerSem), .nomem)
  else
    ({ (node.emit (.acquire .sharedWorkerSem)).emit (.acquire .sharedWorkerThread) with
        sharedWorkerSemInitialized := true
        sharedWorkerThread := true }, .ok)

/-- `CO_RTT_lifecycleSharedWorkerStart`. -/
def sharedWorkerStart (build : Build) (startup : RtErr) (node : Node) : Node × RtErr :=
  if !build.sharedWorker then (node, .ok)
  else if !node.sharedWorkerThread then
    (node, if node.hasDeferredProcess build then .error else .ok)
  else (node.emitIf (startup = .ok) (.start .sharedWorkerThread), startup)

/-- `CO_RTT_lifecycleSharedWorkerDeinit`. -/
def sharedWorkerDeinit (node : Node) : Node :=
  let node := { node.emitIf node.sharedWorkerThread (.release .sharedWorkerThread) with
    sharedWorkerThread := false }
  { node.emitIf node.sharedWorkerSemInitialized (.release .sharedWorkerSem) with
    sharedWorkerSemInitialized := false }

/-! ### Runtime -/

def runtimeInit (build : Build) (answers : RuntimeAnswers) (node : Node) : Node × RtErr :=
  let initialized := node.registry (·.runtimeInit build.setup answers.runtimeInit .ok)
  if initialized.2 ≠ .ok then initialized
  else initialized.1.sharedWorkerInit build answers.workerSemInit answers.workerThreadCreate

def runtimeStart (build : Build) (answers : RuntimeAnswers) (node : Node) : Node × RtErr :=
  let started := node.registry (·.runtimeStart build.setup answers.runtimeStart .ok)
  if started.2 ≠ .ok then started
  else started.1.sharedWorkerStart build answers.workerStartup

/-- `CO_RTT_lifecycleRuntimeDeinit`. -/
def runtimeDeinit (build : Build) (node : Node) : Node :=
  (node.sharedWorkerDeinit.registry fun host => (host.runtimeDeinit build.setup, .ok)).1

/-! ### The stack -/

def setStack (node : Node) (present : Bool) : Node :=
  { node with host := { node.host with app := { node.host.app with canOpenStack := present } } }

/-- `co_app_rtt_new_stack`. -/
def newStack (created : Bool) (node : Node) : Node × RtErr :=
  if !created then (node.setStack false, .nomem)
  else
    ({ (node.setStack true).emit (.acquire (.stack (node.generation + 1))) with
        generation := node.generation + 1
        canDevice := false
        canNormal := false }, .ok)

/-- `CO_delete` of the current stack. -/
def deleteStack (node : Node) : Node :=
  (node.emit (.release (.stack node.generation))).setStack false

/-- `CO_CANmodule_disable` of the current stack. -/
def canDisable (node : Node) : Node :=
  { node.emitIf node.canDevice (.release .canModule) with
    canDevice := false
    canNormal := false }

/-- `CO_CANinit`; the module of the current stack is disabled before. -/
def canInit (initialized : Bool) (node : Node) : Node :=
  { node.emitIf initialized (.acquire .canModule) with
    canDevice := initialized
    canNormal := false }

/-- The steps behind the bind. -/
def completeReset (build : Build) (answers : ResetAnswers) (node : Node) : Node × RtErr :=
  if !answers.initSrdo then (node, .error)
  else if !answers.initPdo then (node, .error)
  else if !answers.demoBind then (node, .busy)
  else if build.globalTimerNext && !node.mainlineInitialized then (node, .inval)
  else if !answers.normalMode then (node, .error)
  else (communicationReady build { node with canNormal := true }, .ok)

/-- `co_app_rtt_reset_communication`. -/
def resetCommunication (build : Build) (answers : ResetAnswers) (loadPersistentLss : Bool)
    (node : Node) : Node × RtErr :=
  let node := (node.communicationStop build).canDisable
  if loadPersistentLss && !answers.auxiliaryStorage then (node, .error)
  else
    let retried := !answers.canInit && loadPersistentLss && answers.persistedBitrate
    let node := node.canInit answers.canInit
    let node := if retried then node.canInit answers.canInitAgain else node
    if !node.canDevice then (node, .error)
    else if !answers.lssInit then (node, .error)
    else if !answers.storage then (node, .error)
    else if !answers.canOpenInit then (node, .error)
    else
      let bound := node.registry (·.bindCommunication build.setup true answers.bind)
      if bound.2 ≠ .ok then bound else bound.1.completeReset build answers

end Node

end CanopenRtt.Lifecycle
