import CanopenRtt.Lifecycle.Application
/-!
# Application initialisation

`canopen_app_rtt_init` and `co_app_rtt_auto_init` of `CO_app_RTT.c`. The stages run in their order
up to the first that fails; its failure enters the shared cleanup block.
-/

namespace CanopenRtt.Lifecycle

open CanopenRtt.Support

/-- The arguments of `canopen_app_rtt_init` that it checks; a NULL name is `none`. -/
structure Arguments where
  canName : Option String
  nodeID : Nat
  bitrate : Nat

/-- `CO_LSS_NODE_ID_ASSIGNMENT`. -/
def lssNodeIdAssignment : Nat := 0xFF

def Arguments.accepted (build : Build) (arguments : Arguments) : Bool :=
  let unassigned := build.lssSlave && arguments.nodeID = lssNodeIdAssignment
  arguments.canName.isSome && arguments.nodeID ≠ 0 &&
    (arguments.nodeID ≤ 127 || unassigned) && arguments.bitrate ≠ 0

/-- The answers one initialisation meets. -/
structure InitAnswers where
  timeInit : RtErr := .ok
  semInit : RtErr := .ok
  eventInit : RtErr := .ok
  mutexInit : RtErr := .ok
  newStack : Bool := true
  reset : ResetAnswers := {}
  mainThreadCreate : Bool := true
  rtThreadCreate : Bool := true
  runtime : RuntimeAnswers := {}
  timerCreate : Bool := true
  rtThreadStartup : RtErr := .ok
  timerStart : RtErr := .ok
  mainThreadStartup : RtErr := .ok
  /-- The answer of `rt_mutex_take` in the cleanup. -/
  mutexTake : RtErr := .ok

/-- The node with the flags that are local to `canopen_app_rtt_init`. -/
structure Initialising where
  node : Node
  semInited : Bool := false
  mainlineInited : Bool := false
  mutexInited : Bool := false
  timeInited : Bool := false

namespace Node

def setMainThread (node : Node) (present : Bool) : Node :=
  { node with host := { node.host with app := { node.host.app with mainThread := present } } }

def setRtThread (node : Node) (present : Bool) : Node :=
  { node with host := { node.host with app := { node.host.app with rtThread := present } } }

def setRtTimer (node : Node) (present : Bool) : Node :=
  { node with host := { node.host with app := { node.host.app with rtTimer := present } } }

end Node

/-- What `canopen_app_rtt_init` does behind the time source. -/
inductive Stage where
  | semInit
  | mainlineInit
  | mutexInit
  | newStack
  | resetCommunication
  | createMainThread
  | createRtThread
  | runtimeInit
  | createTimer
  | startRtThread
  | runtimeStart
  | startTimer
  | startMainThread
  deriving DecidableEq, Repr

namespace Stage

def order : List Stage :=
  [semInit, mainlineInit, mutexInit, newStack, resetCommunication, createMainThread,
    createRtThread, runtimeInit, createTimer, startRtThread, runtimeStart, startTimer,
    startMainThread]

/-- A step on the node that keeps the local flags. -/
def onNode (state : Initialising) (result : Node × RtErr) : Initialising × RtErr :=
  ({ state with node := result.1 }, result.2)

def perform (build : Build) (answers : InitAnswers) (state : Initialising) :
    Stage → Initialising × RtErr
  | semInit =>
      if answers.semInit ≠ .ok then (state, answers.semInit)
      else ({ state with node := state.node.emit (.acquire .rtSem), semInited := true }, .ok)
  | mainlineInit =>
      if !build.globalTimerNext then (state, .ok)
      else if answers.eventInit ≠ .ok then
        ({ state with node := { state.node with mainlineInitialized := false } }, answers.eventInit)
      else
        ({ state with
            node := { state.node.emit (.acquire .mainlineEvent) with mainlineInitialized := true }
            mainlineInited := true }, .ok)
  | mutexInit =>
      if answers.mutexInit ≠ .ok then (state, answers.mutexInit)
      else
        ({ state with
            node := state.node.emit (.acquire .lifecycleMutex)
            mutexInited := true }, .ok)
  | newStack => onNode state (state.node.newStack answers.newStack)
  | resetCommunication => onNode state (state.node.resetCommunication build answers.reset true)
  | createMainThread =>
      if !answers.mainThreadCreate then (state, .nomem)
      else onNode state ((state.node.emit (.acquire .mainThread)).setMainThread true, .ok)
  | createRtThread =>
      if !answers.rtThreadCreate then (state, .nomem)
      else onNode state ((state.node.emit (.acquire .rtThread)).setRtThread true, .ok)
  | runtimeInit => onNode state (state.node.runtimeInit build answers.runtime)
  | createTimer =>
      if !answers.timerCreate then (state, .nomem)
      else onNode state ((state.node.emit (.acquire .rtTimer)).setRtTimer true, .ok)
  | startRtThread =>
      onNode state (state.node.emitIf (answers.rtThreadStartup = .ok) (.start .rtThread),
        answers.rtThreadStartup)
  | runtimeStart => onNode state (state.node.runtimeStart build answers.runtime)
  | startTimer =>
      onNode state (state.node.emitIf (answers.timerStart = .ok) (.start .rtTimer),
        answers.timerStart)
  | startMainThread =>
      onNode state (state.node.emitIf (answers.mainThreadStartup = .ok) (.start .mainThread),
        answers.mainThreadStartup)

end Stage

namespace Initialising

/-- After the time source was acquired. -/
def begin (node : Node) : Initialising where
  node := node.emit (.acquire .timeSource)
  timeInited := true

/-- The stages up to the first failure. -/
def attempt (build : Build) (answers : InitAnswers) (node : Node) : Initialising × RtErr :=
  runWhile .ok (Stage.perform build answers) (begin node) Stage.order

/-- The cleanup takes the lifecycle mutex if there is one. -/
def locked (answers : InitAnswers) (state : Initialising) : Bool :=
  state.mutexInited && answers.mutexTake = .ok

/-- The extensions are torn down, unless the stack may be in use. -/
def teardown (answers : InitAnswers) (state : Initialising) : Bool :=
  state.node.host.app.count ≠ 0 && (!state.mutexInited || state.locked answers)

/-- The wakeups are withdrawn, and the lifecycle mutex is taken. -/
def beginCleanup (build : Build) (answers : InitAnswers) (state : Initialising) : Node :=
  let node := state.node.emitIf state.node.host.app.rtTimer (.stop .rtTimer)
  let node := node.resetWakeups build
  node.emitIf (state.locked answers) .lock

/-- The teardown of the extensions: stop, CAN RX off, quiesce, deinitialise. -/
def deinitExtensions (build : Build) (node : Node) : Node :=
  let node := node.communicationStop build
  let node := if node.host.app.canOpenStack then node.canDisable else node
  (node.communicationQuiesced build).runtimeDeinit build

/-- The timer and the threads. -/
def deleteThreads (node : Node) : Node :=
  let node := (node.emitIf node.host.app.rtTimer (.release .rtTimer)).setRtTimer false
  let node := (node.emitIf node.host.app.rtThread (.release .rtThread)).setRtThread false
  (node.emitIf node.host.app.mainThread (.release .mainThread)).setMainThread false

/-- The stack; `quiesced` says that its CAN module was disabled before. -/
def deleteOwnedStack (quiesced : Bool) (node : Node) : Node :=
  if node.host.app.canOpenStack then
    (if quiesced then node else node.canDisable).deleteStack
  else node

/-- `CO_RTT_mainlineDeinit`. -/
def mainlineDeinit (node : Node) : Node :=
  if node.mainlineInitialized then
    { node.emit (.release .mainlineEvent) with mainlineInitialized := false }
  else node

/-- The cleanup block of `canopen_app_rtt_init`. -/
def cleanup (build : Build) (answers : InitAnswers) (state : Initialising) : Node :=
  let node := state.beginCleanup build answers
  let quiesced := state.teardown answers && node.host.app.canOpenStack
  let node := if state.teardown answers then deinitExtensions build node else node
  let node := deleteOwnedStack quiesced (deleteThreads node)
  let node := if state.mainlineInited then mainlineDeinit node else node
  let node := node.emitIf (state.locked answers) .unlock
  let node := node.emitIf state.mutexInited (.release .lifecycleMutex)
  let node := node.emitIf state.semInited (.release .rtSem)
  node.emitIf state.timeInited (.release .timeSource)

end Initialising

namespace Node

/-- `canopen_app_rtt_init`. -/
def init (build : Build) (arguments : Arguments) (answers : InitAnswers) (node : Node) :
    Node × RtErr :=
  if node.host.started then (node, .busy)
  else if !arguments.accepted build then (node, .inval)
  else if answers.timeInit ≠ .ok then (node, answers.timeInit)
  else
    let attempt := Initialising.attempt build answers node
    if attempt.2 = .ok then (attempt.1.node, .ok)
    else (attempt.1.cleanup build answers, attempt.2)

/-- `co_app_rtt_auto_init`; `gateway` is the answer of the gateway console. -/
def autoInit (build : Build) (attach : Nat → Host.Attach) (arguments : Arguments)
    (answers : InitAnswers) (gateway : RtErr) (node : Node) : Node × RtErr :=
  let attached := node.registry (·.autoAttachAll build.setup attach)
  if attached.2 ≠ .ok then attached
  else
    let initialized := attached.1.init build arguments answers
    if initialized.2 ≠ .ok then (initialized.1.runtimeDeinit build, initialized.2)
    else (initialized.1, gateway)

end Node

end CanopenRtt.Lifecycle
