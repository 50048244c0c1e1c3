import CanopenRtt.Lifecycle.StartupCleanup
import CanopenRtt.Support.Threads
/-!
# The threads of an application and its Communication Resets

`co_app_rtt_main_thread_entry`, `co_app_rtt_realtime_thread_entry` and `co_app_rtt_recreate_stack`
of `CO_app_RTT.c` with `CO_RTT_lifecycleSharedWorkerEntry` of `CO_lifecycle_RTT.c`, from the call
of `canopen_app_rtt_init` on. The caller, the threads and whoever else takes the lifecycle mutex
run in any interleaving of their steps. A wakeup is an answer: it may come at any time.
-/

namespace CanopenRtt.Lifecycle

open CanopenRtt.Support

/-- `CO_NMT_reset_cmd_t`. -/
inductive ResetCommand where
  | not
  | comm
  | app
  | quit
  deriving DecidableEq, Repr

/-- The statements of `co_app_rtt_recreate_stack`. -/
inductive Recreate where
  | stop
  | disable
  | quiesce
  | delete
  | create
  | reset
  deriving DecidableEq, Repr

/-- The answers of one `co_app_rtt_recreate_stack`. -/
structure RecreateAnswers where
  created : Bool := true
  reset : ResetAnswers := {}

namespace Recreate

def perform (build : Build) (answers : RecreateAnswers) (node : Node) : Recreate → Node × RtErr
  | stop => (node.communicationStop build, .ok)
  | disable => (node.canDisable, .ok)
  | quiesce => (node.communicationQuiesced build, .ok)
  | delete => (node.deleteStack, .ok)
  | create => node.newStack answers.created
  | reset => node.resetCommunication build answers.reset false

/-- The end of an old stack, also of one whose communication did not come up. -/
def teardown : List Recreate := [stop, disable, quiesce, delete]

def plan (node : Node) : List Recreate :=
  if node.host.app.canOpenStack then teardown ++ [create, reset] else [stop, create, reset]

/-- What a statement that failed leaves to do. -/
def unwind : Recreate → List Recreate
  | reset => teardown
  | _ => []

end Recreate

/-- `co_app_rtt_recreate_stack`. -/
def Node.recreateStack (build : Build) (answers : RecreateAnswers) (node : Node) : Node × RtErr :=
  let node := node.communicationStop build
  let node :=
    if node.host.app.canOpenStack then (node.canDisable.communicationQuiesced build).deleteStack
    else node
  let made := node.newStack answers.created
  if made.2 ≠ .ok then made
  else
    let reset := made.1.resetCommunication build answers.reset false
    if reset.2 ≠ .ok then
      let node := (reset.1.communicationStop build).canDisable
      ((node.communicationQuiesced build).deleteStack, reset.2)
    else reset

/-! ## The parties -/

/-- Who may hold the lifecycle mutex. `other` is code that does not touch the node. -/
inductive Party where
  | mainThread
  | rtThread
  | worker
  | other
  deriving DecidableEq, Repr

/-- The caller of `canopen_app_rtt_init`. -/
inductive StartupAt where
  | staging (rest : List Stage)
  | failed (ret : RtErr)
  /-- The wakeups are withdrawn; the cleanup waits for the mutex. -/
  | withdrawn (ret : RtErr)
  | returned (ret : RtErr)
  deriving DecidableEq, Repr

/-- `co_main`; `co` is its local pointer. -/
inductive MainAt where
  | off
  | entry
  | waiting (co : Nat)
  | nmtStateChanged (co i : Nat)
  | mainlineProcess (co : Nat) (reset : ResetCommand) (i : Nat)
  | resetRequested
  | recreating (todo : List Recreate) (ret : RtErr)
  | restarting
  | returned
  | cpuReset
  deriving DecidableEq, Repr

/-- Where `co_main` goes on after a pass. -/
def MainAt.afterPass (co : Nat) : ResetCommand → MainAt
  | .comm => .resetRequested
  | .app => .cpuReset
  | _ => .waiting co

/-- `co_rt`; `co` is its local pointer. -/
inductive RtAt where
  | off
  | waiting
  | locking
  | locked
  | synchronous (co i : Nat)
  deriving DecidableEq, Repr

/-- The shared profile worker. -/
inductive WorkerAt where
  | off
  | waiting
  | locking
  | deferred (i : Nat)
  deriving DecidableEq, Repr

structure System where
  state : Initialising
  startup : StartupAt := .staging Stage.order
  main : MainAt := .off
  rt : RtAt := .off
  worker : WorkerAt := .off
  owner : Option Party := none

namespace Node

/-- A slot that a processing dispatcher calls. -/
def processes (slot : Slot) : Bool := slot.runtimeInitialized && slot.communicationBound

/-- The timer is stopped, and queued wakeups are drained. -/
def stopRealtime (build : Build) (node : Node) : Node :=
  if node.host.app.rtTimer then (node.emit (.stop .rtTimer)).resetWakeups build else node

/-- The timer is started again; a failure closes the processing gate. -/
def restartRealtime (started : Bool) (node : Node) : Node :=
  if !node.host.app.rtTimer then node
  else if started then node.emit (.start .rtTimer)
  else { node with canNormal := false }

end Node

namespace Initialising

/-- The part of the cleanup in front of the mutex. -/
def withdraw (build : Build) (state : Initialising) : Node :=
  (state.node.emitIf state.node.host.app.rtTimer (.stop .rtTimer)).resetWakeups build

/-- The part behind it. -/
def cleanupLocked (build : Build) (answers : InitAnswers) (state : Initialising) : Node :=
  let node := state.node.emitIf (state.locked answers) .lock
  ({ state with
    node := if state.teardown answers then deinitExtensions build node else node } :
      Initialising).finish (state.teardown answers && node.host.app.canOpenStack)
        (state.locked answers)

theorem cleanup_eq_locked (build : Build) (answers : InitAnswers) (state : Initialising) :
    state.cleanup build answers =
      ({ state with node := state.withdraw build } : Initialising).cleanupLocked build answers := by
  have hteardown : ({ state with node := state.withdraw build } : Initialising).teardown answers =
      state.teardown answers := by
    unfold Initialising.teardown Initialising.withdraw
    rw [Node.resetWakeups_eq, Node.emitIf_host]
    rfl
  rw [cleanup_eq_finish]
  unfold cleanupLocked
  rw [hteardown]
  rfl

end Initialising

/-! ## The steps -/

namespace System

def node (s : System) : Node := s.state.node

def setNode (s : System) (node : Node) : System := { s with state := { s.state with node := node } }

/-- What a finished stage starts. -/
def started (build : Build) (stage : Stage) (s : System) : System :=
  { s with
    main := if stage = .startMainThread then .entry else s.main
    rt := if stage = .startRtThread then .waiting else s.rt
    worker :=
      if stage = .runtimeStart ∧ build.sharedWorker = true ∧ s.node.sharedWorkerThread = true then
        .waiting
      else s.worker }

/-- One step of the caller of `canopen_app_rtt_init`. -/
inductive StartupStep (build : Build) (answers : InitAnswers) : System → System → Prop where
  | stage (s : System) (stage : Stage) (rest : List Stage)
      (hat : s.startup = .staging (stage :: rest))
      (hok : (stage.perform build answers s.state).2 = .ok) :
      StartupStep build answers s
        ({ s with
            state := (stage.perform build answers s.state).1
            startup := .staging rest }.started build stage)
  | stageFails (s : System) (stage : Stage) (rest : List Stage)
      (hat : s.startup = .staging (stage :: rest))
      (hfailed : (stage.perform build answers s.state).2 ≠ .ok) :
      StartupStep build answers s
        { s with
          state := (stage.perform build answers s.state).1
          startup := .failed (stage.perform build answers s.state).2 }
  | initialised (s : System) (hat : s.startup = .staging []) :
      StartupStep build answers s { s with startup := .returned .ok }
  | withdraw (s : System) (ret : RtErr) (hat : s.startup = .failed ret) :
      StartupStep build answers s
        { s.setNode (s.state.withdraw build) with startup := .withdrawn ret }
  /-- The rest of the cleanup runs under the mutex and deletes the threads. -/
  | cleanup (s : System) (ret : RtErr) (hat : s.startup = .withdrawn ret)
      (hfree : s.owner = none) :
      StartupStep build answers s
        { state := { node := s.state.cleanupLocked build answers }
          startup := .returned ret
          owner := none }

/-- One step of `co_main`. -/
inductive MainStep (build : Build) : System → System → Prop where
  | entry (s : System) (co : Nat) (hat : s.main = .entry) (hstack : s.node.stack = some co) :
      MainStep build s { s with main := .waiting co }
  | entryNull (s : System) (hat : s.main = .entry) (hstack : s.node.stack = none) :
      MainStep build s { s with main := .returned }
  /-- `CO_process` answers, and the NMT state may have changed. -/
  | process (s : System) (co : Nat) (reset : ResetCommand) (changed : Bool)
      (hat : s.main = .waiting co) :
      MainStep build s
        { s with
          main :=
            if reset = .not ∧ changed = true then .nmtStateChanged co 0
            else .mainlineProcess co reset 0 }
  | nmtStateChanged (s : System) (co i : Nat) (hat : s.main = .nmtStateChanged co i)
      (hi : i < s.node.host.app.count) :
      MainStep build s
        { s.setNode (s.node.notifySlot build .nmtStateChanged Node.processes i) with
          main := .nmtStateChanged co (i + 1) }
  | nmtStateEnd (s : System) (co i : Nat) (hat : s.main = .nmtStateChanged co i)
      (hi : s.node.host.app.count ≤ i) :
      MainStep build s { s with main := .mainlineProcess co .not 0 }
  | mainlineProcess (s : System) (co : Nat) (reset : ResetCommand) (i : Nat)
      (hat : s.main = .mainlineProcess co reset i) (hi : i < s.node.host.app.count) :
      MainStep build s
        { s.setNode (s.node.notifySlot build .mainlineProcess Node.processes i) with
          main := .mainlineProcess co reset (i + 1) }
  | mainlineEnd (s : System) (co : Nat) (reset : ResetCommand) (i : Nat)
      (hat : s.main = .mainlineProcess co reset i) (hi : s.node.host.app.count ≤ i) :
      MainStep build s
        { s.setNode (if reset = .comm then s.node.stopRealtime build else s.node) with
          main := MainAt.afterPass co reset }
  | resetLockFails (s : System) (hat : s.main = .resetRequested) :
      MainStep build s { s with main := .returned }
  | resetLock (s : System) (hat : s.main = .resetRequested) (hfree : s.owner = none) :
      MainStep build s
        { s with main := .recreating (Recreate.plan s.node) .ok, owner := some .mainThread }
  | recreate (s : System) (answers : RecreateAnswers) (statement : Recreate)
      (todo : List Recreate) (ret : RtErr) (hat : s.main = .recreating (statement :: todo) ret)
      (hok : (statement.perform build answers s.node).2 = .ok) :
      MainStep build s
        { s.setNode (statement.perform build answers s.node).1 with
          main := .recreating todo ret }
  | recreateFails (s : System) (answers : RecreateAnswers) (statement : Recreate)
      (todo : List Recreate) (ret : RtErr) (hat : s.main = .recreating (statement :: todo) ret)
      (hfailed : (statement.perform build answers s.node).2 ≠ .ok) :
      MainStep build s
        { s.setNode (statement.perform build answers s.node).1 with
          main := .recreating statement.unwind (statement.perform build answers s.node).2 }
  | recreated (s : System) (ret : RtErr) (hat : s.main = .recreating [] ret) :
      MainStep build s
        { s with main := if ret = .ok then .restarting else .returned, owner := none }
  | restart (s : System) (started : Bool) (co : Nat) (hat : s.main = .restarting)
      (hstack : s.node.stack = some co) :
      MainStep build s
        { s.setNode (s.node.restartRealtime started) with
          main :=
            if s.node.host.app.rtTimer = true ∧ started = false then .returned else .waiting co }

/-- One step of `co_rt`. -/
inductive RtStep (build : Build) : System → System → Prop where
  | wake (s : System) (hat : s.rt = .waiting) : RtStep build s { s with rt := .locking }
  | lockFails (s : System) (hat : s.rt = .locking) : RtStep build s { s with rt := .waiting }
  | lock (s : System) (hat : s.rt = .locking) (hfree : s.owner = none) :
      RtStep build s { s with rt := .locked, owner := some .rtThread }
  /-- There is no stack, or there was no SYNC to process. -/
  | skip (s : System) (hat : s.rt = .locked) :
      RtStep build s { s with rt := .waiting, owner := none }
  /-- CAN is in its normal mode, and a SYNC arrived in the Operational state. -/
  | sync (s : System) (co : Nat) (hat : s.rt = .locked) (hstack : s.node.stack = some co)
      (hnormal : s.node.canNormal = true) :
      RtStep build s { s with rt := .synchronous co 0 }
  | synchronousProcess (s : System) (co i : Nat) (hat : s.rt = .synchronous co i)
      (hi : i < s.node.host.app.count) :
      RtStep build s
        { s.setNode (s.node.notifySlot build .synchronousProcess Node.processes i) with
          rt := .synchronous co (i + 1) }
  | unlock (s : System) (co i : Nat) (hat : s.rt = .synchronous co i)
      (hi : s.node.host.app.count ≤ i) :
      RtStep build s { s with rt := .waiting, owner := none }

/-- One step of the shared worker. -/
inductive WorkerStep (build : Build) : System → System → Prop where
  | wake (s : System) (hat : s.worker = .waiting) : WorkerStep build s { s with worker := .locking }
  | lockFails (s : System) (hat : s.worker = .locking) :
      WorkerStep build s { s with worker := .waiting }
  | lock (s : System) (hat : s.worker = .locking) (hfree : s.owner = none) :
      WorkerStep build s { s with worker := .deferred 0, owner := some .worker }
  | deferredProcess (s : System) (i : Nat) (hat : s.worker = .deferred i)
      (hi : i < s.node.host.app.count) :
      WorkerStep build s
        { s.setNode (s.node.notifySlot build .deferredProcess Node.processes i) with
          worker := .deferred (i + 1) }
  | unlock (s : System) (i : Nat) (hat : s.worker = .deferred i)
      (hi : s.node.host.app.count ≤ i) :
      WorkerStep build s { s with worker := .waiting, owner := none }

/-- One step of some party. -/
inductive Step (build : Build) (answers : InitAnswers) : System → System → Prop where
  | startup {s s' : System} (h : StartupStep build answers s s') : Step build answers s s'
  | main {s s' : System} (h : MainStep build s s') : Step build answers s s'
  | rt {s s' : System} (h : RtStep build s s') : Step build answers s s'
  | worker {s s' : System} (h : WorkerStep build s s') : Step build answers s s'
  | otherLock (s : System) (hfree : s.owner = none) :
      Step build answers s { s with owner := some .other }
  | otherUnlock (s : System) (howner : s.owner = some .other) :
      Step build answers s { s with owner := none }

/-- `canopen_app_rtt_init` has checked its arguments and acquired the time source. -/
def start (node : Node) : System where
  state := Initialising.begin node

end System

end CanopenRtt.Lifecycle
