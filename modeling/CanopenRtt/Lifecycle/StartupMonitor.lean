import CanopenRtt.Lifecycle.ApplicationEvents
import CanopenRtt.Lifecycle.ResourceMonitor
/-!
# A node under the monitor

`Sim` relates the flags and pointers of a node to what the monitor knows after the events of the
node so far. Each operation keeps the relation.
-/

namespace CanopenRtt.Lifecycle

open CanopenRtt.Support

/-! ## The relation -/

namespace Node

/-- What the operations on the slots leave alone. -/
def flags (node : Node) : App × Bool × Bool × Bool × Nat × Bool :=
  (node.host.frame.2, node.sharedWorkerSemInitialized, node.sharedWorkerThread,
    node.mainlineInitialized, node.generation, node.canDevice)

end Node

namespace Initialising

/-- What is held according to the flags and pointers. -/
def holds (state : Initialising) : Resource → Bool
  | .timeSource => state.timeInited
  | .rtSem => state.semInited
  | .mainlineEvent => state.mainlineInited
  | .lifecycleMutex => state.mutexInited
  | .stack generation => state.node.stack = some generation
  | .canModule => state.node.canDevice
  | .mainThread => state.node.host.app.mainThread
  | .rtThread => state.node.host.app.rtThread
  | .sharedWorkerSem => state.node.sharedWorkerSemInitialized
  | .sharedWorkerThread => state.node.sharedWorkerThread
  | .rtTimer => state.node.host.app.rtTimer

/-- The flags and pointers fit together. -/
structure Coherent (build : Build) (state : Initialising) : Prop where
  valid : state.node.host.Valid build.setup
  mainline : state.mainlineInited = state.node.mainlineInitialized
  worker : state.node.sharedWorkerThread = true → state.node.sharedWorkerSemInitialized = true
  workerSlots : state.node.sharedWorkerSemInitialized = true → state.node.host.app.count ≠ 0
  device : state.node.canDevice = true → state.node.host.app.canOpenStack = true

end Initialising

/-- The monitor knows what the node holds. A running party exists, and the main thread does not
run before the initialisation has ended. -/
structure Sim (locked timerOff : Bool) (state : Initialising) (monitor : Monitor) : Prop where
  held : ∀ resource, monitor.held resource = state.holds resource
  locked : monitor.locked = locked
  running : ∀ party, monitor.running party = true → state.holds party = true
  main : monitor.running .mainThread = false
  timerOff : timerOff = true → monitor.running .rtTimer = false
  behindMutex : monitor.running .rtThread = true ∨ monitor.running .sharedWorkerThread = true →
    state.holds .lifecycleMutex = true
  released : ∀ slot ∈ state.node.host.registered, monitor.released slot.key = false

/-- The events since `base` are accepted, the monitor knows what the node holds, and `slots` are
registered. -/
structure Lawful (build : Build) (base : List Event) (slots : List (Key × Option Nat))
    (locked timerOff : Bool) (state : Initialising) : Prop where
  coherent : state.Coherent build
  identities : state.node.host.identities = slots
  accepted : ∃ events monitor, state.node.trace = base ++ events ∧
    Accepts Monitor.check {} events monitor ∧ Sim locked timerOff state monitor

section

variable {build : Build} {base added : List Event} {slots slots' : List (Key × Option Nat)}
  {locked timerOff locked' timerOff' : Bool} {state after : Initialising} {monitor : Monitor}
  {resource : Resource}

theorem Lawful.step (h : Lawful build base slots locked timerOff state)
    (htrace : after.node.trace = state.node.trace ++ added) (hcoherent : after.Coherent build)
    (hidentities : after.node.host.identities = slots')
    (hstep : ∀ monitor, Sim locked timerOff state monitor → ∃ next,
      Accepts Monitor.check monitor added next ∧ Sim locked' timerOff' after next) :
    Lawful build base slots' locked' timerOff' after := by
  obtain ⟨events, monitor, hevents, haccepts, hsim⟩ := h.accepted
  obtain ⟨next, hadded, hnext⟩ := hstep monitor hsim
  exact ⟨hcoherent, hidentities, events ++ added, next,
    by rw [htrace, hevents, List.append_assoc], haccepts.append hadded, hnext⟩

/-! ## Acquiring and releasing -/

theorem Sim.acquire (h : Sim locked timerOff state monitor) (hfree : state.holds resource = false)
    (hholds : after.holds = Function.update state.holds resource true)
    (hslots : after.node.host.registered = state.node.host.registered) :
    ∃ next, Accepts Monitor.check monitor [.acquire resource] next ∧
      Sim locked timerOff after next := by
  refine ⟨{ monitor with held := Function.update monitor.held resource true },
    accepts_singleton.mpr (Monitor.permit_eq_some.mpr ⟨?_, rfl⟩), ?_⟩
  · rw [h.held, hfree]
    rfl
  have hkept : ∀ other, state.holds other = true → after.holds other = true := by
    intro other hother
    rw [hholds]
    by_cases hsame : other = resource
    · rw [hsame, Function.update_self]
    · rw [Function.update_of_ne hsame, hother]
  refine ⟨fun other => ?_, h.locked, fun party hparty => hkept party (h.running party hparty),
    h.main, h.timerOff, fun hparty => hkept _ (h.behindMutex hparty), ?_⟩
  · dsimp only
    rw [hholds]
    by_cases hsame : other = resource
    · rw [hsame, Function.update_self, Function.update_self]
    · rw [Function.update_of_ne hsame, Function.update_of_ne hsame, h.held]
  · rw [hslots]
    exact h.released

/-- No running party touches the resource. -/
theorem Sim.idle (h : Sim locked timerOff state monitor)
    (hparties : ∀ party ∈ [Resource.rtTimer, .rtThread, .sharedWorkerThread],
      monitor.running party = true →
        party.waitsOn resource = false ∧ (locked = true ∨ party.enters resource = false)) :
    monitor.idle resource = true := by
  have huses : ∀ party ∈ [Resource.rtTimer, .rtThread, .sharedWorkerThread],
      monitor.uses party resource = false := by
    intro party hparty
    unfold Monitor.uses
    cases hrunning : monitor.running party with
    | false => rfl
    | true =>
        obtain ⟨hwaits, henters⟩ := hparties party hparty hrunning
        rw [h.locked, hwaits]
        rcases henters with rfl | henters
        · rfl
        · rw [henters, Bool.and_false]
          rfl
  have hmain : monitor.uses .mainThread resource = false := by
    unfold Monitor.uses
    rw [h.main]
    rfl
  unfold Monitor.idle parties
  simp only [List.all_cons, List.all_nil, Bool.and_true, hmain, huses .rtTimer (by decide),
    huses .rtThread (by decide), huses .sharedWorkerThread (by decide), Bool.not_false]

theorem Sim.release (h : Sim locked timerOff state monitor) (hheld : state.holds resource = true)
    (hidle : monitor.idle resource = true)
    (hstack : resource.isStack = true → state.node.canDevice = false)
    (hholds : after.holds = Function.update state.holds resource false)
    (hslots : after.node.host.registered = state.node.host.registered) :
    ∃ next, Accepts Monitor.check monitor [.release resource] next ∧
      Sim locked timerOff after next := by
  refine ⟨{ monitor with
      held := Function.update monitor.held resource false
      running := Function.update monitor.running resource false },
    accepts_singleton.mpr (Monitor.permit_eq_some.mpr ⟨?_, rfl⟩), ?_⟩
  · rw [h.held, hheld, hidle, h.held]
    cases hisStack : resource.isStack with
    | false => rfl
    | true =>
        change (true && true && !(true && state.node.canDevice)) = true
        rw [hstack hisStack]
        rfl
  have hother : ∀ party, Function.update monitor.running resource false party = true →
      party ≠ resource ∧ monitor.running party = true := by
    intro party hparty
    by_cases hsame : party = resource
    · rw [hsame, Function.update_self] at hparty
      cases hparty
    · rw [Function.update_of_ne hsame] at hparty
      exact ⟨hsame, hparty⟩
  have hstopped : ∀ party, monitor.running party = false →
      Function.update monitor.running resource false party = false := by
    intro party hparty
    by_contra hne
    have hrunning := (hother party (eq_true_of_ne_false hne)).2
    rw [hparty] at hrunning
    cases hrunning
  have hwaits : ∀ party ∈ parties, monitor.running party = true →
      party.waitsOn resource = false := by
    intro party hparty hrunning
    have huses := List.all_eq_true.mp hidle party hparty
    unfold Monitor.uses at huses
    rw [hrunning] at huses
    simp only [Bool.true_and, Bool.not_eq_true', Bool.or_eq_false_iff] at huses
    exact huses.1
  refine ⟨fun other => ?_, h.locked, ?_, hstopped _ h.main,
    fun hoff => hstopped _ (h.timerOff hoff), ?_, ?_⟩
  · dsimp only
    rw [hholds]
    by_cases hsame : other = resource
    · rw [hsame, Function.update_self, Function.update_self]
    · rw [Function.update_of_ne hsame, Function.update_of_ne hsame, h.held]
  · intro party hparty
    obtain ⟨hne, hrunning⟩ := hother party hparty
    rw [hholds, Function.update_of_ne hne]
    exact h.running party hrunning
  · -- A thread that still runs waits on the mutex, so this is not what was released.
    intro hparty
    have hthread : ∃ party ∈ parties, monitor.running party = true ∧
        party.waitsOn .lifecycleMutex = true := by
      rcases hparty with hparty | hparty
      · exact ⟨.rtThread, by decide, (hother _ hparty).2, rfl⟩
      · exact ⟨.sharedWorkerThread, by decide, (hother _ hparty).2, rfl⟩
    obtain ⟨party, hmem, hrunning, hmutex⟩ := hthread
    have hne : Resource.lifecycleMutex ≠ resource := by
      rintro rfl
      rw [hwaits party hmem hrunning] at hmutex
      cases hmutex
    rw [hholds, Function.update_of_ne hne]
    exact h.behindMutex (hparty.imp (fun h => (hother _ h).2) fun h => (hother _ h).2)
  · rw [hslots]
    exact h.released

theorem Sim.start (h : Sim locked false state monitor) {party : Resource}
    (hheld : state.holds party = true) (hmain : party ≠ .mainThread)
    (hmutex : state.holds .lifecycleMutex = true) :
    ∃ next, Accepts Monitor.check monitor [.start party] next ∧ Sim locked false state next := by
  refine ⟨{ monitor with running := Function.update monitor.running party true },
    accepts_singleton.mpr (Monitor.permit_eq_some.mpr ⟨by rw [h.held, hheld], rfl⟩),
    h.held, h.locked, ?_, ?_, nofun, fun _ => hmutex, h.released⟩
  · intro other hother
    by_cases hsame : other = party
    · rw [hsame]
      exact hheld
    · dsimp only at hother
      rw [Function.update_of_ne hsame] at hother
      exact h.running other hother
  · dsimp only
    rw [Function.update_of_ne (Ne.symm hmain)]
    exact h.main

/-! ## Callbacks -/

/-- A notice or a callback about a registered slot, with the current stack. -/
inductive Routine (node : Node) : Event → Prop
  | notice {slot : Slot} (hslot : slot ∈ node.host.registered) (notice : Notice) :
      Routine node (.notice node.stack slot.key notice)
  | callback {call : Call} (hslot : ∃ slot ∈ node.host.registered, call.about = some slot.key) :
      Routine node (.callback node.stack call)

theorem Sim.reaches (h : Sim locked timerOff state monitor) {slot : Slot}
    (hslot : slot ∈ state.node.host.registered) :
    monitor.reaches state.node.stack slot.key = true := by
  unfold Monitor.reaches
  rw [h.released slot hslot, Bool.not_false, Bool.true_and]
  cases hstack : state.node.stack with
  | none => rfl
  | some generation =>
      rw [Option.all_some, h.held]
      exact decide_eq_true hstack

theorem Sim.check_routine (h : Sim locked timerOff state monitor) {event : Event}
    (hroutine : Routine state.node event) : monitor.check event = some monitor := by
  cases hroutine with
  | notice hslot notice => exact Monitor.permit_eq_some.mpr ⟨h.reaches hslot, rfl⟩
  | @callback call hslot =>
      obtain ⟨slot, hslot, habout⟩ := hslot
      cases call with
      | attach _ => cases habout
      | release _ => cases habout
      | _ =>
          obtain rfl := Option.some.inj habout
          exact Monitor.permit_eq_some.mpr ⟨h.reaches hslot, rfl⟩

theorem holds_of_flags {node : Node} (h : node.flags = state.node.flags) :
    ({ state with node := node } : Initialising).holds = state.holds := by
  have happ : node.host.frame.2 = state.node.host.frame.2 := congrArg Prod.fst h
  have hstack : node.stack = state.node.stack := by
    have hgeneration : node.generation = state.node.generation :=
      congrArg (fun p => p.2.2.2.2.1) h
    have hpointer : node.host.app.canOpenStack = state.node.host.app.canOpenStack :=
      (congrArg App.canOpenStack happ :)
    unfold Node.stack
    rw [hgeneration, hpointer]
  funext resource
  cases resource with
  | stack generation =>
      change decide (node.stack = _) = decide (state.node.stack = _)
      rw [hstack]
  | canModule => exact congrArg (fun p => p.2.2.2.2.2) h
  | mainThread => exact (congrArg App.mainThread happ :)
  | rtThread => exact (congrArg App.rtThread happ :)
  | sharedWorkerSem => exact congrArg (fun p => p.2.1) h
  | sharedWorkerThread => exact congrArg (fun p => p.2.2.1) h
  | rtTimer => exact (congrArg App.rtTimer happ :)
  | _ => rfl

/-- Callbacks about registered slots move neither the node nor the monitor. -/
theorem Lawful.routine (h : Lawful build base slots locked timerOff state) {node : Node}
    (htrace : node.trace = state.node.trace ++ added)
    (hadded : ∀ event ∈ added, Routine state.node event) (hflags : node.flags = state.node.flags)
    (hvalid : node.host.Valid build.setup)
    (hidentities : node.host.identities = state.node.host.identities) :
    Lawful build base slots locked timerOff { state with node := node } := by
  have hholds := holds_of_flags hflags
  have happ : node.host.frame.2 = state.node.host.frame.2 := congrArg Prod.fst hflags
  have hsem : node.sharedWorkerSemInitialized = state.node.sharedWorkerSemInitialized :=
    congrArg (fun p => p.2.1) hflags
  refine h.step htrace ⟨hvalid, ?_, ?_, ?_, ?_⟩ (hidentities.trans h.identities) fun monitor hsim =>
    ⟨monitor, accepts_of_idle fun event hevent => hsim.check_routine (hadded event hevent), ?_⟩
  · exact h.coherent.mainline.trans (congrArg (fun p => p.2.2.2.1) hflags).symm
  · intro hthread
    have hworker : node.sharedWorkerThread = state.node.sharedWorkerThread :=
      congrArg (fun p => p.2.2.1) hflags
    exact hsem.trans (h.coherent.worker (hworker.symm.trans hthread))
  · intro hworker
    have hcount : node.host.app.count = state.node.host.app.count := (congrArg App.count happ :)
    change node.host.app.count ≠ 0
    rw [hcount]
    exact h.coherent.workerSlots (hsem.symm.trans hworker)
  · intro hdevice
    have hcan : node.canDevice = state.node.canDevice := congrArg (fun p => p.2.2.2.2.2) hflags
    have hpointer : node.host.app.canOpenStack = state.node.host.app.canOpenStack :=
      (congrArg App.canOpenStack happ :)
    exact hpointer.trans (h.coherent.device (hcan.symm.trans hdevice))
  · refine ⟨?_, hsim.locked, ?_, hsim.main, hsim.timerOff, ?_, ?_⟩
    · rw [hholds]
      exact hsim.held
    · rw [hholds]
      exact hsim.running
    · rw [hholds]
      exact hsim.behindMutex
    · intro slot hslot
      obtain ⟨before, hbefore, hidentity⟩ := Host.exists_of_identities hidentities hslot
      have hkey : before.key = slot.key := congrArg Prod.fst hidentity
      rw [← hkey]
      exact hsim.released before hbefore

end

end CanopenRtt.Lifecycle
