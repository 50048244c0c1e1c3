import CanopenRtt.Lifecycle.Application
import CanopenRtt.Lifecycle.Ownership
/-!
# What the dispatchers of a node log

One equation for each dispatcher: the events it appends, slot by slot, and that it changes nothing
but the slots of the registry.
-/

namespace CanopenRtt.Lifecycle

open CanopenRtt.Support

namespace Node

/-- The notice one slot gets. -/
def noticeEvents (build : Build) (notice : Notice) (gate : Slot → Bool) (node : Node)
    (slot : Slot) : List Event :=
  if gate slot && build.sets slot notice then [.notice node.stack slot.key notice] else []

@[simp] theorem emit_host (node : Node) (event : Event) : (node.emit event).host = node.host := rfl

@[simp] theorem emitIf_host (node : Node) (condition : Bool) (event : Event) :
    (node.emitIf condition event).host = node.host := by
  cases condition <;> rfl

theorem emitIf_eq (node : Node) (condition : Bool) (event : Event) :
    node.emitIf condition event =
      { node with trace := node.trace ++ if condition then [event] else [] } := by
  cases condition with
  | false => simp [emitIf]
  | true => rfl

/-- Nothing but the trace. -/
theorem run_notifySlot (build : Build) (notice : Notice) (gate : Slot → Bool) (node : Node)
    (visits : List Nat) :
    run (notifySlot build notice gate) node visits =
      { node with
        trace := node.trace ++ visits.flatMap fun i =>
          node.noticeEvents build notice gate (node.host.app.slots i) } := by
  induction visits generalizing node with
  | nil => simp
  | cons i visits ih =>
      have hstep : notifySlot build notice gate node i =
          { node with
            trace := node.trace ++
              node.noticeEvents build notice gate (node.host.app.slots i) } := by
        unfold notifySlot
        exact emitIf_eq ..
      rw [run_cons, ih, hstep]
      simp only [List.flatMap_cons, List.append_assoc]
      rfl

def stopEvents (build : Build) (node : Node) : List Event :=
  node.host.registered.reverse.flatMap
    (node.noticeEvents build .communicationStop (·.communicationBound))

def readyEvents (build : Build) (node : Node) : List Event :=
  node.host.registered.flatMap
    (node.noticeEvents build .communicationReady (·.communicationBound))

def wakeupEvents (build : Build) (node : Node) : List Event :=
  node.host.registered.reverse.flatMap
    (node.noticeEvents build .resetWakeups (·.runtimeInitialized))

theorem communicationStop_eq (build : Build) (node : Node) :
    node.communicationStop build = { node with trace := node.trace ++ node.stopEvents build } := by
  unfold communicationStop stopEvents
  rw [run_notifySlot]
  exact congrArg (fun events => { node with trace := node.trace ++ events })
    (flatMap_range_reverse node.host.app.slots _ _)

theorem communicationReady_eq (build : Build) (node : Node) :
    node.communicationReady build =
      { node with trace := node.trace ++ node.readyEvents build } := by
  unfold communicationReady readyEvents
  rw [run_notifySlot]
  exact congrArg (fun events => { node with trace := node.trace ++ events })
    (flatMap_range node.host.app.slots _ _)

theorem resetWakeups_eq (build : Build) (node : Node) :
    node.resetWakeups build = { node with trace := node.trace ++ node.wakeupEvents build } := by
  unfold resetWakeups wakeupEvents
  rw [run_notifySlot]
  exact congrArg (fun events => { node with trace := node.trace ++ events })
    (flatMap_range_reverse node.host.app.slots _ _)

end Node

/-! ## Calls of the registry -/

/-- The slot that a callback of a generation is about. -/
def Call.about : Call → Option Key
  | attach _ | release _ => none
  | runtimeInit slot _ | runtimeStart slot _ | communicationBind slot _ => some slot
  | communicationQuiesced slot | runtimeDeinit slot => some slot

/-- What no callback of a generation changes about a slot. -/
def Slot.identity (slot : Slot) : Key × Option Nat := (slot.key, slot.release)

namespace Host

variable {setup : Setup} {host : Host}

def identities (host : Host) : List (Key × Option Nat) := host.registered.map Slot.identity

theorem keys_of_identities {after : Host} (h : after.identities = host.identities) :
    after.registered.map Slot.key = host.registered.map Slot.key := by
  have hkeys := congrArg (List.map Prod.fst) h
  unfold identities at hkeys
  rwa [List.map_map, List.map_map] at hkeys

theorem exists_of_identities {after : Host} (h : after.identities = host.identities) {slot : Slot}
    (hslot : slot ∈ after.registered) :
    ∃ before ∈ host.registered, before.identity = slot.identity := by
  have hmem : slot.identity ∈ host.identities := by
    rw [← h]
    exact List.mem_map_of_mem hslot
  obtain ⟨before, hbefore, hidentity⟩ := List.mem_map.mp hmem
  exact ⟨before, hbefore, hidentity⟩

/-- The operation kept the identity of the slots and called back registered ones only. -/
structure Called (host after : Host) : Prop where
  identity : ∀ i, (after.app.slots i).identity = (host.app.slots i).identity
  log : ∃ calls, after.log = host.log ++ calls ∧
    ∀ call ∈ calls, ∃ slot ∈ host.registered, call.about = some slot.key

theorem Called.refl (host : Host) : host.Called host :=
  ⟨fun _ => rfl, [], (List.append_nil _).symm, by simp⟩

theorem Called.append {after next : Host} (h : host.Called after)
    (hidentity : ∀ i, (next.app.slots i).identity = (after.app.slots i).identity)
    {calls : List Call}
    (hlog : next.log = after.log ++ calls)
    (hcalls : ∀ call ∈ calls, ∃ slot ∈ host.registered, call.about = some slot.key) :
    host.Called next := by
  obtain ⟨before, hbefore, habout⟩ := h.log
  refine ⟨fun i => (hidentity i).trans (h.identity i), before ++ calls, ?_, ?_⟩
  · rw [hlog, hbefore, List.append_assoc]
  · intro call hcall
    rcases List.mem_append.mp hcall with hold | hnew
    · exact habout call hold
    · exact hcalls call hnew

theorem Called.identities {after : Host} (h : host.Called after)
    (hcount : after.app.count = host.app.count) : after.identities = host.identities := by
  unfold Host.identities registered cells
  rw [hcount, List.map_map, List.map_map]
  exact List.map_congr_left fun i _ => h.identity i

theorem identity_setSlot {after : Host} {i : Nat} {slot : Slot}
    (hidentity : slot.identity = (after.app.slots i).identity) (j : Nat) :
    ((after.setSlot i slot).app.slots j).identity = (after.app.slots j).identity := by
  by_cases hj : j = i
  · subst hj
    rw [setSlot_slots, Function.update_self, hidentity]
  · rw [setSlot_slots, Function.update_of_ne hj]

theorem runtimeInit_called (answers : Key → RtErr) (worker : RtErr) :
    host.Called (host.runtimeInit setup answers worker).1 := by
  have hloop : host.Called
      (runWhile .ok (runtimeInitSlot setup answers) host (List.range host.app.count)).1 := by
    refine @runWhile_invariant _ _ _ _ RtErr.ok (runtimeInitSlot setup answers) host.Called _
      (fun after i hi h => ?_) host (Called.refl host)
    rw [List.mem_range] at hi
    have hcall : ∀ call ∈ (if setup.has (after.slot i) .runtimeInit then
        [Call.runtimeInit (after.slot i).key (setup.answer answers .runtimeInit (after.slot i))]
          else []), ∃ slot ∈ host.registered, call.about = some slot.key := by
      intro call hcall
      split at hcall
      · obtain rfl := List.mem_singleton.mp hcall
        exact ⟨host.app.slots i, getElem_mem_cells hi,
          congrArg some (congrArg Prod.fst (h.identity i) :)⟩
      · cases hcall
    unfold runtimeInitSlot
    dsimp only
    split
    · exact h.append (fun j => by rw [emitIf_app]) (emitIf_log ..) hcall
    · refine h.append (fun j => ?_) ((setSlot_log ..).trans (emitIf_log ..)) hcall
      rw [identity_setSlot (by rw [emitIf_app]; rfl), emitIf_app]
  unfold runtimeInit
  dsimp only
  split <;> exact hloop

theorem runtimeStart_called (answers : Key → RtErr) (worker : RtErr) :
    host.Called (host.runtimeStart setup answers worker).1 := by
  have hloop : host.Called
      (runWhile .ok (runtimeStartSlot setup answers) host (List.range host.app.count)).1 := by
    refine @runWhile_invariant _ _ _ _ RtErr.ok (runtimeStartSlot setup answers) host.Called _
      (fun after i hi h => ?_) host (Called.refl host)
    rw [List.mem_range] at hi
    unfold runtimeStartSlot
    dsimp only
    split
    · refine h.append (fun _ => rfl) rfl (fun call hcall => ?_)
      obtain rfl := List.mem_singleton.mp hcall
      exact ⟨host.app.slots i, getElem_mem_cells hi,
        congrArg some (congrArg Prod.fst (h.identity i) :)⟩
    · exact h
  unfold runtimeStart
  dsimp only
  split <;> exact hloop

theorem about_quiesceCalls {slots : List Slot} {call : Call}
    (h : call ∈ slots.flatMap (Slot.quiesceCalls setup)) :
    ∃ slot ∈ slots, call.about = some slot.key := by
  obtain ⟨slot, hslot, hcall⟩ := List.mem_flatMap.mp h
  unfold Slot.quiesceCalls at hcall
  split at hcall
  · obtain rfl := List.mem_singleton.mp hcall
    exact ⟨slot, hslot, rfl⟩
  · cases hcall

theorem about_bindCalls {slots : List Slot} {call : Call}
    (h : call ∈ slots.flatMap (Slot.bindCalls setup)) :
    ∃ slot ∈ slots, call.about = some slot.key := by
  obtain ⟨slot, hslot, hcall⟩ := List.mem_flatMap.mp h
  unfold Slot.bindCalls at hcall
  split at hcall
  · obtain rfl := List.mem_singleton.mp hcall
    exact ⟨slot, hslot, rfl⟩
  · cases hcall

end Host

namespace Node

theorem registry_eq {operation : Host → Host × RtErr} {node : Node} {calls : List Call}
    (hlog : (operation node.host).1.log = node.host.log ++ calls) :
    node.registry operation =
      ({ node with
          host := (operation node.host).1
          trace := node.trace ++ calls.map (Event.callback node.stack) },
        (operation node.host).2) := by
  unfold registry
  dsimp only
  rw [hlog, List.drop_left]

/-- The quiesce of the bound slots, last one first. -/
def quiesceEvents (build : Build) (node : Node) : List Event :=
  (node.host.registered.reverse.flatMap fun slot =>
    if slot.communicationBound then slot.quiesceCalls build.setup else []).map
      (Event.callback node.stack)

theorem communicationQuiesced_eq (build : Build) (node : Node) :
    node.communicationQuiesced build =
      { node with
        host := node.host.communicationQuiesced build.setup
        trace := node.trace ++ node.quiesceEvents build } := by
  obtain ⟨-, hlog, -⟩ := Host.quiesceSlots build.setup node.host node.host.app.count
  unfold communicationQuiesced
  exact congrArg Prod.fst
    (@registry_eq (fun host => (host.communicationQuiesced build.setup, .ok)) node _ hlog)

/-- The end of the shared worker. -/
def workerEvents (node : Node) : List Event :=
  (if node.sharedWorkerThread then [.release .sharedWorkerThread] else []) ++
    if node.sharedWorkerSemInitialized then [.release .sharedWorkerSem] else []

theorem sharedWorkerDeinit_eq (node : Node) :
    node.sharedWorkerDeinit =
      { node with
        sharedWorkerThread := false
        sharedWorkerSemInitialized := false
        trace := node.trace ++ node.workerEvents } := by
  unfold sharedWorkerDeinit workerEvents
  simp only [emitIf_eq, List.append_assoc]

/-- The final teardown of the slots, last one first. -/
def deinitEvents (build : Build) (node : Node) : List Event :=
  (node.host.registered.reverse.flatMap fun slot =>
    slot.deinitCalls build.setup slot.deinitRequired).map (Event.callback node.stack)

theorem runtimeDeinit_eq {build : Build} {node : Node} (hvalid : node.host.Valid build.setup) :
    node.runtimeDeinit build =
      { node with
        host := node.host.runtimeDeinit build.setup
        sharedWorkerThread := false
        sharedWorkerSemInitialized := false
        trace := node.trace ++ node.workerEvents ++ node.deinitEvents build } := by
  obtain ⟨-, hlog, -⟩ := Host.runtimeDeinit_spec build.setup hvalid.ops hvalid.tail
  unfold runtimeDeinit
  rw [sharedWorkerDeinit_eq]
  exact congrArg Prod.fst
    (@registry_eq (fun host => (host.runtimeDeinit build.setup, .ok))
      { node with
        sharedWorkerThread := false
        sharedWorkerSemInitialized := false
        trace := node.trace ++ node.workerEvents } _ hlog)

end Node

end CanopenRtt.Lifecycle
