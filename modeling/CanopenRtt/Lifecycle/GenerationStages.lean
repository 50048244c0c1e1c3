import CanopenRtt.Lifecycle.GenerationSteps
/-!
# The word of a slot over the stages of an initialisation

The stages in front of Communication Reset make the stack, those behind it say nothing about the
generation. A cleanup ends the generation that is there.
-/

namespace CanopenRtt.Lifecycle

open CanopenRtt.Support

/-- A callback that is neither a bind nor a quiesce. -/
def Call.isRuntime : Call → Bool
  | communicationBind _ _ | communicationQuiesced _ => false
  | _ => true

theorem ofGeneration_runtime {call : Call} (h : call.isRuntime = true) (stack : Option Nat)
    (slot : Key) : (Event.callback stack call).ofGeneration slot = false := by
  cases call with
  | communicationBind _ _ => cases h
  | communicationQuiesced _ => cases h
  | _ => rfl

namespace Host

variable {setup : Setup} {host : Host}

/-- The operation kept who is registered and bound, and made no call of a generation. -/
structure Quiet (host after : Host) : Prop where
  count : after.app.count = host.app.count
  stack : after.app.canOpenStack = host.app.canOpenStack
  key : ∀ i, (after.app.slots i).key = (host.app.slots i).key
  bound : ∀ i, (after.app.slots i).communicationBound = (host.app.slots i).communicationBound
  tail : ∀ i, host.app.count ≤ i → after.app.slots i = host.app.slots i
  log : ∃ calls, after.log = host.log ++ calls ∧ ∀ call ∈ calls, call.isRuntime = true

theorem Quiet.refl (host : Host) : host.Quiet host :=
  ⟨rfl, rfl, fun _ => rfl, fun _ => rfl, fun _ _ => rfl, [], (List.append_nil _).symm, by simp⟩

/-- A round at a registered slot that keeps its key and its binding. -/
theorem Quiet.round {after next : Host} (h : host.Quiet after) {i : Nat} (hi : i < host.app.count)
    {slot : Slot} {calls : List Call} (hcount : next.app.count = after.app.count)
    (hstack : next.app.canOpenStack = after.app.canOpenStack)
    (hslots : next.app.slots = Function.update after.app.slots i slot)
    (hkey : slot.key = (after.app.slots i).key)
    (hbound : slot.communicationBound = (after.app.slots i).communicationBound)
    (hlog : next.log = after.log ++ calls) (hcalls : ∀ call ∈ calls, call.isRuntime = true) :
    host.Quiet next := by
  obtain ⟨before, hbefore, hruntime⟩ := h.log
  have hother : ∀ j, j ≠ i → next.app.slots j = after.app.slots j := by
    intro j hj
    rw [hslots, Function.update_of_ne hj]
  have hself : next.app.slots i = slot := by
    rw [hslots, Function.update_self]
  refine ⟨hcount.trans h.count, hstack.trans h.stack, fun j => ?_, fun j => ?_, fun j hj => ?_,
    before ++ calls, ?_, ?_⟩
  · by_cases hj : j = i
    · rw [hj, hself, hkey, h.key]
    · rw [hother j hj, h.key]
  · by_cases hj : j = i
    · rw [hj, hself, hbound, h.bound]
    · rw [hother j hj, h.bound]
  · rw [hother j (by omega)]
    exact h.tail j hj
  · rw [hlog, hbefore, List.append_assoc]
  · intro call hcall
    rcases List.mem_append.mp hcall with hold | hnew
    · exact hruntime call hold
    · exact hcalls call hnew

theorem runtimeInit_quiet (answers : Key → RtErr) (worker : RtErr) :
    host.Quiet (host.runtimeInit setup answers worker).1 := by
  have hloop : host.Quiet
      (runWhile .ok (runtimeInitSlot setup answers) host (List.range host.app.count)).1 := by
    refine @runWhile_invariant _ _ _ _ RtErr.ok (runtimeInitSlot setup answers) host.Quiet _
      (fun after i hi h => ?_) host (Quiet.refl host)
    rw [List.mem_range] at hi
    have hcalls : ∀ call ∈ (if setup.has (after.slot i) .runtimeInit then
        [Call.runtimeInit (after.slot i).key (setup.answer answers .runtimeInit (after.slot i))]
          else []), call.isRuntime = true := by
      intro call hcall
      split at hcall
      · rw [List.mem_singleton.mp hcall]
        rfl
      · cases hcall
    unfold runtimeInitSlot
    dsimp only
    split
    · exact h.round hi (by rw [emitIf_app]) (by rw [emitIf_app])
        (by rw [emitIf_app, Function.update_eq_self]) rfl rfl (emitIf_log ..) hcalls
    · have happ : ∀ {condition : Bool} {call : Call} {slot : Slot},
          ((after.emitIf condition call).setSlot i slot).app =
            { after.app with slots := Function.update after.app.slots i slot } := by
        intro condition call slot
        unfold setSlot
        rw [emitIf_app]
      exact h.round hi (congrArg App.count happ :) (congrArg App.canOpenStack happ :)
        (congrArg App.slots happ :) rfl rfl ((setSlot_log ..).trans (emitIf_log ..)) hcalls
  unfold runtimeInit
  dsimp only
  split <;> exact hloop

theorem runtimeStart_quiet (answers : Key → RtErr) (worker : RtErr) :
    host.Quiet (host.runtimeStart setup answers worker).1 := by
  have hloop : host.Quiet
      (runWhile .ok (runtimeStartSlot setup answers) host (List.range host.app.count)).1 := by
    refine @runWhile_invariant _ _ _ _ RtErr.ok (runtimeStartSlot setup answers) host.Quiet _
      (fun after i hi h => ?_) host (Quiet.refl host)
    rw [List.mem_range] at hi
    unfold runtimeStartSlot
    dsimp only
    split
    · refine h.round hi rfl rfl (Function.update_eq_self ..).symm rfl rfl rfl (fun call hcall => ?_)
      rw [List.mem_singleton.mp hcall]
      rfl
    · exact h
  unfold runtimeStart
  dsimp only
  split <;> exact hloop

end Host

section

variable {build : Build} {answers : InitAnswers} {base : List Event} {keys : List Key}
  {standing : Standing} {node : Node} {state : Initialising}

/-- A call of the registry that concerns no generation. -/
theorem Tracks.quiet (h : Tracks build base keys standing node)
    {operation : Host → Host × RtErr} (hquiet : node.host.Quiet (operation node.host).1) :
    Tracks build base keys standing (node.registry operation).1 := by
  obtain ⟨calls, hlog, hruntime⟩ := hquiet.log
  have hkeys : (operation node.host).1.registered.map Slot.key =
      node.host.registered.map Slot.key := by
    unfold Host.registered cells
    rw [hquiet.count, List.map_map, List.map_map]
    exact List.map_congr_left fun i _ => hquiet.key i
  rw [Node.registry_eq hlog]
  refine h.step rfl (h.valid.of_keys hquiet.count hkeys hquiet.tail) hkeys fun slot hslot => ?_
  obtain ⟨i, hi, rfl⟩ := mem_cells.mp hslot
  refine ⟨node.host.app.slots i, getElem_mem_cells (hquiet.count ▸ hi), (hquiet.key i).symm, ?_⟩
  have hphase : ∀ {trace : List Event}, ({ node with
      host := (operation node.host).1, trace := trace } : Node).phase standing
        ((operation node.host).1.app.slots i) = node.phase standing (node.host.app.slots i) := by
    intro trace
    unfold Node.phase Node.stack
    dsimp only
    rw [hquiet.stack, hquiet.bound]
  dsimp only
  rw [hphase]
  refine explained_of_silent _ fun event hevent => ?_
  obtain ⟨call, hcall, rfl⟩ := List.mem_map.mp hevent
  exact ofGeneration_runtime (hruntime call hcall) _ _

/-- An event about a resource that is neither a stack nor a CAN module. -/
theorem Tracks.emit (h : Tracks build base keys standing node) {event : Event}
    (hsilent : ∀ slot, event.ofGeneration slot = false) :
    Tracks build base keys standing (node.emit event) :=
  h.silent rfl (fun _ hevent => List.mem_singleton.mp hevent ▸ hsilent) rfl rfl rfl rfl

theorem Tracks.emitIf (h : Tracks build base keys standing node) {condition : Bool} {event : Event}
    (hsilent : ∀ slot, event.ofGeneration slot = false) :
    Tracks build base keys standing (node.emitIf condition event) := by
  cases condition with
  | false => exact h
  | true => exact h.emit hsilent

theorem Tracks.sharedWorkerInit (h : Tracks build base keys standing node) (semInit : RtErr)
    (threadCreate : Bool) :
    Tracks build base keys standing (node.sharedWorkerInit build semInit threadCreate).1 := by
  unfold Node.sharedWorkerInit
  repeat' split
  all_goals try exact h
  · exact (h.emit fun _ => rfl).emit fun _ => rfl
  · exact ((h.emit fun _ => rfl).emit fun _ => rfl).silent (List.append_nil _).symm (by simp)
      rfl rfl
      rfl rfl

theorem Tracks.runtimeInit (h : Tracks build base keys standing node) (answers : RuntimeAnswers) :
    Tracks build base keys standing (node.runtimeInit build answers).1 := by
  have hslots := @Tracks.quiet build base keys standing node h
    (·.runtimeInit build.setup answers.runtimeInit .ok) (Host.runtimeInit_quiet ..)
  unfold Node.runtimeInit
  dsimp only
  split
  · exact hslots
  · exact hslots.sharedWorkerInit ..

theorem Tracks.runtimeStart (h : Tracks build base keys standing node) (answers : RuntimeAnswers) :
    Tracks build base keys standing (node.runtimeStart build answers).1 := by
  have hslots := @Tracks.quiet build base keys standing node h
    (·.runtimeStart build.setup answers.runtimeStart .ok) (Host.runtimeStart_quiet ..)
  unfold Node.runtimeStart Node.sharedWorkerStart
  dsimp only
  repeat' split
  all_goals try exact hslots
  exact hslots.emitIf fun _ => rfl

/-! ## The stages -/

/-- The stages that neither make a stack nor reset its communication. -/
def Stage.isSilent : Stage → Bool
  | newStack | resetCommunication => false
  | _ => true

theorem Tracks.perform (h : Tracks build base keys standing state.node) {stage : Stage}
    (hstage : stage.isSilent = true) :
    Tracks build base keys standing (stage.perform build answers state).1.node := by
  cases stage with
  | newStack => cases hstage
  | resetCommunication => cases hstage
  | semInit =>
      unfold Stage.perform
      dsimp only
      split
      · exact h
      · exact h.emit fun _ => rfl
  | mainlineInit =>
      unfold Stage.perform
      dsimp only
      split
      · exact h
      split
      · exact h.silent (List.append_nil _).symm (by simp) rfl rfl rfl rfl
      · exact (@Tracks.emit _ _ _ _ _ h (.acquire .mainlineEvent) fun _ => rfl).silent
          (List.append_nil _).symm (by simp) rfl rfl rfl rfl
  | mutexInit =>
      unfold Stage.perform
      dsimp only
      split
      · exact h
      · exact h.emit fun _ => rfl
  | createMainThread =>
      unfold Stage.perform
      dsimp only
      split
      · exact h
      · exact (@Tracks.emit _ _ _ _ _ h (.acquire .mainThread) fun _ => rfl).silent
          (List.append_nil _).symm (by simp) rfl rfl rfl rfl
  | createRtThread =>
      unfold Stage.perform
      dsimp only
      split
      · exact h
      · exact (@Tracks.emit _ _ _ _ _ h (.acquire .rtThread) fun _ => rfl).silent
          (List.append_nil _).symm (by simp) rfl rfl rfl rfl
  | createTimer =>
      unfold Stage.perform
      dsimp only
      split
      · exact h
      · exact (@Tracks.emit _ _ _ _ _ h (.acquire .rtTimer) fun _ => rfl).silent
          (List.append_nil _).symm (by simp) rfl rfl rfl rfl
  | runtimeInit => exact h.runtimeInit answers.runtime
  | runtimeStart => exact h.runtimeStart answers.runtime
  | startRtThread => exact h.emitIf fun _ => rfl
  | startTimer => exact h.emitIf fun _ => rfl
  | startMainThread => exact h.emitIf fun _ => rfl

/-- A stage in front of the stack leaves registry and CAN module alone. -/
theorem perform_early {stage : Stage} (hstage : stage = .semInit ∨ stage = .mainlineInit ∨
    stage = .mutexInit) :
    (stage.perform build answers state).1.node.host = state.node.host ∧
      (stage.perform build answers state).1.node.canDevice = state.node.canDevice := by
  rcases hstage with rfl | rfl | rfl
  · unfold Stage.perform
    dsimp only
    split <;> exact ⟨rfl, rfl⟩
  · unfold Stage.perform
    dsimp only
    repeat' split
    all_goals exact ⟨rfl, rfl⟩
  · unfold Stage.perform
    dsimp only
    split <;> exact ⟨rfl, rfl⟩

/-- A silent stage keeps the stack. -/
theorem perform_stack {stage : Stage} (hstage : stage.isSilent = true) :
    (stage.perform build answers state).1.node.host.app.canOpenStack =
        state.node.host.app.canOpenStack ∧
      (stage.perform build answers state).1.node.generation = state.node.generation := by
  have hregistry : ∀ (operation : Host → Host × RtErr),
      state.node.host.Quiet (operation state.node.host).1 →
        (state.node.registry operation).1.host.app.canOpenStack =
            state.node.host.app.canOpenStack ∧
          (state.node.registry operation).1.generation = state.node.generation :=
    fun _ hquiet => ⟨hquiet.stack, rfl⟩
  have hemitted : ∀ {node : Node} {condition : Bool} {event : Event},
      (node.emitIf condition event).host = node.host ∧
        (node.emitIf condition event).generation = node.generation := by
    intro node condition event
    rw [Node.emitIf_eq]
    exact ⟨rfl, rfl⟩
  cases stage with
  | newStack => cases hstage
  | resetCommunication => cases hstage
  | runtimeInit =>
      have hslots := hregistry (·.runtimeInit build.setup answers.runtime.runtimeInit .ok)
        (Host.runtimeInit_quiet ..)
      unfold Stage.perform Stage.onNode Node.runtimeInit Node.sharedWorkerInit
      dsimp only
      repeat' split
      all_goals exact hslots
  | runtimeStart =>
      have hslots := hregistry (·.runtimeStart build.setup answers.runtime.runtimeStart .ok)
        (Host.runtimeStart_quiet ..)
      unfold Stage.perform Stage.onNode Node.runtimeStart Node.sharedWorkerStart
      dsimp only
      repeat' split
      all_goals try exact hslots
      rw [hemitted.1, hemitted.2]
      exact hslots
  | startRtThread | startTimer | startMainThread =>
      unfold Stage.perform Stage.onNode
      dsimp only
      rw [hemitted.1, hemitted.2]
      exact ⟨rfl, rfl⟩
  | _ =>
      unfold Stage.perform
      dsimp only
      repeat' split
      all_goals exact ⟨rfl, rfl⟩

end

section

variable {build : Build} {answers : InitAnswers} {base : List Event} {keys : List Key}
  {standing : Standing} {node : Node} {state : Initialising}

/-! ## The cleanup -/

/-- No slot of `keys` is bound any more; they need not be registered. -/
def Settled (build : Build) (base : List Event) (keys : List Key) (node : Node) : Prop :=
  ∃ events, node.trace = base ++ events ∧
    ∀ slot ∈ keys, Explained build slot {} events ⟨node.stack, node.canDevice, .unbound⟩

theorem Tracks.settled (h : Tracks build base keys standing node) (hunbound : Unbound node) :
    Settled build base keys node := by
  obtain ⟨events, hevents, hexplained⟩ := h.explained
  refine ⟨events, hevents, fun key hkey => ?_⟩
  rw [← h.keys] at hkey
  obtain ⟨slot, hslot, rfl⟩ := List.mem_map.mp hkey
  have hword := hexplained slot hslot
  rwa [phase_of_unbound (hunbound slot hslot)] at hword

section

variable {after : Node} {added : List Event}

theorem Settled.step (h : Settled build base keys node) (htrace : after.trace = node.trace ++ added)
    (hmoves : ∀ slot ∈ keys, Explained build slot ⟨node.stack, node.canDevice, .unbound⟩ added
      ⟨after.stack, after.canDevice, .unbound⟩) : Settled build base keys after := by
  obtain ⟨events, hevents, hexplained⟩ := h
  refine ⟨events ++ added, ?_, fun slot hslot => (hexplained slot hslot).append (hmoves slot hslot)⟩
  rw [htrace, hevents, List.append_assoc]

theorem Settled.silent (h : Settled build base keys node)
    (htrace : after.trace = node.trace ++ added)
    (hsilent : ∀ event ∈ added, ∀ slot, event.ofGeneration slot = false)
    (hstack : after.stack = node.stack) (hdevice : after.canDevice = node.canDevice) :
    Settled build base keys after := by
  refine h.step htrace fun slot _ => ?_
  rw [hstack, hdevice]
  exact explained_of_silent _ fun event hevent => hsilent event hevent slot

end

theorem Settled.emitIf (h : Settled build base keys node) (condition : Bool) {event : Event}
    (hsilent : ∀ slot, event.ofGeneration slot = false) :
    Settled build base keys (node.emitIf condition event) := by
  rw [Node.emitIf_eq]
  refine h.silent rfl (fun other hother => ?_) rfl rfl
  split at hother
  · rw [List.mem_singleton.mp hother]
    exact hsilent
  · cases hother

theorem Settled.disable (h : Settled build base keys node) :
    Settled build base keys node.canDisable := by
  unfold Node.canDisable
  rw [Node.emitIf_eq]
  refine h.step rfl fun slot _ => ?_
  change Explained build slot ⟨node.stack, node.canDevice, .unbound⟩ _ ⟨node.stack, false, .unbound⟩
  cases node.canDevice with
  | false => exact explained_of_silent _ (by simp)
  | true => exact @explained_of_move _ _ _ _ _ .canOff rfl rfl

theorem Settled.delete (h : Settled build base keys node)
    (hopen : node.host.app.canOpenStack = true) (hdevice : node.canDevice = false) :
    Settled build base keys node.deleteStack := by
  have hstack : node.stack = some node.generation := by
    unfold Node.stack
    rw [hopen, if_pos rfl]
  refine @Settled.step _ _ _ _ _ [.release (.stack node.generation)] h rfl fun slot _ => ?_
  change Explained build slot ⟨node.stack, node.canDevice, .unbound⟩ _
    ⟨none, node.canDevice, .unbound⟩
  rw [hstack, hdevice]
  exact @explained_of_move _ _ _ _ _ (.delete node.generation) (if_pos rfl) rfl

theorem Settled.deleteThreads (h : Settled build base keys node) :
    Settled build base keys (Initialising.deleteThreads node) := by
  rw [deleteThreads_eq]
  have htimer := @Settled.emitIf _ _ _ _ h node.host.app.rtTimer (.release .rtTimer) fun _ => rfl
  have hrt := @Settled.emitIf _ _ _ _ htimer node.host.app.rtThread (.release .rtThread)
    fun _ => rfl
  have hmain := @Settled.emitIf _ _ _ _ hrt node.host.app.mainThread (.release .mainThread)
    fun _ => rfl
  simp only [Node.emitIf_eq] at hmain
  exact hmain.silent (List.append_nil _).symm (by simp) rfl rfl

theorem Settled.deleteOwnedStack (h : Settled build base keys node) {quiesced : Bool}
    (hquiesced : quiesced = true → node.canDevice = false) :
    Settled build base keys (Initialising.deleteOwnedStack quiesced node) ∧
      (Initialising.deleteOwnedStack quiesced node).host.app.canOpenStack = false := by
  unfold Initialising.deleteOwnedStack
  split
  case isTrue hopen =>
      refine ⟨?_, rfl⟩
      cases quiesced with
      | true => exact h.delete hopen (hquiesced rfl)
      | false =>
          refine h.disable.delete ?_ rfl
          unfold Node.canDisable
          rw [Node.emitIf_eq]
          exact hopen
  case isFalse hopen => exact ⟨h, eq_false_of_ne_true hopen⟩

theorem Settled.mainlineDeinit (h : Settled build base keys node) :
    Settled build base keys (Initialising.mainlineDeinit node) := by
  rw [mainlineDeinit_eq]
  have hevent := @Settled.emitIf _ _ _ _ h node.mainlineInitialized (.release .mainlineEvent)
    fun _ => rfl
  rw [Node.emitIf_eq] at hevent
  exact hevent.silent (List.append_nil _).symm (by simp) rfl rfl

/-- What is left behind the extensions ends the generation, if there is one. -/
theorem Settled.finish (h : Settled build base keys state.node) {quiesced : Bool}
    (hquiesced : quiesced = true → state.node.canDevice = false) (taken : Bool) :
    Settled build base keys (state.finish quiesced taken) ∧
      (state.finish quiesced taken).host.app.canOpenStack = false := by
  obtain ⟨hdeleted, hopen⟩ := @Settled.deleteOwnedStack _ _ _ _ h.deleteThreads quiesced (by
    rw [deleteThreads_eq]
    exact hquiesced)
  unfold Initialising.finish
  dsimp only
  generalize Initialising.deleteOwnedStack quiesced (Initialising.deleteThreads state.node) =
    deleted
    at hdeleted hopen ⊢
  have hmainline : Settled build base keys
      (if state.mainlineInited then Initialising.mainlineDeinit deleted else deleted) ∧
        (if state.mainlineInited then Initialising.mainlineDeinit deleted
          else deleted).host.app.canOpenStack = false := by
    split
    · refine ⟨hdeleted.mainlineDeinit, ?_⟩
      rw [mainlineDeinit_eq]
      exact hopen
    · exact ⟨hdeleted, hopen⟩
  refine ⟨(((hmainline.1.emitIf taken fun _ => rfl).emitIf _ fun _ => rfl).emitIf _
    fun _ => rfl).emitIf _ fun _ => rfl, ?_⟩
  rw [Node.emitIf_host, Node.emitIf_host, Node.emitIf_host, Node.emitIf_host]
  exact hmainline.2

/-- The teardown of the extensions quiesces every bound slot behind the CAN module. -/
theorem Tracks.deinitExtensions (h : Tracks build base keys standing node)
    (hstanding : standing = .bound ∨ standing = .ready) (hcount : node.host.app.count ≠ 0) :
    Settled build base keys (Initialising.deinitExtensions build node) ∧
      (Initialising.deinitExtensions build node).canDevice = false := by
  have hslot : node.host.app.slots 0 ∈ node.host.registered := getElem_mem_cells (by omega)
  have hsound := (h.sound hslot).device
  have hstopped := h.stop hstanding
  have hoff : Tracks build base keys .stopped
        (if (node.communicationStop build).host.app.canOpenStack then
          (node.communicationStop build).canDisable else node.communicationStop build) ∧
      (if (node.communicationStop build).host.app.canOpenStack then
          (node.communicationStop build).canDisable
        else node.communicationStop build).canDevice = false := by
    split
    · exact ⟨hstopped.disable, rfl⟩
    case isFalse hclosed =>
        refine ⟨hstopped, ?_⟩
        rw [Node.communicationStop_eq] at hclosed ⊢
        by_contra hdevice
        have hstack : node.stack.isSome = true := hsound (eq_true_of_ne_false hdevice)
        unfold Node.stack at hstack
        rw [if_neg hclosed] at hstack
        cases hstack
  unfold Initialising.deinitExtensions
  dsimp only
  generalize (if (node.communicationStop build).host.app.canOpenStack then
    (node.communicationStop build).canDisable else node.communicationStop build) = off at hoff ⊢
  obtain ⟨hquiesced, hunbound⟩ := @Tracks.quiesce _ _ _ .stopped _ hoff.1 hoff.2
  have hdevice : (off.communicationQuiesced build).canDevice = false := by
    rw [Node.communicationQuiesced_eq]
    exact hoff.2
  have hsettled := hquiesced.settled hunbound
  generalize off.communicationQuiesced build = quiesced at hquiesced hdevice hsettled ⊢
  have hpointers := Host.runtimeDeinit_pointers build.setup quiesced.host
  rw [Node.runtimeDeinit_eq hquiesced.valid]
  refine ⟨hsettled.silent (List.append_assoc ..) (fun event hevent slot => ?_) ?_ rfl, hdevice⟩
  · rcases List.mem_append.mp hevent with hworker | hdeinit
    · unfold Node.workerEvents at hworker
      rcases List.mem_append.mp hworker with hthread | hsem
      · split at hthread
        · rw [List.mem_singleton.mp hthread]
          rfl
        · cases hthread
      · split at hsem
        · rw [List.mem_singleton.mp hsem]
          rfl
        · cases hsem
    · unfold Node.deinitEvents at hdeinit
      obtain ⟨call, hcall, rfl⟩ := List.mem_map.mp hdeinit
      obtain ⟨other, -, hcall⟩ := List.mem_flatMap.mp hcall
      refine ofGeneration_runtime ?_ _ _
      unfold Slot.deinitCalls Slot.releaseCalls at hcall
      rcases List.mem_append.mp hcall with hcall | hcall <;> split at hcall
      · rw [List.mem_singleton.mp hcall]
        rfl
      · cases hcall
      · rw [List.mem_singleton.mp hcall]
        rfl
      · cases hcall
  · have hopen := (congrArg App.canOpenStack hpointers :)
    unfold Node.stack
    dsimp only at hopen ⊢
    rw [hopen]

/-- A cleanup that gets the lifecycle mutex ends the generation of every slot. -/
theorem Tracks.cleanup (h : Tracks build base keys standing state.node)
    (hstanding : standing = .bound ∨ standing = .ready) (htake : answers.mutexTake = .ok) :
    Settled build base keys (state.cleanupLocked build answers) ∧
      (state.cleanupLocked build answers).stack = none := by
  have hlock : Tracks build base keys standing
      (state.node.emitIf (state.locked answers) .lock) := h.emitIf fun _ => rfl
  have hcount : (state.node.emitIf (state.locked answers) .lock).host.app.count =
      state.node.host.app.count := by
    rw [Node.emitIf_host]
  unfold Initialising.cleanupLocked
  dsimp only
  rw [teardown_of_taken htake]
  generalize state.node.emitIf (state.locked answers) .lock = node at hlock hcount ⊢
  have hready : Settled build base keys
        (if decide (state.node.host.app.count ≠ 0) = true then
          Initialising.deinitExtensions build node else node) ∧
      ((decide (state.node.host.app.count ≠ 0) && node.host.app.canOpenStack) = true →
        (if decide (state.node.host.app.count ≠ 0) = true then
          Initialising.deinitExtensions build node else node).canDevice = false) := by
    by_cases hnone : state.node.host.app.count = 0
    · have hunbound : Unbound node := by
        intro slot hslot
        unfold Host.registered at hslot
        rw [hcount, hnone] at hslot
        cases hslot
      rw [decide_eq_false (not_not_intro hnone)]
      exact ⟨hlock.settled hunbound, nofun⟩
    · obtain ⟨hsettled, hdevice⟩ := hlock.deinitExtensions hstanding (hcount ▸ hnone)
      rw [decide_eq_true hnone]
      exact ⟨hsettled, fun _ => hdevice⟩
  obtain ⟨hsettled, hopen⟩ := @Settled.finish build base keys
    { state with
      node := if decide (state.node.host.app.count ≠ 0) = true then
        Initialising.deinitExtensions build node else node } hready.1 _ hready.2
    (state.locked answers)
  refine ⟨hsettled, ?_⟩
  unfold Node.stack
  rw [hopen]
  rfl

end

end CanopenRtt.Lifecycle
