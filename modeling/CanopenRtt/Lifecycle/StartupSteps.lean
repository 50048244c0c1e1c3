import CanopenRtt.Lifecycle.StartupMonitor
/-!
# What one operation does to the monitored node

One rule for each operation an initialisation consists of: notices, calls of the registry, and the
acquisition or the release of one resource.
-/

namespace CanopenRtt.Lifecycle

open CanopenRtt.Support

section

variable {build : Build} {base added : List Event} {slots : List (Key × Option Nat)}
  {locked timerOff : Bool} {state after : Initialising} {resource : Resource}

/-! ## Resources -/

theorem Initialising.Coherent.emit (h : state.Coherent build) (event : Event) :
    ({ state with node := state.node.emit event } : Initialising).Coherent build :=
  ⟨h.valid, h.mainline, h.worker, h.workerSlots, h.device⟩

theorem identities_of_registered {host other : Host} (h : other.registered = host.registered) :
    other.identities = host.identities := by
  unfold Host.identities
  rw [h]

theorem Lawful.acquire (h : Lawful build base slots locked timerOff state)
    (hfree : state.holds resource = false)
    (htrace : after.node.trace = state.node.trace ++ [.acquire resource])
    (hholds : after.holds = Function.update state.holds resource true)
    (hslots : after.node.host.registered = state.node.host.registered)
    (hcoherent : after.Coherent build) : Lawful build base slots locked timerOff after :=
  h.step htrace hcoherent ((identities_of_registered hslots).trans h.identities) fun _ hsim =>
    hsim.acquire hfree hholds hslots

theorem Lawful.release (h : Lawful build base slots locked timerOff state)
    (hheld : state.holds resource = true)
    (hidle : ∀ monitor, Sim locked timerOff state monitor → monitor.idle resource = true)
    (hstack : resource.isStack = true → state.node.canDevice = false)
    (htrace : after.node.trace = state.node.trace ++ [.release resource])
    (hholds : after.holds = Function.update state.holds resource false)
    (hslots : after.node.host.registered = state.node.host.registered)
    (hcoherent : after.Coherent build) : Lawful build base slots locked timerOff after :=
  h.step htrace hcoherent ((identities_of_registered hslots).trans h.identities) fun monitor hsim =>
    hsim.release hheld (hidle monitor hsim) hstack hholds hslots

/-- Nothing that the monitor knows has changed. -/
theorem Lawful.same (h : Lawful build base slots locked timerOff state)
    (htrace : after.node.trace = state.node.trace) (hholds : after.holds = state.holds)
    (hslots : after.node.host.registered = state.node.host.registered)
    (hcoherent : after.Coherent build) : Lawful build base slots locked timerOff after := by
  refine h.step (htrace.trans (List.append_nil _).symm) hcoherent
    ((identities_of_registered hslots).trans h.identities) fun monitor hsim =>
      ⟨monitor, accepts_nil.mpr rfl, ?_⟩
  refine ⟨?_, hsim.locked, ?_, hsim.main, hsim.timerOff, ?_, ?_⟩
  · rw [hholds]
    exact hsim.held
  · rw [hholds]
    exact hsim.running
  · rw [hholds]
    exact hsim.behindMutex
  · rw [hslots]
    exact hsim.released

theorem Lawful.start (h : Lawful build base slots locked false state) {party : Resource}
    (hheld : state.holds party = true) (hmain : party ≠ .mainThread)
    (hmutex : state.holds .lifecycleMutex = true) :
    Lawful build base slots locked false
      { state with node := state.node.emit (.start party) } :=
  h.step rfl (h.coherent.emit _) h.identities fun _ hsim =>
    have ⟨next, haccepts, hnext⟩ := hsim.start hheld hmain hmutex
    ⟨next, haccepts, ⟨hnext.held, hnext.locked, hnext.running, hnext.main, hnext.timerOff,
      hnext.behindMutex, hnext.released⟩⟩

/-! ## Notices -/

theorem routine_notices {node : Node} {visits : List Slot} {notice : Notice} {gate : Slot → Bool}
    (hvisits : ∀ slot ∈ visits, slot ∈ node.host.registered) :
    ∀ event ∈ visits.flatMap (node.noticeEvents build notice gate), Routine node event := by
  intro event hevent
  obtain ⟨slot, hslot, hevent⟩ := List.mem_flatMap.mp hevent
  unfold Node.noticeEvents at hevent
  split at hevent
  · obtain rfl := List.mem_singleton.mp hevent
    exact .notice (hvisits slot hslot) notice
  · cases hevent

theorem Lawful.notices (h : Lawful build base slots locked timerOff state)
    (hroutine : ∀ event ∈ added, Routine state.node event) :
    Lawful build base slots locked timerOff
      { state with node := { state.node with trace := state.node.trace ++ added } } :=
  h.routine rfl hroutine rfl h.coherent.valid rfl

theorem Lawful.communicationStop (h : Lawful build base slots locked timerOff state) :
    Lawful build base slots locked timerOff
      { state with node := state.node.communicationStop build } := by
  rw [Node.communicationStop_eq]
  exact h.notices (routine_notices fun _ hslot => List.mem_reverse.mp hslot)

theorem Lawful.communicationReady (h : Lawful build base slots locked timerOff state) :
    Lawful build base slots locked timerOff
      { state with node := state.node.communicationReady build } := by
  rw [Node.communicationReady_eq]
  exact h.notices (routine_notices fun _ hslot => hslot)

theorem Lawful.resetWakeups (h : Lawful build base slots locked timerOff state) :
    Lawful build base slots locked timerOff
      { state with node := state.node.resetWakeups build } := by
  rw [Node.resetWakeups_eq]
  exact h.notices (routine_notices fun _ hslot => List.mem_reverse.mp hslot)

/-! ## Calls of the registry -/

theorem Lawful.registry (h : Lawful build base slots locked timerOff state)
    {operation : Host → Host × RtErr} {calls : List Call}
    (hlog : (operation state.node.host).1.log = state.node.host.log ++ calls)
    (hcalls : ∀ call ∈ calls, ∃ slot ∈ state.node.host.registered, call.about = some slot.key)
    (hidentities : (operation state.node.host).1.identities = state.node.host.identities)
    (htail : ∀ i, state.node.host.app.count ≤ i →
      (operation state.node.host).1.app.slots i = state.node.host.app.slots i)
    (hframe : (operation state.node.host).1.frame = state.node.host.frame) :
    Lawful build base slots locked timerOff
      { state with node := (state.node.registry operation).1 } := by
  rw [Node.registry_eq hlog]
  refine h.routine rfl ?_ ?_ ?_ hidentities
  · intro event hevent
    obtain ⟨call, hcall, rfl⟩ := List.mem_map.mp hevent
    exact .callback (hcalls call hcall)
  · exact Prod.ext (congrArg Prod.snd hframe :) rfl
  · exact h.coherent.valid.of_keys (Host.count_of_frame hframe)
      (Host.keys_of_identities hidentities)
      htail

theorem Lawful.runtimeInitSlots (h : Lawful build base slots locked timerOff state)
    (answers : Key → RtErr) :
    Lawful build base slots locked timerOff
      { state with node := (state.node.registry (·.runtimeInit build.setup answers .ok)).1 } := by
  obtain ⟨-, htail, hframe⟩ := Host.runtimeInit_spec build.setup answers .ok state.node.host
  have hcalled := @Host.runtimeInit_called build.setup state.node.host answers .ok
  obtain ⟨calls, hlog, hcalls⟩ := hcalled.log
  exact h.registry hlog hcalls (hcalled.identities (Host.count_of_frame hframe)) htail hframe

theorem Lawful.runtimeStartSlots (h : Lawful build base slots locked timerOff state)
    (answers : Key → RtErr) :
    Lawful build base slots locked timerOff
      { state with node := (state.node.registry (·.runtimeStart build.setup answers .ok)).1 } := by
  obtain ⟨happ, hregistry⟩ := Host.runtimeStart_app build.setup answers .ok state.node.host
  have hcalled := @Host.runtimeStart_called build.setup state.node.host answers .ok
  obtain ⟨calls, hlog, hcalls⟩ := hcalled.log
  refine h.registry hlog hcalls (hcalled.identities (congrArg App.count happ))
    (fun i _ => congrFun (congrArg App.slots happ) i) ?_
  unfold Host.frame
  rw [happ, hregistry]

theorem Lawful.communicationQuiesced (h : Lawful build base slots locked timerOff state) :
    Lawful build base slots locked timerOff
      { state with node := state.node.communicationQuiesced build } := by
  obtain ⟨hregistered, htail, hframe⟩ :=
    Host.communicationQuiesced_spec build.setup state.node.host
  obtain ⟨-, hlog, -⟩ := Host.quiesceSlots build.setup state.node.host state.node.host.app.count
  refine @Lawful.registry build base slots locked timerOff state h
    (fun host => (host.communicationQuiesced build.setup, .ok)) _ hlog ?_ ?_ htail hframe
  · intro call hcall
    obtain ⟨slot, hslot, hcall⟩ := List.mem_flatMap.mp hcall
    split at hcall
    · obtain ⟨other, hother, habout⟩ := Host.about_quiesceCalls
        (List.mem_flatMap.mpr ⟨slot, List.mem_singleton.mpr rfl, hcall⟩)
      obtain rfl := List.mem_singleton.mp hother
      exact ⟨other, List.mem_reverse.mp hslot, habout⟩
    · cases hcall
  · unfold Host.identities
    rw [hregistered, List.map_map]
    rfl

/-- A bind of slots none of which is bound. -/
theorem Lawful.bindCommunication (h : Lawful build base slots locked timerOff state)
    (hfree : ∀ slot ∈ state.node.host.registered, slot.communicationBound = false)
    (answers : Key → RtErr) :
    Lawful build base slots locked timerOff
      { state with
        node := (state.node.registry (·.bindCommunication build.setup true answers)).1 } := by
  obtain ⟨hresult, htail, hframe⟩ :=
    @Host.bindCommunication_free build.setup answers state.node.host hfree
  have hparts : ∃ calls, (state.node.host.bindCommunication build.setup true answers).1.log =
      state.node.host.log ++ calls ∧
        (∀ call ∈ calls, ∃ slot ∈ state.node.host.registered, call.about = some slot.key) ∧
        (state.node.host.bindCommunication build.setup true answers).1.identities =
          state.node.host.identities := by
    generalize state.node.host.bindCommunication build.setup true answers = result at hresult
    cases hresult with
    | bound after hslots hlog =>
        refine ⟨_, hlog, fun call hcall => Host.about_bindCalls hcall, ?_⟩
        unfold Host.identities
        dsimp only
        rw [hslots, List.map_map]
        rfl
    | failed after done rest failing ret hsplit hret hslots hlog =>
        rw [List.append_assoc, List.append_assoc] at hlog
        refine ⟨_, hlog, ?_, ?_⟩
        · rw [hsplit]
          have hwiden : ∀ {call : Call}, (∃ slot ∈ done, call.about = some slot.key) →
              ∃ slot ∈ done ++ failing :: rest, call.about = some slot.key := by
            rintro call ⟨slot, hslot, habout⟩
            exact ⟨slot, List.mem_append_left _ hslot, habout⟩
          intro call hcall
          rcases List.mem_append.mp hcall with hbind | hlater
          · exact hwiden (Host.about_bindCalls hbind)
          rcases List.mem_append.mp hlater with hfailing | hquiesce
          · obtain rfl := List.mem_singleton.mp hfailing
            exact ⟨failing, List.mem_append_right _ List.mem_cons_self, rfl⟩
          · obtain ⟨slot, hslot, habout⟩ := Host.about_quiesceCalls hquiesce
            exact hwiden ⟨slot, List.mem_reverse.mp hslot, habout⟩
        · unfold Host.identities
          dsimp only
          rw [hslots, hsplit, List.map_append, List.map_append, List.map_map]
          rfl
  obtain ⟨calls, hlog, hcalls, hidentities⟩ := hparts
  exact h.registry hlog hcalls hidentities htail hframe

end

end CanopenRtt.Lifecycle
