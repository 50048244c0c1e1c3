import CanopenRtt.Lifecycle.Generations
import CanopenRtt.Lifecycle.GenerationWord
/-!
# What one operation adds to the word of a slot

`Tracks` says that the events of a node are a permitted word of generations for each registered
slot, and that all bound slots have come equally far. One rule for each operation.
-/

namespace CanopenRtt.Lifecycle

open CanopenRtt.Support

/-- The phase of a slot whose node has brought its bound slots to `standing`. -/
def Node.phase (standing : Standing) (node : Node) (slot : Slot) : Phase where
  stack := node.stack
  canModule := node.canDevice
  standing := if slot.communicationBound then standing else .unbound

/-- The events since `base` are explained for the slots of `keys`, which are registered. -/
structure Tracks (build : Build) (base : List Event) (keys : List Key) (standing : Standing)
    (node : Node) : Prop where
  valid : node.host.Valid build.setup
  keys : node.host.registered.map Slot.key = keys
  explained : ∃ events, node.trace = base ++ events ∧
    ∀ slot ∈ node.host.registered,
      Explained build slot.key {} events (node.phase standing slot)

/-- No slot is bound. -/
def Unbound (node : Node) : Prop :=
  ∀ slot ∈ node.host.registered, slot.communicationBound = false

section

variable {build : Build} {base added : List Event} {keys : List Key}
  {standing standing' : Standing} {node after : Node}

theorem Tracks.step (h : Tracks build base keys standing node)
    (htrace : after.trace = node.trace ++ added) (hvalid : after.host.Valid build.setup)
    (hkeys : after.host.registered.map Slot.key = node.host.registered.map Slot.key)
    (hmoves : ∀ slot ∈ after.host.registered, ∃ before ∈ node.host.registered,
      before.key = slot.key ∧
        Explained build slot.key (node.phase standing before) added (after.phase standing' slot)) :
    Tracks build base keys standing' after := by
  obtain ⟨events, hevents, hexplained⟩ := h.explained
  refine ⟨hvalid, hkeys.trans h.keys, events ++ added, ?_, ?_⟩
  · rw [htrace, hevents, List.append_assoc]
  · intro slot hslot
    obtain ⟨before, hbefore, hkey, hadded⟩ := hmoves slot hslot
    have hold := hexplained before hbefore
    rw [hkey] at hold
    exact hold.append hadded

/-- A step that leaves the registry alone, with the same move of every slot. -/
theorem Tracks.same (h : Tracks build base keys standing node)
    (htrace : after.trace = node.trace ++ added)
    (hslots : after.host.app.slots = node.host.app.slots)
    (hcount : after.host.app.count = node.host.app.count)
    (hmoves : ∀ slot ∈ node.host.registered,
      Explained build slot.key (node.phase standing slot) added (after.phase standing' slot)) :
    Tracks build base keys standing' after := by
  have hregistered : after.host.registered = node.host.registered := by
    unfold Host.registered
    rw [hslots, hcount]
  refine h.step htrace (h.valid.of_slots hslots hcount) (by rw [hregistered]) fun slot hslot => ?_
  rw [hregistered] at hslot
  exact ⟨slot, hslot, rfl, hmoves slot hslot⟩

theorem Tracks.sound (h : Tracks build base keys standing node) {slot : Slot}
    (hslot : slot ∈ node.host.registered) : (node.phase standing slot).Sound := by
  obtain ⟨events, -, hexplained⟩ := h.explained
  exact (hexplained slot hslot).sound

theorem phase_of_unbound {slot : Slot} (h : slot.communicationBound = false) :
    node.phase standing slot = { stack := node.stack, canModule := node.canDevice } := by
  unfold Node.phase
  rw [h]
  rfl

/-- What the bound slots have come to does not matter when there are none. -/
theorem Tracks.unbound (h : Tracks build base keys standing node) (hunbound : Unbound node) :
    Tracks build base keys standing' node := by
  refine h.same (List.append_nil _).symm rfl rfl fun slot hslot => ?_
  rw [phase_of_unbound (hunbound slot hslot), phase_of_unbound (hunbound slot hslot)]
  exact explained_of_silent _ (by simp)

/-- Events that concern no generation, with the bindings, the stack and the module kept. -/
theorem Tracks.silent (h : Tracks build base keys standing node)
    (htrace : after.trace = node.trace ++ added)
    (hsilent : ∀ event ∈ added, ∀ slot, event.ofGeneration slot = false)
    (hslots : after.host.app.slots = node.host.app.slots)
    (hcount : after.host.app.count = node.host.app.count) (hstack : after.stack = node.stack)
    (hdevice : after.canDevice = node.canDevice) : Tracks build base keys standing after := by
  refine h.same htrace hslots hcount fun slot _ => ?_
  have hphase : after.phase standing slot = node.phase standing slot := by
    unfold Node.phase
    rw [hstack, hdevice]
  rw [hphase]
  exact explained_of_silent _ fun event hevent => hsilent event hevent slot.key

/-! ## Notices -/

theorem filter_generation_notices {visits : List Slot} (hnodup : (visits.map Slot.key).Nodup)
    {notice : Notice} (hnotice : notice.ofGeneration = true) (gate : Slot → Bool) {slot : Slot}
    (hslot : slot ∈ visits) :
    (visits.flatMap (node.noticeEvents build notice gate)).filter (Event.ofGeneration slot.key) =
      node.noticeEvents build notice gate slot := by
  refine @filter_flatMap_of_nodup _ _ _ _ Slot.key _ Event.ofGeneration hnodup
    (fun other event hevent key => ?_) _ hslot
  unfold Node.noticeEvents at hevent
  split at hevent
  · rw [List.mem_singleton.mp hevent]
    rw [ofGeneration_notice, hnotice, Bool.and_true, decide_eq_true_iff]
  · cases hevent

theorem noticeEvents_eq (notice : Notice) (gate : Slot → Bool) (slot : Slot) :
    node.noticeEvents build notice gate slot =
      if gate slot = true then
        (if slot.key.sets build notice then
          some (Event.notice node.stack slot.key notice) else none).toList
      else [] := by
  have hsets : build.sets slot notice = slot.key.sets build notice := rfl
  unfold Node.noticeEvents
  rw [hsets]
  cases gate slot <;> cases slot.key.sets build notice <;> rfl

theorem silent_notices {visits : List Slot} {notice : Notice}
    (hnotice : notice.ofGeneration = false) (gate : Slot → Bool) :
    ∀ event ∈ visits.flatMap (node.noticeEvents build notice gate),
      ∀ slot, event.ofGeneration slot = false := by
  intro event hevent slot
  obtain ⟨other, -, hevent⟩ := List.mem_flatMap.mp hevent
  unfold Node.noticeEvents at hevent
  split at hevent
  · rw [List.mem_singleton.mp hevent]
    rw [ofGeneration_notice, hnotice, Bool.and_false]
  · cases hevent

theorem nodup_reverse {host : Host} (hvalid : host.Valid build.setup) :
    (host.registered.reverse.map Slot.key).Nodup := by
  rw [List.map_reverse]
  exact (List.reverse_perm _).nodup_iff.mpr hvalid.nodup

theorem Tracks.notify {visits : List Slot} {notice : Notice} {move : Nat → Move}
    (h : Tracks build base keys standing node)
    (hstanding : standing = .bound ∨ standing = .ready)
    (hvisits : (visits.map Slot.key).Nodup) (hall : ∀ slot ∈ node.host.registered, slot ∈ visits)
    (hnotice : notice.ofGeneration = true)
    (hvisible : ∀ generation slot, (move generation).visible build slot =
      if slot.sets build notice then some (.notice (some generation) slot notice) else none)
    (hcheck : ∀ generation, Phase.check ⟨some generation, true, standing⟩ (move generation) =
      some ⟨some generation, true, standing'⟩) :
    Tracks build base keys standing'
      { node with
        trace := node.trace ++
          visits.flatMap (node.noticeEvents build notice (·.communicationBound)) } := by
  refine h.same rfl rfl rfl fun slot hslot => ?_
  change Explains _ _ _ _ (node.phase standing' slot)
  rw [filter_generation_notices hvisits hnotice _ (hall slot hslot), noticeEvents_eq]
  cases hbound : slot.communicationBound with
  | false =>
      rw [phase_of_unbound hbound, phase_of_unbound hbound]
      exact explains_nil _
  | true =>
      have hphase : ∀ other, node.phase other slot = ⟨node.stack, node.canDevice, other⟩ := by
        intro other
        unfold Node.phase
        rw [hbound, if_pos rfl]
      have hsound := h.sound hslot
      rw [hphase] at hsound
      have hmodule : node.canDevice = true := hsound.module hstanding
      obtain ⟨generation, hstack⟩ := Option.isSome_iff_exists.mp (hsound.device hmodule)
      have hstack : node.stack = some generation := hstack
      rw [hphase, hphase, hmodule, hstack, if_pos rfl, ← hvisible]
      exact explains_of_move (hcheck generation)

/-- Every bound slot is stopped once. -/
theorem Tracks.stop (h : Tracks build base keys standing node)
    (hstanding : standing = .bound ∨ standing = .ready) :
    Tracks build base keys .stopped (node.communicationStop build) := by
  rw [Node.communicationStop_eq]
  refine @Tracks.notify build base keys standing .stopped node _ .communicationStop .stop h
    hstanding (nodup_reverse h.valid) (fun _ hslot => List.mem_reverse.mpr hslot) rfl
    (fun _ _ => rfl) fun generation => ?_
  rcases hstanding with rfl | rfl <;> simp [Phase.check]

/-- Every bound slot is told once that the generation is ready. -/
theorem Tracks.ready (h : Tracks build base keys .bound node) :
    Tracks build base keys .ready (node.communicationReady build) := by
  rw [Node.communicationReady_eq]
  exact @Tracks.notify build base keys .bound .ready node _ .communicationReady .ready h
    (Or.inl rfl) h.valid.nodup (fun _ hslot => hslot) rfl (fun _ _ => rfl) fun generation => by
      simp [Phase.check]

theorem Tracks.resetWakeups (h : Tracks build base keys standing node) :
    Tracks build base keys standing (node.resetWakeups build) := by
  rw [Node.resetWakeups_eq]
  exact h.silent rfl (silent_notices rfl _) rfl rfl rfl rfl

theorem Host.eq_of_key {host : Host} (hvalid : host.Valid build.setup) {slot other : Slot}
    (hslot : slot ∈ host.registered) (hother : other ∈ host.registered)
    (hkey : slot.key = other.key) : slot = other :=
  List.inj_on_of_nodup_map hvalid.nodup hslot hother hkey

/-- A processing callback of one slot, while the generation is ready. -/
theorem Tracks.process (h : Tracks build base keys .ready node) {notice : Notice}
    (hnotice : notice.isProcessing = true) {i : Nat} (hi : i < node.host.app.count) :
    Tracks build base keys .ready (node.notifySlot build notice Node.processes i) := by
  unfold Node.notifySlot
  rw [Node.emitIf_eq]
  refine h.same rfl rfl rfl fun slot hslot => ?_
  change Explained build slot.key (node.phase .ready slot) _ (node.phase .ready slot)
  split
  case isFalse => exact explained_of_silent _ (by simp)
  case isTrue hfires =>
      rw [Bool.and_eq_true] at hfires
      unfold Node.processes at hfires
      rw [Bool.and_eq_true] at hfires
      by_cases hkey : (node.host.slot i).key = slot.key
      · have hsame := Host.eq_of_key h.valid (getElem_mem_cells hi) hslot hkey
        have hbound : slot.communicationBound = true := hsame ▸ hfires.1.2
        have hsound := h.sound hslot
        have hphase : node.phase .ready slot = ⟨node.stack, node.canDevice, .ready⟩ := by
          unfold Node.phase
          rw [hbound, if_pos rfl]
        rw [hphase] at hsound ⊢
        have hmodule : node.canDevice = true := hsound.module (Or.inr rfl)
        obtain ⟨generation, hstack⟩ := Option.isSome_iff_exists.mp (hsound.device hmodule)
        have hstack : node.stack = some generation := hstack
        rw [hmodule, hstack, hkey]
        refine @explained_of_move _ _ _ _ _ (.process generation notice) ?_ ?_
        · simp [Phase.check, hnotice]
        · have hof : notice.ofGeneration = true := by
            unfold Notice.ofGeneration
            rw [hnotice]
            rfl
          simp [ofGeneration_notice, hof, Move.visible]
      · refine explained_of_silent _ fun event hevent => ?_
        rw [List.mem_singleton.mp hevent, ofGeneration_notice, decide_eq_false hkey,
          Bool.false_and]

/-! ## The stack and the CAN module -/

theorem Tracks.disable (h : Tracks build base keys .stopped node) :
    Tracks build base keys .stopped node.canDisable := by
  unfold Node.canDisable
  rw [Node.emitIf_eq]
  refine h.same rfl rfl rfl fun slot hslot => ?_
  have hafter : ∀ {trace : List Event}, ({ node with
      trace := trace, canDevice := false, canNormal := false } : Node).phase .stopped slot =
        { node.phase .stopped slot with canModule := false } := rfl
  rw [hafter]
  cases hdevice : node.canDevice with
  | false =>
      have hsame : { node.phase .stopped slot with canModule := false } =
          node.phase .stopped slot := by
        unfold Node.phase
        rw [hdevice]
      rw [hsame]
      exact explained_of_silent _ (by simp)
  | true =>
      refine @explained_of_move _ _ _ _ _ .canOff ?_ rfl
      unfold Node.phase Phase.check
      rw [hdevice]
      cases slot.communicationBound <;> rfl

theorem Tracks.canInit (h : Tracks build base keys standing node) (hunbound : Unbound node)
    (hopen : node.host.app.canOpenStack = true) (hdevice : node.canDevice = false)
    (initialized : Bool) : Tracks build base keys standing (node.canInit initialized) := by
  have hstack : node.stack = some node.generation := by
    unfold Node.stack
    rw [hopen, if_pos rfl]
  unfold Node.canInit
  rw [Node.emitIf_eq]
  refine h.same rfl rfl rfl fun slot hslot => ?_
  rw [phase_of_unbound (hunbound slot hslot), phase_of_unbound (hunbound slot hslot), hdevice]
  change Explained build slot.key ⟨node.stack, false, .unbound⟩ _
    ⟨node.stack, initialized, .unbound⟩
  rw [hstack]
  cases initialized with
  | false => exact explained_of_silent _ (by simp)
  | true => exact @explained_of_move _ _ _ _ _ .canOn rfl rfl

theorem Tracks.create (h : Tracks build base keys standing node) (hunbound : Unbound node)
    (hopen : node.host.app.canOpenStack = false) (hdevice : node.canDevice = false)
    (created : Bool) : Tracks build base keys standing (node.newStack created).1 := by
  have hstack : node.stack = none := by
    unfold Node.stack
    rw [hopen]
    rfl
  unfold Node.newStack
  cases created with
  | false =>
      refine h.silent (List.append_nil _).symm (by simp) rfl rfl ?_ rfl
      rw [hstack]
      rfl
  | true =>
      refine h.same rfl rfl rfl fun slot hslot => ?_
      rw [phase_of_unbound (hunbound slot hslot), phase_of_unbound (hunbound slot hslot), hstack,
        hdevice]
      exact @explained_of_move _ _ _ _ _ (.create (node.generation + 1)) rfl rfl

theorem Tracks.delete (h : Tracks build base keys standing node) (hunbound : Unbound node)
    (hopen : node.host.app.canOpenStack = true) (hdevice : node.canDevice = false) :
    Tracks build base keys standing node.deleteStack := by
  have hstack : node.stack = some node.generation := by
    unfold Node.stack
    rw [hopen, if_pos rfl]
  refine h.same rfl rfl rfl fun slot hslot => ?_
  rw [phase_of_unbound (hunbound slot hslot), phase_of_unbound (hunbound slot hslot)]
  change Explained build slot.key ⟨node.stack, node.canDevice, .unbound⟩ _
    ⟨none, node.canDevice, .unbound⟩
  rw [hstack, hdevice]
  exact @explained_of_move _ _ _ _ _ (.delete node.generation) (if_pos rfl) rfl

/-! ## Binding and quiescing -/

theorem ofGeneration_quiesceCalls {stack : Option Nat} {slot : Slot} {event : Event}
    (h : event ∈ (slot.quiesceCalls build.setup).map (Event.callback stack)) (key : Key) :
    event.ofGeneration key = true ↔ slot.key = key := by
  unfold Slot.quiesceCalls at h
  split at h
  · rw [List.map_singleton, List.mem_singleton] at h
    subst h
    exact decide_eq_true_iff
  · simp at h

theorem ofGeneration_bindCalls {stack : Option Nat} {slot : Slot} {event : Event}
    (h : event ∈ (slot.bindCalls build.setup).map (Event.callback stack)) (key : Key) :
    event.ofGeneration key = true ↔ slot.key = key := by
  unfold Slot.bindCalls at h
  split at h
  · rw [List.map_singleton, List.mem_singleton] at h
    subst h
    exact decide_eq_true_iff
  · simp at h

theorem quiesceCalls_eq (generation : Nat) (slot : Slot) :
    (slot.quiesceCalls build.setup).map (Event.callback (some generation)) =
      ((Move.quiesce generation).visible build slot.key).toList := by
  have hhas : build.setup.has slot .communicationQuiesced =
      slot.key.has build.setup .communicationQuiesced := rfl
  unfold Slot.quiesceCalls Move.visible
  rw [hhas]
  cases slot.key.has build.setup .communicationQuiesced <;> rfl

theorem bindCalls_eq (generation : Nat) (slot : Slot) :
    (slot.bindCalls build.setup).map (Event.callback (some generation)) =
      ((Move.bind generation).visible build slot.key).toList := by
  have hhas : build.setup.has slot .communicationBind =
      slot.key.has build.setup .communicationBind := rfl
  unfold Slot.bindCalls Move.visible
  rw [hhas]
  cases slot.key.has build.setup .communicationBind <;> rfl

/-- The bound slots are quiesced when they were stopped and the CAN module is off. -/
theorem Tracks.quiesce (h : Tracks build base keys .stopped node)
    (hdevice : node.canDevice = false) :
    Tracks build base keys standing' (node.communicationQuiesced build) ∧
      Unbound (node.communicationQuiesced build) := by
  obtain ⟨hregistered, -, hframe⟩ := Host.communicationQuiesced_spec build.setup node.host
  have hunbound : Unbound (node.communicationQuiesced build) := by
    intro slot hslot
    have hmem : slot ∈ (node.host.communicationQuiesced build.setup).registered := hslot
    rw [hregistered] at hmem
    obtain ⟨before, -, rfl⟩ := List.mem_map.mp hmem
    rfl
  refine ⟨?_, hunbound⟩
  rw [Node.communicationQuiesced_eq] at hunbound ⊢
  have hstack : ∀ {trace : List Event}, ({ node with
      host := node.host.communicationQuiesced build.setup, trace := trace } : Node).stack =
        node.stack := by
    intro trace
    unfold Node.stack
    rw [show (_ : Host).app.canOpenStack = _ from Host.canOpenStack_of_frame hframe]
  refine h.step rfl (valid_communicationQuiesced h.valid) ?_ fun slot hslot => ?_
  · dsimp only
    rw [hregistered, List.map_map]
    rfl
  have hfree := hunbound slot hslot
  rw [phase_of_unbound hfree, hstack]
  dsimp only at hslot ⊢
  rw [hregistered] at hslot
  obtain ⟨before, hbefore, rfl⟩ := List.mem_map.mp hslot
  refine ⟨before, hbefore, rfl, ?_⟩
  have hfilter := @filter_flatMap_of_nodup _ _ _ node.host.registered.reverse Slot.key
    (fun slot => (if slot.communicationBound then slot.quiesceCalls build.setup else []).map
      (Event.callback node.stack)) Event.ofGeneration (nodup_reverse h.valid) (by
        intro other event hevent key
        split at hevent
        · exact ofGeneration_quiesceCalls hevent key
        · simp at hevent) before (List.mem_reverse.mpr hbefore)
  unfold Explained Node.quiesceEvents
  rw [List.map_flatMap, show before.unbind.key = before.key from rfl, hfilter, hdevice]
  have hsound := h.sound hbefore
  cases hbound : before.communicationBound with
  | false =>
      rw [phase_of_unbound hbound, hdevice]
      exact explains_nil _
  | true =>
      have hphase : node.phase .stopped before = ⟨node.stack, false, .stopped⟩ := by
        unfold Node.phase
        rw [hbound, if_pos rfl, hdevice]
      rw [hphase] at hsound ⊢
      obtain ⟨generation, hsome⟩ := Option.isSome_iff_exists.mp (hsound.stack nofun)
      have hsome : node.stack = some generation := hsome
      rw [hsome, if_pos rfl, quiesceCalls_eq]
      exact explains_of_move (if_pos (Or.inr rfl))

theorem filter_others {visits : List Slot} {key : Key} {report : Slot → List Event}
    (habout : ∀ slot, ∀ event ∈ report slot, event.ofGeneration key = true ↔ slot.key = key)
    (hother : ∀ slot ∈ visits, slot.key ≠ key) :
    (visits.flatMap report).filter (Event.ofGeneration key) = [] := by
  rw [List.filter_eq_nil_iff]
  intro event hevent
  obtain ⟨slot, hslot, hevent⟩ := List.mem_flatMap.mp hevent
  rw [habout slot event hevent]
  exact hother slot hslot

/-- What a bind adds to the word of one slot: a binding, a binding that is rolled back, a refusal,
or nothing. -/
theorem explained_bind {answers : Key → RtErr} {result : Host × RtErr} {generation : Nat}
    (hvalid : node.host.Valid build.setup) (hunbound : Unbound node)
    (h : Host.BindResult build.setup answers node.host result) :
    ∃ calls, result.1.log = node.host.log ++ calls ∧
      result.1.registered.map Slot.key = node.host.registered.map Slot.key ∧
      (result.2 ≠ .ok → ∀ slot ∈ result.1.registered, slot.communicationBound = false) ∧
      ∀ slot ∈ result.1.registered,
        Explained build slot.key ⟨some generation, true, .unbound⟩
          (calls.map (Event.callback (some generation)))
          ⟨some generation, true, if slot.communicationBound then .bound else .unbound⟩ := by
  have hbindAbout : ∀ key, ∀ slot : Slot, ∀ event ∈ (slot.bindCalls build.setup).map
      (Event.callback (some generation)), event.ofGeneration key = true ↔ slot.key = key :=
    fun key slot event hevent => ofGeneration_bindCalls hevent key
  have hquiesceAbout : ∀ key, ∀ slot : Slot, ∀ event ∈ (slot.quiesceCalls build.setup).map
      (Event.callback (some generation)), event.ofGeneration key = true ↔ slot.key = key :=
    fun key slot event hevent => ofGeneration_quiesceCalls hevent key
  cases h with
  | bound after hslots hlog =>
      refine ⟨_, hlog, ?_, fun hfailed => absurd rfl hfailed, fun slot hslot => ?_⟩
      · dsimp only
        rw [hslots, List.map_map]
        rfl
      dsimp only at hslot
      rw [hslots] at hslot
      obtain ⟨before, hbefore, rfl⟩ := List.mem_map.mp hslot
      have hfilter := @filter_flatMap_of_nodup _ _ _ node.host.registered Slot.key
        (fun slot => (slot.bindCalls build.setup).map (Event.callback (some generation)))
        Event.ofGeneration hvalid.nodup (fun slot event hevent key =>
          hbindAbout key slot event hevent) before hbefore
      unfold Explained
      rw [List.map_flatMap, show (before.bind build.setup).key = before.key from rfl, hfilter,
        bindCalls_eq]
      exact explains_of_move (if_pos rfl)
  | failed after done rest failing ret hsplit hret hslots hlog =>
      rw [List.append_assoc, List.append_assoc] at hlog
      have hnodup := hvalid.nodup
      rw [hsplit, List.map_append, List.map_cons, List.nodup_append] at hnodup
      obtain ⟨hdone, hbehind, hapart⟩ := hnodup
      obtain ⟨hfailing, -⟩ := List.nodup_cons.mp hbehind
      have hfree : ∀ slot ∈ after.registered, slot.communicationBound = false := by
        intro slot hslot
        rw [hslots] at hslot
        rcases List.mem_append.mp hslot with hrolled | hkept
        · obtain ⟨before, -, rfl⟩ := List.mem_map.mp hrolled
          rfl
        · exact hunbound slot (hsplit ▸ List.mem_append_right _ hkept)
      refine ⟨_, hlog, ?_, fun _ => hfree, fun slot hslot => ?_⟩
      · dsimp only
        rw [hslots, hsplit, List.map_append, List.map_append, List.map_map]
        rfl
      rw [hfree slot hslot, if_neg Bool.false_ne_true]
      unfold Explained
      rw [List.map_append, List.map_append, List.filter_append, List.filter_append,
        List.map_flatMap, List.map_flatMap, List.map_singleton]
      dsimp only at hslot
      rw [hslots] at hslot
      rcases List.mem_append.mp hslot with hrolled | hkept
      · -- It was bound, and the rollback quiesces it.
        obtain ⟨before, hbefore, rfl⟩ := List.mem_map.mp hrolled
        have hkey : ((before.bind build.setup).unbind).key = before.key := rfl
        have hbind := @filter_flatMap_of_nodup _ _ _ done Slot.key
          (fun slot => (slot.bindCalls build.setup).map (Event.callback (some generation)))
          Event.ofGeneration hdone (fun slot event hevent key =>
            hbindAbout key slot event hevent) before hbefore
        have hreverse : (done.reverse.map Slot.key).Nodup := by
          rw [List.map_reverse]
          exact (List.reverse_perm _).nodup_iff.mpr hdone
        have hquiesce := @filter_flatMap_of_nodup _ _ _ done.reverse Slot.key
          (fun slot => (slot.quiesceCalls build.setup).map (Event.callback (some generation)))
          Event.ofGeneration hreverse (fun slot event hevent key =>
            hquiesceAbout key slot event hevent) before (List.mem_reverse.mpr hbefore)
        have hne : failing.key ≠ before.key := fun heq =>
          hapart _ (List.mem_map_of_mem hbefore) _ List.mem_cons_self heq.symm
        have hskip : [Event.callback (some generation)
            (.communicationBind failing.key ret)].filter (Event.ofGeneration before.key) = [] := by
          rw [List.filter_cons, if_neg (by simpa [Event.ofGeneration] using hne), List.filter_nil]
        rw [hkey, hbind, hquiesce, hskip, List.nil_append, bindCalls_eq, quiesceCalls_eq]
        exact (explains_of_move (if_pos rfl)).append (explains_of_move (if_pos (Or.inl rfl)))
      · have hdoneOther : ∀ other ∈ done, other.key ≠ slot.key := fun other hother heq => by
          refine hapart _ (List.mem_map_of_mem hother) slot.key ?_ heq
          rw [← List.map_cons]
          exact List.mem_map_of_mem hkept
        rw [filter_others (hbindAbout slot.key) hdoneOther, filter_others (hquiesceAbout slot.key)
          (fun other hother => hdoneOther other (List.mem_reverse.mp hother)), List.nil_append,
          List.append_nil]
        rcases List.mem_cons.mp hkept with rfl | hrest
        · -- Its own bind was refused.
          have hself : [Event.callback (some generation) (.communicationBind slot.key ret)].filter
              (Event.ofGeneration slot.key) =
                ((Move.bindFails generation ret).visible build slot.key).toList := by
            rw [List.filter_cons, if_pos (by simp [Event.ofGeneration]), List.filter_nil]
            rfl
          rw [hself]
          exact explains_of_move (if_pos ⟨rfl, hret⟩)
        · have hne : failing.key ≠ slot.key := fun heq =>
            hfailing (heq ▸ List.mem_map_of_mem hrest)
          rw [List.filter_cons, if_neg (by simpa [Event.ofGeneration] using hne), List.filter_nil]
          exact explains_nil _

theorem Tracks.bind (h : Tracks build base keys standing node) (hunbound : Unbound node)
    (hopen : node.host.app.canOpenStack = true) (hdevice : node.canDevice = true)
    (answers : Key → RtErr) :
    Tracks build base keys .bound
        (node.registry (·.bindCommunication build.setup true answers)).1 ∧
      ((node.registry (·.bindCommunication build.setup true answers)).2 ≠ .ok →
        Unbound (node.registry (·.bindCommunication build.setup true answers)).1) ∧
      (node.registry (·.bindCommunication build.setup true answers)).1.host.app.canOpenStack =
        true := by
  obtain ⟨hresult, htail, hframe⟩ :=
    @Host.bindCommunication_free build.setup answers node.host hunbound
  obtain ⟨calls, hlog, hkeys, hrefused, hmoves⟩ :=
    @explained_bind build node answers _ node.generation h.valid hunbound hresult
  have hstack : node.stack = some node.generation := by
    unfold Node.stack
    rw [hopen, if_pos rfl]
  have hstill := Host.canOpenStack_of_frame hframe
  rw [hopen] at hstill
  rw [@Node.registry_eq (·.bindCommunication build.setup true answers) node _ hlog]
  refine ⟨?_, hrefused, hstill⟩
  refine h.step rfl (h.valid.of_keys (Host.count_of_frame hframe) hkeys htail) hkeys
    fun slot hslot => ?_
  have hmem : slot.key ∈ node.host.registered.map Slot.key := hkeys ▸ List.mem_map_of_mem hslot
  obtain ⟨before, hbefore, hkey⟩ := List.mem_map.mp hmem
  refine ⟨before, hbefore, hkey, ?_⟩
  have hafter : ∀ {trace : List Event}, ({ node with
      host := (node.host.bindCommunication build.setup true answers).1,
      trace := trace } : Node).phase .bound slot =
        ⟨some node.generation, true, if slot.communicationBound then .bound else .unbound⟩ := by
    intro trace
    unfold Node.phase Node.stack
    dsimp only
    rw [hstill, if_pos rfl, hdevice]
  dsimp only
  rw [hafter, phase_of_unbound (hunbound before hbefore), hdevice, hstack]
  exact hmoves slot hslot

/-! ## Communication Reset -/

theorem canInit_host (initialized : Bool) : (node.canInit initialized).host = node.host := by
  unfold Node.canInit
  rw [Node.emitIf_eq]

theorem stopped_host : ((node.communicationStop build).canDisable).host = node.host := by
  rw [Node.communicationStop_eq]
  unfold Node.canDisable
  rw [Node.emitIf_eq]

/-- The steps behind a bind, up to the ready notices. -/
theorem Tracks.complete (h : Tracks build base keys .bound node)
    (hopen : node.host.app.canOpenStack = true) (answers : ResetAnswers) :
    ((node.completeReset build answers).2 = .ok →
        Tracks build base keys .ready (node.completeReset build answers).1) ∧
      ((node.completeReset build answers).2 ≠ .ok →
        Tracks build base keys .bound (node.completeReset build answers).1) ∧
      (node.completeReset build answers).1.host.app.canOpenStack = true := by
  unfold Node.completeReset
  repeat' split
  all_goals try exact ⟨nofun, fun _ => h, hopen⟩
  have hnormal : Tracks build base keys .bound { node with canNormal := true } :=
    h.silent (List.append_nil _).symm (by simp) rfl rfl rfl rfl
  refine ⟨fun _ => hnormal.ready, fun hfailed => absurd rfl hfailed, ?_⟩
  rw [Node.communicationReady_eq]
  exact hopen

/-- A Communication Reset of a stack that no slot is bound to. -/
theorem Tracks.reset (h : Tracks build base keys standing node) (hunbound : Unbound node)
    (hopen : node.host.app.canOpenStack = true) (answers : ResetAnswers) (load : Bool) :
    ((node.resetCommunication build answers load).2 = .ok →
        Tracks build base keys .ready (node.resetCommunication build answers load).1) ∧
      ((node.resetCommunication build answers load).2 ≠ .ok →
        Tracks build base keys .bound (node.resetCommunication build answers load).1) ∧
      (node.resetCommunication build answers load).1.host.app.canOpenStack = true := by
  have hbound : Tracks build base keys .bound node := h.unbound hunbound
  have hstopped := (hbound.stop (Or.inl rfl)).disable
  have hhost := @stopped_host build node
  have hoff : ((node.communicationStop build).canDisable).canDevice = false := rfl
  unfold Node.resetCommunication
  dsimp only
  generalize (node.communicationStop build).canDisable = stopped at hstopped hhost hoff ⊢
  have hfree : Unbound stopped := by
    unfold Unbound
    rw [hhost]
    exact hunbound
  rw [← hhost] at hopen
  have hfailed : ∀ {after : Node} {ret : RtErr}, Tracks build base keys .stopped after →
      Unbound after → after.host.app.canOpenStack = true → ret ≠ .ok →
        (ret = .ok → Tracks build base keys .ready after) ∧
          (ret ≠ .ok → Tracks build base keys .bound after) ∧
            after.host.app.canOpenStack = true :=
    fun htracks hnone hstill hret => ⟨fun hok => absurd hok hret, fun _ => htracks.unbound hnone,
      hstill⟩
  split
  · exact hfailed hstopped hfree hopen nofun
  have hinit : ∀ (current : Node), current.host = stopped.host → current.canDevice = false →
      Tracks build base keys .stopped current → ∀ initialized,
        Tracks build base keys .stopped (current.canInit initialized) := by
    intro current hsame hnone hcurrent initialized
    refine hcurrent.canInit ?_ (hsame ▸ hopen) hnone initialized
    unfold Unbound
    rw [hsame]
    exact hfree
  have hopened : ∃ current : Node, current.host = stopped.host ∧
      Tracks build base keys .stopped current ∧
        (if (!answers.canInit && load && answers.persistedBitrate) = true then
            (stopped.canInit answers.canInit).canInit answers.canInitAgain
          else stopped.canInit answers.canInit) = current := by
    have hfirst := hinit stopped rfl hoff hstopped answers.canInit
    refine ⟨_, ?_, ?_, rfl⟩
    · split
      · rw [canInit_host, canInit_host]
      · rw [canInit_host]
    · split
      case isTrue hretried =>
          simp only [Bool.and_eq_true, Bool.not_eq_true'] at hretried
          exact hinit _ (canInit_host _) hretried.1.1 hfirst _
      case isFalse => exact hfirst
  obtain ⟨current, hsame, htracks, hcurrent⟩ := hopened
  rw [hcurrent]
  have hnone : Unbound current := by
    unfold Unbound
    rw [hsame]
    exact hfree
  rw [← hsame] at hopen
  split
  · exact hfailed htracks hnone hopen nofun
  case isFalse hdevice =>
      split
      · exact hfailed htracks hnone hopen nofun
      split
      · exact hfailed htracks hnone hopen nofun
      split
      · exact hfailed htracks hnone hopen nofun
      obtain ⟨hbind, -, hstill⟩ := htracks.bind hnone hopen (by simpa using hdevice) answers.bind
      split
      case isTrue hrefused => exact ⟨fun hok => absurd hok hrefused, fun _ => hbind, hstill⟩
      case isFalse => exact hbind.complete hstill answers

end

end CanopenRtt.Lifecycle
