import CanopenRtt.Lifecycle.StartupCleanup
/-!
# Failed initialisations

What a failed initialisation calls each extension for, what it leaves, and that each context a
factory gave away is released once, over whole runs of registrations and initialisations.
-/

namespace CanopenRtt.Lifecycle

open CanopenRtt.Support

/-! ## The teardown of one slot -/

/-- The event is about this slot, or the CAN module is released. -/
def Event.concerns (slot : Key) : Event → Bool
  | .notice _ other _ => other = slot
  | .callback _ (.release other) => other = slot
  | .callback _ call => call.about = some slot
  | .release .canModule => true
  | _ => false

namespace Node

/-- What a cleanup does about one slot: the wakeup is withdrawn, the extension is stopped, the CAN
module is disabled, the extension is quiesced and deinitialised, and its context is released. -/
def teardown (build : Build) (node : Node) (slot : Slot) : List Event :=
  node.noticeEvents build .resetWakeups (·.runtimeInitialized) slot ++
    node.noticeEvents build .communicationStop (·.communicationBound) slot ++
    (if node.canDevice then [.release .canModule] else []) ++
    (if slot.communicationBound then slot.quiesceCalls build.setup else []).map
      (Event.callback node.stack) ++
    (slot.deinitCalls build.setup slot.deinitRequired).map (Event.callback node.stack)

end Node

/-- Of the reports of items with distinct keys, those about one key are the reports of its item. -/
theorem filter_flatMap_of_nodup {α β κ : Type*} {items : List α} {key : α → κ}
    {report : α → List β} {about : κ → β → Bool} (hnodup : (items.map key).Nodup)
    (habout : ∀ item, ∀ event ∈ report item, ∀ k, about k event = true ↔ key item = k) {item : α}
    (hitem : item ∈ items) : (items.flatMap report).filter (about (key item)) = report item := by
  induction items with
  | nil => cases hitem
  | cons first rest ih =>
      rw [List.map_cons, List.nodup_cons] at hnodup
      rw [List.flatMap_cons, List.filter_append]
      by_cases hsame : key first = key item
      · have hfirst : item = first := by
          rcases List.mem_cons.mp hitem with heq | hrest
          · exact heq
          · exact absurd (hsame ▸ List.mem_map_of_mem hrest) hnodup.1
        subst hfirst
        have hkept : (report item).filter (about (key item)) = report item :=
          List.filter_eq_self.mpr fun event hevent => (habout item event hevent _).mpr rfl
        have hnone : (rest.flatMap report).filter (about (key item)) = [] := by
          rw [List.filter_eq_nil_iff]
          intro event hevent
          obtain ⟨other, hother, hevent⟩ := List.mem_flatMap.mp hevent
          rw [habout other event hevent]
          exact fun hkey => hnodup.1 (hkey ▸ List.mem_map_of_mem hother)
        rw [hkept, hnone, List.append_nil]
      · have hnone : (report first).filter (about (key item)) = [] := by
          rw [List.filter_eq_nil_iff]
          intro event hevent
          rw [habout first event hevent]
          exact hsame
        have hrest : item ∈ rest := by
          rcases List.mem_cons.mp hitem with heq | hrest
          · exact absurd (congrArg key heq.symm) hsame
          · exact hrest
        rw [hnone, List.nil_append]
        exact ih hnodup.2 hrest

section

variable {build : Build} {answers : InitAnswers} {state : Initialising} {node : Node}

/-- The part of a report that every slot contributes to is, for one slot, its own contribution. -/
theorem filter_reports {setup : Setup} {host : Host} (hvalid : host.Valid setup)
    {report : Slot → List Event}
    (habout : ∀ slot, ∀ event ∈ report slot, ∀ key, event.concerns key = true ↔ slot.key = key)
    {slot : Slot} (hslot : slot ∈ host.registered) :
    (host.registered.reverse.flatMap report).filter (Event.concerns slot.key) = report slot := by
  refine @filter_flatMap_of_nodup _ _ _ _ Slot.key report Event.concerns ?_ habout _
    (List.mem_reverse.mpr hslot)
  rw [List.map_reverse]
  exact (List.reverse_perm _).nodup_iff.mpr hvalid.nodup

theorem filter_notices (hvalid : node.host.Valid build.setup) (notice : Notice) (gate : Slot → Bool)
    {slot : Slot} (hslot : slot ∈ node.host.registered) :
    (node.host.registered.reverse.flatMap (node.noticeEvents build notice gate)).filter
        (Event.concerns slot.key) = node.noticeEvents build notice gate slot := by
  refine filter_reports hvalid (fun other event hevent key => ?_) hslot
  unfold Node.noticeEvents at hevent
  split at hevent
  · rw [List.mem_singleton.mp hevent]
    exact decide_eq_true_iff
  · cases hevent

theorem filter_calls (hvalid : node.host.Valid build.setup) {calls : Slot → List Call}
    (hcalls : ∀ slot, ∀ call ∈ calls slot, call.about = some slot.key ∨ call = .release slot.key)
    {slot : Slot} (hslot : slot ∈ node.host.registered) :
    ((node.host.registered.reverse.flatMap calls).map (Event.callback node.stack)).filter
        (Event.concerns slot.key) = (calls slot).map (Event.callback node.stack) := by
  rw [List.map_flatMap]
  refine filter_reports hvalid (fun other event hevent key => ?_) hslot
  obtain ⟨call, hcall, rfl⟩ := List.mem_map.mp hevent
  rcases hcalls other call hcall with habout | rfl
  · cases call with
    | attach _ => cases habout
    | release _ => cases habout
    | _ =>
        unfold Event.concerns
        dsimp only
        rw [habout, decide_eq_true_iff, Option.some.injEq]
  · exact decide_eq_true_iff

theorem filter_plain {events : List Event} (hplain : ∀ event ∈ events, Plain false event)
    (slot : Key) : events.filter (Event.concerns slot) = [] := by
  rw [List.filter_eq_nil_iff]
  intro event hevent
  rcases hplain event hevent with rfl | ⟨resource, rfl, hresource⟩
  · nofun
  · cases resource with
    | canModule => exact absurd (hresource rfl) nofun
    | _ => nofun

theorem about_quiesce {setup : Setup} (slot : Slot) : ∀ call ∈
    if slot.communicationBound then slot.quiesceCalls setup else [],
      call.about = some slot.key ∨ call = .release slot.key := by
  intro call hcall
  unfold Slot.quiesceCalls at hcall
  split at hcall
  · split at hcall
    · rw [List.mem_singleton.mp hcall]
      exact Or.inl rfl
    · cases hcall
  · cases hcall

theorem about_deinit {setup : Setup} (slot : Slot) :
    ∀ call ∈ slot.deinitCalls setup slot.deinitRequired,
      call.about = some slot.key ∨ call = .release slot.key := by
  intro call hcall
  unfold Slot.deinitCalls Slot.releaseCalls at hcall
  rcases List.mem_append.mp hcall with hdeinit | hrelease
  · split at hdeinit
    · rw [List.mem_singleton.mp hdeinit]
      exact Or.inl rfl
    · cases hdeinit
  · split at hrelease
    · rw [List.mem_singleton.mp hrelease]
      exact Or.inr rfl
    · cases hrelease

theorem filter_if (slot : Key) (condition : Bool) (event : Event) :
    (if condition then [event] else []).filter (Event.concerns slot) =
      if condition && event.concerns slot then [event] else [] := by
  cases condition with
  | false => rfl
  | true => cases hconcerns : event.concerns slot <;> simp [hconcerns]

/-- The cleanup does about each slot what its flags ask for, in this order and once. -/
theorem cleanup_teardown {base : List Event} {slots : List (Key × Option Nat)}
    (h : Lawful build base slots false false state) (htake : answers.mutexTake = .ok) :
    ∃ events, (state.cleanup build answers).trace = state.node.trace ++ events ∧
      ∀ slot ∈ state.node.host.registered,
        events.filter (Event.concerns slot.key) = state.node.teardown build slot := by
  have hvalid := h.coherent.valid
  obtain ⟨canDevice, canNormal, mainlineInitialized, rest, hfinish, hrest⟩ :=
    finish_eq (state.teardown answers && (state.beginCleanup build answers).host.app.canOpenStack)
      (state.locked answers)
      { state with
        node := if state.teardown answers then
            Initialising.deinitExtensions build (state.beginCleanup build answers)
          else state.beginCleanup build answers }
  rw [cleanup_eq_finish, hfinish]
  clear hfinish
  dsimp only at hrest ⊢
  by_cases hcount : state.node.host.app.count = 0
  · have hnone : state.node.host.registered = [] := by
      unfold Host.registered
      rw [hcount]
      rfl
    rw [teardown_of_taken htake, decide_eq_false (not_not_intro hcount),
      if_neg Bool.false_ne_true, beginCleanup_eq]
    dsimp only
    rw [List.append_assoc, List.append_assoc, List.append_assoc]
    refine ⟨_, rfl, fun slot hslot => ?_⟩
    rw [hnone] at hslot
    cases hslot
  · rw [teardown_of_taken htake, decide_eq_true hcount, if_pos rfl] at hrest ⊢
    obtain ⟨canNormal, hdeinit⟩ := @deinitExtensions_eq build
      (state.beginCleanup build answers) (h.beginCleanup htake).coherent.valid
      (h.beginCleanup htake).coherent.device
    rw [hdeinit] at hrest ⊢
    clear hdeinit
    dsimp only at hrest ⊢
    rw [beginCleanup_eq]
    dsimp only
    simp only [List.append_assoc]
    refine ⟨_, rfl, fun slot hslot => ?_⟩
    -- The reports are those of the failed state, whatever was logged since.
    generalize state.node.trace ++ _ = trace
    have hwakeup := @filter_notices build state.node hvalid .resetWakeups (·.runtimeInitialized)
      slot hslot
    have hstop := @filter_notices build { state.node with trace := trace } hvalid
      .communicationStop (·.communicationBound) slot hslot
    have hquiesce := @filter_calls build { state.node with trace := trace } hvalid
      (fun other => if other.communicationBound then other.quiesceCalls build.setup else [])
      about_quiesce slot hslot
    have hdeinit := @filter_calls build { state.node with trace := trace } hvalid
      (fun other => other.deinitCalls build.setup other.deinitRequired) about_deinit slot hslot
    unfold Node.wakeupEvents Node.stopEvents Node.quiesceEvents Node.deinitEvents Node.workerEvents
    simp only [List.filter_append, hwakeup, filter_plain hrest, List.append_nil]
    rw [hstop, hquiesce, hdeinit, filter_if, filter_if, filter_if, filter_if, filter_if]
    unfold Node.teardown
    simp only [Event.concerns, Bool.and_false, Bool.and_true, Bool.false_eq_true, if_false,
      List.nil_append, List.append_assoc]
    rfl

/-! ## What is left -/

/-- A slot that nothing has happened to. -/
def Slot.IsFresh (slot : Slot) : Prop := slot = Slot.fresh slot.ops slot.context slot.release

theorem eq_of_identities {slots others : List Slot} (hslots : ∀ slot ∈ slots, slot.IsFresh)
    (hothers : ∀ slot ∈ others, slot.IsFresh)
    (h : slots.map Slot.identity = others.map Slot.identity) : slots = others := by
  have hrebuild : ∀ list : List Slot, (∀ slot ∈ list, slot.IsFresh) →
      (list.map Slot.identity).map
        (fun identity => Slot.fresh identity.1.ops identity.1.context identity.2) = list := by
    intro list hlist
    rw [List.map_map]
    conv_rhs => rw [← List.map_id list]
    exact List.map_congr_left fun slot hslot => (hlist slot hslot).symm
  rw [← hrebuild slots hslots, h, hrebuild others hothers]

theorem fresh_runtimeDeinit {setup : Setup} {host : Host} (hvalid : host.Valid setup)
    (hfree : ∀ slot ∈ host.registered, slot.communicationBound = false) :
    ∀ slot ∈ (host.runtimeDeinit setup).registered, slot.IsFresh := by
  intro slot hslot
  rw [(Observed.runtimeDeinit_leaves hvalid hfree).1] at hslot
  obtain ⟨before, -, rfl⟩ := List.mem_map.mp hslot
  rfl

theorem free_communicationQuiesced {setup : Setup} {host : Host} :
    ∀ slot ∈ (host.communicationQuiesced setup).registered, slot.communicationBound = false := by
  intro slot hslot
  rw [(Host.communicationQuiesced_spec setup host).1] at hslot
  obtain ⟨before, -, rfl⟩ := List.mem_map.mp hslot
  rfl

theorem fresh_cleanup {base : List Event} {slots : List (Key × Option Nat)}
    (h : Lawful build base slots false false state) (htake : answers.mutexTake = .ok) :
    ∀ slot ∈ (state.cleanup build answers).host.registered, slot.IsFresh := by
  have hbegin := h.beginCleanup htake
  obtain ⟨canDevice, canNormal, mainlineInitialized, rest, hfinish, -⟩ :=
    finish_eq (state.teardown answers && (state.beginCleanup build answers).host.app.canOpenStack)
      (state.locked answers)
      { state with
        node := if state.teardown answers then
            Initialising.deinitExtensions build (state.beginCleanup build answers)
          else state.beginCleanup build answers }
  rw [cleanup_eq_finish, hfinish]
  clear hfinish
  rw [teardown_of_taken htake]
  by_cases hcount : state.node.host.app.count = 0
  · rw [decide_eq_false (not_not_intro hcount), if_neg Bool.false_ne_true, beginCleanup_eq]
    intro slot hslot
    unfold Host.registered at hslot
    dsimp only at hslot
    rw [hcount] at hslot
    cases hslot
  · obtain ⟨canNormal, hdeinit⟩ := @deinitExtensions_eq build
      (state.beginCleanup build answers) hbegin.coherent.valid hbegin.coherent.device
    rw [decide_eq_true hcount, if_pos rfl, hdeinit]
    exact fresh_runtimeDeinit (valid_communicationQuiesced hbegin.coherent.valid)
      free_communicationQuiesced

theorem Lawful.startable {base : List Event} {slots : List (Key × Option Nat)}
    (h : Lawful build base slots false true { node := node })
    (hholds : ∀ resource, ({ node := node } : Initialising).holds resource = false)
    (hfresh : ∀ slot ∈ node.host.registered, slot.IsFresh) : node.Startable build where
  valid := h.coherent.valid
  fresh := hfresh
  mainThread := hholds .mainThread
  rtThread := hholds .rtThread
  rtTimer := hholds .rtTimer
  canOpenStack := by
    have hstack := hholds (.stack node.generation)
    unfold Initialising.holds Node.stack at hstack
    dsimp only at hstack
    cases hopen : node.host.app.canOpenStack with
    | false => rfl
    | true =>
        rw [hopen] at hstack
        simp at hstack
  workerSem := hholds .sharedWorkerSem
  workerThread := hholds .sharedWorkerThread
  mainline := h.coherent.mainline.symm
  device := hholds .canModule

end

end CanopenRtt.Lifecycle
