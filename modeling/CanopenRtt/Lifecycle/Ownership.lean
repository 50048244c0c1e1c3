import CanopenRtt.Lifecycle.AutoAttach
/-!
# Ownership of lifecycle slots over whole runs

Operations arrive in any order, except that a stack exists from before a bind
until its quiesce and that the final teardown follows a quiesce. An observer
keeps which slots are owed a deinitialisation, from the callbacks it sees.
-/

namespace CanopenRtt.Lifecycle

open CanopenRtt.Support Host

inductive Operation where
  | factoryRegister (factory : Option Factory)
  | register (ops context : Option Nat)
  | registerEx (ops context release : Option Nat)
  | autoAttachAll (answers : Nat → Attach)
  | bindCommunication (present : Bool) (answers : Key → RtErr)
  | communicationQuiesced
  | runtimeInit (answers : Key → RtErr) (worker : RtErr)
  | runtimeStart (answers : Key → RtErr) (worker : RtErr)
  | runtimeDeinit
  /-- The application creates or deletes its stack. -/
  | setStack (present : Bool)
  /-- The application creates or deletes its threads and its timer. -/
  | setRuntime (mainThread rtThread rtTimer : Bool)

def Host.perform (setup : Setup) (host : Host) : Operation → Host × RtErr
  | .factoryRegister factory => host.factoryRegister setup factory
  | .register ops context => host.register setup ops context
  | .registerEx ops context release => host.registerEx setup ops context release
  | .autoAttachAll answers => host.autoAttachAll setup answers
  | .bindCommunication present answers => host.bindCommunication setup present answers
  | .communicationQuiesced => (host.communicationQuiesced setup, .ok)
  | .runtimeInit answers worker => host.runtimeInit setup answers worker
  | .runtimeStart answers worker => host.runtimeStart setup answers worker
  | .runtimeDeinit => (host.runtimeDeinit setup, .ok)
  | .setStack present => ({ host with app := { host.app with canOpenStack := present } }, .ok)
  | .setRuntime mainThread rtThread rtTimer =>
      ({ host with
          app := { host.app with
            mainThread := mainThread
            rtThread := rtThread
            rtTimer := rtTimer } }, .ok)

/-- The registry with what an observer of its callbacks knows. -/
structure Observed where
  host : Host := {}
  /-- A bind has succeeded since the last quiesce. -/
  bound : Bool := false
  /-- Since the last teardown the slot was bound by its callback or passed by `runtimeInit`. -/
  owed : Key → Bool := fun _ => false

namespace Observed

/-- The callbacks of the last operation. -/
def newCalls (before after : Host) : List Call := after.log.drop before.log.length

def step (setup : Setup) (observed : Observed) (operation : Operation) : Observed :=
  let result := observed.host.perform setup operation
  match operation with
  | .bindCommunication _ _ =>
      { host := result.1
        bound := observed.bound || result.2 = .ok
        owed := fun key => observed.owed key ||
          (newCalls observed.host result.1).contains (.communicationBind key .ok) }
  | .communicationQuiesced => { observed with host := result.1, bound := false }
  | .runtimeInit answers _ =>
      { observed with
        host := result.1
        owed := fun key => observed.owed key ||
          ((observed.host.passed setup answers .runtimeInit).map Slot.key).contains key }
  | .runtimeDeinit => { observed with host := result.1, owed := fun _ => false }
  | _ => { observed with host := result.1 }

/-- As `CO_app_RTT.c` does: a stack exists from before each bind until after its
quiesce, and the final teardown follows a quiesce. -/
def Permitted (observed : Observed) : Operation → Prop
  | .bindCommunication _ _ => observed.host.app.canOpenStack = true
  | .setStack present => present = true ∨ observed.bound = false
  | .runtimeDeinit => observed.bound = false
  | _ => True

/-- What one state promises. -/
structure Law (setup : Setup) (observed : Observed) : Prop where
  allOrNone : (∀ slot ∈ observed.host.registered, slot.communicationBound = true) ∨
    ∀ slot ∈ observed.host.registered, slot.communicationBound = false
  distinct : (observed.host.registered.map Slot.key).Nodup
  /-- A failing bind quiesces what it had bound, in reverse order. -/
  bindFailed : ∀ present answers,
    (observed.host.bindCommunication setup present answers).2 ≠ .ok →
      (observed.host.bindCommunication setup present answers).1 = observed.host ∨
      ∃ done failing rest ret,
        observed.host.registered = done ++ failing :: rest ∧ ret ≠ .ok ∧
        (observed.host.bindCommunication setup present answers).1.log =
          observed.host.log ++ done.flatMap (Slot.bindCalls setup) ++
            [.communicationBind failing.key ret] ++
              done.reverse.flatMap (Slot.quiesceCalls setup) ∧
        ∀ slot ∈ (observed.host.bindCommunication setup present answers).1.registered,
          slot.communicationBound = false
  /-- An auto attach is a transaction. -/
  attach : ∀ answers,
    AttachResult setup observed.host (observed.host.autoAttachAll setup answers)
  /-- The final teardown, in reverse order: what is owed, then the release. -/
  deinitCalls : observed.bound = false →
    (observed.host.runtimeDeinit setup).log = observed.host.log ++
      observed.host.registered.reverse.flatMap
        (fun slot => slot.deinitCalls setup (observed.owed slot.key))
  /-- It leaves the caller-owned slots as if they had just been registered. -/
  deinitLeaves : observed.bound = false →
    (observed.host.runtimeDeinit setup).registered =
        (observed.host.registered.filter fun slot => slot.release.isNone).map
          (fun slot => Slot.fresh slot.ops slot.context none) ∧
      (observed.host.runtimeDeinit setup).Valid setup

/-- The observer agrees with the flags of the slots. -/
structure Agrees (setup : Setup) (observed : Observed) : Prop where
  valid : observed.host.Valid setup
  owed : ∀ slot ∈ observed.host.registered, slot.deinitRequired = observed.owed slot.key
  unknown : ∀ key, key ∉ observed.host.registered.map Slot.key → observed.owed key = false
  free : observed.bound = false →
    ∀ slot ∈ observed.host.registered, slot.communicationBound = false
  bound : observed.bound = true → observed.host.app.canOpenStack = true ∧
    ∀ slot ∈ observed.host.registered, slot.communicationBound = true

/-! ### What the teardown leaves -/

theorem runtimeDeinit_leaves {setup : Setup} {host : Host} (hvalid : host.Valid setup)
    (hfree : ∀ slot ∈ host.registered, slot.communicationBound = false) :
    (host.runtimeDeinit setup).registered =
        (host.registered.filter fun slot => slot.release.isNone).map
          (fun slot => Slot.fresh slot.ops slot.context none) ∧
      (host.runtimeDeinit setup).Valid setup := by
  obtain ⟨hregistered, -, htail, -⟩ := runtimeDeinit_spec setup hvalid.ops hvalid.tail
  have hretire : (host.registered.filter fun slot => slot.release.isNone).map Slot.retire =
      (host.registered.filter fun slot => slot.release.isNone).map
        (fun slot => Slot.fresh slot.ops slot.context none) := by
    apply List.map_congr_left
    intro slot hslot
    obtain ⟨hmem, hnone⟩ := List.mem_filter.mp hslot
    have hrelease : slot.release = none := Option.isNone_iff_eq_none.mp hnone
    have hbound := hfree slot hmem
    unfold Slot.retire Slot.fresh
    rw [hrelease, hbound]
    rfl
  have hkeys : (host.runtimeDeinit setup).registered.map Slot.key =
      (host.registered.filter fun slot => slot.release.isNone).map Slot.key := by
    rw [hregistered, hretire, List.map_map]
    rfl
  refine ⟨hregistered.trans hretire, ⟨?_, htail, ?_, ?_⟩⟩
  · rw [← length_registered, hregistered, List.length_map]
    have hle := List.length_filter_le (fun slot : Slot => slot.release.isNone) host.registered
    rw [length_registered] at hle
    exact hle.trans hvalid.capacity
  · intro slot hslot
    rw [hregistered, hretire] at hslot
    obtain ⟨before, hbefore, rfl⟩ := List.mem_map.mp hslot
    exact hvalid.ops before (List.mem_filter.mp hbefore).1
  · rw [hkeys]
    exact hvalid.nodup.sublist (List.filter_sublist.map _)

theorem law_of_agrees {setup : Setup} {observed : Observed} (h : observed.Agrees setup) :
    observed.Law setup where
  allOrNone := by
    cases hbound : observed.bound with
    | true => exact Or.inl (h.bound hbound).2
    | false => exact Or.inr (h.free hbound)
  distinct := h.valid.nodup
  bindFailed := by
    intro present answers hret
    cases present with
    | false => exact Or.inl rfl
    | true =>
        rcases Nat.eq_zero_or_pos observed.host.app.count with hnone | hsome
        · have hempty : observed.host.registered = [] := by
            rw [registered, hnone]
            rfl
          obtain ⟨hresult, -⟩ := @bindCommunication_free setup answers observed.host
            (by rw [hempty]; simp)
          generalize observed.host.bindCommunication setup true answers = result at hret hresult
          cases hresult with
          | bound after hslots hlog => exact absurd rfl hret
          | failed after done rest failing ret hsplit =>
              rw [hempty] at hsplit
              simp at hsplit
        · cases hbound : observed.bound with
          | true =>
              have hfirst := (h.bound hbound).2 _ (getElem_mem_cells hsome)
              exact Or.inl (congrArg Prod.fst (bindCommunication_busy hsome hfirst))
          | false =>
              obtain ⟨hresult, -⟩ := @bindCommunication_free setup answers observed.host
                (h.free hbound)
              generalize observed.host.bindCommunication setup true answers = result
                at hret hresult ⊢
              cases hresult with
              | bound after hslots hlog => exact absurd rfl hret
              | failed after done rest failing ret hsplit hbad hslots hlog =>
                  refine Or.inr ⟨done, failing, rest, ret, hsplit, hbad, hlog, ?_⟩
                  intro slot hslot
                  rw [hslots] at hslot
                  rcases List.mem_append.mp hslot with hdone | hrest
                  · obtain ⟨before, -, rfl⟩ := List.mem_map.mp hdone
                    rfl
                  · apply h.free hbound
                    rw [hsplit]
                    exact List.mem_append_right _ hrest
  attach := fun answers => autoAttachAll_result answers h.valid
  deinitCalls := by
    intro _
    rw [(runtimeDeinit_spec setup h.valid.ops h.valid.tail).2.1]
    congr 1
    apply List.flatMap_congr
    intro slot hslot
    rw [h.owed slot (List.mem_reverse.mp hslot)]
  deinitLeaves := fun hbound => runtimeDeinit_leaves h.valid (h.free hbound)

/-- A successful bind callback among the calls of some slots. -/
theorem contains_bindCalls (setup : Setup) (slots : List Slot) (key : Key) :
    (slots.flatMap (Slot.bindCalls setup)).contains (.communicationBind key .ok) = true ↔
      ∃ slot ∈ slots, setup.has slot .communicationBind = true ∧ slot.key = key := by
  rw [List.contains_iff_mem, List.mem_flatMap]
  constructor
  · rintro ⟨slot, hslot, hcall⟩
    unfold Slot.bindCalls at hcall
    split at hcall
    case isTrue hhas =>
        refine ⟨slot, hslot, hhas, ?_⟩
        have heq := List.mem_singleton.mp hcall
        exact (Call.communicationBind.inj heq).1.symm
    case isFalse => exact absurd hcall List.not_mem_nil
  · rintro ⟨slot, hslot, hhas, rfl⟩
    refine ⟨slot, hslot, ?_⟩
    unfold Slot.bindCalls
    rw [if_pos hhas]
    exact List.mem_singleton.mpr rfl

/-- Callback tables belong to the identity of a slot. -/
theorem has_of_key {setup : Setup} {slot other : Slot} (hkey : slot.key = other.key)
    (hook : Hook) : setup.has slot hook = setup.has other hook := by
  have hops : slot.ops = other.ops := congrArg Key.ops hkey
  unfold Setup.has
  rw [hops]

/-! ### One operation -/

section Steps

variable {setup : Setup} {observed : Observed} (h : observed.Agrees setup)

include h

theorem agrees_of_slots {host : Host} (hslots : host.app.slots = observed.host.app.slots)
    (hcount : host.app.count = observed.host.app.count)
    (hstack : observed.bound = true → host.app.canOpenStack = true) :
    { observed with host := host }.Agrees setup := by
  have hregistered : host.registered = observed.host.registered := by
    unfold registered
    rw [hslots, hcount]
  constructor
  · exact h.valid.of_slots hslots hcount
  · rw [hregistered]
    exact h.owed
  · rw [hregistered]
    exact h.unknown
  · rw [hregistered]
    exact h.free
  · intro hbound
    refine ⟨hstack hbound, ?_⟩
    rw [hregistered]
    exact (h.bound hbound).2

/-- Fresh slots were appended while nothing was bound. -/
theorem agrees_of_append {host : Host} {added : List Slot} (hbound : observed.bound = false)
    (hvalid : host.Valid setup) (hslots : host.registered = observed.host.registered ++ added)
    (hadded : ∀ slot ∈ added, slot.communicationBound = false ∧ slot.deinitRequired = false) :
    { observed with host := host }.Agrees setup := by
  have hnodup := hvalid.nodup
  rw [hslots, List.map_append, List.nodup_append] at hnodup
  constructor
  · exact hvalid
  · intro slot hslot
    dsimp only at hslot ⊢
    rw [hslots] at hslot
    rcases List.mem_append.mp hslot with hold | hnew
    · exact h.owed slot hold
    · rw [(hadded slot hnew).2]
      refine (h.unknown _ fun hmem => ?_).symm
      exact hnodup.2.2 _ hmem _ (List.mem_map_of_mem hnew) rfl
  · intro key hkey
    apply h.unknown
    intro hmem
    apply hkey
    rw [hslots, List.map_append]
    exact List.mem_append_left _ hmem
  · intro _ slot hslot
    dsimp only at hslot
    rw [hslots] at hslot
    rcases List.mem_append.mp hslot with hold | hnew
    · exact h.free hbound slot hold
    · exact (hadded slot hnew).1
  · intro htrue
    dsimp only at htrue
    rw [hbound] at htrue
    cases htrue

theorem started_of_bound (hbound : observed.bound = true) : observed.host.started = true := by
  rw [started, (h.bound hbound).1, Bool.or_true]

theorem registerEx_agrees (ops context release : Option Nat) :
    { observed with
      host := (observed.host.registerEx setup ops context release).1 }.Agrees setup := by
  rcases registerEx_cases h.valid ops context release with
    ⟨hsame, -⟩ | ⟨hidle, -, hregistered, hvalid, -⟩
  · rw [hsame]
    exact h
  · have hbound : observed.bound = false := by
      by_contra hbound
      rw [started_of_bound h (eq_true_of_ne_false hbound)] at hidle
      cases hidle
    apply agrees_of_append h hbound hvalid hregistered
    intro slot hslot
    rw [List.mem_singleton.mp hslot]
    exact ⟨rfl, rfl⟩

theorem autoAttachAll_agrees (answers : Nat → Attach) :
    { observed with host := (observed.host.autoAttachAll setup answers).1 }.Agrees setup := by
  have hresult := autoAttachAll_result answers h.valid
  by_cases hbound : observed.bound = true
  · have hbusy : (observed.host.autoAttachAll setup answers).1 = observed.host := by
      unfold autoAttachAll
      split
      · rfl
      · rw [if_pos (started_of_bound h hbound)]
    rw [hbusy]
    exact h
  · rw [Bool.not_eq_true] at hbound
    have hfresh : ∀ slot : Slot, Attached slot →
        slot.communicationBound = false ∧ slot.deinitRequired = false := by
      rintro slot ⟨ops, context, release, -, rfl⟩
      exact ⟨rfl, rfl⟩
    generalize observed.host.autoAttachAll setup answers = result at hresult ⊢
    cases hresult with
    | attached after factories added hvalid hslots hadded =>
        exact agrees_of_append h hbound hvalid hslots
          fun slot hslot => hfresh slot (hadded slot hslot)
    | refused after ret factories added hret hvalid hslots =>
        exact agrees_of_append h hbound hvalid (hslots.trans (List.append_nil _).symm)
          fun slot hslot => absurd hslot List.not_mem_nil

theorem communicationQuiesced_agrees :
    { observed with host := observed.host.communicationQuiesced setup, bound := false }.Agrees
      setup := by
  obtain ⟨hregistered, htail, hframe⟩ := communicationQuiesced_spec setup observed.host
  have hkeys : (observed.host.communicationQuiesced setup).registered.map Slot.key =
      observed.host.registered.map Slot.key := by
    rw [hregistered, List.map_map]
    rfl
  constructor
  · exact h.valid.of_keys (count_of_frame hframe) hkeys htail
  · intro slot hslot
    dsimp only at hslot ⊢
    rw [hregistered] at hslot
    obtain ⟨before, hbefore, rfl⟩ := List.mem_map.mp hslot
    exact h.owed before hbefore
  · intro key hkey
    dsimp only at hkey
    rw [hkeys] at hkey
    exact h.unknown key hkey
  · intro _ slot hslot
    dsimp only at hslot
    rw [hregistered] at hslot
    obtain ⟨before, -, rfl⟩ := List.mem_map.mp hslot
    rfl
  · exact fun hfalse => nomatch hfalse

/-- A member of the first part of a registry is not in the second. -/
theorem key_ne_of_split {first second : List Slot}
    (hsplit : observed.host.registered = first ++ second) {slot other : Slot}
    (hfirst : slot ∈ first) (hsecond : other ∈ second) : slot.key ≠ other.key := by
  have hnodup := h.valid.nodup
  rw [hsplit, List.map_append, List.nodup_append] at hnodup
  exact hnodup.2.2 _ (List.mem_map_of_mem hfirst) _ (List.mem_map_of_mem hsecond)

theorem runtimeInit_agrees (answers : Key → RtErr) (worker : RtErr) :
    (observed.step setup (.runtimeInit answers worker)).Agrees setup := by
  obtain ⟨hregistered, htail, hframe⟩ := runtimeInit_spec setup answers worker observed.host
  have hsplit : observed.host.passed setup answers .runtimeInit ++
      observed.host.registered.drop (observed.host.passed setup answers .runtimeInit).length =
        observed.host.registered :=
    List.prefix_iff_eq_append.mp (List.takeWhile_prefix _)
  change ({ observed with
    host := (observed.host.runtimeInit setup answers worker).1
    owed := fun key => observed.owed key ||
      ((observed.host.passed setup answers .runtimeInit).map Slot.key).contains key } :
        Observed).Agrees setup
  generalize (observed.host.runtimeInit setup answers worker).1 = after
    at hregistered htail hframe ⊢
  generalize observed.host.passed setup answers .runtimeInit = done at hregistered hsplit ⊢
  generalize observed.host.registered.drop done.length = rest at hregistered hsplit
  have hkeys : after.registered.map Slot.key = observed.host.registered.map Slot.key := by
    rw [hregistered, ← hsplit, List.map_append, List.map_append, List.map_map]
    rfl
  have hbound : ∀ slot ∈ after.registered, ∃ before ∈ observed.host.registered,
      slot.communicationBound = before.communicationBound := by
    intro slot hslot
    rw [hregistered] at hslot
    rw [← hsplit]
    rcases List.mem_append.mp hslot with hdone | hrest
    · obtain ⟨before, hbefore, rfl⟩ := List.mem_map.mp hdone
      exact ⟨before, List.mem_append_left _ hbefore, rfl⟩
    · exact ⟨slot, List.mem_append_right _ hrest, rfl⟩
  constructor
  · exact h.valid.of_keys (count_of_frame hframe) hkeys htail
  · intro slot hslot
    dsimp only at hslot ⊢
    rw [hregistered] at hslot
    rcases List.mem_append.mp hslot with hdone | hrest
    · obtain ⟨before, hbefore, rfl⟩ := List.mem_map.mp hdone
      have hpassed : (done.map Slot.key).contains before.key = true :=
        List.contains_iff_mem.mpr (List.mem_map_of_mem hbefore)
      rw [Slot.key_initialized, hpassed, Bool.or_true]
      rfl
    · have hnot : (done.map Slot.key).contains slot.key = false := by
        rw [← Bool.not_eq_true, List.contains_iff_mem, List.mem_map]
        rintro ⟨before, hbefore, hkey⟩
        exact key_ne_of_split h hsplit.symm hbefore hrest hkey
      rw [hnot, Bool.or_false]
      exact h.owed slot (by rw [← hsplit]; exact List.mem_append_right _ hrest)
  · intro key hkey
    dsimp only at hkey ⊢
    rw [hkeys] at hkey
    have hnot : (done.map Slot.key).contains key = false := by
      rw [← Bool.not_eq_true, List.contains_iff_mem]
      intro hmem
      apply hkey
      rw [← hsplit, List.map_append]
      exact List.mem_append_left _ hmem
    rw [hnot, Bool.or_false]
    exact h.unknown key hkey
  · intro hfree slot hslot
    obtain ⟨before, hbefore, heq⟩ := hbound slot hslot
    exact heq.trans (h.free hfree before hbefore)
  · intro hopen
    refine ⟨(canOpenStack_of_frame hframe).trans (h.bound hopen).1, ?_⟩
    intro slot hslot
    obtain ⟨before, hbefore, heq⟩ := hbound slot hslot
    exact heq.trans ((h.bound hopen).2 before hbefore)

/-! ### Binding -/

/-- The observer after a bind with a given outcome. -/
def afterBind (observed : Observed) (result : Host × RtErr) : Observed where
  host := result.1
  bound := observed.bound || result.2 = .ok
  owed := fun key => observed.owed key ||
    (newCalls observed.host result.1).contains (.communicationBind key .ok)

theorem agrees_of_refused {ret : RtErr} (hret : ret ≠ .ok) :
    (observed.afterBind (observed.host, ret)).Agrees setup := by
  have hsame : observed.afterBind (observed.host, ret) = observed := by
    simp [afterBind, newCalls, hret]
  rw [hsame]
  exact h

theorem agrees_of_bound {after : Host} (hstack : after.app.canOpenStack = true)
    (hvalid : after.Valid setup)
    (hslots : after.registered = observed.host.registered.map (Slot.bind setup))
    (hlog : after.log = observed.host.log ++
      observed.host.registered.flatMap (Slot.bindCalls setup)) :
    (observed.afterBind (after, .ok)).Agrees setup := by
  have hcalls : newCalls observed.host after =
      observed.host.registered.flatMap (Slot.bindCalls setup) := by
    rw [newCalls, hlog, List.drop_left]
  have hkeys : after.registered.map Slot.key = observed.host.registered.map Slot.key := by
    rw [hslots, List.map_map]
    rfl
  unfold afterBind
  dsimp only
  rw [hcalls]
  constructor
  · exact hvalid
  · intro slot hslot
    dsimp only at hslot ⊢
    rw [hslots] at hslot
    obtain ⟨before, hbefore, rfl⟩ := List.mem_map.mp hslot
    have hcontains : (observed.host.registered.flatMap (Slot.bindCalls setup)).contains
        (.communicationBind before.key .ok) = setup.has before .communicationBind := by
      rw [Bool.eq_iff_iff, contains_bindCalls]
      constructor
      · rintro ⟨other, -, hhas, hkey⟩
        rwa [has_of_key hkey] at hhas
      · exact fun hhas => ⟨before, hbefore, hhas, rfl⟩
    rw [Slot.key_bind, hcontains, ← h.owed before hbefore]
    rfl
  · intro key hkey
    dsimp only at hkey ⊢
    rw [hkeys] at hkey
    have hnot : (observed.host.registered.flatMap (Slot.bindCalls setup)).contains
        (.communicationBind key .ok) = false := by
      rw [← Bool.not_eq_true, contains_bindCalls]
      rintro ⟨slot, hslot, -, rfl⟩
      exact hkey (List.mem_map_of_mem hslot)
    rw [hnot, Bool.or_false]
    exact h.unknown key hkey
  · intro hfalse
    simp at hfalse
  · intro _
    refine ⟨hstack, ?_⟩
    intro slot hslot
    dsimp only at hslot
    rw [hslots] at hslot
    obtain ⟨before, -, rfl⟩ := List.mem_map.mp hslot
    rfl

theorem agrees_of_failed {after : Host} {done rest : List Slot} {failing : Slot} {ret : RtErr}
    (hbound : observed.bound = false) (hret : ret ≠ .ok) (hvalid : after.Valid setup)
    (hsplit : observed.host.registered = done ++ failing :: rest)
    (hslots : after.registered =
      done.map (fun slot => (slot.bind setup).unbind) ++ failing :: rest)
    (hlog : after.log = observed.host.log ++ done.flatMap (Slot.bindCalls setup) ++
      [.communicationBind failing.key ret] ++ done.reverse.flatMap (Slot.quiesceCalls setup)) :
    (observed.afterBind (after, ret)).Agrees setup := by
  have hcalls : newCalls observed.host after = done.flatMap (Slot.bindCalls setup) ++
      [.communicationBind failing.key ret] ++ done.reverse.flatMap (Slot.quiesceCalls setup) := by
    rw [newCalls, hlog, List.append_assoc, List.append_assoc, List.drop_left, ← List.append_assoc]
  have hkeys : after.registered.map Slot.key = observed.host.registered.map Slot.key := by
    rw [hslots, hsplit, List.map_append, List.map_append, List.map_map]
    rfl
  -- Only the callbacks of the slots before the failing one have succeeded.
  have hcontains : ∀ key, (newCalls observed.host after).contains (.communicationBind key .ok) =
      (done.flatMap (Slot.bindCalls setup)).contains (.communicationBind key .ok) := by
    intro key
    have hquiesce : (Call.communicationBind key .ok) ∉
        done.reverse.flatMap (Slot.quiesceCalls setup) := by
      rw [List.mem_flatMap]
      rintro ⟨slot, -, hcall⟩
      unfold Slot.quiesceCalls at hcall
      split at hcall
      · exact Call.noConfusion (List.mem_singleton.mp hcall)
      · exact absurd hcall List.not_mem_nil
    have hfailing : (Call.communicationBind key .ok) ∉
        [Call.communicationBind failing.key ret] := by
      rw [List.mem_singleton]
      exact fun heq => hret (Call.communicationBind.inj heq).2.symm
    rw [hcalls, Bool.eq_iff_iff, List.contains_iff_mem, List.contains_iff_mem, List.mem_append,
      List.mem_append]
    tauto
  have hafterBound : (observed.bound || decide (ret = .ok)) = false := by
    rw [hbound, decide_eq_false hret]
    rfl
  unfold afterBind
  dsimp only
  rw [hafterBound]
  constructor
  · exact hvalid
  · intro slot hslot
    dsimp only at hslot ⊢
    rw [hslots] at hslot
    rw [hcontains]
    rcases List.mem_append.mp hslot with hdone | hrest
    · obtain ⟨before, hbefore, rfl⟩ := List.mem_map.mp hdone
      have hhas : (done.flatMap (Slot.bindCalls setup)).contains
          (.communicationBind before.key .ok) = setup.has before .communicationBind := by
        rw [Bool.eq_iff_iff, contains_bindCalls]
        constructor
        · rintro ⟨other, -, hhas, hkey⟩
          rwa [has_of_key hkey] at hhas
        · exact fun hhas => ⟨before, hbefore, hhas, rfl⟩
      have howed := h.owed before (by rw [hsplit]; exact List.mem_append_left _ hbefore)
      rw [Slot.key_unbind, Slot.key_bind, hhas, ← howed]
      rfl
    · have hnot : (done.flatMap (Slot.bindCalls setup)).contains
          (.communicationBind slot.key .ok) = false := by
        rw [← Bool.not_eq_true, contains_bindCalls]
        rintro ⟨before, hbefore, -, hkey⟩
        exact key_ne_of_split h hsplit hbefore hrest hkey
      rw [hnot, Bool.or_false]
      exact h.owed slot (by rw [hsplit]; exact List.mem_append_right _ hrest)
  · intro key hkey
    dsimp only at hkey ⊢
    rw [hkeys] at hkey
    have hnot : (done.flatMap (Slot.bindCalls setup)).contains
        (.communicationBind key .ok) = false := by
      rw [← Bool.not_eq_true, contains_bindCalls]
      rintro ⟨slot, hslot, -, rfl⟩
      apply hkey
      rw [hsplit]
      exact List.mem_map_of_mem (List.mem_append_left _ hslot)
    rw [hcontains, hnot, Bool.or_false]
    exact h.unknown key hkey
  · intro _ slot hslot
    dsimp only at hslot
    rw [hslots] at hslot
    rcases List.mem_append.mp hslot with hdone | hrest
    · obtain ⟨before, -, rfl⟩ := List.mem_map.mp hdone
      rfl
    · exact h.free hbound slot (by rw [hsplit]; exact List.mem_append_right _ hrest)
  · exact fun hfalse => nomatch hfalse

theorem bindCommunication_agrees (present : Bool) (answers : Key → RtErr)
    (hstack : observed.host.app.canOpenStack = true) :
    (observed.afterBind (observed.host.bindCommunication setup present answers)).Agrees setup := by
  have hresult : (∀ slot ∈ observed.host.registered, slot.communicationBound = false) →
      (observed.bound = true → observed.host.registered = []) →
      (observed.afterBind (observed.host.bindCommunication setup true answers)).Agrees setup := by
    intro hfree hempty
    obtain ⟨hresult, htail, hframe⟩ := @bindCommunication_free setup answers observed.host hfree
    generalize observed.host.bindCommunication setup true answers = result
      at hresult htail hframe ⊢
    have hvalid : result.1.registered.map Slot.key = observed.host.registered.map Slot.key →
        result.1.Valid setup :=
      fun hkeys => h.valid.of_keys (count_of_frame hframe) hkeys htail
    cases hresult with
    | bound after hslots hlog =>
        refine agrees_of_bound h ((canOpenStack_of_frame hframe).trans hstack)
          (hvalid ?_) hslots hlog
        dsimp only
        rw [hslots, List.map_map]
        rfl
    | failed after done rest failing ret hsplit hret hslots hlog =>
        have hbound : observed.bound = false := by
          by_contra hbound
          rw [hempty (eq_true_of_ne_false hbound)] at hsplit
          simp at hsplit
        refine agrees_of_failed h hbound hret (hvalid ?_) hsplit hslots hlog
        dsimp only
        rw [hslots, hsplit, List.map_append, List.map_append, List.map_map]
        rfl
  cases present with
  | false => exact agrees_of_refused h (by simp)
  | true =>
      by_cases hbound : observed.bound = true
      · rcases Nat.eq_zero_or_pos observed.host.app.count with hnone | hsome
        · have hempty : observed.host.registered = [] := by
            rw [registered, hnone]
            rfl
          exact hresult (by rw [hempty]; simp) (fun _ => hempty)
        · have hfirst := (h.bound hbound).2 _ (getElem_mem_cells hsome)
          rw [bindCommunication_busy hsome hfirst]
          exact agrees_of_refused h (by simp)
      · exact hresult (h.free (eq_false_of_ne_true hbound)) (fun htrue => absurd htrue hbound)

theorem runtimeDeinit_agrees (hbound : observed.bound = false) :
    (observed.step setup .runtimeDeinit).Agrees setup := by
  obtain ⟨hregistered, hvalid⟩ := runtimeDeinit_leaves h.valid (h.free hbound)
  have hfresh : ∀ slot ∈ (observed.host.runtimeDeinit setup).registered,
      slot.communicationBound = false ∧ slot.deinitRequired = false := by
    intro slot hslot
    rw [hregistered] at hslot
    obtain ⟨before, -, rfl⟩ := List.mem_map.mp hslot
    exact ⟨rfl, rfl⟩
  refine ⟨hvalid, fun slot hslot => (hfresh slot hslot).2, fun _ _ => rfl,
    fun _ slot hslot => (hfresh slot hslot).1, ?_⟩
  intro htrue
  exact absurd (hbound.symm.trans htrue) Bool.false_ne_true

theorem step_agrees {operation : Operation} (hpermitted : observed.Permitted operation) :
    (observed.step setup operation).Agrees setup := by
  cases operation with
  | factoryRegister factory =>
      obtain ⟨happ, -, -⟩ := factoryRegister_kept setup observed.host factory
      exact agrees_of_slots h (congrArg App.slots happ) (congrArg App.count happ)
        fun hbound => (congrArg App.canOpenStack happ).trans (h.bound hbound).1
  | register ops context => exact registerEx_agrees h ops context none
  | registerEx ops context release => exact registerEx_agrees h ops context release
  | autoAttachAll answers => exact autoAttachAll_agrees h answers
  | bindCommunication present answers => exact bindCommunication_agrees h present answers hpermitted
  | communicationQuiesced => exact communicationQuiesced_agrees h
  | runtimeInit answers worker => exact runtimeInit_agrees h answers worker
  | runtimeStart answers worker =>
      obtain ⟨happ, -⟩ := runtimeStart_app setup answers worker observed.host
      exact agrees_of_slots h (congrArg App.slots happ) (congrArg App.count happ)
        fun hbound => (congrArg App.canOpenStack happ).trans (h.bound hbound).1
  | runtimeDeinit => exact runtimeDeinit_agrees h hpermitted
  | setStack present =>
      refine agrees_of_slots h rfl rfl ?_
      intro hbound
      exact hpermitted.resolve_right (by rw [hbound]; simp)
  | setRuntime mainThread rtThread rtTimer =>
      exact agrees_of_slots h rfl rfl fun hbound => (h.bound hbound).1

end Steps

/-! ### Whole runs -/

theorem start_agrees (setup : Setup) : ({} : Observed).Agrees setup where
  valid := ⟨Nat.zero_le _, fun _ _ => rfl, fun _ hslot => absurd hslot List.not_mem_nil,
    List.nodup_nil⟩
  owed := fun _ hslot => absurd hslot List.not_mem_nil
  unknown := fun _ _ => rfl
  free := fun _ _ hslot => absurd hslot List.not_mem_nil
  bound := fun hfalse => nomatch hfalse

/-- The law holds after every run of permitted operations. -/
theorem ownership_of_run (setup : Setup) (operations : List Operation)
    (h : EveryStep (step setup) Permitted {} operations) :
    (run (step setup) {} operations).Law setup :=
  law_of_agrees (@run_invariant_of_everyStep _ _ (step setup) (Agrees setup) Permitted
    (fun _ _ hagrees hpermitted => step_agrees hagrees hpermitted) {} operations
    (start_agrees setup) h)

/-! ### Manual and automatic slots, and a failing bind -/

def fullTables : Setup := ⟨4, fun _ _ => true⟩

/-- One caller-owned slot, two of a factory, and a bind that fails at the last one. -/
def mixedRun : List Operation :=
  [.register (some 1) (some 10), .factoryRegister (some ⟨100, some "cia402", 20, true⟩),
    .autoAttachAll fun _ =>
      ⟨[.registerEx (some 2) (some 20) (some 7), .registerEx (some 3) (some 30) (some 7)], .ok⟩,
    .setStack true,
    .bindCommunication true fun key => if key.ops = some 3 then .error else .ok,
    .setStack false]

/-- The failing bind is undone, and the teardown owes nothing to the slot that never was bound. -/
theorem ownership_mixedRun :
    (run (step fullTables) {} mixedRun).Law fullTables ∧
      ((run (step fullTables) {} mixedRun).host.runtimeDeinit fullTables).log =
        [.attach 100, .communicationBind ⟨some 1, some 10⟩ .ok,
          .communicationBind ⟨some 2, some 20⟩ .ok, .communicationBind ⟨some 3, some 30⟩ .error,
          .communicationQuiesced ⟨some 2, some 20⟩, .communicationQuiesced ⟨some 1, some 10⟩,
          .release ⟨some 3, some 30⟩, .runtimeDeinit ⟨some 2, some 20⟩,
          .release ⟨some 2, some 20⟩, .runtimeDeinit ⟨some 1, some 10⟩] :=
  ⟨ownership_of_run fullTables mixedRun
      ⟨trivial, trivial, trivial, Or.inl rfl, rfl, Or.inr (by decide +kernel), trivial⟩,
    by decide +kernel⟩

end Observed

end CanopenRtt.Lifecycle
