import CanopenRtt.Lifecycle.RegistryLoops
/-!
# Registration and auto attach

A registration appends one fresh slot or changes nothing. An auto attach appends
the slots of all its factories, or releases those it had appended and leaves the
slots that were there before.
-/

namespace CanopenRtt.Lifecycle

open CanopenRtt.Support

/-- A registration that nothing has happened to yet. -/
def Slot.fresh (ops context release : Option Nat) : Slot :=
  { ops := ops, context := context, release := release }

namespace Host

/-- The well-formed registries. -/
structure Valid (setup : Setup) (host : Host) : Prop where
  capacity : host.app.count ≤ setup.capacity
  tail : ∀ i, host.app.count ≤ i → host.app.slots i = {}
  ops : ∀ slot ∈ host.registered, slot.ops.isSome = true
  nodup : (host.registered.map Slot.key).Nodup

theorem length_registered (host : Host) : host.registered.length = host.app.count :=
  length_cells ..

theorem Valid.of_slots {setup : Setup} {host other : Host} (h : host.Valid setup)
    (hslots : other.app.slots = host.app.slots) (hcount : other.app.count = host.app.count) :
    other.Valid setup := by
  have hregistered : other.registered = host.registered := by
    unfold registered
    rw [hslots, hcount]
  constructor
  · rw [hcount]
    exact h.capacity
  · rw [hslots, hcount]
    exact h.tail
  · rw [hregistered]
    exact h.ops
  · rw [hregistered]
    exact h.nodup

theorem Valid.of_keys {setup : Setup} {host other : Host} (h : host.Valid setup)
    (hcount : other.app.count = host.app.count)
    (hkeys : other.registered.map Slot.key = host.registered.map Slot.key)
    (htail : ∀ i, host.app.count ≤ i → other.app.slots i = host.app.slots i) :
    other.Valid setup := by
  constructor
  · rw [hcount]
    exact h.capacity
  · intro i hi
    rw [hcount] at hi
    exact (htail i hi).trans (h.tail i hi)
  · intro slot hslot
    have hmem : slot.key ∈ host.registered.map Slot.key := by
      rw [← hkeys]
      exact List.mem_map_of_mem hslot
    obtain ⟨before, hbefore, hkey⟩ := List.mem_map.mp hmem
    have hops : before.ops = slot.ops := congrArg Key.ops hkey
    rw [← hops]
    exact h.ops before hbefore
  · rw [hkeys]
    exact h.nodup

/-! ### One registration -/

/-- A registration was refused, or a fresh slot with a new identity was appended. -/
theorem registerEx_cases {setup : Setup} {host : Host} (h : host.Valid setup)
    (ops context release : Option Nat) :
    (host.registerEx setup ops context release).1 = host ∧
        (host.registerEx setup ops context release).2 ≠ .ok ∨
      host.started = false ∧ (host.registry.autoAttachApp = true → release.isSome = true) ∧
        (host.registerEx setup ops context release).1.registered =
          host.registered ++ [Slot.fresh ops context release] ∧
        (host.registerEx setup ops context release).1.Valid setup ∧
        (host.registerEx setup ops context release).1.registry = host.registry ∧
        (host.registerEx setup ops context release).1.log = host.log ∧
        (host.registerEx setup ops context release).1.app.canOpenStack =
          host.app.canOpenStack := by
  unfold registerEx
  split
  · exact Or.inl ⟨rfl, by simp⟩
  case isFalse hargs =>
  split
  · exact Or.inl ⟨rfl, by simp⟩
  case isFalse hattach =>
  split
  · exact Or.inl ⟨rfl, by simp⟩
  case isFalse hidle =>
  split
  · exact Or.inl ⟨rfl, by simp⟩
  case isFalse hnew =>
  split
  · exact Or.inl ⟨rfl, by simp⟩
  case isFalse hroom =>
      right
      have hslot : { host.slot host.app.count with
          ops := ops, context := context, release := release } =
            Slot.fresh ops context release := by
        rw [slot, h.tail _ (Nat.le_refl _)]
        rfl
      dsimp only
      rw [hslot]
      have hregistered : cells (Function.update host.app.slots host.app.count
          (Slot.fresh ops context release)) (host.app.count + 1) =
            host.registered ++ [Slot.fresh ops context release] := by
        rw [cells_succ, Function.update_self]
        congr 1
        exact cells_congr fun i hi => Function.update_of_ne (Nat.ne_of_lt hi) ..
      have hops : ops.isSome = true := by
        cases ops with
        | none => exact absurd rfl hargs
        | some ops => rfl
      refine ⟨eq_false_of_ne_true hidle, ?_, hregistered, ⟨?_, ?_, ?_, ?_⟩, rfl, rfl, rfl⟩
      · intro hattaching
        rw [hattaching, Bool.true_and] at hattach
        cases release with
        | none => exact absurd rfl hattach
        | some release => rfl
      · dsimp only
        omega
      · intro i hi
        dsimp only at hi ⊢
        rw [Function.update_of_ne (by omega)]
        exact h.tail i (by omega)
      · intro slot hmem
        rw [registered, hregistered] at hmem
        rcases List.mem_append.mp hmem with hold | hlast
        · exact h.ops slot hold
        · obtain rfl := List.mem_singleton.mp hlast
          exact hops
      · rw [registered, hregistered, List.map_append, List.nodup_append]
        refine ⟨h.nodup, by simp, ?_⟩
        rintro key hkey other hother rfl
        obtain ⟨slot, hmem, rfl⟩ := List.mem_map.mp hkey
        obtain ⟨i, hi, rfl⟩ := mem_cells.mp hmem
        have hsame : (host.app.slots i).key = (Slot.fresh ops context release).key :=
          List.mem_singleton.mp hother
        apply hnew
        rw [List.any_eq_true]
        refine ⟨i, List.mem_range.mpr hi, ?_⟩
        have hopsSame : (host.slot i).ops = ops := congrArg Key.ops hsame
        have hcontextSame : (host.slot i).context = context := congrArg Key.context hsame
        simp [hopsSame, hcontextSame]

theorem latchFactoryError_kept (host : Host) (failure : RtErr) :
    (host.latchFactoryError failure).1.app = host.app ∧
      (host.latchFactoryError failure).1.registry.autoAttachApp = host.registry.autoAttachApp ∧
      (host.latchFactoryError failure).1.log = host.log := by
  unfold latchFactoryError
  dsimp only
  split <;> exact ⟨rfl, rfl, rfl⟩

theorem factoryRegister_kept (setup : Setup) (host : Host) (factory : Option Factory) :
    (host.factoryRegister setup factory).1.app = host.app ∧
      (host.factoryRegister setup factory).1.registry.autoAttachApp =
        host.registry.autoAttachApp ∧
      (host.factoryRegister setup factory).1.log = host.log := by
  unfold factoryRegister
  split
  · exact latchFactoryError_kept ..
  · split
    · exact latchFactoryError_kept ..
    · split
      · exact latchFactoryError_kept ..
      · split
        · exact latchFactoryError_kept ..
        · split
          · exact latchFactoryError_kept ..
          · exact ⟨rfl, rfl, rfl⟩

/-! ### A transaction -/

/-- A slot an auto attach has appended. -/
def Attached (slot : Slot) : Prop :=
  ∃ ops context release : Option Nat, release.isSome = true ∧
    slot = Slot.fresh ops context release

/-- What a transaction has done to the registry it started from. -/
structure Extended (setup : Setup) (base : List Slot) (canOpenStack : Bool) (host : Host)
    (added : List Slot) : Prop where
  valid : host.Valid setup
  registered : host.registered = base ++ added
  attached : ∀ slot ∈ added, Attached slot
  attaching : host.registry.autoAttachApp = true
  canOpenStack : host.app.canOpenStack = canOpenStack

variable {setup : Setup} {base added : List Slot} {stack : Bool} {host : Host}

theorem act_extended (h : Extended setup base stack host added) (action : AttachAction) :
    ∃ more, Extended setup base stack (act setup host action) (added ++ more) ∧
      (act setup host action).log = host.log := by
  cases action with
  | registerEx ops context release =>
      rcases registerEx_cases h.valid ops context release with
        ⟨hsame, -⟩ | ⟨-, hrelease, hregistered, hvalid, hregistry, hlog, hstack⟩
      · refine ⟨[], ?_, congrArg Host.log hsame⟩
        rw [List.append_nil, act, hsame]
        exact h
      · refine ⟨[Slot.fresh ops context release], ⟨hvalid, ?_, ?_, ?_, ?_⟩, hlog⟩
        · rw [act, hregistered, h.registered, List.append_assoc]
        · intro slot hmem
          rcases List.mem_append.mp hmem with hold | hlast
          · exact h.attached slot hold
          · exact ⟨ops, context, release, hrelease h.attaching, List.mem_singleton.mp hlast⟩
        · exact (congrArg FactoryRegistry.autoAttachApp hregistry).trans h.attaching
        · exact hstack.trans h.canOpenStack
  | factoryRegister factory =>
      obtain ⟨happ, hattaching, hlog⟩ := factoryRegister_kept setup host factory
      refine ⟨[], ?_, hlog⟩
      rw [List.append_nil]
      refine ⟨h.valid.of_slots (congrArg App.slots happ) (congrArg App.count happ), ?_,
        h.attached, hattaching.trans h.attaching,
        (congrArg App.canOpenStack happ).trans h.canOpenStack⟩
      rw [act, Host.registered, happ]
      exact h.registered

theorem acts_extended (h : Extended setup base stack host added) (actions : List AttachAction) :
    ∃ more, Extended setup base stack (run (act setup) host actions) (added ++ more) ∧
      (run (act setup) host actions).log = host.log := by
  refine @run_invariant _ _ (act setup)
    (fun after => ∃ more, Extended setup base stack after (added ++ more) ∧
      after.log = host.log) ?_ host ⟨[], by rwa [List.append_nil], rfl⟩ actions
  rintro after action ⟨more, hafter, hlog⟩
  obtain ⟨last, hlast, hlog'⟩ := act_extended hafter action
  exact ⟨more ++ last, by rwa [← List.append_assoc], hlog'.trans hlog⟩

/-! ### The rollback -/

theorem rollbackLast_spec {first : List Slot} {last : Slot} (hvalid : host.Valid setup)
    (h : host.registered = first ++ [last]) :
    host.rollbackLast.registered = first ∧ host.rollbackLast.Valid setup ∧
      host.rollbackLast.log = host.log ++ last.releaseCalls ∧
      host.rollbackLast.registry = host.registry ∧
      host.rollbackLast.app.canOpenStack = host.app.canOpenStack := by
  have hcount : host.app.count = first.length + 1 := by
    rw [← length_registered, h]
    simp
  have hsplit : cells host.app.slots first.length ++ [host.app.slots first.length] =
      first ++ [last] := by
    rw [← cells_succ, ← hcount]
    exact h
  obtain ⟨hfirst, hlast⟩ := List.append_inj' hsplit rfl
  have hcell : host.slot (host.app.count - 1) = last := by
    rw [hcount]
    exact (List.cons.inj hlast).1
  have hregistered : host.rollbackLast.registered = first := by
    unfold rollbackLast
    dsimp only
    rw [registered]
    dsimp only
    rw [setSlot_slots, emitIf_app, hcount, Nat.add_sub_cancel]
    exact (cells_congr fun i hi => Function.update_of_ne (Nat.ne_of_lt hi) ..).trans hfirst
  have hlength : host.rollbackLast.app.count = first.length := by
    unfold rollbackLast
    dsimp only
    rw [hcount, Nat.add_sub_cancel]
  refine ⟨hregistered, ⟨?_, ?_, ?_, ?_⟩, ?_, ?_, ?_⟩
  · rw [hlength]
    have hcapacity := hvalid.capacity
    omega
  · intro i hi
    rw [hlength] at hi
    unfold rollbackLast
    dsimp only
    rw [setSlot_slots, emitIf_app, hcount, Nat.add_sub_cancel]
    by_cases hlast : i = first.length
    · rw [hlast, Function.update_self]
    · rw [Function.update_of_ne hlast]
      exact hvalid.tail i (by omega)
  · rw [hregistered]
    exact fun slot hslot => hvalid.ops slot (by rw [h]; exact List.mem_append_left _ hslot)
  · have hnodup := hvalid.nodup
    rw [h, List.map_append] at hnodup
    rw [hregistered]
    exact (List.nodup_append.mp hnodup).1
  · unfold rollbackLast
    dsimp only
    rw [setSlot_log, emitIf_log, hcell]
    rfl
  · unfold rollbackLast
    dsimp only
    exact congrArg Prod.fst (emitIf_frame host _ _)
  · unfold rollbackLast
    dsimp only
    rw [setSlot, emitIf_app]

/-- The rollback releases what was appended, last first, and nothing else. -/
theorem rollbackAutoSlots_spec (hvalid : host.Valid setup)
    (h : host.registered = base ++ added) :
    (host.rollbackAutoSlots base.length).registered = base ∧
      (host.rollbackAutoSlots base.length).Valid setup ∧
      (host.rollbackAutoSlots base.length).log =
        host.log ++ added.reverse.flatMap Slot.releaseCalls ∧
      (host.rollbackAutoSlots base.length).registry = host.registry ∧
      (host.rollbackAutoSlots base.length).app.canOpenStack = host.app.canOpenStack := by
  have hcount : host.app.count - base.length = added.length := by
    rw [← length_registered, h, List.length_append, Nat.add_sub_cancel_left]
  unfold rollbackAutoSlots
  rw [hcount]
  clear hcount
  induction added using List.reverseRecOn generalizing host with
  | nil => exact ⟨h.trans (List.append_nil base), hvalid, by simp, rfl, rfl⟩
  | append_singleton added last ih =>
      obtain ⟨hregistered, hvalid', hlog, hregistry, hstack⟩ :=
        rollbackLast_spec hvalid (h.trans (List.append_assoc ..).symm)
      obtain ⟨hregistered', hvalid'', hlog', hregistry', hstack'⟩ := ih hvalid' hregistered
      have hrun : run (fun after (_ : Nat) => after.rollbackLast) host
          (List.range (added ++ [last]).length) =
            run (fun after (_ : Nat) => after.rollbackLast) host.rollbackLast
              (List.range added.length) := by
        rw [List.length_append, List.length_singleton, List.range_succ_eq_map, run_cons, run,
          List.foldl_map]
        rfl
      rw [hrun]
      refine ⟨hregistered', hvalid'', ?_, hregistry'.trans hregistry, hstack'.trans hstack⟩
      rw [hlog', hlog]
      simp

/-! ### All factories -/

/-- How an auto attach ends. -/
inductive AttachResult (setup : Setup) (host : Host) : Host × RtErr → Prop
  | attached (after : Host) (factories : List Nat) (added : List Slot)
      (hvalid : after.Valid setup) (hslots : after.registered = host.registered ++ added)
      (hadded : ∀ slot ∈ added, Attached slot)
      (hlog : after.log = host.log ++ factories.map Call.attach)
      (hstack : after.app.canOpenStack = host.app.canOpenStack) :
      AttachResult setup host (after, .ok)
  | refused (after : Host) (ret : RtErr) (factories : List Nat) (added : List Slot)
      (hret : ret ≠ .ok) (hvalid : after.Valid setup)
      (hslots : after.registered = host.registered) (hadded : ∀ slot ∈ added, Attached slot)
      (hlog : after.log = host.log ++ factories.map Call.attach ++
        added.reverse.flatMap Slot.releaseCalls)
      (hstack : after.app.canOpenStack = host.app.canOpenStack) :
      AttachResult setup host (after, ret)

/-- The state of a transaction after some factories. -/
def Attaching (setup : Setup) (host current : Host) : Prop :=
  ∃ (factories : List Nat) (added : List Slot),
    Extended setup host.registered host.app.canOpenStack current added ∧
    current.log = host.log ++ factories.map Call.attach

theorem abort_refused {start current : Host} {factories : List Nat} {ret : RtErr}
    (hret : ret ≠ .ok)
    (h : Extended setup start.registered start.app.canOpenStack current added)
    (hlog : current.log = start.log ++ factories.map Call.attach) :
    AttachResult setup start ((current.rollbackAutoSlots start.app.count).endAttach, ret) := by
  obtain ⟨hslots, hvalid, hlog', -, hstack⟩ := rollbackAutoSlots_spec h.valid h.registered
  rw [length_registered] at hslots hvalid hlog' hstack
  refine .refused _ ret factories added hret (hvalid.of_slots rfl rfl) hslots h.attached ?_
    (hstack.trans h.canOpenStack)
  exact hlog'.trans (by rw [hlog])

/-- A factory extends the transaction, or ends it with everything released. -/
theorem attachFactory_result {start current : Host} (h : Attaching setup start current)
    (answers : Nat → Attach) (factoryIndex : Nat) :
    ((attachFactory setup answers start.app.count current factoryIndex).2 = .ok →
        Attaching setup start
          (attachFactory setup answers start.app.count current factoryIndex).1) ∧
      ((attachFactory setup answers start.app.count current factoryIndex).2 ≠ .ok →
        AttachResult setup start
          (attachFactory setup answers start.app.count current factoryIndex)) := by
  obtain ⟨factories, added, hextended, hlog⟩ := h
  unfold attachFactory
  dsimp only
  generalize ((current.registry.factories factoryIndex).map Factory.address).getD 0 = address
  have hemitted : Extended setup start.registered start.app.canOpenStack
      (current.emit (.attach address)) added :=
    ⟨hextended.valid.of_slots rfl rfl, hextended.registered, hextended.attached,
      hextended.attaching, hextended.canOpenStack⟩
  obtain ⟨more, hafter, hlog'⟩ := acts_extended hemitted (answers factoryIndex).actions
  generalize run (act setup) (current.emit (.attach address)) (answers factoryIndex).actions =
    attached at hafter hlog' ⊢
  have hlast : attached.log = start.log ++ (factories ++ [address]).map Call.attach := by
    rw [hlog', emit, hlog]
    simp
  split
  case isTrue hret => exact ⟨fun hok => absurd hok hret, fun _ => abort_refused hret hafter hlast⟩
  case isFalse =>
      split
      · exact ⟨fun hok => (by cases hok), fun hret => abort_refused hret hafter hlast⟩
      · split
        · exact ⟨fun hok => (by cases hok), fun hret => abort_refused hret hafter hlast⟩
        · exact ⟨fun _ => ⟨factories ++ [address], added ++ more, hafter, hlast⟩,
            fun hret => absurd rfl hret⟩

theorem autoAttachAll_result (answers : Nat → Attach) (hvalid : host.Valid setup) :
    AttachResult setup host (host.autoAttachAll setup answers) := by
  have hrefused : ∀ ret : RtErr, ret ≠ .ok → AttachResult setup host (host, ret) :=
    fun ret hret => .refused host ret [] [] hret hvalid rfl (by simp) (by simp) rfl
  unfold autoAttachAll
  split
  · exact hrefused .busy (by simp)
  · split
    · exact hrefused .busy (by simp)
    · split
      case isTrue hfailed => exact hrefused _ hfailed
      case isFalse =>
          split
          · exact hrefused .empty (by simp)
          · dsimp only
            have hstart : Attaching setup host
                { host with registry := { host.registry with autoAttachApp := true } } :=
              ⟨[], [], ⟨hvalid.of_slots rfl rfl, (List.append_nil _).symm, by simp, rfl, rfl⟩,
                (List.append_nil _).symm⟩
            have hkept := fun (items : List Nat) =>
              @run_invariant_of_everyStep _ _
                (fun s i => (attachFactory setup answers host.app.count s i).1)
                (Attaching setup host)
                (fun s i => (attachFactory setup answers host.app.count s i).2 = .ok)
                (fun s i hs hok => (attachFactory_result hs answers i).1 hok) _ items hstart
            rcases runWhile_cases .ok (attachFactory setup answers host.app.count)
                { host with registry := { host.registry with autoAttachApp := true } }
                (List.range host.registry.count) with
              ⟨hsteps, hrun⟩ | ⟨done, i, rest, -, hsteps, hbad, hrun⟩
            · obtain ⟨factories, added, hextended, hlog⟩ := hkept _ hsteps
              rw [hrun, if_pos rfl]
              exact .attached _ factories added (hextended.valid.of_slots rfl rfl)
                hextended.registered hextended.attached hlog hextended.canOpenStack
            · rw [hrun, if_neg hbad]
              exact (attachFactory_result (hkept _ hsteps) answers i).2 hbad

end Host

end CanopenRtt.Lifecycle
