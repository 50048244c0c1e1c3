import CanopenRtt.Lifecycle.Registry
/-!
# What the loops over the lifecycle slots do

One equation for the registered slots and one for the log, for each loop of the
registry.
-/

namespace CanopenRtt.Lifecycle

open CanopenRtt.Support

namespace Slot

/-- A slot `runtimeInit` has passed. -/
def initialized (slot : Slot) : Slot :=
  { slot with runtimeInitialized := true, deinitRequired := true }

/-- A slot that was bound. -/
def bind (setup : Setup) (slot : Slot) : Slot :=
  { slot with
    communicationBound := true
    deinitRequired := slot.deinitRequired || setup.has slot .communicationBind }

def unbind (slot : Slot) : Slot := { slot with communicationBound := false }

/-- A caller-owned slot after the final teardown, a cleared one otherwise. -/
def retire (slot : Slot) : Slot :=
  if slot.release.isSome then {} else
    { slot with deinitRequired := false, runtimeInitialized := false }

def bindCalls (setup : Setup) (slot : Slot) : List Call :=
  if setup.has slot .communicationBind then [.communicationBind slot.key .ok] else []

def quiesceCalls (setup : Setup) (slot : Slot) : List Call :=
  if setup.has slot .communicationQuiesced then [.communicationQuiesced slot.key] else []

def releaseCalls (slot : Slot) : List Call :=
  if slot.release.isSome then [.release slot.key] else []

/-- The teardown of one slot: its deinitialisation if it is owed, then its release. -/
def deinitCalls (setup : Setup) (owed : Bool) (slot : Slot) : List Call :=
  (if owed && setup.has slot .runtimeDeinit then [.runtimeDeinit slot.key] else []) ++
    slot.releaseCalls

@[simp] theorem key_initialized (slot : Slot) : slot.initialized.key = slot.key := rfl

@[simp] theorem key_bind (setup : Setup) (slot : Slot) : (slot.bind setup).key = slot.key := rfl

@[simp] theorem key_unbind (slot : Slot) : slot.unbind.key = slot.key := rfl

theorem unbind_of_not {slot : Slot} (h : slot.communicationBound = false) :
    slot.unbind = slot := by
  unfold unbind
  rw [← h]

end Slot

namespace Host

/-- Everything but the cells and the log. -/
def frame (host : Host) : FactoryRegistry × App :=
  (host.registry, { host.app with slots := fun _ => {} })

theorem count_of_frame {host other : Host} (h : host.frame = other.frame) :
    host.app.count = other.app.count :=
  congrArg (fun p => p.2.count) h

theorem canOpenStack_of_frame {host other : Host} (h : host.frame = other.frame) :
    host.app.canOpenStack = other.app.canOpenStack :=
  congrArg (fun p => p.2.canOpenStack) h

@[simp] theorem emitIf_app (host : Host) (condition : Bool) (call : Call) :
    (host.emitIf condition call).app = host.app := by
  unfold emitIf
  split <;> rfl

@[simp] theorem emitIf_frame (host : Host) (condition : Bool) (call : Call) :
    (host.emitIf condition call).frame = host.frame := by
  unfold emitIf
  split <;> rfl

@[simp] theorem emitIf_log (host : Host) (condition : Bool) (call : Call) :
    (host.emitIf condition call).log = host.log ++ (if condition then [call] else []) := by
  cases condition <;> simp [emitIf, emit]

@[simp] theorem setSlot_slots (host : Host) (i : Nat) (slot : Slot) :
    (host.setSlot i slot).app.slots = Function.update host.app.slots i slot := rfl

@[simp] theorem setSlot_frame (host : Host) (i : Nat) (slot : Slot) :
    (host.setSlot i slot).frame = host.frame := rfl

@[simp] theorem setSlot_log (host : Host) (i : Nat) (slot : Slot) :
    (host.setSlot i slot).log = host.log := rfl

/-! ### Quiesced -/

theorem quiesceSlot_slots (setup : Setup) (host : Host) (i : Nat) :
    (quiesceSlot setup host i).app.slots =
      Function.update host.app.slots i (host.app.slots i).unbind := by
  unfold quiesceSlot
  dsimp only
  split
  · rw [setSlot_slots, emitIf_app]
    rfl
  case isFalse hfree =>
      have hsame : (host.app.slots i).unbind = host.app.slots i :=
        Slot.unbind_of_not (eq_false_of_ne_true hfree)
      rw [hsame, Function.update_eq_self]

theorem quiesceSlot_log (setup : Setup) (host : Host) (i : Nat) :
    (quiesceSlot setup host i).log = host.log ++
      if (host.app.slots i).communicationBound then (host.app.slots i).quiesceCalls setup
      else [] := by
  unfold quiesceSlot slot
  dsimp only
  split
  · rw [setSlot_log, emitIf_log]
    rfl
  · exact (List.append_nil _).symm

theorem quiesceSlot_frame (setup : Setup) (host : Host) (i : Nat) :
    (quiesceSlot setup host i).frame = host.frame := by
  unfold quiesceSlot
  dsimp only
  split
  · rw [setSlot_frame, emitIf_frame]
  · rfl

/-- Quiescing the slots below `k` in reverse order. -/
theorem quiesceSlots (setup : Setup) (host : Host) (k : Nat) :
    (∀ i, (run (quiesceSlot setup) host (List.range k).reverse).app.slots i =
        if i < k then (host.app.slots i).unbind else host.app.slots i) ∧
      (run (quiesceSlot setup) host (List.range k).reverse).log = host.log ++
        (cells host.app.slots k).reverse.flatMap (fun slot =>
          if slot.communicationBound then slot.quiesceCalls setup else []) ∧
      (run (quiesceSlot setup) host (List.range k).reverse).frame = host.frame := by
  obtain ⟨hcells, hlog⟩ := run_visits (fun s : Host => s.app.slots) Host.log Slot.unbind
    (fun slot => if slot.communicationBound then slot.quiesceCalls setup else [])
    (P := fun _ _ => True) (fun s i _ => quiesceSlot_slots setup s i)
    (fun s i _ => quiesceSlot_log setup s i)
    ((List.reverse_perm _).nodup_iff.mpr List.nodup_range)
    (everyStep_of_forall (fun _ _ => trivial) host (List.range k).reverse)
  refine ⟨?_, ?_, ?_⟩
  · intro i
    rw [hcells]
    simp
  · exact hlog.trans (congrArg (host.log ++ ·) (flatMap_range_reverse host.app.slots
      (fun slot => if slot.communicationBound then slot.quiesceCalls setup else []) k))
  · exact @run_invariant _ _ _ (fun after : Host => after.frame = host.frame)
      (fun s i h => (quiesceSlot_frame setup s i).trans h) host rfl _

theorem communicationQuiesced_spec (setup : Setup) (host : Host) :
    (host.communicationQuiesced setup).registered = host.registered.map Slot.unbind ∧
      (∀ i, host.app.count ≤ i →
        (host.communicationQuiesced setup).app.slots i = host.app.slots i) ∧
      (host.communicationQuiesced setup).frame = host.frame := by
  obtain ⟨hcells, -, hframe⟩ := quiesceSlots setup host host.app.count
  refine ⟨?_, ?_, hframe⟩
  · unfold registered communicationQuiesced
    rw [count_of_frame hframe]
    exact cells_map fun i hi => (hcells i).trans (if_pos hi)
  · exact fun i hi => (hcells i).trans (if_neg (Nat.not_lt_of_le hi))

/-! ### Runtime initialisation -/

theorem runtimeInitSlot_ok {setup : Setup} {answers : Key → RtErr} {host : Host} {i : Nat}
    (h : (runtimeInitSlot setup answers host i).2 = .ok) :
    setup.answer answers .runtimeInit (host.app.slots i) = .ok ∧
      (runtimeInitSlot setup answers host i).1.app.slots =
        Function.update host.app.slots i (host.app.slots i).initialized := by
  unfold runtimeInitSlot at h ⊢
  dsimp only at h ⊢
  split at h
  case isTrue hfailed => exact absurd h hfailed
  case isFalse hok =>
      rw [if_neg hok, setSlot_slots, emitIf_app]
      exact ⟨not_not.mp hok, rfl⟩

theorem runtimeInitSlot_failed {setup : Setup} {answers : Key → RtErr} {host : Host} {i : Nat}
    (h : (runtimeInitSlot setup answers host i).2 ≠ .ok) :
    setup.answer answers .runtimeInit (host.app.slots i) ≠ .ok ∧
      (runtimeInitSlot setup answers host i).1.app = host.app := by
  unfold runtimeInitSlot at h ⊢
  dsimp only at h ⊢
  split at h
  case isTrue hfailed =>
      rw [if_pos hfailed, emitIf_app]
      exact ⟨hfailed, rfl⟩
  case isFalse => exact absurd rfl h

theorem runtimeInitSlot_frame (setup : Setup) (answers : Key → RtErr) (host : Host) (i : Nat) :
    (runtimeInitSlot setup answers host i).1.frame = host.frame := by
  unfold runtimeInitSlot
  dsimp only
  split
  · exact emitIf_frame ..
  · rw [setSlot_frame, emitIf_frame]

/-- The slots `runtimeInit` passes. -/
def passed (setup : Setup) (answers : Key → RtErr) (hook : Hook) (host : Host) : List Slot :=
  host.registered.takeWhile fun slot => setup.answer answers hook slot = .ok

/-- Rounds that all succeeded have marked the first slots. -/
theorem runtimeInitSlots {setup : Setup} {answers : Key → RtErr} {host : Host} {k : Nat}
    (hsteps : EveryStep (fun s i => (runtimeInitSlot setup answers s i).1)
      (fun s i => (runtimeInitSlot setup answers s i).2 = .ok) host (List.range k)) :
    (∀ i, i < k → setup.answer answers .runtimeInit (host.app.slots i) = .ok) ∧
      ∀ i, (run (fun s i => (runtimeInitSlot setup answers s i).1) host
        (List.range k)).app.slots i =
          if i < k then (host.app.slots i).initialized else host.app.slots i := by
  have hstep : ∀ (s : Host) (i : Nat), (runtimeInitSlot setup answers s i).2 = .ok →
      (runtimeInitSlot setup answers s i).1.app.slots =
        Function.update s.app.slots i (s.app.slots i).initialized :=
    fun s i hok => (runtimeInitSlot_ok hok).2
  constructor
  · intro i hi
    exact forall_visits (fun s : Host => s.app.slots) Slot.initialized
      (Q := fun slot => setup.answer answers .runtimeInit slot = .ok) hstep
      (fun s i hok => (runtimeInitSlot_ok hok).1) List.nodup_range hsteps i (List.mem_range.mpr hi)
  · intro i
    have hcells := (run_visits (fun s : Host => s.app.slots) (fun _ => ([] : List Call))
      Slot.initialized (fun _ => []) hstep (fun _ _ _ => rfl) List.nodup_range hsteps).1 i
    rw [hcells]
    simp

theorem runtimeInit_spec (setup : Setup) (answers : Key → RtErr) (worker : RtErr) (host : Host) :
    (host.runtimeInit setup answers worker).1.registered =
        (host.passed setup answers .runtimeInit).map Slot.initialized ++
          host.registered.drop (host.passed setup answers .runtimeInit).length ∧
      (∀ i, host.app.count ≤ i →
        (host.runtimeInit setup answers worker).1.app.slots i = host.app.slots i) ∧
      (host.runtimeInit setup answers worker).1.frame = host.frame := by
  have hprefix : ∀ k, k ≤ host.app.count → ∀ after : Host, after.frame = host.frame →
      (∀ i, i < k → setup.answer answers .runtimeInit (host.app.slots i) = .ok) →
      (k < host.app.count → setup.answer answers .runtimeInit (host.app.slots k) ≠ .ok) →
      (∀ i, after.app.slots i =
        if i < k then (host.app.slots i).initialized else host.app.slots i) →
      after.registered = (host.passed setup answers .runtimeInit).map Slot.initialized ++
          host.registered.drop (host.passed setup answers .runtimeInit).length ∧
        (∀ i, host.app.count ≤ i → after.app.slots i = host.app.slots i) := by
    intro k hk after hframe hdone hstop hcells
    have hpassed : host.passed setup answers .runtimeInit = cells host.app.slots k :=
      takeWhile_cells hk (fun i hi => decide_eq_true (hdone i hi))
        (fun hless => decide_eq_false (hstop hless))
    refine ⟨?_, fun i hi => (hcells i).trans (if_neg (by omega))⟩
    have hsplit : cells after.app.slots host.app.count =
        (host.registered.take k).map Slot.initialized ++ host.registered.drop k :=
      cells_split hk (fun i hi => (hcells i).trans (if_pos hi))
        (fun i hi => (hcells i).trans (if_neg (by omega)))
    rw [hpassed, length_cells, registered, count_of_frame hframe, hsplit, registered,
      take_cells _ hk]
  have hframes : ∀ (start : Host) (items : List Nat), start.frame = host.frame →
      (run (fun s i => (runtimeInitSlot setup answers s i).1) start items).frame = host.frame :=
    fun start items hstart => @run_invariant _ _ _ (fun after : Host => after.frame = host.frame)
      (fun s i h => (runtimeInitSlot_frame setup answers s i).trans h) start hstart items
  unfold runtimeInit
  rcases runWhile_cases .ok (runtimeInitSlot setup answers) host (List.range host.app.count) with
    ⟨hsteps, hrun⟩ | ⟨done, i, rest, hsplit, hsteps, hbad, hrun⟩
  · rw [hrun]
    dsimp only
    rw [if_pos rfl]
    obtain ⟨hdone, hcells⟩ := runtimeInitSlots hsteps
    have hframe := hframes host (List.range host.app.count) rfl
    obtain ⟨hregistered, htail⟩ := hprefix host.app.count (Nat.le_refl _) _ hframe hdone
      (fun hless => absurd hless (Nat.lt_irrefl _)) hcells
    exact ⟨hregistered, htail, hframe⟩
  · obtain ⟨rfl, hi⟩ := eq_range_of_split hsplit
    obtain ⟨hdone, hcells⟩ := runtimeInitSlots hsteps
    obtain ⟨hfailed, happ⟩ := runtimeInitSlot_failed hbad
    rw [hrun, if_neg hbad]
    have hframe := (runtimeInitSlot_frame setup answers _ i).trans
      (hframes host (List.range i) rfl)
    rw [hcells, if_neg (Nat.lt_irrefl i)] at hfailed
    obtain ⟨hregistered, htail⟩ := hprefix i (Nat.le_of_lt hi) _ hframe hdone
      (fun _ => hfailed) (fun j => by rw [happ]; exact hcells j)
    exact ⟨hregistered, htail, hframe⟩

theorem runtimeStartSlot_app (setup : Setup) (answers : Key → RtErr) (host : Host) (i : Nat) :
    (runtimeStartSlot setup answers host i).1.app = host.app ∧
      (runtimeStartSlot setup answers host i).1.registry = host.registry := by
  unfold runtimeStartSlot
  dsimp only
  split <;> exact ⟨rfl, rfl⟩

theorem runtimeStart_app (setup : Setup) (answers : Key → RtErr) (worker : RtErr) (host : Host) :
    (host.runtimeStart setup answers worker).1.app = host.app ∧
      (host.runtimeStart setup answers worker).1.registry = host.registry := by
  have hsame : ∀ items : List Nat,
      (run (fun s i => (runtimeStartSlot setup answers s i).1) host items).app = host.app ∧
        (run (fun s i => (runtimeStartSlot setup answers s i).1) host items).registry =
          host.registry := by
    refine @run_invariant _ _ _
      (fun after : Host => after.app = host.app ∧ after.registry = host.registry) ?_ host ⟨rfl, rfl⟩
    rintro s i ⟨happ, hregistry⟩
    obtain ⟨happ', hregistry'⟩ := runtimeStartSlot_app setup answers s i
    exact ⟨happ'.trans happ, hregistry'.trans hregistry⟩
  unfold runtimeStart
  rcases runWhile_cases .ok (runtimeStartSlot setup answers) host (List.range host.app.count) with
    ⟨-, hrun⟩ | ⟨done, i, rest, -, -, hbad, hrun⟩
  · rw [hrun]
    exact hsame _
  · rw [hrun, if_neg hbad]
    obtain ⟨happ, hregistry⟩ := runtimeStartSlot_app setup answers
      (run (fun s i => (runtimeStartSlot setup answers s i).1) host done) i
    exact ⟨happ.trans (hsame done).1, hregistry.trans (hsame done).2⟩

/-! ### Binding -/

theorem bindSlot_ok {setup : Setup} {answers : Key → RtErr} {host : Host} {i : Nat}
    (h : (bindSlot setup answers host i).2 = .ok) :
    setup.answer answers .communicationBind (host.app.slots i) = .ok ∧
      (bindSlot setup answers host i).1.app.slots =
        Function.update host.app.slots i ((host.app.slots i).bind setup) ∧
      (bindSlot setup answers host i).1.log =
        host.log ++ (host.app.slots i).bindCalls setup := by
  unfold bindSlot at h ⊢
  dsimp only at h ⊢
  split at h
  · cases h
  case isFalse hfree =>
      rw [if_neg hfree]
      split at h
      case isTrue hfailed => exact absurd h hfailed
      case isFalse hok =>
          rw [if_neg hok, setSlot_slots, emitIf_app, setSlot_log, emitIf_log]
          have hanswer := not_not.mp hok
          refine ⟨hanswer, rfl, ?_⟩
          rw [hanswer]
          rfl

/-- A failing callback of a free slot: the slots before it are quiesced in reverse order. -/
theorem bindSlot_failed {setup : Setup} {answers : Key → RtErr} {host : Host} {i : Nat}
    (hfree : (host.app.slots i).communicationBound = false)
    (h : (bindSlot setup answers host i).2 ≠ .ok) :
    (bindSlot setup answers host i).2 = answers (host.app.slots i).key ∧
      setup.answer answers .communicationBind (host.app.slots i) ≠ .ok ∧
      (∀ j, (bindSlot setup answers host i).1.app.slots j =
        if j < i then (host.app.slots j).unbind else host.app.slots j) ∧
      (bindSlot setup answers host i).1.log =
        (host.log ++ [.communicationBind (host.app.slots i).key
          (answers (host.app.slots i).key)]) ++
          (cells host.app.slots i).reverse.flatMap (fun slot =>
            if slot.communicationBound then slot.quiesceCalls setup else []) := by
  have hslot : ¬(host.slot i).communicationBound = true := by
    rw [slot, hfree]
    exact Bool.false_ne_true
  unfold bindSlot at h ⊢
  dsimp only at h ⊢
  rw [if_neg hslot] at h ⊢
  by_cases hfailed : setup.answer answers .communicationBind (host.slot i) = .ok
  · rw [if_neg (not_not_intro hfailed)] at h
    exact absurd rfl h
  · rw [if_pos hfailed]
    have hcalled : setup.has (host.slot i) .communicationBind = true := by
      by_contra hnone
      exact hfailed (if_neg hnone)
    have hanswer : setup.answer answers .communicationBind (host.slot i) =
        answers (host.slot i).key := if_pos hcalled
    rw [hcalled, hanswer]
    obtain ⟨hcells, hlog, -⟩ := quiesceSlots setup
      (host.emitIf true (.communicationBind (host.slot i).key (answers (host.slot i).key))) i
    rw [emitIf_app] at hcells hlog
    rw [emitIf_log, if_pos rfl] at hlog
    exact ⟨rfl, hfailed, hcells, hlog⟩

theorem bindSlot_frame (setup : Setup) (answers : Key → RtErr) (host : Host) (i : Nat) :
    (bindSlot setup answers host i).1.frame = host.frame := by
  unfold bindSlot
  dsimp only
  split
  · rfl
  · split
    · rw [(quiesceSlots ..).2.2, emitIf_frame]
    · rw [setSlot_frame, emitIf_frame]

theorem bindSlots {setup : Setup} {answers : Key → RtErr} {host : Host} {k : Nat}
    (hsteps : EveryStep (fun s i => (bindSlot setup answers s i).1)
      (fun s i => (bindSlot setup answers s i).2 = .ok) host (List.range k)) :
    (∀ i, i < k → setup.answer answers .communicationBind (host.app.slots i) = .ok) ∧
      (∀ i, (run (fun s i => (bindSlot setup answers s i).1) host (List.range k)).app.slots i =
        if i < k then (host.app.slots i).bind setup else host.app.slots i) ∧
      (run (fun s i => (bindSlot setup answers s i).1) host (List.range k)).log =
        host.log ++ (cells host.app.slots k).flatMap (Slot.bindCalls setup) := by
  have hstep : ∀ (s : Host) (i : Nat), (bindSlot setup answers s i).2 = .ok →
      (bindSlot setup answers s i).1.app.slots =
        Function.update s.app.slots i ((s.app.slots i).bind setup) :=
    fun s i hok => (bindSlot_ok hok).2.1
  obtain ⟨hcells, hlog⟩ := run_visits (fun s : Host => s.app.slots) Host.log (Slot.bind setup)
    (Slot.bindCalls setup) hstep (fun s i hok => (bindSlot_ok hok).2.2) List.nodup_range hsteps
  refine ⟨?_, ?_, ?_⟩
  · intro i hi
    exact forall_visits (fun s : Host => s.app.slots) (Slot.bind setup)
      (Q := fun slot => setup.answer answers .communicationBind slot = .ok) hstep
      (fun s i hok => (bindSlot_ok hok).1) List.nodup_range hsteps i (List.mem_range.mpr hi)
  · intro i
    rw [hcells]
    simp
  · exact hlog.trans (congrArg (host.log ++ ·) (flatMap_range host.app.slots _ k))

/-- Bound slots report when they are quiesced. -/
theorem quiesceCalls_bound (setup : Setup) (slots : List Slot) :
    (slots.map (Slot.bind setup)).reverse.flatMap (fun slot =>
        if slot.communicationBound then slot.quiesceCalls setup else []) =
      slots.reverse.flatMap (Slot.quiesceCalls setup) := by
  rw [← List.map_reverse, List.flatMap_map]
  rfl

/-- What a bind leaves of a Device none of whose slots was bound. -/
inductive BindResult (setup : Setup) (answers : Key → RtErr) (host : Host) :
    Host × RtErr → Prop
  | bound (after : Host) (hslots : after.registered = host.registered.map (Slot.bind setup))
      (hlog : after.log = host.log ++ host.registered.flatMap (Slot.bindCalls setup)) :
      BindResult setup answers host (after, .ok)
  | failed (after : Host) (done rest : List Slot) (failing : Slot) (ret : RtErr)
      (hsplit : host.registered = done ++ failing :: rest) (hret : ret ≠ .ok)
      (hslots : after.registered =
        done.map (fun slot => (slot.bind setup).unbind) ++ failing :: rest)
      (hlog : after.log = host.log ++ done.flatMap (Slot.bindCalls setup) ++
        [.communicationBind failing.key ret] ++ done.reverse.flatMap (Slot.quiesceCalls setup)) :
      BindResult setup answers host (after, ret)

theorem bindCommunication_free {setup : Setup} {answers : Key → RtErr} {host : Host}
    (hfree : ∀ slot ∈ host.registered, slot.communicationBound = false) :
    BindResult setup answers host (host.bindCommunication setup true answers) ∧
      (∀ i, host.app.count ≤ i →
        (host.bindCommunication setup true answers).1.app.slots i = host.app.slots i) ∧
      (host.bindCommunication setup true answers).1.frame = host.frame := by
  have hframes : ∀ items : List Nat,
      (run (fun s i => (bindSlot setup answers s i).1) host items).frame = host.frame :=
    @run_invariant _ _ _ (fun after : Host => after.frame = host.frame)
      (fun s i h => (bindSlot_frame setup answers s i).trans h) host rfl
  unfold bindCommunication
  rw [Bool.not_true, if_neg Bool.false_ne_true]
  rcases runWhile_cases .ok (bindSlot setup answers) host (List.range host.app.count) with
    ⟨hsteps, hrun⟩ | ⟨done, k, rest, hsplit, hsteps, hbad, hrun⟩
  · obtain ⟨-, hcells, hlog⟩ := bindSlots hsteps
    have hframe := hframes (List.range host.app.count)
    rw [hrun]
    refine ⟨.bound _ ?_ hlog, fun i hi => (hcells i).trans (if_neg (by omega)), hframe⟩
    rw [registered, count_of_frame hframe]
    exact cells_map fun i hi => (hcells i).trans (if_pos hi)
  · obtain ⟨rfl, hk⟩ := eq_range_of_split hsplit
    obtain ⟨-, hcells, hlog⟩ := bindSlots hsteps
    have hlast : (run (fun s i => (bindSlot setup answers s i).1) host (List.range k)).app.slots k =
        host.app.slots k := (hcells k).trans (if_neg (Nat.lt_irrefl k))
    have hunbound : (host.app.slots k).communicationBound = false :=
      hfree _ (getElem_mem_cells hk)
    obtain ⟨hret, -, hcells', hlog'⟩ := bindSlot_failed (by rw [hlast]; exact hunbound) hbad
    have hframe := (bindSlot_frame setup answers _ k).trans (hframes (List.range k))
    have hslots : ∀ i, (bindSlot setup answers
        (run (fun s i => (bindSlot setup answers s i).1) host (List.range k)) k).1.app.slots i =
          if i < k then ((host.app.slots i).bind setup).unbind else host.app.slots i := by
      intro i
      rw [hcells', hcells]
      split <;> rfl
    have hfront : cells (run (fun s i => (bindSlot setup answers s i).1) host
        (List.range k)).app.slots k = (cells host.app.slots k).map (Slot.bind setup) :=
      cells_map fun i hi => (hcells i).trans (if_pos hi)
    have hregistered : host.registered =
        cells host.app.slots k ++ host.app.slots k :: host.registered.drop (k + 1) := by
      have hget : host.registered[k]? = some (host.app.slots k) := by
        simp [registered, cells, hk]
      have hlength : k < host.registered.length := by
        rwa [registered, length_cells]
      rw [List.getElem?_eq_getElem hlength] at hget
      rw [← Option.some.inj hget, ← List.drop_eq_getElem_cons hlength, registered,
        ← take_cells host.app.slots (Nat.le_of_lt hk), List.take_append_drop]
    rw [hrun]
    clear hrun hcells'
    generalize bindSlot setup answers
      (run (fun s i => (bindSlot setup answers s i).1) host (List.range k)) k = result
        at hbad hret hlog' hframe hslots ⊢
    obtain ⟨after, ret⟩ := result
    refine ⟨?_, fun i hi => (hslots i).trans (if_neg (by omega)), hframe⟩
    refine BindResult.failed _ (cells host.app.slots k) _ (host.app.slots k) _ hregistered hbad
      ?_ ?_
    · have hsplit' : cells after.app.slots host.app.count =
          (host.registered.take k).map (fun slot => (slot.bind setup).unbind) ++
            host.registered.drop k :=
        cells_split (Nat.le_of_lt hk) (fun i hi => (hslots i).trans (if_pos hi))
          (fun i hi => (hslots i).trans (if_neg (by omega)))
      have hdrop : host.registered.drop k = host.app.slots k :: host.registered.drop (k + 1) := by
        have hlength : (cells host.app.slots k).length = k := length_cells ..
        conv_lhs => rw [hregistered]
        rw [List.drop_left' hlength]
      rw [registered, count_of_frame hframe, hsplit', hdrop, registered,
        take_cells _ (Nat.le_of_lt hk)]
    · dsimp only at hlog' hret
      rw [hlog', hret, hlog, hlast, hfront, quiesceCalls_bound]

/-- A bind finds the first slot bound already. -/
theorem bindCommunication_busy {setup : Setup} {answers : Key → RtErr} {host : Host}
    (hcount : 0 < host.app.count) (hbound : (host.app.slots 0).communicationBound = true) :
    host.bindCommunication setup true answers = (host, .busy) := by
  obtain ⟨count, hcount⟩ := Nat.exists_eq_add_of_lt hcount
  have hfirst : bindSlot setup answers host 0 = (host, .busy) := by
    unfold bindSlot
    exact if_pos hbound
  rw [bindCommunication, Bool.not_true, if_neg Bool.false_ne_true, hcount, Nat.zero_add,
    List.range_succ_eq_map, runWhile, hfirst]
  exact if_neg (by simp)

/-! ### Final teardown -/

theorem deinitSlot_slots (setup : Setup) (host : Host) (i : Nat) :
    (deinitSlot setup host i).app.slots =
      Function.update host.app.slots i (host.app.slots i).retire := by
  unfold deinitSlot
  dsimp only
  rw [setSlot_slots, emitIf_app, emitIf_app]
  rfl

theorem deinitSlot_log (setup : Setup) (host : Host) (i : Nat) :
    (deinitSlot setup host i).log = host.log ++
      (host.app.slots i).deinitCalls setup (host.app.slots i).deinitRequired := by
  unfold deinitSlot
  dsimp only
  rw [setSlot_log, emitIf_log, emitIf_log, List.append_assoc]
  rfl

theorem deinitSlot_frame (setup : Setup) (host : Host) (i : Nat) :
    (deinitSlot setup host i).frame = host.frame := by
  unfold deinitSlot
  dsimp only
  rw [setSlot_frame, emitIf_frame, emitIf_frame]

theorem isSome_retire_ops {slot : Slot} (h : slot.ops.isSome = true) :
    slot.retire.ops.isSome = slot.release.isNone := by
  unfold Slot.retire
  cases hrelease : slot.release with
  | none => simpa using h
  | some release => rfl

/-- The final teardown: what is left, what was called, and that the rest of the array is clear. -/
theorem runtimeDeinit_spec (setup : Setup) {host : Host}
    (hops : ∀ slot ∈ host.registered, slot.ops.isSome = true)
    (htail : ∀ i, host.app.count ≤ i → host.app.slots i = {}) :
    (host.runtimeDeinit setup).registered =
        (host.registered.filter fun slot => slot.release.isNone).map Slot.retire ∧
      (host.runtimeDeinit setup).log = host.log ++ host.registered.reverse.flatMap
        (fun slot => slot.deinitCalls setup slot.deinitRequired) ∧
      (∀ i, (host.runtimeDeinit setup).app.count ≤ i →
        (host.runtimeDeinit setup).app.slots i = {}) ∧
      (host.runtimeDeinit setup).registry = host.registry ∧
      (host.runtimeDeinit setup).app.canOpenStack = host.app.canOpenStack := by
  obtain ⟨hcells, hlog⟩ := run_visits (fun s : Host => s.app.slots) Host.log Slot.retire
    (fun slot => slot.deinitCalls setup slot.deinitRequired) (P := fun _ _ => True)
    (fun s i _ => deinitSlot_slots setup s i) (fun s i _ => deinitSlot_log setup s i)
    ((List.reverse_perm _).nodup_iff.mpr List.nodup_range)
    (everyStep_of_forall (fun _ _ => trivial) host (List.range host.app.count).reverse)
  have hframe : (run (deinitSlot setup) host (List.range host.app.count).reverse).frame =
      host.frame :=
    @run_invariant _ _ _ (fun after : Host => after.frame = host.frame)
      (fun s i h => (deinitSlot_frame setup s i).trans h) host rfl _
  have hretired : cells (run (deinitSlot setup) host
      (List.range host.app.count).reverse).app.slots host.app.count =
        host.registered.map Slot.retire :=
    cells_map fun i hi => (hcells i).trans (if_pos (by simpa using hi))
  have hblank : ∀ i, i < host.app.count →
      ((run (deinitSlot setup) host (List.range host.app.count).reverse).app.slots i).ops.isSome =
        false →
      (run (deinitSlot setup) host (List.range host.app.count).reverse).app.slots i = {} := by
    intro i hi hnone
    have hcell := (hcells i).trans (if_pos (by simpa using hi))
    rw [hcell] at hnone ⊢
    rw [isSome_retire_ops (hops _ (getElem_mem_cells hi))] at hnone
    unfold Slot.retire
    rw [if_pos]
    cases hrelease : (host.app.slots i).release with
    | none =>
        rw [hrelease] at hnone
        cases hnone
    | some release => rfl
  have hcompacted := @run_compactCell _ (fun slot : Slot => slot.ops.isSome) {} _ _ hblank
  have hkept : ((host.registered.map Slot.retire).filter fun slot => slot.ops.isSome) =
      (host.registered.filter fun slot => slot.release.isNone).map Slot.retire := by
    rw [List.filter_map]
    congr 1
    apply List.filter_congr
    intro slot hslot
    exact isSome_retire_ops (hops slot hslot)
  unfold runtimeDeinit
  dsimp only
  rw [count_of_frame hframe]
  refine ⟨?_, ?_, ?_, congrArg Prod.fst hframe, canOpenStack_of_frame hframe⟩
  · exact hcompacted.kept.trans (by rw [hretired, hkept])
  · exact hlog.trans (congrArg (host.log ++ ·) (flatMap_range_reverse host.app.slots
      (fun slot => slot.deinitCalls setup slot.deinitRequired) host.app.count))
  · intro i hi
    by_cases hless : i < host.app.count
    · exact hcompacted.blank i hi hless
    · have hrest := hcompacted.rest i (Nat.le_of_not_lt hless)
      have hcell := (hcells i).trans (if_neg (by simpa using Nat.le_of_not_lt hless))
      exact hrest.trans (hcell.trans (htail i (Nat.le_of_not_lt hless)))

end Host

end CanopenRtt.Lifecycle
