import CanopenRtt.Driver.FilterRefresh
import CanopenRtt.Support.Threads
/-!
# Receive rules, refreshes and normal mode in any interleaving

Any number of threads are inside `CO_CANrxBufferInit`, `co_rtt_can_filter_refresh` or
`CO_CANsetNormalMode` of `port/rtthread/CO_driver_rtthread.c`. A section that holds
`rxRuleMutex` is one step; everything between two sections interleaves.
-/

namespace CanopenRtt.Driver

open Support

inductive FilterCall where
  | rxBufferInit (index : Nat) (args : RxArgs)
  | refresh (force : Bool)
  | setNormalMode

/-- What a refresh is made for: a raised dirty flag, a caller that forces it, or
`CO_CANsetNormalMode`. -/
inductive RefreshKind where
  | deferred
  | forced
  | normalMode
  deriving DecidableEq

def RefreshKind.force : RefreshKind → Bool
  | .deferred => false
  | .forced | .normalMode => true

/-- The next step of a call. -/
inductive FilterPc where
  | publish (index : Nat) (args : RxArgs)
  | published
  | test (kind : RefreshKind)
  | refreshing (kind : RefreshKind)
  | clearNormal
  | setMode
  | startRx
  | startDevice
  | raiseNormal
  | finished

/-- What the environment answers to a step: the refresh, and whether the mode command,
`co_rtt_rx_start` or the start command succeeds. -/
structure StepAnswers extends RefreshAnswers where
  accepted : Bool

def FilterCall.entry (m : FilterModule) : FilterCall → FilterPc
  | .rxBufferInit index args =>
      if index < m.rxArray.length then .publish index args else .finished
  | .refresh force => .test (if force then .forced else .deferred)
  | .setNormalMode => .clearNormal

/-- Where a refresh returns to. -/
def FilterPc.afterRefresh (kind : RefreshKind) (ret : RtErr) : FilterPc :=
  if kind = .normalMode ∧ ret = .ok then .startRx else .finished

/-- One step of a call. -/
def FilterPc.advance (range : BankRange) (answers : StepAnswers) (m : FilterModule) :
    FilterPc → FilterModule × FilterPc
  | .publish index args =>
      if answers.locked then
        ({ m with rxArray := m.rxArray.set index (canRxBuffer args), rxFilterDirty := true },
          .published)
      else (m, .finished)
  | .published => (m, if m.canNormal then .test .deferred else .finished)
  | .test kind =>
      match refreshTest range kind.force m with
      | (m', some ret) => (m', .afterRefresh kind ret)
      | (m', none) => (m', .refreshing kind)
  | .refreshing kind =>
      let (m', ret, _) := refreshLocked range kind.force answers.toRefreshAnswers m
      (m', .afterRefresh kind ret)
  | .clearNormal => ({ m with canNormal := false }, .setMode)
  | .setMode => (m, if answers.accepted then .test .normalMode else .finished)
  | .startRx => (m, if answers.accepted then .startDevice else .finished)
  | .startDevice => (m, if answers.accepted then .raiseNormal else .finished)
  | .raiseNormal => ({ m with canNormal := true }, .finished)
  | .finished => (m, .finished)

/-- A module and the calls in progress. -/
structure FilterSystem where
  canModule : FilterModule
  threads : List FilterPc

inductive FilterAction where
  | call (call : FilterCall)
  | advance (thread : Nat) (answers : StepAnswers)

namespace FilterSystem

/-- After `CO_CANmodule_init`; the banks hold anything. -/
def start (maxhdr : Option Nat) (size : Nat) (banks : Banks) : FilterSystem where
  canModule :=
    { maxhdr := maxhdr
      rxArray := List.replicate size CanRx.empty
      canNormal := false
      rxFilterDirty := true
      useCANrxFilters := false
      banks := banks }
  threads := []

def step (range : BankRange) (s : FilterSystem) : FilterAction → FilterSystem
  | .call call => { s with threads := s.threads ++ [call.entry s.canModule] }
  | .advance thread answers =>
      match s.threads[thread]? with
      | none => s
      | some pc =>
          let (m, pc') := pc.advance range answers s.canModule
          { canModule := m, threads := s.threads.set thread pc' }

end FilterSystem

/-- The forced refresh of this `CO_CANsetNormalMode` has succeeded. -/
def FilterPc.raising : FilterPc → Bool
  | .startRx | .startDevice | .raiseNormal => true
  | _ => false

/-- Inside `CO_CANsetNormalMode`. -/
def FilterPc.inNormalMode : FilterPc → Bool
  | .test kind | .refreshing kind => decide (kind = .normalMode)
  | .clearNormal | .setMode | .startRx | .startDevice | .raiseNormal => true
  | _ => false

/-- `CANnormal` is set, or a call is about to set it. -/
def FilterSystem.Armed (s : FilterSystem) : Prop :=
  s.canModule.canNormal = true ∨ ∃ pc ∈ s.threads, pc.raising = true

/-- A forced refresh that fails does so while `CANnormal` is low and no call is about to
set it, or leaves the banks as they were. -/
def Contained (range : BankRange) (s : FilterSystem) : FilterAction → Prop
  | .call _ => True
  | .advance thread answers =>
      ∀ kind, s.threads[thread]? = some (.refreshing kind) → kind.force = true →
        (refreshLocked range true answers.toRefreshAnswers s.canModule).2.1 ≠ .ok →
          ¬ s.Armed ∨
            (refreshLocked range true answers.toRefreshAnswers s.canModule).1.banks =
              s.canModule.banks

/-- Refreshes are forced by `CO_CANsetNormalMode` alone, and one such call runs at a time. -/
def Exclusive (s : FilterSystem) : FilterAction → Prop
  | .call (.refresh force) => force = false
  | .call .setNormalMode => ∀ pc ∈ s.threads, pc.inNormalMode = false
  | _ => True

/-! ### Armed banks cover the rules -/

namespace FilterSystem

/-- The rule array is filled, and the banks cover it where normal mode can rely on them. -/
structure Inv (range : BankRange) (s : FilterSystem) : Prop where
  filled : Filled s.canModule.rxArray
  covered : s.Armed → s.canModule.rxFilterDirty = false → Covered range s.canModule

theorem start_inv (range : BankRange) (maxhdr : Option Nat) (size : Nat) (banks : Banks) :
    (start maxhdr size banks).Inv range where
  filled := .cleared size
  covered _ hclean := nomatch hclean

end FilterSystem

theorem Covered.congr {range : BankRange} {m m' : FilterModule} (h : Covered range m)
    (hrules : m'.rxArray = m.rxArray) (hbanks : m'.banks = m.banks) : Covered range m' := by
  intro msg hfound
  rw [hrules] at hfound
  rw [hbanks]
  exact h msg hfound

/-- What a step of a call does to the module. -/
inductive AdvanceOutcome (range : BankRange) (answers : StepAnswers) (m : FilterModule) :
    FilterPc → FilterModule × FilterPc → Prop where
  /-- Rules, flags and banks stay. -/
  | stays (pc pc' : FilterPc) (m' : FilterModule) (hsame : SameRules m m')
      (hdirty : m'.rxFilterDirty = m.rxFilterDirty) (hbanks : m'.banks = m.banks)
      (hraising : pc'.raising = true → pc.raising = true) :
      AdvanceOutcome range answers m pc (m', pc')
  | publishes (index : Nat) (args : RxArgs) :
      AdvanceOutcome range answers m (.publish index args)
        ({ m with rxArray := m.rxArray.set index (canRxBuffer args), rxFilterDirty := true },
          .published)
  | rebuilt (kind : RefreshKind) (pc' : FilterPc) (m' : FilterModule) (rebuild : Rebuild)
      (h : Refreshed range m m' rebuild) :
      AdvanceOutcome range answers m (.refreshing kind) (m', pc')
  | failed (kind : RefreshKind) (m' : FilterModule) (ret : RtErr) (report : Option Rebuild)
      (hforced : kind.force = true ∨ m.rxFilterDirty = true)
      (hrefresh : refreshLocked range kind.force answers.toRefreshAnswers m = (m', ret, report))
      (hret : ret ≠ .ok) (hsame : SameRules m m') (hdirty : m'.rxFilterDirty = m.rxFilterDirty) :
      AdvanceOutcome range answers m (.refreshing kind) (m', .finished)
  | clears : AdvanceOutcome range answers m .clearNormal ({ m with canNormal := false }, .setMode)
  | raises : AdvanceOutcome range answers m .raiseNormal ({ m with canNormal := true }, .finished)

theorem FilterPc.afterRefresh_failed {kind : RefreshKind} {ret : RtErr} (h : ret ≠ .ok) :
    FilterPc.afterRefresh kind ret = .finished := by
  rw [afterRefresh, if_neg]
  exact fun hok => h hok.2

theorem FilterPc.afterRefresh_deferred {kind : RefreshKind} (h : kind.force = false)
    (ret : RtErr) : FilterPc.afterRefresh kind ret = .finished := by
  rw [afterRefresh, if_neg]
  rintro ⟨rfl, -⟩
  contradiction

theorem advance_refreshing (range : BankRange) (answers : StepAnswers) (m : FilterModule)
    (kind : RefreshKind) : (FilterPc.refreshing kind).advance range answers m =
      ((refreshLocked range kind.force answers.toRefreshAnswers m).1,
        .afterRefresh kind (refreshLocked range kind.force answers.toRefreshAnswers m).2.1) := rfl

theorem refreshing_outcome (range : BankRange) (answers : StepAnswers) (m : FilterModule)
    (kind : RefreshKind) : AdvanceOutcome range answers m (.refreshing kind)
      ((FilterPc.refreshing kind).advance range answers m) := by
  have houtcome := refreshLocked_outcome range kind.force answers.toRefreshAnswers m
  rw [advance_refreshing]
  generalize hrefresh : refreshLocked range kind.force answers.toRefreshAnswers m = result
    at houtcome ⊢
  cases houtcome with
  | current hforce hclean =>
      dsimp only
      rw [FilterPc.afterRefresh_deferred hforce]
      exact .stays _ _ _ ⟨rfl, rfl, rfl⟩ rfl rfl nofun
  | refused ret hret =>
      dsimp only
      rw [FilterPc.afterRefresh_failed hret]
      exact .stays _ _ _ ⟨rfl, rfl, rfl⟩ rfl rfl nofun
  | rebuilt m' rebuild h => exact .rebuilt _ _ _ _ h
  | failed m' ret report hret hforced hsame hdirty =>
      dsimp only
      rw [FilterPc.afterRefresh_failed hret]
      exact .failed _ _ _ _ hforced hrefresh hret hsame hdirty

theorem test_outcome (range : BankRange) (answers : StepAnswers) (m : FilterModule)
    (kind : RefreshKind) : AdvanceOutcome range answers m (.test kind)
      ((FilterPc.test kind).advance range answers m) := by
  unfold FilterPc.advance
  dsimp only
  unfold refreshTest
  by_cases hclean : kind.force = false ∧ m.rxFilterDirty = false
  · rw [if_pos hclean]
    dsimp only
    rw [FilterPc.afterRefresh_deferred hclean.1]
    exact .stays _ _ _ ⟨rfl, rfl, rfl⟩ rfl rfl nofun
  · rw [if_neg hclean]
    by_cases hrange : bankRangeValid range m.maxhdr = false
    · rw [if_pos hrange]
      dsimp only
      rw [@FilterPc.afterRefresh_failed kind .error nofun]
      exact .stays _ _ _ ⟨rfl, rfl, rfl⟩ rfl rfl nofun
    · rw [if_neg hrange]
      exact .stays _ _ _ ⟨rfl, rfl, rfl⟩ rfl rfl nofun

theorem advance_outcome (range : BankRange) (answers : StepAnswers) (m : FilterModule)
    (pc : FilterPc) : AdvanceOutcome range answers m pc (pc.advance range answers m) := by
  have hstays : ∀ pc', (pc'.raising = true → pc.raising = true) →
      AdvanceOutcome range answers m pc (m, pc') :=
    fun pc' hraising => .stays _ _ _ ⟨rfl, rfl, rfl⟩ rfl rfl hraising
  cases pc with
  | publish index args =>
      by_cases hlocked : answers.locked = true
      · have hadvance : (FilterPc.publish index args).advance range answers m =
            ({ m with rxArray := m.rxArray.set index (canRxBuffer args), rxFilterDirty := true },
              .published) := if_pos hlocked
        rw [hadvance]
        exact .publishes index args
      · have hadvance : (FilterPc.publish index args).advance range answers m = (m, .finished) :=
          if_neg hlocked
        rw [hadvance]
        exact hstays _ nofun
  | published =>
      refine hstays _ ?_
      split <;> nofun
  | test kind => exact test_outcome range answers m kind
  | refreshing kind => exact refreshing_outcome range answers m kind
  | clearNormal => exact .clears
  | setMode =>
      refine hstays _ ?_
      split <;> nofun
  | startRx => exact hstays _ fun _ => rfl
  | startDevice => exact hstays _ fun _ => rfl
  | raiseNormal => exact .raises
  | finished => exact hstays _ nofun

namespace FilterSystem

/-- After a step of a call the module is armed only if it was, or the call began to raise. -/
theorem armed_of_set {m m' : FilterModule} {threads : List FilterPc} {thread : Nat}
    {pc pc' : FilterPc} (hat : threads[thread]? = some pc)
    (h : Armed { canModule := m', threads := threads.set thread pc' })
    (hnormal : m'.canNormal = true → m.canNormal = true ∨ pc.raising = true)
    (hraising : pc'.raising = true → pc.raising = true) :
    Armed { canModule := m, threads := threads } := by
  have hmem : pc ∈ threads := List.mem_of_getElem? hat
  rcases h with hset | ⟨other, hother, hraises⟩
  · exact (hnormal hset).imp_right fun hpc => ⟨pc, hmem, hpc⟩
  · rcases List.mem_or_eq_of_mem_set hother with hold | rfl
    · exact Or.inr ⟨other, hold, hraises⟩
    · exact Or.inr ⟨pc, hmem, hraising hraises⟩

theorem step_advance {range : BankRange} {s : FilterSystem} {thread : Nat} {pc : FilterPc}
    (answers : StepAnswers) (hat : s.threads[thread]? = some pc) :
    s.step range (.advance thread answers) =
      { canModule := (pc.advance range answers s.canModule).1
        threads := s.threads.set thread (pc.advance range answers s.canModule).2 } := by
  rw [FilterSystem.step, hat]

theorem step_advance_none {range : BankRange} {s : FilterSystem} {thread : Nat}
    (answers : StepAnswers) (hat : s.threads[thread]? = none) :
    s.step range (.advance thread answers) = s := by
  rw [FilterSystem.step, hat]

theorem entry_raising (m : FilterModule) (call : FilterCall) :
    (call.entry m).raising = false := by
  cases call with
  | rxBufferInit index args =>
      rw [FilterCall.entry]
      split <;> rfl
  | refresh force => rfl
  | setNormalMode => rfl

/-- A step whose failures are contained keeps the banks over the rules. -/
theorem Inv.step {range : BankRange} {s : FilterSystem} (h : s.Inv range)
    (action : FilterAction) (hcontained : Contained range s action) :
    (s.step range action).Inv range := by
  cases action with
  | call call =>
      refine ⟨h.filled, fun harmed hclean => h.covered ?_ hclean⟩
      refine harmed.imp_right ?_
      rintro ⟨pc, hmem, hraising⟩
      rcases List.mem_append.mp hmem with hold | hnew
      · exact ⟨pc, hold, hraising⟩
      · rw [List.mem_singleton.mp hnew, entry_raising] at hraising
        contradiction
  | advance thread answers =>
      cases hat : s.threads[thread]? with
      | none =>
        rw [step_advance_none answers hat]
        exact h
      | some pc =>
        rw [step_advance answers hat]
        obtain ⟨m, threads⟩ := s
        dsimp only at hat ⊢
        have houtcome := advance_outcome range answers m pc
        generalize pc.advance range answers m = result at houtcome ⊢
        cases houtcome with
        | stays _ pc' m' hsame hdirty hbanks hraising =>
            refine ⟨hsame.rxArray ▸ h.filled, fun harmed hclean => ?_⟩
            have hnormal : m'.canNormal = true → m.canNormal = true ∨ pc.raising = true :=
              fun hset => Or.inl (hsame.canNormal ▸ hset)
            have hbefore := h.covered (armed_of_set hat harmed hnormal hraising)
              (hdirty.symm.trans hclean)
            exact hbefore.congr hsame.rxArray hbanks
        | publishes index args =>
            exact ⟨.bufferInit _ index args h.filled, fun _ hclean => nomatch hclean⟩
        | rebuilt kind pc' m' rebuild hrefreshed =>
            exact ⟨hrefreshed.same.rxArray ▸ h.filled, fun _ _ => hrefreshed.covered h.filled⟩
        | failed kind m' ret report hforced hrefresh hret hsame hdirty =>
            refine ⟨hsame.rxArray ▸ h.filled, fun harmed hclean => ?_⟩
            have hcleanBefore : m.rxFilterDirty = false := hdirty.symm.trans hclean
            have hforce : kind.force = true := by
              rcases hforced with hforce | hraised
              · exact hforce
              · rw [hcleanBefore] at hraised
                contradiction
            have harmedBefore : Armed { canModule := m, threads := threads } :=
              armed_of_set hat harmed (fun hset => Or.inl (hsame.canNormal ▸ hset))
                fun hraises => nomatch hraises
            rw [hforce] at hrefresh
            have hfailure := hcontained kind hat hforce
            dsimp only at hfailure
            rw [hrefresh] at hfailure
            rcases hfailure hret with hlow | hbanks
            · exact absurd harmedBefore hlow
            · exact (h.covered harmedBefore hcleanBefore).congr hsame.rxArray hbanks
        | clears =>
            refine ⟨h.filled, fun harmed hclean => ?_⟩
            have harmedBefore : Armed { canModule := m, threads := threads } :=
              armed_of_set hat harmed (fun hset => nomatch hset) fun hraises => nomatch hraises
            exact (h.covered harmedBefore hclean).congr rfl rfl
        | raises =>
            refine ⟨h.filled, fun harmed hclean => ?_⟩
            have harmedBefore : Armed { canModule := m, threads := threads } :=
              Or.inr ⟨.raiseNormal, List.mem_of_getElem? hat, rfl⟩
            exact (h.covered harmedBefore hclean).congr rfl rfl

/-- In every run whose forced failures are contained, normal mode with a clean flag
means banks that cover the rules. -/
theorem covered_of_run {range : BankRange} {maxhdr : Option Nat} {size : Nat} {banks : Banks}
    {actions : List FilterAction}
    (h : EveryStep (step range) (Contained range) (start maxhdr size banks) actions) :
    (run (step range) (start maxhdr size banks) actions).Inv range :=
  run_invariant_of_everyStep (fun _ action hinv hcontained => hinv.step action hcontained)
    (start_inv range maxhdr size banks) h

end FilterSystem

/-! ### One call of `CO_CANsetNormalMode` at a time -/

/-- A refresh that a caller forces. -/
def FilterPc.isForced : FilterPc → Bool
  | .test kind | .refreshing kind => decide (kind = .forced)
  | _ => false

/-- What a step of a call can become, and when it leaves `CANnormal` set. -/
structure AdvanceMoves (m : FilterModule) (pc : FilterPc) (result : FilterModule × FilterPc) :
    Prop where
  inNormalMode : result.2.inNormalMode = true → pc.inNormalMode = true
  isForced : result.2.isForced = true → pc.isForced = true
  canNormal : result.1.canNormal = true →
    pc ≠ .clearNormal ∧ (m.canNormal = true ∨ pc = .raiseNormal ∧ result.2 = .finished)

theorem AdvanceMoves.of_finished {m m' : FilterModule} {pc : FilterPc} (hpc : pc ≠ .clearNormal)
    (hsame : m'.canNormal = m.canNormal) : AdvanceMoves m pc (m', .finished) where
  inNormalMode h := nomatch h
  isForced h := nomatch h
  canNormal h := ⟨hpc, Or.inl (hsame ▸ h)⟩

/-- After a refresh, `CO_CANsetNormalMode` goes on and other callers are finished. -/
theorem afterRefresh_moves {m m' : FilterModule} {pc : FilterPc} {kind : RefreshKind}
    (ret : RtErr) (hpc : pc = .test kind ∨ pc = .refreshing kind)
    (hsame : m'.canNormal = m.canNormal) :
    AdvanceMoves m pc (m', .afterRefresh kind ret) := by
  have hclear : pc ≠ .clearNormal := by
    rintro rfl
    rcases hpc with h | h <;> contradiction
  unfold FilterPc.afterRefresh
  split
  · rename_i hnormal
    refine ⟨fun _ => ?_, nofun, fun h => ⟨hclear, Or.inl (hsame ▸ h)⟩⟩
    rcases hpc with rfl | rfl <;> exact decide_eq_true hnormal.1
  · exact .of_finished hclear hsame

theorem advance_moves (range : BankRange) (answers : StepAnswers) (m : FilterModule)
    (pc : FilterPc) : AdvanceMoves m pc (pc.advance range answers m) := by
  cases pc with
  | publish index args =>
      unfold FilterPc.advance
      dsimp only
      split
      · exact ⟨nofun, nofun, fun h => ⟨nofun, Or.inl h⟩⟩
      · exact .of_finished nofun rfl
  | published =>
      unfold FilterPc.advance
      dsimp only
      split
      · exact ⟨nofun, nofun, fun h => ⟨nofun, Or.inl h⟩⟩
      · exact .of_finished nofun rfl
  | test kind =>
      unfold FilterPc.advance
      dsimp only
      unfold refreshTest
      by_cases hclean : kind.force = false ∧ m.rxFilterDirty = false
      · rw [if_pos hclean]
        exact afterRefresh_moves .ok (Or.inl rfl) rfl
      · rw [if_neg hclean]
        by_cases hrange : bankRangeValid range m.maxhdr = false
        · rw [if_pos hrange]
          exact afterRefresh_moves .error (Or.inl rfl) rfl
        · rw [if_neg hrange]
          exact ⟨id, id, fun h => ⟨nofun, Or.inl h⟩⟩
  | refreshing kind =>
      rw [advance_refreshing]
      apply afterRefresh_moves _ (Or.inr rfl)
      have houtcome := refreshLocked_outcome range kind.force answers.toRefreshAnswers m
      generalize refreshLocked range kind.force answers.toRefreshAnswers m = result at houtcome ⊢
      cases houtcome with
      | current => rfl
      | refused => rfl
      | rebuilt m' rebuild h => exact h.same.canNormal
      | failed m' ret report hret hforced hsame hdirty => exact hsame.canNormal
  | clearNormal => exact ⟨fun _ => rfl, nofun, nofun⟩
  | setMode =>
      unfold FilterPc.advance
      dsimp only
      split
      · exact ⟨fun _ => rfl, nofun, fun h => ⟨nofun, Or.inl h⟩⟩
      · exact .of_finished nofun rfl
  | startRx =>
      unfold FilterPc.advance
      dsimp only
      split
      · exact ⟨fun _ => rfl, nofun, fun h => ⟨nofun, Or.inl h⟩⟩
      · exact .of_finished nofun rfl
  | startDevice =>
      unfold FilterPc.advance
      dsimp only
      split
      · exact ⟨fun _ => rfl, nofun, fun h => ⟨nofun, Or.inl h⟩⟩
      · exact .of_finished nofun rfl
  | raiseNormal => exact ⟨nofun, nofun, fun _ => ⟨nofun, Or.inr ⟨rfl, rfl⟩⟩⟩
  | finished => exact .of_finished nofun rfl

theorem FilterPc.inNormalMode_of_raising {pc : FilterPc} (h : pc.raising = true) :
    pc.inNormalMode = true := by
  cases pc <;> first | rfl | contradiction

namespace FilterSystem

/-- At most one call is inside `CO_CANsetNormalMode`, nobody else forces a refresh, and
`CANnormal` is low once that call has started. -/
structure Alone (s : FilterSystem) : Prop where
  one : s.threads.countP FilterPc.inNormalMode ≤ 1
  forced : ∀ pc ∈ s.threads, pc.isForced = false
  low : s.canModule.canNormal = true →
    ∀ pc ∈ s.threads, pc.inNormalMode = true → pc = .clearNormal

theorem start_alone (maxhdr : Option Nat) (size : Nat) (banks : Banks) :
    (start maxhdr size banks).Alone where
  one := Nat.zero_le 1
  forced := by simp [start]
  low := by simp [start]

/-- A call joins without a second `CO_CANsetNormalMode`. -/
theorem Alone.call {range : BankRange} {s : FilterSystem} (h : s.Alone) {call : FilterCall}
    (hexclusive : Exclusive s (.call call)) : (s.step range (.call call)).Alone := by
  have hforced : (call.entry s.canModule).isForced = false := by
    cases call with
    | rxBufferInit index args =>
        rw [FilterCall.entry]
        split <;> rfl
    | refresh force =>
        have hforce : force = false := hexclusive
        rw [hforce]
        rfl
    | setNormalMode => rfl
  have hlow : (call.entry s.canModule).inNormalMode = true →
      call.entry s.canModule = .clearNormal ∧ ∀ pc ∈ s.threads, pc.inNormalMode = false := by
    intro hnormal
    cases call with
    | rxBufferInit index args =>
        rw [FilterCall.entry] at hnormal
        split at hnormal <;> contradiction
    | refresh force => cases force <;> contradiction
    | setNormalMode => exact ⟨rfl, hexclusive⟩
  refine ⟨?_, forall_mem_concat h.forced hforced, fun hset => ?_⟩
  · have hcount := countP_concat FilterPc.inNormalMode s.threads (call.entry s.canModule)
    unfold FilterSystem.step
    dsimp only
    rw [hcount]
    cases hnormal : (call.entry s.canModule).inNormalMode with
    | false => exact h.one
    | true =>
        have hzero : s.threads.countP FilterPc.inNormalMode = 0 := by
          rw [List.countP_eq_zero]
          intro pc hmem
          rw [(hlow hnormal).2 pc hmem]
          exact Bool.false_ne_true
        rw [hzero]
        exact Nat.le_refl 1
  · exact forall_mem_concat (h.low hset) fun hnormal => (hlow hnormal).1

theorem Alone.advance {range : BankRange} {s : FilterSystem} (h : s.Alone) (thread : Nat)
    (answers : StepAnswers) : (s.step range (.advance thread answers)).Alone := by
  cases hat : s.threads[thread]? with
  | none =>
      rw [step_advance_none answers hat]
      exact h
  | some pc =>
      rw [step_advance answers hat]
      have hmem : pc ∈ s.threads := List.mem_of_getElem? hat
      have hmoves := advance_moves range answers s.canModule pc
      generalize pc.advance range answers s.canModule = result at hmoves ⊢
      refine ⟨?_, ?_, fun hset other hother hnormal => ?_⟩
      · have hcount := countP_set_add FilterPc.inNormalMode result.2 hat
        have hone := h.one
        have hnormal := hmoves.inNormalMode
        dsimp only
        cases hafter : result.2.inNormalMode with
        | false =>
            rw [hafter, Bool.toNat_false] at hcount
            omega
        | true =>
            rw [hafter, hnormal hafter] at hcount
            omega
      · apply forall_mem_set h.forced
        have hbefore := h.forced pc hmem
        cases hafter : result.2.isForced with
        | false => rfl
        | true => exact (hmoves.isForced hafter).symm.trans hbefore
      · obtain ⟨hclear, hcan | ⟨rfl, hfinished⟩⟩ := hmoves.canNormal hset
        · rcases List.mem_or_eq_of_mem_set hother with hold | rfl
          · exact h.low hcan other hold hnormal
          · exact absurd (h.low hcan pc hmem (hmoves.inNormalMode hnormal)) hclear
        · have hlast : other = result.2 :=
            eq_of_mem_set_of_countP hat rfl h.one hother hnormal
          rw [hlast, hfinished] at hnormal
          contradiction

theorem Alone.step {range : BankRange} {s : FilterSystem} (h : s.Alone) (action : FilterAction)
    (hexclusive : Exclusive s action) : (s.step range action).Alone := by
  cases action with
  | call call => exact h.call hexclusive
  | advance thread answers => exact h.advance thread answers

/-- A forced refresh of the only `CO_CANsetNormalMode` finds nothing armed. -/
theorem Alone.contained {s : FilterSystem} (h : s.Alone) (range : BankRange)
    (action : FilterAction) : Contained range s action := by
  cases action with
  | call call => trivial
  | advance thread answers =>
      intro kind hat hforce _
      have hmem := List.mem_of_getElem? hat
      have hnormal : (FilterPc.refreshing kind).inNormalMode = true := by
        cases kind with
        | deferred => contradiction
        | forced =>
            have hforced := h.forced _ hmem
            contradiction
        | normalMode => rfl
      left
      rintro (hset | ⟨other, hother, hraising⟩)
      · have hclear := h.low hset _ hmem hnormal
        contradiction
      · have hself : s.threads.set thread (.refreshing kind) = s.threads := by
          obtain ⟨hlt, hget⟩ := List.getElem?_eq_some_iff.mp hat
          rw [← hget, List.set_getElem_self]
        rw [← hself] at hother
        have hlast : other = .refreshing kind := eq_of_mem_set_of_countP hat hnormal h.one hother
          (FilterPc.inNormalMode_of_raising hraising)
        rw [hlast] at hraising
        contradiction

/-- The calls of the driver are contained when `CO_CANsetNormalMode` alone forces a
refresh, whatever a failed programming leaves in the banks. -/
theorem contained_of_exclusive {range : BankRange} {maxhdr : Option Nat} {size : Nat}
    {banks : Banks} {actions : List FilterAction}
    (h : EveryStep (step range) Exclusive (start maxhdr size banks) actions) :
    EveryStep (step range) (Contained range) (start maxhdr size banks) actions :=
  everyStep_of_invariant (fun _ action halone hexclusive => halone.step action hexclusive)
    (fun _ action halone _ => halone.contained range action) (start_alone maxhdr size banks) h

end FilterSystem

/-! ### The ingress filter -/

/-- Compaction ends and keeps the accepted frames. A refresh that programs a table leaves
banks that cover the dispatcher, with no more rules than banks, and exactly the frames of
the active rules unless a merge was lossy or the table is the fallback; with two banks it is
the fallback only when the device has refused the compiled table. In runs whose forced
failures are contained, normal mode with a clean flag means covered rules; so it does in runs
where only `CO_CANsetNormalMode`, once at a time, forces a refresh. -/
theorem ingressFilter_complete :
    (∀ rules : RuleTable,
      (∃ passes, Scan.step (iterate Scan.step passes (Scan.start rules)) = none ∧
        (iterate Scan.step passes (Scan.start rules)).rules = filterCompact rules) ∧
      ∀ frame, Accepts (filterCompact rules) frame ↔ Accepts rules frame) ∧
    (∀ (range : BankRange) (force : Bool) (answers : RefreshAnswers) (m m' : FilterModule)
      (rebuild : Rebuild), Filled m.rxArray →
      canFilterRefresh range force answers m = (m', .ok, some rebuild) →
        Covered range m' ∧
        rebuild.rules.count ≤ range.count ∧
        (∀ i, i < range.capacity →
          m'.banks (range.base + i) = some ((filterConfig range rebuild.rules).items i)) ∧
        (rebuild.fallback = false → (∀ pair ∈ rebuild.merges, ¬ Lossy pair.1 pair.2) →
          ∀ frame, banksAccept range m'.banks frame = true ↔
            ∃ rx ∈ m'.rxArray, rx.active = true ∧ rx.Matches frame) ∧
        (rebuild.fallback = true → 2 ≤ range.capacity →
          ∃ c, compileIngressRules range.capacity m.rxArray = some c ∧
            (applyIngressRules range c.rules answers.compiled m.banks).2 ≠ .ok)) ∧
    (∀ (range : BankRange) (maxhdr : Option Nat) (size : Nat) (banks : Banks)
      (actions : List FilterAction),
      EveryStep (FilterSystem.step range) (Contained range)
          (FilterSystem.start maxhdr size banks) actions ∨
        EveryStep (FilterSystem.step range) Exclusive
          (FilterSystem.start maxhdr size banks) actions →
      let s := run (FilterSystem.step range) (FilterSystem.start maxhdr size banks) actions
      s.canModule.canNormal = true → s.canModule.rxFilterDirty = false →
        Covered range s.canModule) := by
  refine ⟨fun rules => ⟨⟨_, filterCompact_halts rules, rfl⟩, accepts_filterCompact rules⟩, ?_, ?_⟩
  · intro range force answers m m' rebuild hfilled hresult
    have houtcome := canFilterRefresh_outcome range force answers m
    rw [hresult] at houtcome
    cases houtcome with
    | failed _ _ _ hret => contradiction
    | rebuilt _ _ h =>
        have hcapacity : rebuild.rules.count ≤ range.capacity := h.built.count_le
        refine ⟨h.covered hfilled, ?_, h.programmed.items, fun hcompiled hlossless frame => ?_,
          fun hfallback htwo => ?_⟩
        · exact Nat.le_trans hcapacity (Nat.mod_le _ _)
        · rw [h.same.rxArray, h.programmed.banksAccept_iff hcapacity, ← hfilled.required_iff]
          exact h.built.accepts_iff hcompiled hlossless frame
        · exact refused_of_fallback htwo (congrArg (fun result => result.2.2) hresult) hfallback
  · intro range maxhdr size banks actions h s hnormal hclean
    have hcontained := h.elim id FilterSystem.contained_of_exclusive
    exact (FilterSystem.covered_of_run hcontained).covered (Or.inl hnormal) hclean

/-- A remote and a data rule compile into two banks, and normal mode is reached. -/
def twoRulesUp : List FilterAction :=
  let remote : RxArgs :=
    { ident := 0x200#16, mask := 0x7FF#16, rtr := true, object := 0, callback := some 1 }
  let data : RxArgs :=
    { ident := 0x100#16, mask := 0x7FF#16, rtr := false, object := 0, callback := some 2 }
  let succeed : StepAnswers :=
    { locked := true, compiled := .done, broad := .done, accepted := true }
  [.call (.rxBufferInit 0 remote), .advance 0 succeed, .advance 0 succeed,
    .call (.rxBufferInit 1 data), .advance 1 succeed, .advance 1 succeed,
    .call .setNormalMode, .advance 2 succeed, .advance 2 succeed, .advance 2 succeed,
    .advance 2 succeed, .advance 2 succeed, .advance 2 succeed, .advance 2 succeed]

/-- A forced refresh whose compiled table is refused at once, and whose broad table is
refused after its first bank was written. -/
def forcedFailure : List FilterAction :=
  let broadData : FilterItem :=
    { id := 0#16, ide := .std, rtr := .dtr, mode := .mask, mask := 0#16, hdrBank := 0
      rxfifo := 0 }
  let remote : FilterItem := { broadData with id := 0x200#16, rtr := .rtr, mask := 0x7FF#16 }
  let data : FilterItem := { broadData with id := 0x100#16, mask := 0x7FF#16, hdrBank := 1 }
  let before : Banks := fun bank =>
    if bank = 0 then some remote else if bank = 1 then some data else none
  let after : Banks := fun bank => if bank = 0 then some broadData else before bank
  let refuse : StepAnswers :=
    { locked := true, compiled := .failed 1 before, broad := .failed 1 after, accepted := true }
  [.call (.refresh true), .advance 3 refuse, .advance 3 refuse]

/-- The flag stays clean when a forced refresh fails in normal mode, and remote frames
that the dispatcher would match are rejected. -/
theorem forcedFailure_uncovers :
    ¬ ∀ (range : BankRange) (maxhdr : Option Nat) (size : Nat) (banks : Banks)
      (actions : List FilterAction),
      let s := run (FilterSystem.step range) (FilterSystem.start maxhdr size banks) actions
      s.canModule.canNormal = true → s.canModule.rxFilterDirty = false →
        Covered range s.canModule := by
  intro h
  have hcovered := h { base := 0, count := 2 } (some 14) 2 (fun _ => none)
    (twoRulesUp ++ forcedFailure) (by decide +kernel) (by decide +kernel)
  have haccepted := hcovered { id := 0x200#29, ide := .std, rtr := .rtr, len := 0#8 }
    (by decide +kernel)
  revert haccepted
  decide +kernel

/-- A module with one receive rule. -/
def oneRule : FilterModule where
  maxhdr := some 14
  rxArray := (List.replicate 1 CanRx.empty).set 0 (canRxBuffer
    { ident := 0x100#16, mask := 0x7FF#16, rtr := false, object := 0, callback := some 2 })
  canNormal := false
  rxFilterDirty := true
  useCANrxFilters := false
  banks _ := none

theorem ingressFilter_complete_twoRulesUp :
    (∃ m' rebuild, canFilterRefresh { base := 0, count := 2 } true
        { locked := true, compiled := .done, broad := .done } oneRule = (m', .ok, some rebuild) ∧
      Covered { base := 0, count := 2 } m') ∧
    Covered { base := 0, count := 2 }
      (run (FilterSystem.step { base := 0, count := 2 })
        (FilterSystem.start (some 14) 2 fun _ => none) twoRulesUp).canModule := by
  constructor
  · obtain ⟨m', rebuild, hresult⟩ : ∃ m' rebuild, canFilterRefresh { base := 0, count := 2 } true
        { locked := true, compiled := .done, broad := .done } oneRule =
          (m', .ok, some rebuild) := ⟨_, _, rfl⟩
    have hfilled : Filled oneRule.rxArray := .bufferInit _ 0 _ (.cleared 1)
    exact ⟨m', rebuild, hresult,
      (ingressFilter_complete.2.1 _ _ _ _ _ _ hfilled hresult).1⟩
  · refine ingressFilter_complete.2.2 { base := 0, count := 2 } (some 14) 2 (fun _ => none)
      twoRulesUp (Or.inr ?_) (by decide +kernel) (by decide +kernel)
    refine ⟨trivial, trivial, trivial, trivial, trivial, trivial, ?_, trivial, trivial, trivial,
      trivial, trivial, trivial, trivial, trivial⟩
    change ∀ pc ∈ [FilterPc.finished, FilterPc.finished], pc.inNormalMode = false
    decide

end CanopenRtt.Driver
