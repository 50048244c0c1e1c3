import CanopenRtt.Cia402.Controller.Core
import CanopenRtt.Cia402.Device.Moves
import Mathlib.Logic.Function.Iterate
/-!
# The command path to a target

The states a Device passes through when it serves, state by state, the command
that the Controller selects for a target. The two tables were written
independently; the lemmas here say how they fit.
-/

namespace CanopenRtt.Cia402

open Controller Device

/-- The state after `state` on the command path. A Device leaves
NOT_READY_TO_SWITCH_ON by itself. -/
def pathNext (target : Target) (state : State) : State :=
  if state = targetState target then state
  else if state = .notReadyToSwitchOn then .switchOnDisabled
  else
    match acceptedTransition state (commandForTarget state target).1 with
    | some (_, next) => next
    | none => state

/-- The path from `start`. -/
def pathAt (target : Target) (start : State) (n : Nat) : State :=
  (pathNext target)^[n] start

/-- The steps from `state` to the target, as far as the fuel lasts. -/
def stepsWithin (target : Target) : Nat → State → Nat
  | 0, _ => 0
  | fuel + 1, state =>
      if state = targetState target then 0
      else stepsWithin target fuel (pathNext target state) + 1

/-- The distance to the target under `commandForTarget`: no path is longer than
the number of PDS states. -/
def distance (target : Target) (state : State) : Nat := stepsWithin target 9 state

/-- A state of the normal graph: known, and outside the fault path. -/
def State.normal (state : State) : Bool := !state.faulted && state ≠ .unknown

/-- Policy lets the Controller command the state it sees, or there is nothing to command. -/
def Unblocked (target : Target) (state : State) : Prop :=
  state ≠ targetState target → (commandForTarget state target).2 = false

/-- `commandForTarget` is never blocked on the way from `start`. -/
def OpenPath (target : Target) (start : State) : Prop :=
  ∀ n, Unblocked target (pathAt target start n)

theorem targetState_ready (target : Target) : targetState target ≠ .notReadyToSwitchOn := by
  cases target <;> decide

theorem normal_pathNext {target : Target} {state : State} (h : state.normal = true) :
    (pathNext target state).normal = true ∧ pathNext target state ≠ .notReadyToSwitchOn := by
  cases state <;> cases target <;> first | exact absurd h (by decide) | decide

theorem distance_eq_zero {target : Target} {state : State} (h : state.normal = true)
    (hopen : Unblocked target state) : distance target state = 0 ↔ state = targetState target := by
  cases state <;> cases target <;>
    first | exact absurd h (by decide) | decide

theorem distance_pathNext {target : Target} {state : State} (h : state.normal = true)
    (hdistant : state ≠ targetState target) (hopen : Unblocked target state)
    (hnext : Unblocked target (pathNext target state)) :
    distance target (pathNext target state) + 1 = distance target state := by
  unfold Unblocked at hopen hnext
  revert hdistant hopen hnext
  cases state <;> cases target <;> first | exact absurd h (by decide) | decide

/-- How the Device takes the command that the Controller selects. -/
structure CommandFits (state next : State) (command : Command) : Prop where
  accepted : ∃ op, acceptedTransition state command = some (op, next)
  once : acceptedTransition next command = none
  disableVoltage : command = .disableVoltage → next = .switchOnDisabled
  quickStop : command = .quickStop → state = .operationEnabled ∧ next = .quickStopActive
  ordinary : command ≠ .unknown ∧ command ≠ .faultReset

/-- The command selected in a state is accepted there, leads to the next state of the
path, and is not accepted again in it. -/
theorem commandFits {target : Target} {state : State} (h : state.normal = true)
    (hready : state ≠ .notReadyToSwitchOn) (hdistant : state ≠ targetState target)
    (hopen : Unblocked target state) :
    CommandFits state (pathNext target state) (commandForTarget state target).1 := by
  have hcommand := hopen hdistant
  cases state <;> cases target <;>
    first
    | exact absurd h (by decide)
    | exact absurd rfl hready
    | exact absurd rfl hdistant
    | exact absurd hcommand (by decide)
    | exact ⟨⟨_, rfl⟩, by decide, by decide, by decide, by decide⟩

/-- A Device that has Disable Voltage to serve is in any normal state but one. -/
theorem disableVoltage_rejected {state : State} (h : state.normal = true)
    (hready : state ≠ .notReadyToSwitchOn)
    (hrejected : acceptedTransition state .disableVoltage = none) : state = .switchOnDisabled := by
  cases state <;> first | rfl | exact absurd h (by decide) | exact absurd rfl hready |
    exact absurd hrejected (by decide)

theorem pdsCommand_apply (controlword : Word) {command : Command} (hknown : command ≠ .unknown)
    (hreset : command ≠ .faultReset) :
    pdsCommand (applyControlwordUpdate controlword (commandUpdate command {})) = command := by
  obtain ⟨value, hvalue⟩ : ∃ value, commandValue command = some value := by
    cases command <;> first | exact ⟨_, rfl⟩ | exact absurd rfl hknown
  have happlied : applyControlwordUpdate controlword (commandUpdate command {}) =
      (controlword &&& ~~~pdsControlwordMask) ||| (value &&& pdsControlwordMask) := by
    simp [applyControlwordUpdate, commandUpdate, hvalue]
  have hkept : ∀ mask : Word, mask &&& pdsControlwordMask = mask →
      ((controlword &&& ~~~pdsControlwordMask) ||| (value &&& pdsControlwordMask)) &&& mask =
        value &&& mask := by
    intro mask hmask
    have hclear : ~~~pdsControlwordMask &&& mask = 0 := by
      rw [← hmask, BitVec.and_comm mask, ← BitVec.and_assoc,
        BitVec.and_comm (~~~pdsControlwordMask)]
      simp
    have hmask' : pdsControlwordMask &&& mask = mask := by
      rw [BitVec.and_comm]
      exact hmask
    rw [BitVec.and_or_distrib_right, BitVec.and_assoc, BitVec.and_assoc, hclear, hmask']
    simp
  rw [happlied]
  unfold pdsCommand decodeControlword
  simp only [BitVec.and_assoc]
  rw [hkept _ (by decide), hkept _ (by decide), hkept _ (by decide), hkept _ (by decide),
    hkept _ (by decide)]
  cases command <;> cases hvalue <;>
    first | exact absurd rfl hknown | exact absurd rfl hreset | decide

/-! ## Points of a path -/

section Points

variable {target : Target} {start : State}

@[simp] theorem pathAt_zero : pathAt target start 0 = start := rfl

theorem pathAt_succ (n : Nat) :
    pathAt target start (n + 1) = pathNext target (pathAt target start n) :=
  Function.iterate_succ_apply' _ _ _

theorem normal_pathAt (h : start.normal = true) (n : Nat) :
    (pathAt target start n).normal = true := by
  induction n with
  | zero => exact h
  | succ n ih =>
      rw [pathAt_succ]
      exact (normal_pathNext ih).1

theorem pathAt_ready (h : start.normal = true) {n : Nat}
    (hn : 0 < n ∨ start ≠ .notReadyToSwitchOn) :
    pathAt target start n ≠ .notReadyToSwitchOn := by
  cases n with
  | zero => exact hn.resolve_left (Nat.lt_irrefl 0)
  | succ n =>
      rw [pathAt_succ]
      exact (normal_pathNext (normal_pathAt h n)).2

theorem distance_pathAt (h : start.normal = true) (hopen : OpenPath target start) (n : Nat)
    (hn : n ≤ distance target start) :
    distance target (pathAt target start n) + n = distance target start := by
  induction n with
  | zero => rfl
  | succ n ih =>
      have hbefore := ih (Nat.le_of_succ_le hn)
      have hdistant : pathAt target start n ≠ targetState target := by
        intro hreached
        rw [(distance_eq_zero (normal_pathAt h n) (hopen n)).mpr hreached] at hbefore
        omega
      have hnext := hopen (n + 1)
      rw [pathAt_succ] at hnext ⊢
      have hcloser := distance_pathNext (normal_pathAt h n) hdistant (hopen n) hnext
      omega

/-- The target is reached after as many steps as its distance, and not before. -/
theorem pathAt_eq_target_iff (h : start.normal = true) (hopen : OpenPath target start) {n : Nat}
    (hn : n ≤ distance target start) :
    pathAt target start n = targetState target ↔ n = distance target start := by
  have hdistance := distance_pathAt h hopen n hn
  rw [← distance_eq_zero (normal_pathAt h n) (hopen n)]
  omega

theorem pathAt_injective (h : start.normal = true) (hopen : OpenPath target start) {n m : Nat}
    (hn : n ≤ distance target start) (hm : m ≤ distance target start)
    (heq : pathAt target start n = pathAt target start m) : n = m := by
  have hdistance := distance_pathAt h hopen n hn
  have hother := distance_pathAt h hopen m hm
  rw [heq] at hdistance
  omega

end Points

end CanopenRtt.Cia402
