import CanopenRtt.Lifecycle.FailedInit
import CanopenRtt.Support.HiddenMoves
/-!
# The word of one communication generation

What one extension may see of the stacks that an application makes and deletes: bound and failed
binds, the callbacks of a generation, and the order of both with the CAN module and the stack.
A callback that the table of the extension leaves NULL is a move that nobody sees.
-/

namespace CanopenRtt.Lifecycle

open CanopenRtt.Support

/-- The callbacks that work on a generation. -/
def Notice.isProcessing : Notice → Bool
  | deferredProcess | synchronousProcess | nmtStateChanged | mainlineProcess => true
  | _ => false

/-- The notices that open, use or end a generation. -/
def Notice.ofGeneration (notice : Notice) : Bool :=
  notice.isProcessing || notice = .communicationReady || notice = .communicationStop

/-- What an event has to do with the generations of one slot. -/
def Event.ofGeneration (slot : Key) : Event → Bool
  | .acquire (.stack _) | .acquire .canModule => true
  | .release (.stack _) | .release .canModule => true
  | .callback _ (.communicationBind other _) => other = slot
  | .callback _ (.communicationQuiesced other) => other = slot
  | .notice _ other kind => other = slot && kind.ofGeneration
  | _ => false

theorem ofGeneration_notice (slot other : Key) (stack : Option Nat) (kind : Notice) :
    (Event.notice stack other kind).ofGeneration slot =
      (decide (other = slot) && kind.ofGeneration) :=
  rfl

/-- How far a slot has come with the current generation. -/
inductive Standing where
  | unbound
  | bound
  | ready
  | stopped
  deriving DecidableEq, Repr

/-- The current stack, its CAN module, and a slot. -/
structure Phase where
  stack : Option Nat := none
  canModule : Bool := false
  standing : Standing := .unbound
  deriving DecidableEq, Repr

inductive Move where
  | create (generation : Nat)
  | delete (generation : Nat)
  | canOn
  | canOff
  | bind (generation : Nat)
  | bindFails (generation : Nat) (ret : RtErr)
  | ready (generation : Nat)
  | process (generation : Nat) (notice : Notice)
  | stop (generation : Nat)
  | quiesce (generation : Nat)
  deriving DecidableEq, Repr

/-- A bound slot is quiesced before anything else happened to it, which is the rollback of a bind,
or after it was stopped and the CAN module was disabled. -/
def Phase.check (phase : Phase) : Move → Option Phase
  | .create generation => if phase = {} then some { stack := some generation } else none
  | .delete generation => if phase = { stack := some generation } then some {} else none
  | .canOn =>
      if phase.stack.isSome && !phase.canModule && phase.standing = .unbound then
        some { phase with canModule := true }
      else none
  | .canOff =>
      if phase.canModule && (phase.standing = .unbound || phase.standing = .stopped) then
        some { phase with canModule := false }
      else none
  | .bind generation =>
      if phase = ⟨some generation, true, .unbound⟩ then some ⟨some generation, true, .bound⟩
      else none
  | .bindFails generation ret =>
      if phase = ⟨some generation, true, .unbound⟩ ∧ ret ≠ .ok then some phase else none
  | .ready generation =>
      if phase = ⟨some generation, true, .bound⟩ then some ⟨some generation, true, .ready⟩
      else none
  | .process generation notice =>
      if phase = ⟨some generation, true, .ready⟩ ∧ notice.isProcessing = true then some phase
      else none
  | .stop generation =>
      if phase = ⟨some generation, true, .bound⟩ ∨ phase = ⟨some generation, true, .ready⟩ then
        some ⟨some generation, true, .stopped⟩
      else none
  | .quiesce generation =>
      if phase = ⟨some generation, true, .bound⟩ ∨ phase = ⟨some generation, false, .stopped⟩ then
        some { phase with standing := .unbound }
      else none

def Key.has (setup : Setup) (slot : Key) (hook : Hook) : Bool :=
  slot.ops.any fun ops => setup.sets ops hook

def Key.sets (build : Build) (slot : Key) (notice : Notice) : Bool :=
  slot.ops.any fun ops => build.notifies ops notice

/-- The event that shows a move of one slot. -/
def Move.visible (build : Build) (slot : Key) : Move → Option Event
  | .create generation => some (.acquire (.stack generation))
  | .delete generation => some (.release (.stack generation))
  | .canOn => some (.acquire .canModule)
  | .canOff => some (.release .canModule)
  | .bind generation =>
      if slot.has build.setup .communicationBind then
        some (.callback (some generation) (.communicationBind slot .ok))
      else none
  | .bindFails generation ret =>
      some (.callback (some generation) (.communicationBind slot ret))
  | .ready generation =>
      if slot.sets build .communicationReady then
        some (.notice (some generation) slot .communicationReady)
      else none
  | .process generation notice => some (.notice (some generation) slot notice)
  | .stop generation =>
      if slot.sets build .communicationStop then
        some (.notice (some generation) slot .communicationStop)
      else none
  | .quiesce generation =>
      if slot.has build.setup .communicationQuiesced then
        some (.callback (some generation) (.communicationQuiesced slot))
      else none

/-- The events are, for this slot, a permitted word of generations. -/
def Explained (build : Build) (slot : Key) (start : Phase) (events : List Event) (final : Phase) :
    Prop :=
  Explains Phase.check (Move.visible build slot) start (events.filter (Event.ofGeneration slot))
    final

section

variable {build : Build} {slot : Key} {s m t : Phase} {events more : List Event}

theorem Explained.append (h : Explained build slot s events m)
    (h' : Explained build slot m more t) : Explained build slot s (events ++ more) t := by
  unfold Explained at h h' ⊢
  rw [List.filter_append]
  exact Explains.append h h'

theorem explained_of_move {move : Move} (hmove : s.check move = some t)
    (hevents : events.filter (Event.ofGeneration slot) = (move.visible build slot).toList) :
    Explained build slot s events t := by
  unfold Explained
  rw [hevents]
  exact explains_of_move hmove

theorem explained_of_silent (phase : Phase)
    (h : ∀ event ∈ events, event.ofGeneration slot = false) :
    Explained build slot phase events phase := by
  have hnone : events.filter (Event.ofGeneration slot) = [] := by
    rw [List.filter_eq_nil_iff]
    intro event hevent
    rw [h event hevent]
    exact Bool.false_ne_true
  unfold Explained
  rw [hnone]
  exact explains_nil phase

/-- What every permitted word keeps: a bound slot has a stack, and a CAN module until it is
stopped. -/
structure Phase.Sound (phase : Phase) : Prop where
  stack : phase.standing ≠ .unbound → phase.stack.isSome = true
  module : phase.standing = .bound ∨ phase.standing = .ready → phase.canModule = true
  device : phase.canModule = true → phase.stack.isSome = true

theorem Phase.Sound.check {phase next : Phase} (h : phase.Sound) {move : Move}
    (hmove : phase.check move = some next) : next.Sound := by
  cases move with
  | canOn =>
      simp only [Phase.check, Option.ite_none_right_eq_some, Bool.and_eq_true,
        decide_eq_true_eq, Option.some.injEq] at hmove
      obtain ⟨⟨⟨hstack, -⟩, -⟩, rfl⟩ := hmove
      exact ⟨h.stack, fun _ => rfl, fun _ => hstack⟩
  | canOff =>
      simp only [Phase.check, Option.ite_none_right_eq_some, Bool.and_eq_true, Bool.or_eq_true,
        decide_eq_true_eq, Option.some.injEq] at hmove
      obtain ⟨⟨-, hstanding⟩, rfl⟩ := hmove
      refine ⟨h.stack, fun hlive => ?_, nofun⟩
      rcases hstanding with hstanding | hstanding <;> simp [hstanding] at hlive
  | bindFails _ _ | process _ _ =>
      simp only [Phase.check, Option.ite_none_right_eq_some, Option.some.injEq] at hmove
      obtain ⟨-, rfl⟩ := hmove
      exact h
  | quiesce _ =>
      simp only [Phase.check, Option.ite_none_right_eq_some, Option.some.injEq] at hmove
      obtain ⟨-, rfl⟩ := hmove
      exact ⟨fun hbound => absurd rfl hbound, by simp, h.device⟩
  | _ =>
      simp only [Phase.check, Option.ite_none_right_eq_some, Option.some.injEq] at hmove
      obtain ⟨-, rfl⟩ := hmove
      exact ⟨by simp, by simp, by simp⟩

theorem Explained.sound {phase : Phase} (h : Explained build slot {} events phase) :
    phase.Sound :=
  h.invariant (fun _ _ _ hsound hmove => hsound.check hmove) ⟨by simp, by simp, by simp⟩

end

end CanopenRtt.Lifecycle
