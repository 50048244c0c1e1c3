import CanopenRtt.Lifecycle.Startup
import CanopenRtt.Support.Monitor
/-!
# The monitor of an application start

What the events of a node must respect, whatever the node looks like: nothing is acquired twice or
released without being held, nothing is released while the timer or a thread may still use it, and
no callback sees a released context or a deleted stack.
-/

namespace CanopenRtt.Lifecycle

open CanopenRtt.Support

namespace Resource

/-- What a running party touches although another one holds the lifecycle mutex. -/
def waitsOn : Resource → Resource → Bool
  | rtTimer, rtTimer | rtTimer, rtSem | rtTimer, sharedWorkerSem => true
  | rtThread, rtSem | rtThread, lifecycleMutex => true
  | sharedWorkerThread, sharedWorkerSem | sharedWorkerThread, lifecycleMutex => true
  | mainThread, _ => true
  | _, _ => false

/-- What it touches while it holds the lifecycle mutex itself. -/
def enters : Resource → Resource → Bool
  | rtThread, stack _ | rtThread, canModule | rtThread, timeSource => true
  | sharedWorkerThread, stack _ | sharedWorkerThread, canModule => true
  | _, _ => false

def isStack : Resource → Bool
  | stack _ => true
  | _ => false

end Resource

/-- The timer and the threads. -/
def parties : List Resource := [.rtTimer, .rtThread, .sharedWorkerThread, .mainThread]

structure Monitor where
  held : Resource → Bool := fun _ => false
  running : Resource → Bool := fun _ => false
  /-- The lifecycle mutex is held by the initialisation. -/
  locked : Bool := false
  released : Key → Bool := fun _ => false

namespace Monitor

def uses (monitor : Monitor) (party resource : Resource) : Bool :=
  monitor.running party && (party.waitsOn resource || !monitor.locked && party.enters resource)

/-- No party may use the resource. -/
def idle (monitor : Monitor) (resource : Resource) : Bool :=
  parties.all fun party => !monitor.uses party resource

/-- No party may run a callback of an extension. -/
def contextsIdle (monitor : Monitor) : Bool :=
  !monitor.running .rtTimer && !monitor.running .mainThread &&
    (monitor.locked || !monitor.running .rtThread && !monitor.running .sharedWorkerThread)

/-- The context and the stack of a callback are there. -/
def reaches (monitor : Monitor) (stack : Option Nat) (slot : Key) : Bool :=
  !monitor.released slot && stack.all fun generation => monitor.held (.stack generation)

def permit (monitor : Monitor) (condition : Bool) : Option Monitor :=
  if condition then some monitor else none

def check (monitor : Monitor) : Event → Option Monitor
  | .acquire resource =>
      { monitor with held := Function.update monitor.held resource true }.permit
        (!monitor.held resource)
  | .release resource =>
      { monitor with
        held := Function.update monitor.held resource false
        running := Function.update monitor.running resource false }.permit
          (monitor.held resource && monitor.idle resource &&
            !(resource.isStack && monitor.held .canModule))
  | .start resource =>
      { monitor with running := Function.update monitor.running resource true }.permit
        (monitor.held resource)
  | .stop resource =>
      some { monitor with running := Function.update monitor.running resource false }
  | .lock =>
      { monitor with locked := true }.permit (monitor.held .lifecycleMutex && !monitor.locked)
  | .unlock => { monitor with locked := false }.permit monitor.locked
  | .callback _ (.attach _) => some monitor
  | .callback _ (.release slot) =>
      { monitor with released := Function.update monitor.released slot true }.permit
        (!monitor.released slot && monitor.contextsIdle)
  | .callback stack (.runtimeInit slot _) => monitor.permit (monitor.reaches stack slot)
  | .callback stack (.runtimeStart slot _) => monitor.permit (monitor.reaches stack slot)
  | .callback stack (.communicationBind slot _) => monitor.permit (monitor.reaches stack slot)
  | .callback stack (.communicationQuiesced slot) => monitor.permit (monitor.reaches stack slot)
  | .callback stack (.runtimeDeinit slot) => monitor.permit (monitor.reaches stack slot)
  | .notice stack slot _ => monitor.permit (monitor.reaches stack slot)

theorem permit_eq_some {monitor after : Monitor} {condition : Bool} :
    monitor.permit condition = some after ↔ condition = true ∧ after = monitor := by
  unfold permit
  cases condition with
  | false => simp
  | true => simp [eq_comm]

/-! ## What acceptance says -/

/-- Each acquisition was undone by exactly one release, unless the resource is still held. -/
theorem count_acquire {monitor : Monitor} {events : List Event}
    (h : Accepts check {} events monitor) (resource : Resource) :
    events.countP (· = .acquire resource) =
      events.countP (· = .release resource) + (monitor.held resource).toNat := by
  have hbalance := @Accepts.countP _ _ check (fun m => m.held resource)
    (fun event => event = .acquire resource) (fun event => event = .release resource)
    _ _ events h ?_
  · simp only [Bool.toNat_false, Nat.zero_add] at hbalance
    omega
  · intro before event after hcheck
    cases event with
    | acquire other =>
        obtain ⟨hfree, rfl⟩ := permit_eq_some.mp hcheck
        by_cases hsame : other = resource
        · subst hsame
          rw [Bool.not_eq_true'] at hfree
          simp [hfree]
        · simp [hsame, Function.update_of_ne (Ne.symm hsame)]
    | release other =>
        obtain ⟨hheld, rfl⟩ := permit_eq_some.mp hcheck
        by_cases hsame : other = resource
        · subst hsame
          simp only [Bool.and_eq_true] at hheld
          simp [hheld.1.1]
        · simp [hsame, Function.update_of_ne (Ne.symm hsame)]
    | start other =>
        obtain ⟨-, rfl⟩ := permit_eq_some.mp hcheck
        simp
    | stop other =>
        obtain rfl := Option.some.inj hcheck
        simp
    | lock =>
        obtain ⟨-, rfl⟩ := permit_eq_some.mp hcheck
        simp
    | unlock =>
        obtain ⟨-, rfl⟩ := permit_eq_some.mp hcheck
        simp
    | callback stack call =>
        have hheld : after.held = before.held := by
          cases call with
          | attach _ => exact (congrArg held (Option.some.inj hcheck).symm :)
          | release _ => exact (congrArg held (permit_eq_some.mp hcheck).2 :)
          | _ => exact (congrArg held (permit_eq_some.mp hcheck).2 :)
        simp [hheld]
    | notice stack slot notice =>
        obtain ⟨-, rfl⟩ := permit_eq_some.mp hcheck
        simp

/-- The event releases the context of this slot. -/
def releasesContext (slot : Key) : Event → Bool
  | .callback _ (.release other) => other = slot
  | _ => false

/-- A context is released at most once, and counted as released from then on. -/
theorem count_releasesContext {monitor : Monitor} {events : List Event}
    (h : Accepts check {} events monitor) (slot : Key) :
    events.countP (releasesContext slot) = (monitor.released slot).toNat := by
  have hbalance := @Accepts.countP _ _ check (fun m => m.released slot)
    (releasesContext slot) (fun _ => false) _ _ events h ?_
  · simpa using hbalance
  · intro before event after hcheck
    have hkept : after.released = before.released → releasesContext slot event = false →
        (before.released slot).toNat + (releasesContext slot event).toNat =
          (after.released slot).toNat + (false).toNat := by
      intro hsame hother
      rw [hsame, hother]
    cases event with
    | stop other => exact hkept (congrArg released (Option.some.inj hcheck).symm :) rfl
    | callback stack call =>
        cases call with
        | attach _ => exact hkept (congrArg released (Option.some.inj hcheck).symm :) rfl
        | release other =>
            obtain ⟨hfree, rfl⟩ := permit_eq_some.mp hcheck
            rw [Bool.and_eq_true, Bool.not_eq_true'] at hfree
            by_cases hsame : other = slot
            · subst hsame
              simp [releasesContext, hfree.1]
            · simp [releasesContext, hsame, Function.update_of_ne (Ne.symm hsame)]
        | _ => exact hkept (congrArg released (permit_eq_some.mp hcheck).2 :) rfl
    | _ => exact hkept (congrArg released (permit_eq_some.mp hcheck).2 :) rfl

end Monitor

end CanopenRtt.Lifecycle
