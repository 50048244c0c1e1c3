import CanopenRtt.Support.Monitor
/-!
# Resources held as a stack

Resources are acquired at most once at a time and released last in, first out. A failed
acquisition is answered by the releases of all before it, in reverse order.
-/

namespace CanopenRtt.Support

variable {ρ : Type*} [DecidableEq ρ]

inductive StackOp (ρ : Type*) where
  | acquire (resource : ρ)
  | release (resource : ρ)
  deriving DecidableEq

/-- `held` is what is held, the last acquired in front. -/
def stackCheck (held : List ρ) : StackOp ρ → Option (List ρ)
  | .acquire resource => if resource ∈ held then none else some (resource :: held)
  | .release resource => if held.head? = some resource then some held.tail else none

theorem accepts_acquire {held resources : List ρ} (hnodup : resources.Nodup)
    (hfresh : ∀ resource ∈ resources, resource ∉ held) :
    Accepts stackCheck held (resources.map .acquire) (resources.reverse ++ held) := by
  induction resources generalizing held with
  | nil => exact accepts_nil.mpr rfl
  | cons resource rest ih =>
      rw [List.nodup_cons] at hnodup
      have hrest : ∀ other ∈ rest, other ∉ resource :: held := by
        intro other hother hmem
        rcases List.mem_cons.mp hmem with rfl | hheld
        · exact hnodup.1 hother
        · exact hfresh other (List.mem_cons_of_mem _ hother) hheld
      apply accepts_cons.mpr
      refine ⟨resource :: held, if_neg (hfresh resource List.mem_cons_self), ?_⟩
      simpa using ih hnodup.2 hrest

theorem accepts_release {held resources : List ρ} :
    Accepts stackCheck (resources ++ held) (resources.map .release) held := by
  induction resources with
  | nil => exact accepts_nil.mpr rfl
  | cons resource rest ih => exact accepts_cons.mpr ⟨rest ++ held, if_pos rfl, ih⟩

/-- What was acquired is released in reverse order. -/
theorem accepts_unwound {held resources : List ρ} (hnodup : resources.Nodup)
    (hfresh : ∀ resource ∈ resources, resource ∉ held) :
    Accepts stackCheck held (resources.map .acquire ++ resources.reverse.map .release) held :=
  (accepts_acquire hnodup hfresh).append accepts_release

end CanopenRtt.Support
