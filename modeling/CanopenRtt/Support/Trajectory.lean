import CanopenRtt.Support.Run
import Mathlib.Order.Monotone.Basic
import Mathlib.Order.Nat
/-!
# Infinite runs

`trajectory step start inputs n` is the state after the first `n` of infinitely
many inputs. A simulation of the single steps follows a whole trajectory.
-/

namespace CanopenRtt.Support

variable {σ ι τ : Type*} {step : σ → ι → σ}

/-- The state after the first `n` inputs. -/
def trajectory (step : σ → ι → σ) (start : σ) (inputs : Nat → ι) : Nat → σ
  | 0 => start
  | n + 1 => step (trajectory step start inputs n) (inputs n)

@[simp] theorem trajectory_zero (start : σ) (inputs : Nat → ι) :
    trajectory step start inputs 0 = start := rfl

/-- Abstract states that follow the states of a sequence step by step. -/
theorem exists_simulation {state : Nat → σ} {Represents : σ → τ → Prop} {Move : τ → τ → Prop}
    (hstep : ∀ n t, Represents (state n) t → ∃ t', Move t t' ∧ Represents (state (n + 1)) t')
    {start : τ} (hstart : Represents (state 0) start) :
    ∃ follow : Nat → τ, (∀ n, Represents (state n) (follow n)) ∧
      ∀ n, Move (follow n) (follow (n + 1)) := by
  choose next hmove hnext using hstep
  let follow : ∀ n, { t // Represents (state n) t } :=
    fun n => Nat.rec ⟨start, hstart⟩ (fun n t => ⟨next n t.1 t.2, hnext n t.1 t.2⟩) n
  exact ⟨fun n => (follow n).1, fun n => (follow n).2, fun n => hmove n _ (follow n).2⟩

/-- A bounded sequence that never stops below its bound ends there. -/
theorem eventually_eq_of_progress {f : Nat → Nat} {limit : Nat} (hmono : ∀ n, f n ≤ f (n + 1))
    (hbound : ∀ n, f n ≤ limit) (hprogress : ∀ n, f n < limit → ∃ m, n ≤ m ∧ f n < f m) :
    ∃ n, ∀ m, n ≤ m → f m = limit := by
  have hmonotone : Monotone f := monotone_nat_of_le_succ hmono
  have hreach : ∀ gap n, limit - f n = gap → ∃ m, f m = limit := by
    intro gap
    induction gap using Nat.strong_induction_on with
    | _ gap ih =>
        intro n hgap
        have hn := hbound n
        by_cases hend : f n = limit
        · exact ⟨n, hend⟩
        · obtain ⟨m, -, hm⟩ := hprogress n (by omega)
          exact ih (limit - f m) (by omega) m rfl
  obtain ⟨n, hn⟩ := hreach _ 0 rfl
  refine ⟨n, fun m hnm => ?_⟩
  have hle := hmonotone hnm
  have hm := hbound m
  omega

/-- What is freed again and again is not held for ever, once every turn holds on to what is free. -/
theorem not_held_for_ever {Free Held Turn : Nat → Prop} {n : Nat}
    (hwaits : ∀ k, n ≤ k → Free k ∨ Held k → Free (k + 1) ∨ Held (k + 1))
    (hholds : ∀ k, n ≤ k → Held k → Held (k + 1))
    (htakes : ∀ k, n ≤ k → Turn k → Free k ∨ Held k → Held (k + 1))
    (hturns : ∀ n, ∃ m, n ≤ m ∧ Turn m) (hfreed : ∀ n, ∃ m, n ≤ m ∧ Free m)
    (hexclusive : ∀ k, Held k → ¬ Free k) : False := by
  obtain ⟨free, hfree, hidle⟩ := hfreed n
  have hready : ∀ k, free ≤ k → Free k ∨ Held k := by
    intro k hk
    induction k, hk using Nat.le_induction with
    | base => exact .inl hidle
    | succ k hk ih => exact hwaits k (by omega) ih
  obtain ⟨turn, hturn, hnow⟩ := hturns free
  have hheld : ∀ k, turn + 1 ≤ k → Held k := by
    intro k hk
    induction k, hk using Nat.le_induction with
    | base => exact htakes turn (by omega) hnow (hready turn hturn)
    | succ k hk ih => exact hholds k (by omega) ih
  obtain ⟨last, hlast, hlater⟩ := hfreed (turn + 1)
  exact hexclusive last (hheld last hlast) hlater

end CanopenRtt.Support
