import CanopenRtt.Support.Run
import Mathlib.Data.List.Chain
/-!
# Outputs of a run

A transition function that answers each input with at most one output. The
rules relate the state of a run to the last output it has given, and two
successive outputs to each other.
-/

namespace CanopenRtt.Support

variable {σ ι ο : Type*} {step : σ → ι → σ} {out : σ → ι → Option ο}

/-- The outputs of a run, in order. -/
def outputs (step : σ → ι → σ) (out : σ → ι → Option ο) : σ → List ι → List ο
  | _, [] => []
  | start, input :: inputs =>
      (out start input).toList ++ outputs step out (step start input) inputs

@[simp] theorem outputs_nil (start : σ) : outputs step out start [] = [] := rfl

@[simp] theorem outputs_cons (start : σ) (input : ι) (inputs : List ι) :
    outputs step out start (input :: inputs) =
      (out start input).toList ++ outputs step out (step start input) inputs := rfl

theorem outputs_append (start : σ) (xs ys : List ι) :
    outputs step out start (xs ++ ys) =
      outputs step out start xs ++ outputs step out (run step start xs) ys := by
  induction xs generalizing start with
  | nil => rfl
  | cons x xs ih => simp only [List.cons_append, outputs_cons, run_cons, ih, List.append_assoc]

theorem outputs_concat (start : σ) (inputs : List ι) (input : ι) :
    outputs step out start (inputs ++ [input]) =
      outputs step out start inputs ++ (out (run step start inputs) input).toList := by
  rw [outputs_append, outputs_cons, outputs_nil, List.append_nil]

/-- A silent run is a run all of whose steps are silent. -/
theorem outputs_eq_nil_iff (start : σ) (inputs : List ι) :
    outputs step out start inputs = [] ↔
      EveryStep step (fun s i => out s i = none) start inputs := by
  induction inputs generalizing start with
  | nil => simp
  | cons x xs ih =>
      rw [outputs_cons, List.append_eq_nil_iff, everyStep_cons, ih]
      cases out start x <;> simp

section LastOutput

variable {Inv : σ → Option ο → Prop} {start : σ}

/-- A relation between the state and the last output given. -/
theorem lastOutput_invariant
    (hquiet : ∀ s i last, Inv s last → out s i = none → Inv (step s i) last)
    (houtput : ∀ s i last o, Inv s last → out s i = some o → Inv (step s i) (some o))
    (hstart : Inv start none) (inputs : List ι) :
    Inv (run step start inputs) (outputs step out start inputs).getLast? := by
  induction inputs using List.reverseRecOn with
  | nil => exact hstart
  | append_singleton inputs input ih =>
      rw [run_concat, outputs_concat]
      cases hout : out (run step start inputs) input with
      | none =>
          rw [Option.toList_none, List.append_nil]
          exact hquiet _ _ _ ih hout
      | some o =>
          rw [Option.toList_some, List.getLast?_concat]
          exact houtput _ _ _ _ ih hout

/-- Two successive outputs are related when the state remembers the first one. -/
theorem outputs_isChain {R : ο → ο → Prop}
    (hquiet : ∀ s i last, Inv s last → out s i = none → Inv (step s i) last)
    (houtput : ∀ s i last o, Inv s last → out s i = some o → Inv (step s i) (some o))
    (hchain : ∀ s i previous o, Inv s (some previous) → out s i = some o → R previous o)
    (hstart : Inv start none) (inputs : List ι) :
    (outputs step out start inputs).IsChain R := by
  induction inputs using List.reverseRecOn with
  | nil => exact List.IsChain.nil
  | append_singleton inputs input ih =>
      rw [outputs_concat]
      cases hout : out (run step start inputs) input with
      | none => rwa [Option.toList_none, List.append_nil]
      | some o =>
          have hlast := lastOutput_invariant hquiet houtput hstart inputs
          refine List.IsChain.append ih (List.IsChain.singleton o) ?_
          intro previous hprevious next hnext
          obtain rfl : o = next := by simpa using hnext
          rw [Option.mem_def] at hprevious
          rw [hprevious] at hlast
          exact hchain _ _ _ _ hlast hout

end LastOutput

end CanopenRtt.Support
