import Mathlib.Data.List.Induction
import Mathlib.Data.List.Forall2
/-!
# Finite runs of a deterministic transition function

`run step start inputs` feeds a list of inputs to a transition function.
`EveryStep` states a property of each step of a run, `HeldSince` says that
something latched by one step has been kept by all later ones. The rules below
reduce both to one-step facts.
-/

namespace CanopenRtt.Support

variable {σ ι : Type*} {step : σ → ι → σ}

/-- The state after a list of inputs. -/
def run (step : σ → ι → σ) (start : σ) (inputs : List ι) : σ :=
  inputs.foldl step start

@[simp] theorem run_nil (start : σ) : run step start [] = start := rfl

@[simp] theorem run_cons (start : σ) (input : ι) (inputs : List ι) :
    run step start (input :: inputs) = run step (step start input) inputs := rfl

theorem run_append (start : σ) (xs ys : List ι) :
    run step start (xs ++ ys) = run step (run step start xs) ys := by
  rw [run, List.foldl_append]
  rfl

@[simp] theorem run_concat (start : σ) (inputs : List ι) (input : ι) :
    run step start (inputs ++ [input]) = step (run step start inputs) input := by
  rw [run_append]
  rfl

/-- A projection that follows a transition function of its own. -/
theorem run_hom {τ : Type*} {next : τ → ι → τ} (f : σ → τ)
    (h : ∀ s i, f (step s i) = next (f s) i) (start : σ) (inputs : List ι) :
    f (run step start inputs) = run next (f start) inputs :=
  (List.foldl_hom f fun s i => (h s i).symm).symm

/-- `P` holds of every step of the run: of the state before it and its input. -/
def EveryStep (step : σ → ι → σ) (P : σ → ι → Prop) : σ → List ι → Prop
  | _, [] => True
  | start, input :: inputs => P start input ∧ EveryStep step P (step start input) inputs

@[simp] theorem everyStep_nil {P : σ → ι → Prop} (start : σ) : EveryStep step P start [] :=
  trivial

@[simp] theorem everyStep_cons {P : σ → ι → Prop} (start : σ) (input : ι) (inputs : List ι) :
    EveryStep step P start (input :: inputs) ↔
      P start input ∧ EveryStep step P (step start input) inputs := Iff.rfl

theorem everyStep_append {P : σ → ι → Prop} (start : σ) (xs ys : List ι) :
    EveryStep step P start (xs ++ ys) ↔
      EveryStep step P start xs ∧ EveryStep step P (run step start xs) ys := by
  induction xs generalizing start with
  | nil => simp
  | cons x xs ih =>
      simp only [List.cons_append, everyStep_cons, run_cons, ih, and_assoc]

/-- A property of inputs alone. -/
theorem everyStep_inputs {Q : ι → Prop} (start : σ) (inputs : List ι) :
    EveryStep step (fun _ input => Q input) start inputs ↔ ∀ input ∈ inputs, Q input := by
  induction inputs generalizing start with
  | nil => simp
  | cons x xs ih => rw [everyStep_cons, ih, List.forall_mem_cons]

theorem everyStep_of_forall {P : σ → ι → Prop} (h : ∀ s i, P s i) (start : σ)
    (inputs : List ι) : EveryStep step P start inputs := by
  induction inputs generalizing start with
  | nil => trivial
  | cons x xs ih => exact ⟨h _ _, ih _⟩

/-- An invariant holds after a run all of whose steps meet `P`. -/
theorem run_invariant_of_everyStep {Inv : σ → Prop} {P : σ → ι → Prop}
    (hstep : ∀ s i, Inv s → P s i → Inv (step s i)) {start : σ} {inputs : List ι}
    (hstart : Inv start) (h : EveryStep step P start inputs) : Inv (run step start inputs) := by
  induction inputs generalizing start with
  | nil => exact hstart
  | cons x xs ih => exact ih (hstep _ _ hstart h.1) h.2

/-- A step property that follows from an invariant. -/
theorem everyStep_of_invariant {Inv : σ → Prop} {P Q : σ → ι → Prop}
    (hstep : ∀ s i, Inv s → P s i → Inv (step s i)) (hgives : ∀ s i, Inv s → P s i → Q s i)
    {start : σ} {inputs : List ι} (hstart : Inv start) (h : EveryStep step P start inputs) :
    EveryStep step Q start inputs := by
  induction inputs generalizing start with
  | nil => trivial
  | cons x xs ih => exact ⟨hgives _ _ hstart h.1, ih (hstep _ _ hstart h.1) h.2⟩

theorem run_invariant {Inv : σ → Prop} (hstep : ∀ s i, Inv s → Inv (step s i)) {start : σ}
    (hstart : Inv start) (inputs : List ι) : Inv (run step start inputs) := by
  induction inputs generalizing start with
  | nil => exact hstart
  | cons x xs ih => exact ih (hstep _ _ hstart)

/-- A step property that follows from an invariant of every run. -/
theorem everyStep_of_run_invariant {Inv : σ → Prop} {Q : σ → ι → Prop}
    (hstep : ∀ s i, Inv s → Inv (step s i)) (hgives : ∀ s i, Inv s → Q s i) {start : σ}
    (hstart : Inv start) (inputs : List ι) : EveryStep step Q start inputs := by
  induction inputs generalizing start with
  | nil => trivial
  | cons x xs ih => exact ⟨hgives _ _ hstart, ih (hstep _ _ hstart)⟩

/-- Two runs whose inputs correspond stay related. -/
theorem run_related {τ κ : Type*} {step' : τ → κ → τ} {R : σ → τ → Prop} {Q : ι → κ → Prop}
    (hstep : ∀ s t x y, R s t → Q x y → R (step s x) (step' t y)) {s : σ} {t : τ}
    (hstart : R s t) {xs : List ι} {ys : List κ} (h : List.Forall₂ Q xs ys) :
    R (run step s xs) (run step' t ys) := by
  induction h generalizing s t with
  | nil => exact hstart
  | cons hxy _ ih => exact ih (hstep _ _ _ _ hstart hxy)

/-- A loop over the numbers below `n`, with an invariant for each round. -/
theorem run_range_invariant {body : σ → Nat → σ} {Inv : Nat → σ → Prop} {start : σ} {n : Nat}
    (hstart : Inv 0 start) (hstep : ∀ k s, k < n → Inv k s → Inv (k + 1) (body s k)) :
    Inv n (run body start (List.range n)) := by
  have hprefix : ∀ m, m ≤ n → Inv m (run body start (List.range m)) := by
    intro m
    induction m with
    | zero => exact fun _ => hstart
    | succ m ih =>
        intro hm
        rw [List.range_succ, run_concat]
        exact hstep m _ hm (ih (Nat.le_of_succ_le hm))
  exact hprefix n (Nat.le_refl n)

/-- Two loops over the numbers below `n` whose rounds agree while an invariant holds. -/
theorem run_range_congr {body other : σ → Nat → σ} {Inv : σ → Prop} {n : Nat}
    (hbody : ∀ s k, k < n → Inv s → body s k = other s k)
    (hkeeps : ∀ s k, Inv s → Inv (other s k)) {start : σ} (hstart : Inv start) :
    run body start (List.range n) = run other start (List.range n) := by
  have hrelated := @run_related σ Nat body σ Nat other (fun s t => s = t ∧ Inv s)
    (fun x y => x = y ∧ x < n)
    (fun s t x y hst hxy => by
      obtain ⟨rfl, hinv⟩ := hst
      obtain ⟨rfl, hlt⟩ := hxy
      refine ⟨hbody s x hlt hinv, ?_⟩
      rw [hbody s x hlt hinv]
      exact hkeeps s x hinv) start start ⟨rfl, hstart⟩ (List.range n) (List.range n) ?_
  · exact hrelated.1
  · exact List.forall₂_same.mpr fun k hk => ⟨rfl, List.mem_range.mp hk⟩

/-- A run over a list, with an invariant for each prefix that was worked off. -/
theorem run_prefix_invariant {Inv : List ι → σ → Prop} {start : σ} {items : List ι}
    (hstart : Inv [] start)
    (hstep : ∀ done item rest s, items = done ++ item :: rest → Inv done s →
      Inv (done ++ [item]) (step s item)) : Inv items (run step start items) := by
  have hprefix : ∀ done rest, items = done ++ rest → Inv done (run step start done) := by
    intro done
    induction done using List.reverseRecOn with
    | nil => exact fun _ _ => hstart
    | append_singleton done item ih =>
        intro rest hsplit
        rw [run_concat]
        apply hstep done item rest
        · rw [hsplit, List.append_assoc, List.singleton_append]
        · exact ih (item :: rest) (by rw [hsplit, List.append_assoc, List.singleton_append])
  exact hprefix items [] (List.append_nil items).symm

/-- Some step of the run met `began`, and all later ones met `kept`. -/
def HeldSince (step : σ → ι → σ) (began kept : σ → ι → Prop) (start : σ)
    (inputs : List ι) : Prop :=
  ∃ before input after, inputs = before ++ input :: after ∧
    began (run step start before) input ∧
    EveryStep step kept (run step start (before ++ [input])) after

theorem heldSince_concat_of_began {began kept : σ → ι → Prop} {start : σ} {inputs : List ι}
    {input : ι} (h : began (run step start inputs) input) :
    HeldSince step began kept start (inputs ++ [input]) :=
  ⟨inputs, input, [], rfl, h, trivial⟩

theorem HeldSince.concat {began kept : σ → ι → Prop} {start : σ} {inputs : List ι} {input : ι}
    (h : HeldSince step began kept start inputs) (hkept : kept (run step start inputs) input) :
    HeldSince step began kept start (inputs ++ [input]) := by
  obtain ⟨before, first, after, rfl, hbegan, hafter⟩ := h
  refine ⟨before, first, after ++ [input], by simp, hbegan, ?_⟩
  rw [everyStep_append]
  refine ⟨hafter, ?_, trivial⟩
  rwa [← run_append, List.append_assoc, List.singleton_append]

/-- A latch that is open at the start and whose every closed state comes from a
beginning or from a kept closed state has been held since some beginning. -/
theorem heldSince_of_latch (Inv Holds : σ → Prop) {P began kept : σ → ι → Prop}
    (hinv : ∀ s i, Inv s → P s i → Inv (step s i))
    (hlatch : ∀ s i, Inv s → P s i → Holds (step s i) → began s i ∨ Holds s ∧ kept s i)
    {start : σ} (hstart : Inv start) (hopen : ¬ Holds start) {inputs : List ι}
    (hP : EveryStep step P start inputs) (h : Holds (run step start inputs)) :
    HeldSince step began kept start inputs := by
  induction inputs using List.reverseRecOn with
  | nil => exact absurd h hopen
  | append_singleton inputs input ih =>
      obtain ⟨hearlier, hlast, -⟩ := (everyStep_append start inputs [input]).mp hP
      have hbefore : Inv (run step start inputs) :=
        run_invariant_of_everyStep hinv hstart hearlier
      rw [run_concat] at h
      rcases hlatch _ _ hbefore hlast h with hbegan | ⟨hheld, hkept⟩
      · exact heldSince_concat_of_began hbegan
      · exact (ih hearlier hheld).concat hkept

end CanopenRtt.Support
