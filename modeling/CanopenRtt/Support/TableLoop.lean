import CanopenRtt.Support.Run
import Mathlib.Tactic.Common
/-!
# Tables edited in place

An array of which the first `count` entries are in use, the edits a scan makes to
it, and the two loops that need such edits: a loop that runs until no step
applies, and a search for the item with the greatest score.
-/

namespace CanopenRtt.Support

variable {α σ ι : Type*}

/-- The entries below `count` are in use. -/
structure Table (α : Type*) where
  entry : Nat → α
  count : Nat

namespace Table

variable (table : Table α)

/-- Some entry meets `p`. -/
def Any (p : α → Prop) : Prop := ∃ k, k < table.count ∧ p (table.entry k)

def replace (k : Nat) (a : α) : Table α :=
  { table with entry := Function.update table.entry k a }

def append (a : α) : Table α where
  entry := Function.update table.entry table.count a
  count := table.count + 1

/-- Drop an entry; the last one takes its place. -/
def remove (k : Nat) : Table α :=
  if table.count ≤ k then table
  else
    { entry :=
        if k ≠ table.count - 1 then Function.update table.entry k (table.entry (table.count - 1))
        else table.entry
      count := table.count - 1 }

@[simp] theorem count_replace (k : Nat) (a : α) : (table.replace k a).count = table.count := rfl

@[simp] theorem entry_replace_self (k : Nat) (a : α) : (table.replace k a).entry k = a :=
  Function.update_self ..

theorem entry_replace_of_ne {i k : Nat} (h : i ≠ k) (a : α) :
    (table.replace k a).entry i = table.entry i :=
  Function.update_of_ne h ..

@[simp] theorem count_append (a : α) : (table.append a).count = table.count + 1 := rfl

@[simp] theorem entry_append_last (a : α) : (table.append a).entry table.count = a :=
  Function.update_self ..

theorem entry_append_of_ne {i : Nat} (h : i ≠ table.count) (a : α) :
    (table.append a).entry i = table.entry i :=
  Function.update_of_ne h ..

theorem count_remove {k : Nat} (h : k < table.count) :
    (table.remove k).count = table.count - 1 := by
  rw [remove, if_neg (Nat.not_le_of_lt h)]

theorem entry_remove_self {k : Nat} (h : k + 1 < table.count) :
    (table.remove k).entry k = table.entry (table.count - 1) := by
  rw [remove, if_neg (by omega)]
  dsimp only
  rw [if_pos (by omega), Function.update_self]

theorem entry_remove_of_ne {i k : Nat} (h : i ≠ k) : (table.remove k).entry i = table.entry i := by
  rw [remove]
  split
  · rfl
  · dsimp only
    split
    · exact Function.update_of_ne h ..
    · rfl

variable {table} {p : α → Prop}

theorem any_append (a : α) : (table.append a).Any p ↔ table.Any p ∨ p a := by
  constructor
  · rintro ⟨k, hk, hp⟩
    rw [count_append] at hk
    by_cases hlast : k = table.count
    · rw [hlast, entry_append_last] at hp
      exact Or.inr hp
    · rw [entry_append_of_ne table hlast] at hp
      exact Or.inl ⟨k, by omega, hp⟩
  · rintro (⟨k, hk, hp⟩ | hp)
    · refine ⟨k, Nat.lt_succ_of_lt hk, ?_⟩
      rwa [entry_append_of_ne table (by omega)]
    · refine ⟨table.count, Nat.lt_succ_self _, ?_⟩
      rwa [entry_append_last]

/-- An entry replaced by one that allows more. -/
theorem any_replace {k : Nat} (hk : k < table.count) {a : α} (h : p (table.entry k) → p a) :
    (table.replace k a).Any p ↔ table.Any p ∨ p a := by
  have hself : p a → (table.replace k a).Any p := by
    intro hp
    refine ⟨k, hk, ?_⟩
    rwa [entry_replace_self]
  constructor
  · rintro ⟨i, hi, hp⟩
    by_cases hsame : i = k
    · rw [hsame, entry_replace_self] at hp
      exact Or.inr hp
    · rw [entry_replace_of_ne table hsame] at hp
      exact Or.inl ⟨i, hi, hp⟩
  · rintro (⟨i, hi, hp⟩ | hp)
    · by_cases hsame : i = k
      · rw [hsame] at hp
        exact hself (h hp)
      · refine ⟨i, hi, ?_⟩
        rwa [entry_replace_of_ne table hsame]
    · exact hself hp

/-- The other entries stay in the table when one is removed. -/
theorem any_remove_of_ne {i k : Nat} (hi : i < table.count) (hk : k < table.count) (hne : i ≠ k)
    (h : p (table.entry i)) : (table.remove k).Any p := by
  have hcount := count_remove table hk
  by_cases hlast : i = table.count - 1
  · refine ⟨k, by omega, ?_⟩
    rwa [entry_remove_self table (by omega), ← hlast]
  · refine ⟨i, by omega, ?_⟩
    rwa [entry_remove_of_ne table hne]

theorem any_of_any_remove {k : Nat} (hk : k < table.count) (h : (table.remove k).Any p) :
    table.Any p := by
  obtain ⟨i, hi, hp⟩ := h
  rw [count_remove table hk] at hi
  by_cases hsame : i = k
  · rw [hsame, entry_remove_self table (by omega)] at hp
    exact ⟨table.count - 1, by omega, hp⟩
  · rw [entry_remove_of_ne table hsame] at hp
    exact ⟨i, by omega, hp⟩

/-- Removing an entry that another one makes redundant. -/
theorem any_remove {i k : Nat} (hi : i < table.count) (hk : k < table.count) (hne : i ≠ k)
    (h : p (table.entry k) → p (table.entry i)) : (table.remove k).Any p ↔ table.Any p := by
  constructor
  · exact any_of_any_remove hk
  · rintro ⟨l, hl, hp⟩
    by_cases hsame : l = k
    · rw [hsame] at hp
      exact any_remove_of_ne hi hk hne (h hp)
    · exact any_remove_of_ne hl hk hsame hp

end Table

/-! ### Loops that run until no step applies -/

/-- At most `fuel` steps. -/
def iterate (step : σ → Option σ) : Nat → σ → σ
  | 0, s => s
  | fuel + 1, s =>
      match step s with
      | none => s
      | some s' => iterate step fuel s'

variable {step : σ → Option σ}

theorem iterate_invariant {Inv : σ → Prop} (hstep : ∀ s s', Inv s → step s = some s' → Inv s')
    (fuel : Nat) {s : σ} (h : Inv s) : Inv (iterate step fuel s) := by
  induction fuel generalizing s with
  | zero => exact h
  | succ fuel ih =>
      rw [iterate]
      split
      · exact h
      · rename_i s' hs
        exact ih (hstep s s' h hs)

/-- A measure that every step lowers bounds the number of steps. -/
theorem iterate_halts {μ : σ → Nat} (hμ : ∀ s s', step s = some s' → μ s' < μ s)
    {fuel : Nat} {s : σ} (h : μ s ≤ fuel) : step (iterate step fuel s) = none := by
  induction fuel generalizing s with
  | zero =>
      rw [iterate]
      cases hs : step s with
      | none => rfl
      | some s' =>
          have hless := hμ s s' hs
          omega
  | succ fuel ih =>
      rw [iterate]
      split
      · assumption
      · rename_i s' hs
        have hless := hμ s s' hs
        exact ih (by omega)

/-! ### The item with the greatest score -/

/-- Keep the first item with the greatest score; items without one are skipped. -/
def keepBest (score : ι → Option Nat) (best : Option (ι × Nat)) (item : ι) :
    Option (ι × Nat) :=
  match score item, best with
  | none, _ => best
  | some s, none => some (item, s)
  | some s, some (_, bestScore) => if bestScore < s then some (item, s) else best

theorem keepBest_eq (score : ι → Option Nat) (best : Option (ι × Nat)) (item : ι) :
    keepBest score best item = best ∨
      ∃ s, score item = some s ∧ keepBest score best item = some (item, s) := by
  unfold keepBest
  cases hs : score item with
  | none => exact Or.inl rfl
  | some s =>
      cases best with
      | none => exact Or.inr ⟨s, rfl, rfl⟩
      | some found =>
          dsimp only
          split
          · exact Or.inr ⟨s, rfl, rfl⟩
          · exact Or.inl rfl

theorem keepBest_eq_none {score : ι → Option Nat} {best : Option (ι × Nat)} {item : ι}
    (h : keepBest score best item = none) : best = none ∧ score item = none := by
  unfold keepBest at h
  split at h
  · exact ⟨h, by assumption⟩
  · contradiction
  · split at h <;> contradiction

/-- The item found is one of the items, and has a score. -/
theorem mem_of_run_keepBest {score : ι → Option Nat} {items : List ι} {found : ι × Nat}
    (h : run (keepBest score) none items = some found) :
    found.1 ∈ items ∧ (score found.1).isSome := by
  have hall : ∀ best : Option (ι × Nat), run (keepBest score) best items = some found →
      best = some found ∨ found.1 ∈ items ∧ (score found.1).isSome := by
    clear h
    induction items with
    | nil => exact fun best hbest => Or.inl hbest
    | cons item items ih =>
        intro best hrun
        rw [run_cons] at hrun
        rcases ih _ hrun with hbest | ⟨hmem, hscore⟩
        · rcases keepBest_eq score best item with hsame | ⟨s, hs, hnew⟩
          · exact Or.inl (hsame.symm.trans hbest)
          · obtain rfl := Option.some.inj (hnew.symm.trans hbest)
            exact Or.inr ⟨List.mem_cons_self, by rw [hs]; rfl⟩
        · exact Or.inr ⟨List.mem_cons_of_mem _ hmem, hscore⟩
  rcases hall none h with hnone | hfound
  · contradiction
  · exact hfound

/-- Nothing is found only where nothing has a score. -/
theorem score_eq_none_of_run_keepBest {score : ι → Option Nat} {items : List ι}
    (h : run (keepBest score) none items = none) : ∀ item ∈ items, score item = none := by
  have hall : ∀ best : Option (ι × Nat), run (keepBest score) best items = none →
      best = none ∧ ∀ item ∈ items, score item = none := by
    clear h
    induction items with
    | nil => exact fun best hbest => ⟨hbest, by simp⟩
    | cons item items ih =>
        intro best hrun
        rw [run_cons] at hrun
        obtain ⟨hbest, hrest⟩ := ih _ hrun
        obtain ⟨hbefore, hitem⟩ := keepBest_eq_none hbest
        exact ⟨hbefore, List.forall_mem_cons.mpr ⟨hitem, hrest⟩⟩
  exact (hall none h).2

end CanopenRtt.Support
