import CanopenRtt.Support.Run
import Mathlib.Data.List.Range
/-!
# Loops over an array of slots

The first `count` cells of an array are a list. The rules below say what three
kinds of loops do to it: a loop that rewrites each cell it visits and reports
something, a loop that stops at the first failure, and a compaction in place.
-/

namespace CanopenRtt.Support

variable {α σ ι ρ ε : Type*}

/-- The first `count` cells, in order. -/
def cells (array : Nat → α) (count : Nat) : List α := (List.range count).map array

@[simp] theorem cells_zero (array : Nat → α) : cells array 0 = [] := rfl

theorem cells_succ (array : Nat → α) (count : Nat) :
    cells array (count + 1) = cells array count ++ [array count] := by
  simp [cells, List.range_succ]

@[simp] theorem length_cells (array : Nat → α) (count : Nat) :
    (cells array count).length = count := by
  simp [cells]

theorem mem_cells {array : Nat → α} {count : Nat} {a : α} :
    a ∈ cells array count ↔ ∃ i, i < count ∧ array i = a := by
  simp [cells]

theorem getElem_mem_cells {array : Nat → α} {count i : Nat} (h : i < count) :
    array i ∈ cells array count :=
  mem_cells.mpr ⟨i, h, rfl⟩

theorem cells_congr {array other : Nat → α} {count : Nat}
    (h : ∀ i, i < count → array i = other i) : cells array count = cells other count := by
  apply List.map_congr_left
  intro i hi
  exact h i (List.mem_range.mp hi)

/-- Cells that were rewritten one by one. -/
theorem cells_map {array other : Nat → α} {count : Nat} {f : α → α}
    (h : ∀ i, i < count → other i = f (array i)) :
    cells other count = (cells array count).map f := by
  unfold cells
  rw [List.map_map]
  apply List.map_congr_left
  intro i hi
  exact h i (List.mem_range.mp hi)

theorem take_cells (array : Nat → α) {k count : Nat} (h : k ≤ count) :
    (cells array count).take k = cells array k := by
  unfold cells
  rw [← List.map_take, List.take_range, Nat.min_eq_left h]

/-- Only the cells below `k` were rewritten. -/
theorem cells_split {array other : Nat → α} {count k : Nat} {f : α → α} (hk : k ≤ count)
    (hdone : ∀ i, i < k → other i = f (array i)) (hrest : ∀ i, k ≤ i → other i = array i) :
    cells other count = ((cells array count).take k).map f ++ (cells array count).drop k := by
  have hfront : cells other k = (cells array k).map f := cells_map hdone
  have hback : (cells other count).drop k = (cells array count).drop k := by
    unfold cells
    rw [← List.map_drop, ← List.map_drop]
    apply List.map_congr_left
    intro i hi
    obtain ⟨j, hj, rfl⟩ := List.mem_iff_getElem.mp hi
    rw [List.getElem_drop, List.getElem_range]
    exact hrest _ (Nat.le_add_right k j)
  rw [← List.take_append_drop k (cells other count), hback, take_cells other hk, hfront,
    take_cells array hk]

/-! ### Loops that rewrite each cell they visit -/

section Visits

variable {body : σ → Nat → σ} (array : σ → Nat → α) (log : σ → List ε) (f : α → α)
  (report : α → List ε) {P : σ → Nat → Prop}

/-- Distinct cells are rewritten independently, and report in the order of the visits. -/
theorem run_visits
    (harray : ∀ s i, P s i → array (body s i) = Function.update (array s) i (f (array s i)))
    (hlog : ∀ s i, P s i → log (body s i) = log s ++ report (array s i)) {start : σ}
    {visits : List Nat} (hnodup : visits.Nodup) (hsteps : EveryStep body P start visits) :
    (∀ i, array (run body start visits) i =
        if i ∈ visits then f (array start i) else array start i) ∧
      log (run body start visits) =
        log start ++ visits.flatMap fun i => report (array start i) := by
  induction visits generalizing start with
  | nil => simp
  | cons first rest ih =>
      obtain ⟨hfirst, hrest⟩ := List.nodup_cons.mp hnodup
      obtain ⟨hcells, hreports⟩ := ih hrest hsteps.2
      rw [harray _ _ hsteps.1] at hcells hreports
      rw [run_cons]
      constructor
      · intro i
        rw [hcells]
        by_cases hi : i = first
        · subst hi
          simp [hfirst]
        · simp [hi]
      · have hsame : ∀ i ∈ rest, Function.update (array start) first (f (array start first)) i =
            array start i := by
          intro i hi
          apply Function.update_of_ne
          rintro rfl
          exact hfirst hi
        rw [hreports, hlog _ _ hsteps.1, List.flatMap_cons, List.append_assoc]
        congr 2
        apply List.flatMap_congr
        intro i hi
        rw [hsame i hi]

/-- What a step demands of the cell it visits was true at the start. -/
theorem forall_visits {Q : α → Prop}
    (harray : ∀ s i, P s i → array (body s i) = Function.update (array s) i (f (array s i)))
    (hcell : ∀ s i, P s i → Q (array s i)) {start : σ} {visits : List Nat}
    (hnodup : visits.Nodup) (hsteps : EveryStep body P start visits) :
    ∀ i ∈ visits, Q (array start i) := by
  induction visits generalizing start with
  | nil => simp
  | cons first rest ih =>
      obtain ⟨hfirst, hrest⟩ := List.nodup_cons.mp hnodup
      intro i hi
      rcases List.mem_cons.mp hi with rfl | hmem
      · exact hcell _ _ hsteps.1
      · have hlater := ih hrest hsteps.2 i hmem
        have hne : i ≠ first := by
          rintro rfl
          exact hfirst hmem
        rwa [harray _ _ hsteps.1, Function.update_of_ne hne] at hlater

end Visits

theorem cells_prefix (array : Nat → α) {k count : Nat} (h : k ≤ count) :
    cells array k <+: cells array count := by
  rw [← take_cells array h]
  exact List.take_prefix ..

/-- The cells in front of the first one that fails a test. -/
theorem takeWhile_cells {array : Nat → α} {count k : Nat} {p : α → Bool} (hk : k ≤ count)
    (hdone : ∀ i, i < k → p (array i) = true) (hstop : k < count → p (array k) = false) :
    (cells array count).takeWhile p = cells array k := by
  have hfront : ∀ a ∈ cells array k, p a = true := by
    intro a ha
    obtain ⟨i, hi, rfl⟩ := mem_cells.mp ha
    exact hdone i hi
  rcases Nat.lt_or_eq_of_le hk with hless | rfl
  · obtain ⟨rest, hrest⟩ := cells_prefix array (Nat.succ_le_of_lt hless)
    rw [← hrest, cells_succ, List.append_assoc, List.takeWhile_append_of_pos hfront,
      List.singleton_append, List.takeWhile_cons_of_neg (by simp [hstop hless]), List.append_nil]
  · have hself := @List.takeWhile_append_of_pos _ p (cells array k) [] hfront
    rwa [List.append_nil, List.takeWhile_nil, List.append_nil] at hself

theorem flatMap_range (array : Nat → α) (report : α → List ε) (count : Nat) :
    ((List.range count).flatMap fun i => report (array i)) =
      (cells array count).flatMap report := by
  simp [cells, List.flatMap_map]

theorem flatMap_range_reverse (array : Nat → α) (report : α → List ε) (count : Nat) :
    ((List.range count).reverse.flatMap fun i => report (array i)) =
      (cells array count).reverse.flatMap report := by
  simp [cells, ← List.map_reverse, List.flatMap_map]

/-! ### Loops that stop at the first failure -/

/-- Work off `items` until one of them does not answer `good`. -/
def runWhile [DecidableEq ρ] (good : ρ) (body : σ → ι → σ × ρ) : σ → List ι → σ × ρ
  | s, [] => (s, good)
  | s, item :: items =>
      if (body s item).2 = good then runWhile good body (body s item).1 items else body s item

/-- The loop ran to its end, or stopped at an item after which nothing was done. -/
theorem runWhile_cases [DecidableEq ρ] (good : ρ) (body : σ → ι → σ × ρ) (start : σ)
    (items : List ι) :
    (EveryStep (fun s item => (body s item).1) (fun s item => (body s item).2 = good) start items ∧
      runWhile good body start items = (run (fun s item => (body s item).1) start items, good)) ∨
    ∃ done item rest, items = done ++ item :: rest ∧
      EveryStep (fun s item => (body s item).1) (fun s item => (body s item).2 = good) start done ∧
      (body (run (fun s item => (body s item).1) start done) item).2 ≠ good ∧
      runWhile good body start items =
        body (run (fun s item => (body s item).1) start done) item := by
  induction items generalizing start with
  | nil => exact Or.inl ⟨trivial, rfl⟩
  | cons item items ih =>
      by_cases hgood : (body start item).2 = good
      · rw [runWhile, if_pos hgood]
        rcases ih (body start item).1 with
          ⟨hsteps, hrun⟩ | ⟨done, last, rest, rfl, hsteps, hbad, hrun⟩
        · exact Or.inl ⟨⟨hgood, hsteps⟩, hrun⟩
        · exact Or.inr ⟨item :: done, last, rest, rfl, ⟨hgood, hsteps⟩, hbad, hrun⟩
      · rw [runWhile, if_neg hgood]
        exact Or.inr ⟨[], item, items, rfl, trivial, hgood, rfl⟩

/-- What every round keeps holds where the loop stops. -/
theorem runWhile_invariant [DecidableEq ρ] (good : ρ) {body : σ → ι → σ × ρ} {Inv : σ → Prop}
    {items : List ι} (hstep : ∀ s, ∀ item ∈ items, Inv s → Inv (body s item).1) {start : σ}
    (h : Inv start) : Inv (runWhile good body start items).1 := by
  induction items generalizing start with
  | nil => exact h
  | cons item items ih =>
      have hfirst := hstep start item List.mem_cons_self h
      rw [runWhile]
      split
      · exact ih (fun s other hother => hstep s other (List.mem_cons_of_mem _ hother)) hfirst
      · exact hfirst

/-- No round fails. -/
theorem runWhile_good [DecidableEq ρ] {good : ρ} {body : σ → ι → σ × ρ}
    (h : ∀ s item, (body s item).2 = good) (start : σ) (items : List ι) :
    (runWhile good body start items).2 = good := by
  induction items generalizing start with
  | nil => rfl
  | cons item items ih =>
      rw [runWhile, if_pos (h start item)]
      exact ih _

/-- An invariant of the items still to come holds at the end, or where the first round fails. -/
theorem runWhile_remaining [DecidableEq ρ] (good : ρ) {body : σ → ι → σ × ρ}
    {Inv : List ι → σ → Prop}
    (hstep : ∀ item rest s, Inv (item :: rest) s → (body s item).2 = good →
      Inv rest (body s item).1)
    {start : σ} {items : List ι} (h : Inv items start) :
    (Inv [] (runWhile good body start items).1 ∧ (runWhile good body start items).2 = good) ∨
    ∃ item rest s, Inv (item :: rest) s ∧ (body s item).2 ≠ good ∧
      runWhile good body start items = body s item := by
  induction items generalizing start with
  | nil => exact Or.inl ⟨h, rfl⟩
  | cons item items ih =>
      rw [runWhile]
      by_cases hgood : (body start item).2 = good
      · rw [if_pos hgood]
        exact ih (hstep item items start h hgood)
      · rw [if_neg hgood]
        exact Or.inr ⟨item, items, start, h, hgood, rfl⟩

/-- The items below a member of a range. -/
theorem eq_range_of_split {count item : Nat} {done rest : List Nat}
    (h : List.range count = done ++ item :: rest) : done = List.range item ∧ item < count := by
  have hlength := congrArg List.length h
  rw [List.length_range, List.length_append, List.length_cons] at hlength
  have hdone : done = List.range done.length := by
    have htake := congrArg (List.take done.length) h
    rw [List.take_range, List.take_left, Nat.min_eq_left (by omega)] at htake
    exact htake.symm
  have hitem : item = done.length := by
    have hget := congrArg (fun items => items[done.length]?) h
    have hlt : done.length < count := by omega
    simpa [hlt, eq_comm] using hget
  exact ⟨by rw [hitem]; exact hdone, by omega⟩

/-! ### Compaction in place -/

/-- One round: a kept cell moves to the write index, and its old place is cleared. -/
def compactCell (keep : α → Bool) (blank : α) (state : (Nat → α) × Nat) (i : Nat) :
    (Nat → α) × Nat :=
  let (array, writeIndex) := state
  if keep (array i) then
    (if writeIndex ≠ i then
        Function.update (Function.update array writeIndex (array i)) i blank
      else array, writeIndex + 1)
  else state

/-- The array after `count` rounds: the kept cells in front, and blanks behind them. -/
structure Compacted (keep : α → Bool) (blank : α) (array : Nat → α) (count : Nat)
    (state : (Nat → α) × Nat) : Prop where
  writeIndex : state.2 = ((cells array count).filter keep).length
  kept : cells state.1 state.2 = (cells array count).filter keep
  blank : ∀ i, state.2 ≤ i → i < count → state.1 i = blank
  rest : ∀ i, count ≤ i → state.1 i = array i

theorem run_compactCell {keep : α → Bool} {blank : α} {array : Nat → α} {count : Nat}
    (hblank : ∀ i, i < count → keep (array i) = false → array i = blank) :
    Compacted keep blank array count
      (run (compactCell keep blank) (array, 0) (List.range count)) := by
  refine @run_range_invariant _ (compactCell keep blank)
    (fun k state => Compacted keep blank array k state) (array, 0) count
    ⟨rfl, rfl, fun i _ hi => absurd hi (Nat.not_lt_zero i), fun _ _ => rfl⟩ ?_
  rintro k ⟨current, writeIndex⟩ hk h
  have hfilter : (cells array (k + 1)).filter keep =
      (cells array k).filter keep ++ (if keep (array k) then [array k] else []) := by
    rw [cells_succ, List.filter_append]
    cases hkeep : keep (array k) <;> simp [hkeep]
  have hle : writeIndex ≤ k := by
    have hwrite : writeIndex = ((cells array k).filter keep).length := h.writeIndex
    have hlength := List.length_filter_le keep (cells array k)
    rw [length_cells] at hlength
    omega
  have hcell : current k = array k := h.rest k (Nat.le_refl k)
  unfold compactCell
  dsimp only
  rw [hcell]
  cases hkeep : keep (array k) with
  | false =>
      rw [if_neg Bool.false_ne_true]
      rw [hkeep, if_neg Bool.false_ne_true, List.append_nil] at hfilter
      refine ⟨by rw [hfilter]; exact h.writeIndex, by rw [hfilter]; exact h.kept, ?_, ?_⟩
      · intro i hwrite hi
        by_cases hlast : i = k
        · subst hlast
          exact hcell.trans (hblank i hk hkeep)
        · exact h.blank i hwrite (by omega)
      · exact fun i hi => h.rest i (by omega)
  | true =>
      rw [hkeep, if_pos rfl] at hfilter
      rw [if_pos rfl]
      have hkept : cells current writeIndex = (cells array k).filter keep := h.kept
      by_cases hsame : writeIndex = k
      · subst hsame
        rw [if_neg (not_not_intro rfl)]
        refine ⟨?_, ?_, fun i hwrite hi => absurd hi (by dsimp only at hwrite; omega), ?_⟩
        · rw [hfilter, ← hkept]
          simp
        · dsimp only
          rw [hfilter, ← hkept, cells_succ, hcell]
        · exact fun i hi => h.rest i (by omega)
      · rw [if_pos hsame]
        have hother : ∀ i, i ≠ writeIndex → i ≠ k →
            Function.update (Function.update current writeIndex (array k)) k blank i =
              current i := by
          intro i hwrite hlast
          rw [Function.update_of_ne hlast, Function.update_of_ne hwrite]
        refine ⟨?_, ?_, ?_, ?_⟩
        · rw [hfilter, ← hkept]
          simp
        · have hfront : cells (Function.update (Function.update current writeIndex (array k)) k
              blank) writeIndex = cells current writeIndex :=
            cells_congr fun i hi => hother i (by omega) (by omega)
          dsimp only
          rw [hfilter, cells_succ, hfront, hkept, Function.update_of_ne hsame,
            Function.update_self]
        · intro i hwrite hi
          dsimp only at hwrite ⊢
          by_cases hlast : i = k
          · subst hlast
            exact Function.update_self ..
          · rw [hother i (by omega) hlast]
            exact h.blank i (by dsimp only; omega) (by omega)
        · intro i hi
          exact (hother i (by omega) (by omega)).trans (h.rest i (by omega))

end CanopenRtt.Support
