import Mathlib.Data.List.Basic
/-!
# Tables that bind keys to owners

A table of fixed capacity binds a key to one owner. An owner is bound by at most one key, so that
the table is a partial injection whichever of its cells are used.
-/

namespace CanopenRtt.Support

structure Bound (κ ο : Type*) where
  key : κ
  owner : ο
  deriving DecidableEq

/-- The cells of a table; an unused cell is `none`. -/
abbrev BindingTable (κ ο : Type*) := List (Option (Bound κ ο))

namespace BindingTable

variable {κ ο : Type*}

/-- Two cells share neither a key nor an owner. -/
def Injective (table : BindingTable κ ο) : Prop :=
  ∀ (i j : Nat) (a b : Bound κ ο), table[i]? = some (some a) → table[j]? = some (some b) →
    a.key = b.key ∨ a.owner = b.owner → i = j

def Binds (table : BindingTable κ ο) (key : κ) (owner : ο) : Prop :=
  some ⟨key, owner⟩ ∈ table

theorem injective_replicate (capacity : Nat) :
    Injective (.replicate capacity none : BindingTable κ ο) := by
  intro i j a b hi
  rw [List.getElem?_replicate] at hi
  split at hi <;> simp at hi

theorem not_binds_replicate {key : κ} {owner : ο} (capacity : Nat) :
    ¬ Binds (.replicate capacity none : BindingTable κ ο) key owner := by
  intro hbinds
  cases List.eq_of_mem_replicate hbinds

theorem binds_iff_getElem? {table : BindingTable κ ο} {key : κ} {owner : ο} :
    table.Binds key owner ↔ ∃ i : Nat, table[i]? = some (some ⟨key, owner⟩) :=
  List.mem_iff_getElem?

variable [DecidableEq κ] [DecidableEq ο]

/-- The owner in the first cell with that key. -/
def find (table : BindingTable κ ο) (key : κ) : Option ο :=
  (table.find? fun cell => cell.any (·.key = key)).bind fun cell => cell.map (·.owner)

/-- Bind a key in the first free cell; a key that is bound stays as it is. -/
def add (table : BindingTable κ ο) (key : κ) (owner : ο) : BindingTable κ ο × Bool :=
  match table.find key with
  | some present => (table, present = owner)
  | none =>
      match table.findIdx? (·.isNone) with
      | none => (table, false)
      | some i => (table.set i (some ⟨key, owner⟩), true)

/-- Free the first cell of an owner. -/
def remove (table : BindingTable κ ο) (owner : ο) : BindingTable κ ο :=
  match table.findIdx? fun cell => cell.any (·.owner = owner) with
  | none => table
  | some i => table.set i none

variable {table : BindingTable κ ο} {key : κ} {owner : ο}

omit [DecidableEq ο] in
theorem find_eq_some_iff (h : table.Injective) :
    table.find key = some owner ↔ table.Binds key owner := by
  constructor
  · intro hfind
    obtain ⟨cell, hcell, howner⟩ := Option.bind_eq_some_iff.mp hfind
    obtain ⟨bound, rfl, rfl⟩ := Option.map_eq_some_iff.mp howner
    have hkey : bound.key = key := by simpa using List.find?_some hcell
    rw [← hkey]
    exact List.mem_of_find?_eq_some hcell
  · intro hbinds
    cases hcell : table.find? (fun cell => cell.any (·.key = key)) with
    | none =>
        have hnone := List.find?_eq_none.mp hcell _ hbinds
        simp at hnone
    | some cell =>
        obtain ⟨bound, rfl, hkey⟩ : ∃ bound, cell = some bound ∧ bound.key = key := by
          have hany := List.find?_some hcell
          cases cell with
          | none => cases hany
          | some bound => exact ⟨bound, rfl, by simpa using hany⟩
        obtain ⟨i, hi⟩ := List.mem_iff_getElem?.mp (List.mem_of_find?_eq_some hcell)
        obtain ⟨j, hj⟩ := List.mem_iff_getElem?.mp hbinds
        have hsame := h i j bound ⟨key, owner⟩ hi hj (Or.inl hkey)
        rw [hsame, hj] at hi
        cases Option.some.inj (Option.some.inj hi)
        simp [find, hcell]

omit [DecidableEq ο] in
theorem find_eq_none_iff (h : table.Injective) :
    table.find key = none ↔ ∀ owner, ¬ table.Binds key owner := by
  rw [Option.eq_none_iff_forall_ne_some]
  exact forall_congr' fun owner => not_congr (find_eq_some_iff h)

omit [DecidableEq κ] [DecidableEq ο] in
/-- One cell holds something else. -/
theorem set_spec (h : table.Injective) {i : Nat} {cell : Option (Bound κ ο)}
    (hi : i < table.length)
    (hfresh : ∀ bound, cell = some bound → ∀ (j : Nat) (a : Bound κ ο),
      table[j]? = some (some a) → j ≠ i → a.key ≠ bound.key ∧ a.owner ≠ bound.owner) :
    Injective (table.set i cell) ∧
      ∀ k o, Binds (table.set i cell) k o ↔
        (∃ j, j ≠ i ∧ table[j]? = some (some ⟨k, o⟩)) ∨ cell = some ⟨k, o⟩ := by
  have hget : ∀ j a, (table.set i cell)[j]? = some (some a) →
      (j = i ∧ cell = some a) ∨ (j ≠ i ∧ table[j]? = some (some a)) := by
    intro j a hj
    by_cases hsame : j = i
    · rw [hsame, List.getElem?_set_self hi] at hj
      exact Or.inl ⟨hsame, Option.some.inj hj⟩
    · rw [List.getElem?_set_ne (Ne.symm hsame)] at hj
      exact Or.inr ⟨hsame, hj⟩
  constructor
  · intro j k a b hj hk hshare
    rcases hget j a hj with ⟨rfl, hcell⟩ | ⟨hne, hold⟩
    · rcases hget k b hk with ⟨rfl, -⟩ | ⟨hne, hold⟩
      · rfl
      · have hapart := hfresh a hcell k b hold hne
        rcases hshare with hkey | howner
        · exact absurd hkey.symm hapart.1
        · exact absurd howner.symm hapart.2
    · rcases hget k b hk with ⟨rfl, hcell⟩ | ⟨-, hold'⟩
      · have hapart := hfresh b hcell j a hold hne
        rcases hshare with hkey | howner
        · exact absurd hkey hapart.1
        · exact absurd howner hapart.2
      · exact h j k a b hold hold' hshare
  · intro k o
    rw [binds_iff_getElem?]
    constructor
    · rintro ⟨j, hj⟩
      rcases hget j _ hj with ⟨-, hcell⟩ | ⟨hne, hold⟩
      · exact Or.inr hcell
      · exact Or.inl ⟨j, hne, hold⟩
    · rintro (⟨j, hne, hold⟩ | hcell)
      · exact ⟨j, by rw [List.getElem?_set_ne (Ne.symm hne), hold]⟩
      · exact ⟨i, by rw [List.getElem?_set_self hi, hcell]⟩

/-- A key and an owner that are not bound yet find the first free cell. -/
theorem add_spec (h : table.Injective) (hkey : ∀ present, ¬ table.Binds key present)
    (howner : ∀ bound, ¬ table.Binds bound owner) :
    ((table.add key owner).2 = true ↔ none ∈ table) ∧
      (table.add key owner).1.Injective ∧
      ∀ k o, (table.add key owner).1.Binds k o ↔
        table.Binds k o ∨ ((table.add key owner).2 = true ∧ k = key ∧ o = owner) := by
  unfold add
  rw [(find_eq_none_iff h).mpr hkey]
  dsimp only
  cases hfree : table.findIdx? (·.isNone) with
  | none =>
      have hfull : none ∉ table := by
        intro hmem
        simpa using List.findIdx?_eq_none_iff.mp hfree none hmem
      simp [hfull, h]
  | some i =>
      obtain ⟨hi, hnone, -⟩ := List.findIdx?_eq_some_iff_getElem.mp hfree
      have hcell : table[i] = none := by simpa using hnone
      have hfresh : ∀ bound : Bound κ ο, some ⟨key, owner⟩ = some bound →
          ∀ (j : Nat) (a : Bound κ ο),
          table[j]? = some (some a) → j ≠ i → a.key ≠ bound.key ∧ a.owner ≠ bound.owner := by
        intro bound hbound j a hj _
        cases hbound
        constructor
        · rintro rfl
          exact hkey a.owner (binds_iff_getElem?.mpr ⟨j, hj⟩)
        · rintro rfl
          exact howner a.key (binds_iff_getElem?.mpr ⟨j, hj⟩)
      obtain ⟨hinjective, hbinds⟩ := set_spec h hi hfresh
      refine ⟨by simpa [hcell] using List.getElem_mem hi, hinjective, fun k o => ?_⟩
      rw [hbinds, binds_iff_getElem?]
      constructor
      · rintro (⟨j, -, hj⟩ | hsame)
        · exact Or.inl ⟨j, hj⟩
        · cases hsame
          exact Or.inr ⟨rfl, rfl, rfl⟩
      · rintro (⟨j, hj⟩ | ⟨-, rfl, rfl⟩)
        · refine Or.inl ⟨j, ?_, hj⟩
          rintro rfl
          rw [List.getElem?_eq_getElem hi, hcell] at hj
          cases hj
        · exact Or.inr rfl

omit [DecidableEq κ] in
theorem remove_spec (h : table.Injective) (owner : ο) :
    (table.remove owner).Injective ∧
      ∀ k o, (table.remove owner).Binds k o ↔ table.Binds k o ∧ o ≠ owner := by
  unfold remove
  cases hfound : table.findIdx? (fun cell => cell.any (·.owner = owner)) with
  | none =>
      refine ⟨h, fun k o => ⟨fun hbinds => ⟨hbinds, ?_⟩, And.left⟩⟩
      rintro rfl
      simpa using List.findIdx?_eq_none_iff.mp hfound _ hbinds
  | some i =>
      obtain ⟨hi, howned, -⟩ := List.findIdx?_eq_some_iff_getElem.mp hfound
      obtain ⟨bound, hcell, rfl⟩ : ∃ bound, table[i] = some bound ∧ bound.owner = owner := by
        cases hcell : table[i] with
        | none =>
            rw [hcell] at howned
            cases howned
        | some bound =>
            rw [hcell] at howned
            exact ⟨bound, rfl, by simpa using howned⟩
      have hget : table[i]? = some (some bound) := by
        rw [List.getElem?_eq_getElem hi, hcell]
      obtain ⟨hinjective, hbinds⟩ :=
        @set_spec _ _ table h i none hi fun _ hbound => nomatch hbound
      refine ⟨hinjective, fun k o => ?_⟩
      rw [hbinds, binds_iff_getElem?]
      constructor
      · rintro (⟨j, hne, hj⟩ | hsame)
        · refine ⟨⟨j, hj⟩, ?_⟩
          rintro rfl
          exact hne (h j i _ bound hj hget (Or.inr rfl))
        · cases hsame
      · rintro ⟨⟨j, hj⟩, hne⟩
        refine Or.inl ⟨j, ?_, hj⟩
        rintro rfl
        rw [hget] at hj
        cases Option.some.inj (Option.some.inj hj)
        exact hne rfl

end BindingTable

end CanopenRtt.Support
