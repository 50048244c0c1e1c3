import CanopenRtt.Driver.IngressFilter
/-!
# Compilation and fallback

`co_rtt_compile_ingress_rules_locked` takes the active receive rules one by one and
covers, replaces, appends or merges; `co_rtt_build_broad_fallback_locked` opens the
table for whole frame types.
-/

namespace CanopenRtt.Driver

open Support

/-- The table under construction. `merges` records the pairs that were merged, which
the source does not keep. -/
structure Compilation where
  rules : RuleTable
  merges : List (IngressRule × IngressRule)

/-- Slots without a callback are not receive rules. -/
def CanRx.active (rx : CanRx) : Bool := rx.callback.isSome

def CanRx.candidate (rx : CanRx) : IngressRule where
  id := rx.ident &&& stdMask
  mask := rx.mask &&& stdMask
  rtr := rx.frameType
  id_std := and_stdMask_self ..
  mask_std := and_stdMask_self ..

/-- The first rule that covers the candidate, or that the candidate replaces. -/
def coverCandidate (rules : RuleTable) (candidate : IngressRule) : Option RuleTable :=
  (List.range rules.count).findSome? fun j =>
    if filterRuleCovers (rules.entry j) candidate then some rules
    else if filterRuleCovers candidate (rules.entry j) then
      some (filterCompact (rules.replace j candidate))
    else none

/-- The specificity of a merge, where the frame types allow one. -/
def mergeScore (left right : IngressRule) : Option Nat :=
  if left.rtr ≠ right.rtr then none else some (filterSpecificity (filterMerge left right).mask)

/-- `co_rtt_filter_find_best_merge_target` -/
def filterFindBestMergeTarget (rules : RuleTable) (candidate : IngressRule) : Option Nat :=
  (run (keepBest fun i => mergeScore (rules.entry i) candidate) none
    (List.range rules.count)).map Prod.fst

/-- The pairs `i < j` in the order of the two loops. -/
def pairs (count : Nat) : List (Nat × Nat) :=
  (List.range count).flatMap fun i =>
    (List.range' (i + 1) (count - (i + 1))).map fun j => (i, j)

/-- The search of `co_rtt_filter_merge_existing_pair`. -/
def bestPair (rules : RuleTable) : Option (Nat × Nat) :=
  (run (keepBest fun pair => mergeScore (rules.entry pair.1) (rules.entry pair.2)) none
    (pairs rules.count)).map Prod.fst

/-- `co_rtt_filter_merge_existing_pair`; `none` when no pair exists. -/
def filterMergeExistingPair (c : Compilation) : Option Compilation :=
  (bestPair c.rules).map fun (left, right) =>
    let merged := filterMerge (c.rules.entry left) (c.rules.entry right)
    { rules := filterCompact ((c.rules.replace left merged).remove right)
      merges := c.merges ++ [(c.rules.entry left, c.rules.entry right)] }

/-- One round of the loop over `rxArray`; `none` is `-RT_ERROR`. -/
def compileRx (capacity : Nat) (c : Compilation) (rx : CanRx) : Option Compilation :=
  if rx.active then
    let candidate := rx.candidate
    match coverCandidate c.rules candidate with
    | some rules => some { c with rules := rules }
    | none =>
        if c.rules.count < capacity then some { c with rules := c.rules.append candidate }
        else
          match filterFindBestMergeTarget c.rules candidate with
          | some target =>
              let merged := filterMerge (c.rules.entry target) candidate
              some
                { rules := filterCompact (c.rules.replace target merged)
                  merges := c.merges ++ [(c.rules.entry target, candidate)] }
          | none =>
              match filterMergeExistingPair c with
              | none => none
              | some freed =>
                  if capacity ≤ freed.rules.count then none
                  else some { freed with rules := freed.rules.append candidate }
  else some c

/-- `co_rtt_compile_ingress_rules_locked` -/
def compileIngressRules (capacity : Nat) (rxArray : List CanRx) : Option Compilation :=
  rxArray.foldlM (compileRx capacity) { rules := emptyTable, merges := [] }

/-- Append a zero-mask rule for a frame type that is needed. -/
def addBroad (capacity : Nat) (frameType : FrameType) (need : Bool) (rules : RuleTable) :
    Option RuleTable :=
  if need then
    if capacity ≤ rules.count then none else some (rules.append (broadRule frameType))
  else some rules

/-- Some active receive rule is for frames of this type. -/
def needs (rxArray : List CanRx) (frameType : FrameType) : Bool :=
  rxArray.any fun rx => rx.active && decide (rx.frameType = frameType)

/-- `co_rtt_build_broad_fallback_locked` -/
def buildBroadFallback (capacity : Nat) (rxArray : List CanRx) : Option RuleTable :=
  let needRtr := needs rxArray .rtr
  -- one bank stays open for data frames while no callback is active
  let needDtr := needs rxArray .dtr || !needRtr
  (addBroad capacity .dtr needDtr emptyTable).bind (addBroad capacity .rtr needRtr)

/-! ### What a step of the compilation adds -/

/-- From one table to the next, the frames of `wanted` were added, and others only by
lossy merges. -/
structure Extends (c c' : Compilation) (wanted : StdFrame → Prop) : Prop where
  complete : ∀ frame, Accepts c.rules frame ∨ wanted frame → Accepts c'.rules frame
  noMore : (∀ pair ∈ c'.merges, ¬ Lossy pair.1 pair.2) →
    ∀ frame, Accepts c'.rules frame → Accepts c.rules frame ∨ wanted frame
  merges : c.merges <+: c'.merges

namespace Extends

variable {c c' c'' : Compilation} {wanted more : StdFrame → Prop}

theorem refl (c : Compilation) : Extends c c fun _ => False where
  complete _ h := h.resolve_right id
  noMore _ _ h := Or.inl h
  merges := List.prefix_refl _

theorem of_iff (hmerges : c'.merges = c.merges)
    (h : ∀ frame, Accepts c'.rules frame ↔ Accepts c.rules frame ∨ wanted frame) :
    Extends c c' wanted where
  complete frame := (h frame).mpr
  noMore _ frame := (h frame).mp
  merges := hmerges ▸ List.prefix_refl _

theorem trans (h : Extends c c' wanted) (h' : Extends c' c'' more) :
    Extends c c'' fun frame => wanted frame ∨ more frame where
  complete frame hany := by
    apply h'.complete
    rcases hany with hold | hwanted | hmore
    · exact Or.inl (h.complete frame (Or.inl hold))
    · exact Or.inl (h.complete frame (Or.inr hwanted))
    · exact Or.inr hmore
  noMore hexact frame haccepts := by
    rcases h'.noMore hexact frame haccepts with hmiddle | hmore
    · have hearlier : ∀ pair ∈ c'.merges, ¬ Lossy pair.1 pair.2 :=
        fun pair hpair => hexact pair (h'.merges.subset hpair)
      rcases h.noMore hearlier frame hmiddle with hold | hwanted
      · exact Or.inl hold
      · exact Or.inr (Or.inl hwanted)
    · exact Or.inr (Or.inr hmore)
  merges := h.merges.trans h'.merges

theorem congr (h : Extends c c' wanted) (hiff : ∀ frame, wanted frame ↔ more frame) :
    Extends c c' more where
  complete frame hany := h.complete frame (hany.imp_right (hiff frame).mpr)
  noMore hexact frame haccepts := (h.noMore hexact frame haccepts).imp_right (hiff frame).mp
  merges := h.merges

end Extends

theorem accepts_append (rules : RuleTable) (rule : IngressRule) (frame : StdFrame) :
    Accepts (rules.append rule) frame ↔ Accepts rules frame ∨ rule.Accepts frame :=
  Table.any_append rule

theorem accepts_coverCandidate {rules covered : RuleTable} {candidate : IngressRule}
    (h : coverCandidate rules candidate = some covered) (frame : StdFrame) :
    Accepts covered frame ↔ Accepts rules frame ∨ candidate.Accepts frame := by
  obtain ⟨j, hmem, hj⟩ := List.exists_of_findSome?_eq_some h
  have hlt : j < rules.count := List.mem_range.mp hmem
  split at hj
  · rename_i hcovers
    obtain rfl := Option.some.inj hj
    have hentry : candidate.Accepts frame → Accepts rules frame :=
      fun hframe => ⟨j, hlt, accepts_of_covers hcovers hframe⟩
    exact ⟨Or.inl, fun hany => hany.elim id hentry⟩
  · split at hj
    · rename_i hcovers
      obtain rfl := Option.some.inj hj
      rw [accepts_filterCompact]
      exact Table.any_replace hlt (accepts_of_covers hcovers)
    · contradiction

theorem count_coverCandidate {rules covered : RuleTable} {candidate : IngressRule}
    (h : coverCandidate rules candidate = some covered) : covered.count ≤ rules.count := by
  obtain ⟨j, -, hj⟩ := List.exists_of_findSome?_eq_some h
  split at hj
  · obtain rfl := Option.some.inj hj
    exact Nat.le_refl _
  · split at hj
    · obtain rfl := Option.some.inj hj
      exact count_filterCompact _
    · contradiction

theorem rtr_eq_of_mergeScore {left right : IngressRule} (h : (mergeScore left right).isSome) :
    left.rtr = right.rtr := by
  unfold mergeScore at h
  split at h
  · contradiction
  · rename_i hsame
    exact not_not.mp hsame

theorem mem_of_filterFindBestMergeTarget {rules : RuleTable} {candidate : IngressRule}
    {target : Nat} (h : filterFindBestMergeTarget rules candidate = some target) :
    target < rules.count ∧ (rules.entry target).rtr = candidate.rtr := by
  obtain ⟨found, hfound, rfl⟩ := Option.map_eq_some_iff.mp h
  obtain ⟨hmem, hscore⟩ := mem_of_run_keepBest hfound
  exact ⟨List.mem_range.mp hmem, rtr_eq_of_mergeScore hscore⟩

theorem mem_pairs {count : Nat} {pair : Nat × Nat} (h : pair ∈ pairs count) :
    pair.1 < pair.2 ∧ pair.2 < count := by
  obtain ⟨i, hi, hpair⟩ := List.mem_flatMap.mp h
  obtain ⟨j, hj, rfl⟩ := List.mem_map.mp hpair
  have hcount : i < count := List.mem_range.mp hi
  have hbounds := List.mem_range'_1.mp hj
  dsimp only
  omega

theorem mem_of_bestPair {rules : RuleTable} {left right : Nat}
    (h : bestPair rules = some (left, right)) :
    left < right ∧ right < rules.count ∧ (rules.entry left).rtr = (rules.entry right).rtr := by
  obtain ⟨found, hfound, hpair⟩ := Option.map_eq_some_iff.mp h
  obtain ⟨hmem, hscore⟩ := mem_of_run_keepBest hfound
  rw [hpair] at hmem hscore
  obtain ⟨hless, hlt⟩ := mem_pairs hmem
  exact ⟨hless, hlt, rtr_eq_of_mergeScore hscore⟩

/-- Merging into an entry adds the frames of the other rule, and no more unless the
merge is lossy. -/
theorem extends_mergeInto {c : Compilation} {target : Nat} {rule : IngressRule}
    (htarget : target < c.rules.count) (hsame : (c.rules.entry target).rtr = rule.rtr) :
    Extends c
      { rules := c.rules.replace target (filterMerge (c.rules.entry target) rule)
        merges := c.merges ++ [(c.rules.entry target, rule)] }
      rule.Accepts where
  complete frame hany := by
    apply (Table.any_replace htarget accepts_filterMerge_left).mpr
    rcases hany with hold | hrule
    · exact Or.inl hold
    · exact Or.inr (accepts_filterMerge_right hsame hrule)
  noMore hexact frame haccepts := by
    rcases (Table.any_replace htarget accepts_filterMerge_left).mp haccepts with hold | hmerged
    · exact Or.inl hold
    · have hlossless : ¬ Lossy (c.rules.entry target) rule :=
        hexact _ (List.mem_append_right _ (List.mem_singleton.mpr rfl))
      rcases accepts_or_of_not_lossy hlossless hmerged with hentry | hrule
      · exact Or.inl ⟨target, htarget, hentry⟩
      · exact Or.inr hrule
  merges := List.prefix_append ..

theorem Extends.filterCompact {c : Compilation} {rules : RuleTable}
    {merges : List (IngressRule × IngressRule)} {wanted : StdFrame → Prop}
    (h : Extends c { rules := rules, merges := merges } wanted) :
    Extends c { rules := filterCompact rules, merges := merges } wanted where
  complete frame hany := (accepts_filterCompact rules frame).mpr (h.complete frame hany)
  noMore hexact frame haccepts :=
    h.noMore hexact frame ((accepts_filterCompact rules frame).mp haccepts)
  merges := h.merges

/-- Merging a pair of the table adds nothing unless the merge is lossy. -/
theorem extends_filterMergeExistingPair {c freed : Compilation}
    (h : filterMergeExistingPair c = some freed) : Extends c freed fun _ => False := by
  obtain ⟨⟨left, right⟩, hpair, rfl⟩ := Option.map_eq_some_iff.mp h
  obtain ⟨hless, hright, hsame⟩ := mem_of_bestPair hpair
  have hleft : left < c.rules.count := Nat.lt_trans hless hright
  have hmerged := extends_mergeInto hleft hsame
  apply Extends.filterCompact
  have hentry : (c.rules.replace left
      (filterMerge (c.rules.entry left) (c.rules.entry right))).entry right =
        c.rules.entry right :=
    Table.entry_replace_of_ne _ (Nat.ne_of_gt hless) _
  have hremove : ∀ frame, Accepts ((c.rules.replace left
      (filterMerge (c.rules.entry left) (c.rules.entry right))).remove right) frame ↔
      Accepts (c.rules.replace left
        (filterMerge (c.rules.entry left) (c.rules.entry right))) frame := by
    intro frame
    refine Table.any_remove hleft hright (Nat.ne_of_lt hless) ?_
    rw [hentry, Table.entry_replace_self]
    exact accepts_filterMerge_right hsame
  refine ⟨fun frame hany => ?_, fun hexact frame haccepts => ?_, hmerged.merges⟩
  · exact (hremove frame).mpr (hmerged.complete frame (hany.imp_right False.elim))
  · rcases hmerged.noMore hexact frame ((hremove frame).mp haccepts) with hold | hrule
    · exact Or.inl hold
    · exact Or.inl ⟨right, hright, hrule⟩

theorem count_filterMergeExistingPair {c freed : Compilation}
    (h : filterMergeExistingPair c = some freed) : freed.rules.count + 1 ≤ c.rules.count := by
  obtain ⟨⟨left, right⟩, hpair, rfl⟩ := Option.map_eq_some_iff.mp h
  obtain ⟨-, hright, -⟩ := mem_of_bestPair hpair
  have hcompact := count_filterCompact ((c.rules.replace left
    (filterMerge (c.rules.entry left) (c.rules.entry right))).remove right)
  rw [Table.count_remove (c.rules.replace left _) hright, Table.count_replace] at hcompact
  dsimp only
  omega

/-- The outcomes of a round: the table was full, had room, or covered the candidate. -/
theorem compileRx_cases {capacity : Nat} {c c' : Compilation} {rx : CanRx}
    (h : compileRx capacity c rx = some c') :
    (rx.active = false ∧ c' = c) ∨
      rx.active = true ∧
        ((∃ rules, coverCandidate c.rules rx.candidate = some rules ∧
            c' = { c with rules := rules }) ∨
          (c.rules.count < capacity ∧ c' = { c with rules := c.rules.append rx.candidate }) ∨
          (∃ target, filterFindBestMergeTarget c.rules rx.candidate = some target ∧
            c' =
              { rules := filterCompact
                  (c.rules.replace target (filterMerge (c.rules.entry target) rx.candidate))
                merges := c.merges ++ [(c.rules.entry target, rx.candidate)] }) ∨
          (∃ freed, filterMergeExistingPair c = some freed ∧ freed.rules.count < capacity ∧
            c' = { freed with rules := freed.rules.append rx.candidate })) := by
  unfold compileRx at h
  by_cases hactive : rx.active = true
  · rw [if_pos hactive] at h
    dsimp only at h
    refine Or.inr ⟨hactive, ?_⟩
    split at h
    · rename_i rules hcover
      exact Or.inl ⟨rules, hcover, (Option.some.inj h).symm⟩
    · split at h
      · rename_i hroom
        exact Or.inr (Or.inl ⟨hroom, (Option.some.inj h).symm⟩)
      · split at h
        · rename_i target htarget
          exact Or.inr (Or.inr (Or.inl ⟨target, htarget, (Option.some.inj h).symm⟩))
        · split at h
          · contradiction
          · rename_i freed hfreed
            split at h
            · contradiction
            · rename_i hroom
              exact Or.inr (Or.inr (Or.inr
                ⟨freed, hfreed, Nat.lt_of_not_le hroom, (Option.some.inj h).symm⟩))
  · rw [if_neg hactive] at h
    exact Or.inl ⟨Bool.not_eq_true _ ▸ hactive, (Option.some.inj h).symm⟩

theorem extends_compileRx {capacity : Nat} {c c' : Compilation} {rx : CanRx}
    (h : compileRx capacity c rx = some c') :
    Extends c c' fun frame => rx.active = true ∧ rx.candidate.Accepts frame := by
  rcases compileRx_cases h with ⟨hinactive, rfl⟩ | ⟨hactive, hround⟩
  · refine (Extends.refl c').congr fun frame => ?_
    rw [hinactive]
    simp
  · have hcandidate : Extends c c' rx.candidate.Accepts := by
      rcases hround with ⟨rules, hcover, rfl⟩ | ⟨-, rfl⟩ | ⟨target, htarget, rfl⟩ |
        ⟨freed, hfreed, -, rfl⟩
      · exact Extends.of_iff rfl (accepts_coverCandidate hcover)
      · exact Extends.of_iff rfl (accepts_append c.rules rx.candidate)
      · obtain ⟨hlt, hsame⟩ := mem_of_filterFindBestMergeTarget htarget
        exact (extends_mergeInto hlt hsame).filterCompact
      · have happend : Extends freed { freed with rules := freed.rules.append rx.candidate }
            rx.candidate.Accepts :=
          Extends.of_iff rfl (accepts_append freed.rules rx.candidate)
        refine ((extends_filterMergeExistingPair hfreed).trans happend).congr fun frame => ?_
        exact ⟨fun h => h.resolve_left id, Or.inr⟩
    refine hcandidate.congr fun frame => ?_
    rw [hactive]
    simp

theorem count_compileRx {capacity : Nat} {c c' : Compilation} {rx : CanRx}
    (h : compileRx capacity c rx = some c') (hfits : c.rules.count ≤ capacity) :
    c'.rules.count ≤ capacity := by
  rcases compileRx_cases h with ⟨-, rfl⟩ | ⟨-, ⟨rules, hcover, rfl⟩ | ⟨hroom, rfl⟩ |
    ⟨target, -, rfl⟩ | ⟨freed, -, hroom, rfl⟩⟩
  · exact hfits
  · exact Nat.le_trans (count_coverCandidate hcover) hfits
  · exact hroom
  · exact Nat.le_trans (count_filterCompact _) hfits
  · exact hroom

/-- The frames that the active receive rules ask for. -/
def Required (rxArray : List CanRx) (frame : StdFrame) : Prop :=
  ∃ rx ∈ rxArray, rx.active = true ∧ rx.candidate.Accepts frame

theorem extends_foldlM_compileRx {capacity : Nat} {rxArray : List CanRx} {c c' : Compilation}
    (h : rxArray.foldlM (compileRx capacity) c = some c') : Extends c c' (Required rxArray) := by
  induction rxArray generalizing c with
  | nil =>
      obtain rfl := Option.some.inj h
      refine (Extends.refl c).congr fun frame => ?_
      simp [Required]
  | cons rx rest ih =>
      rw [List.foldlM_cons] at h
      obtain ⟨middle, hfirst, hrest⟩ := Option.bind_eq_some_iff.mp h
      refine ((extends_compileRx hfirst).trans (ih hrest)).congr fun frame => ?_
      simp [Required]

theorem count_foldlM_compileRx {capacity : Nat} {rxArray : List CanRx} {c c' : Compilation}
    (h : rxArray.foldlM (compileRx capacity) c = some c') (hfits : c.rules.count ≤ capacity) :
    c'.rules.count ≤ capacity := by
  induction rxArray generalizing c with
  | nil =>
      obtain rfl := Option.some.inj h
      exact hfits
  | cons rx rest ih =>
      rw [List.foldlM_cons] at h
      obtain ⟨middle, hfirst, hrest⟩ := Option.bind_eq_some_iff.mp h
      exact ih hrest (count_compileRx hfirst hfits)

/-! ### The compiled table and the fallback -/

theorem not_accepts_emptyTable (frame : StdFrame) : ¬ Accepts emptyTable frame := by
  rintro ⟨k, hk, -⟩
  exact absurd hk (Nat.not_lt_zero k)

section Compiled

variable {capacity : Nat} {rxArray : List CanRx} {c : Compilation}

theorem accepts_compileIngressRules (h : compileIngressRules capacity rxArray = some c)
    {frame : StdFrame} (hframe : Required rxArray frame) : Accepts c.rules frame :=
  (extends_foldlM_compileRx h).complete frame (Or.inr hframe)

theorem required_of_accepts (h : compileIngressRules capacity rxArray = some c)
    (hexact : ∀ pair ∈ c.merges, ¬ Lossy pair.1 pair.2) {frame : StdFrame}
    (hframe : Accepts c.rules frame) : Required rxArray frame :=
  ((extends_foldlM_compileRx h).noMore hexact frame hframe).resolve_left
    (not_accepts_emptyTable frame)

theorem count_compileIngressRules (h : compileIngressRules capacity rxArray = some c) :
    c.rules.count ≤ capacity :=
  count_foldlM_compileRx h (Nat.zero_le capacity)

end Compiled

theorem FrameType.eq_of_ne {a b c : FrameType} (ha : a ≠ c) (hb : b ≠ c) : a = b := by
  cases a <;> cases b <;> cases c <;> simp_all

theorem mergeScore_isSome {left right : IngressRule} (h : left.rtr = right.rtr) :
    (mergeScore left right).isSome := by
  rw [mergeScore, if_neg (not_not_intro h)]
  rfl

theorem mem_pairs_of_lt {count i j : Nat} (hij : i < j) (hj : j < count) :
    (i, j) ∈ pairs count := by
  apply List.mem_flatMap.mpr
  refine ⟨i, List.mem_range.mpr (by omega), List.mem_map.mpr ⟨j, ?_, rfl⟩⟩
  apply List.mem_range'_1.mpr
  omega

/-- A full table of two entries or more has a pair to merge when no entry is of the
candidate's type. -/
theorem bestPair_isSome {rules : RuleTable} {candidate : IngressRule} (htwo : 2 ≤ rules.count)
    (hnone : filterFindBestMergeTarget rules candidate = none) : (bestPair rules).isSome := by
  have hother : ∀ i, i < rules.count → (rules.entry i).rtr ≠ candidate.rtr := by
    intro i hi hsame
    have hscores := score_eq_none_of_run_keepBest (Option.map_eq_none_iff.mp hnone) i
      (List.mem_range.mpr hi)
    have hscore := mergeScore_isSome hsame
    rw [hscores] at hscore
    contradiction
  rw [Option.isSome_iff_ne_none]
  intro hempty
  have hscores := score_eq_none_of_run_keepBest (Option.map_eq_none_iff.mp hempty) (0, 1)
    (mem_pairs_of_lt Nat.zero_lt_one htwo)
  have hscore := mergeScore_isSome
    (FrameType.eq_of_ne (hother 0 (by omega)) (hother 1 htwo))
  rw [hscores] at hscore
  contradiction

theorem compileRx_isSome {capacity : Nat} (htwo : 2 ≤ capacity) {c : Compilation}
    (hfits : c.rules.count ≤ capacity) (rx : CanRx) : (compileRx capacity c rx).isSome := by
  unfold compileRx
  split
  · dsimp only
    split
    · rfl
    · split
      · rfl
      · rename_i hfull
        split
        · rfl
        · rename_i hnone
          obtain ⟨pair, hpair⟩ := Option.isSome_iff_exists.mp
            (@bestPair_isSome c.rules _ (by omega) hnone)
          have hmerge : (filterMergeExistingPair c).isSome := by
            rw [filterMergeExistingPair, Option.isSome_map, hpair]
            rfl
          split
          · rename_i hfailed
            rw [hfailed] at hmerge
            contradiction
          · rename_i freed hfreed
            have hcount := count_filterMergeExistingPair hfreed
            rw [if_neg (by omega)]
            rfl
  · rfl

theorem compileIngressRules_isSome {capacity : Nat} (htwo : 2 ≤ capacity) (rxArray : List CanRx) :
    (compileIngressRules capacity rxArray).isSome := by
  have hall : ∀ c : Compilation, c.rules.count ≤ capacity →
      (rxArray.foldlM (compileRx capacity) c).isSome := by
    induction rxArray with
    | nil => exact fun c _ => rfl
    | cons rx rest ih =>
        intro c hfits
        obtain ⟨middle, hfirst⟩ := Option.isSome_iff_exists.mp (compileRx_isSome htwo hfits rx)
        rw [List.foldlM_cons, hfirst]
        exact ih middle (count_compileRx hfirst hfits)
  exact hall _ (Nat.zero_le capacity)

theorem addBroad_eq {capacity : Nat} {frameType : FrameType} {need : Bool}
    {rules rules' : RuleTable} (h : addBroad capacity frameType need rules = some rules') :
    (need = true ∧ rules.count < capacity ∧ rules' = rules.append (broadRule frameType)) ∨
      (need = false ∧ rules' = rules) := by
  unfold addBroad at h
  cases need with
  | true =>
      rw [if_pos rfl] at h
      split at h
      · contradiction
      · rename_i hroom
        exact Or.inl ⟨rfl, Nat.lt_of_not_le hroom, (Option.some.inj h).symm⟩
  | false => exact Or.inr ⟨rfl, (Option.some.inj h).symm⟩

theorem accepts_of_addBroad {capacity : Nat} {frameType : FrameType} {need : Bool}
    {rules rules' : RuleTable} (h : addBroad capacity frameType need rules = some rules')
    {frame : StdFrame} (hframe : Accepts rules frame ∨ need = true ∧ frame.rtr = frameType) :
    Accepts rules' frame := by
  rcases addBroad_eq h with ⟨-, -, rfl⟩ | ⟨hneed, rfl⟩
  · apply (accepts_append rules _ frame).mpr
    rcases hframe with hold | ⟨-, rfl⟩
    · exact Or.inl hold
    · exact Or.inr (accepts_broadRule frame)
  · rcases hframe with hold | ⟨hneeded, -⟩
    · exact hold
    · rw [hneed] at hneeded
      contradiction

theorem count_addBroad {capacity : Nat} {frameType : FrameType} {need : Bool}
    {rules rules' : RuleTable} (h : addBroad capacity frameType need rules = some rules')
    (hfits : rules.count ≤ capacity) : rules'.count ≤ capacity := by
  rcases addBroad_eq h with ⟨-, hroom, rfl⟩ | ⟨-, rfl⟩
  · exact hroom
  · exact hfits

section Fallback

variable {capacity : Nat} {rxArray : List CanRx} {rules : RuleTable}

theorem needs_of_required {frame : StdFrame} (h : Required rxArray frame) :
    needs rxArray frame.rtr = true := by
  obtain ⟨rx, hmem, hactive, haccepts⟩ := h
  unfold needs
  rw [List.any_eq_true]
  refine ⟨rx, hmem, ?_⟩
  rw [hactive, Bool.true_and, decide_eq_true_eq]
  exact haccepts.1

theorem accepts_buildBroadFallback (h : buildBroadFallback capacity rxArray = some rules)
    {frame : StdFrame} (hframe : Required rxArray frame) : Accepts rules frame := by
  obtain ⟨data, hdata, hremote⟩ := Option.bind_eq_some_iff.mp h
  have hneeds := needs_of_required hframe
  apply accepts_of_addBroad hremote
  cases hrtr : frame.rtr with
  | dtr =>
      rw [hrtr] at hneeds
      refine Or.inl (accepts_of_addBroad hdata (Or.inr ⟨?_, hrtr⟩))
      rw [hneeds, Bool.true_or]
  | rtr =>
      rw [hrtr] at hneeds
      exact Or.inr ⟨hneeds, rfl⟩

theorem count_buildBroadFallback (h : buildBroadFallback capacity rxArray = some rules) :
    rules.count ≤ capacity := by
  obtain ⟨data, hdata, hremote⟩ := Option.bind_eq_some_iff.mp h
  exact count_addBroad hremote (count_addBroad hdata (Nat.zero_le capacity))

end Fallback

end CanopenRtt.Driver
