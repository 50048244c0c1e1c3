import CanopenRtt.Driver.IngressCompile
import Mathlib.Tactic.IntervalCases
/-!
# Programming the filter banks and dispatching frames

`co_rtt_can_filter_refresh`, the receive dispatch and `CO_CANrxBufferInit`. What the
CAN device answers to `RT_CAN_CMD_SET_FILTER` is an argument: a successful command
has programmed the banks it names, a failed one has left them in any state.
-/

namespace CanopenRtt.Driver

open Support

/-- `RT_CAN_STDID` and `RT_CAN_EXTID`. -/
inductive IdType where
  | std
  | ext
  deriving DecidableEq

/-- `RT_CAN_MODE_MASK` and `RT_CAN_MODE_LIST`. -/
inductive FilterMode where
  | mask
  | list
  deriving DecidableEq

/-- `struct rt_can_filter_item` -/
structure FilterItem where
  id : BitVec 16
  ide : IdType
  rtr : FrameType
  mode : FilterMode
  mask : BitVec 16
  hdrBank : Nat
  rxfifo : Nat
  deriving DecidableEq

/-- `struct rt_can_filter_config` -/
structure FilterConfig where
  count : Nat
  actived : Bool
  items : Nat → FilterItem

/-- A mask-mode bank for standard frames compares the masked identifier and the RTR bit. -/
def FilterItem.accepts (item : FilterItem) (frame : StdFrame) : Bool :=
  decide (item.ide = .std) && decide (item.mode = .mask) && decide (item.rtr = frame.rtr) &&
    decide (AgreeOn item.mask frame.ident item.id)

/-- The filter banks of the controller; `none` is switched off. -/
abbrev Banks := Nat → Option FilterItem

/-- `PKG_CANOPENNODE_RX_HDR_BANK_BASE` and `PKG_CANOPENNODE_RX_HDR_BANK_COUNT`. -/
structure BankRange where
  base : Nat
  count : Nat

/-- The bank count after its cast to `uint16_t`. -/
def BankRange.capacity (range : BankRange) : Nat := range.count % 65536

/-- Some bank of the range lets the frame through. -/
def banksAccept (range : BankRange) (banks : Banks) (frame : StdFrame) : Bool :=
  (List.range range.capacity).any fun i =>
    (banks (range.base + i)).any fun item => item.accepts frame

inductive RtErr where
  | ok
  | error
  | einval
  | device (code : Nat)
  deriving DecidableEq

/-- The answer to `RT_CAN_CMD_SET_FILTER`. -/
inductive FilterReply where
  | done
  | failed (code : Nat) (banks : Banks)

/-- The banks that a configuration names receive its items. -/
def program (range : BankRange) (config : FilterConfig) (banks : Banks) : Banks :=
  fun bank =>
    if range.base ≤ bank ∧ bank < range.base + config.count then
      some (config.items (bank - range.base))
    else banks bank

/-- The rules fill all reserved banks in turn. -/
def filterConfig (range : BankRange) (rules : RuleTable) : FilterConfig where
  count := range.capacity
  actived := true
  items i :=
    let rule := rules.entry (i % rules.count)
    { id := rule.id
      ide := .std
      rtr := rule.rtr
      mode := .mask
      mask := rule.mask
      hdrBank := range.base + i
      rxfifo := 0 }

/-- `co_rtt_apply_ingress_rules` -/
def applyIngressRules (range : BankRange) (rules : RuleTable) (reply : FilterReply)
    (banks : Banks) : Banks × RtErr :=
  if rules.count = 0 ∨ range.capacity = 0 ∨ range.count < range.capacity then (banks, .einval)
  else
    match reply with
    | .done => (program range (filterConfig range rules) banks, .ok)
    | .failed code after => (after, .device code)

/-- The fields of `CO_CANmodule_t` that filtering uses. `maxhdr` is the bank count of the
device, `none` without one; `banks` is the hardware. -/
structure FilterModule where
  maxhdr : Option Nat
  rxArray : List CanRx
  canNormal : Bool
  rxFilterDirty : Bool
  useCANrxFilters : Bool
  banks : Banks

/-- The table that a refresh has programmed. -/
structure Rebuild where
  rules : RuleTable
  fallback : Bool
  merges : List (IngressRule × IngressRule)

/-- What the environment answers to a refresh: whether the mutex was taken, and how the
programming of the compiled table and of the broad one end. -/
structure RefreshAnswers where
  locked : Bool
  compiled : FilterReply
  broad : FilterReply

/-- The end of a refresh whose table was built. -/
def finishRefresh (range : BankRange) (rebuild : Rebuild) (reply : FilterReply)
    (m : FilterModule) : FilterModule × RtErr :=
  let (banks, ret) := applyIngressRules range rebuild.rules reply m.banks
  if ret = .ok then
    ({ m with banks := banks, rxFilterDirty := false, useCANrxFilters := true }, ret)
  else ({ m with banks := banks, useCANrxFilters := false }, ret)

/-- A refresh that falls back to broad rules. -/
def refreshFallback (range : BankRange) (reply : FilterReply) (m : FilterModule) :
    FilterModule × RtErr × Option Rebuild :=
  match buildBroadFallback range.capacity m.rxArray with
  | none => ({ m with useCANrxFilters := false }, .error, none)
  | some rules =>
      let rebuild : Rebuild := { rules := rules, fallback := true, merges := [] }
      let (m, ret) := finishRefresh range rebuild reply m
      (m, ret, some rebuild)

/-- Compilation and programming, between the second test of the dirty flag and the
release of `rxRuleMutex`. -/
def rebuildFilters (range : BankRange) (answers : RefreshAnswers) (m : FilterModule) :
    FilterModule × RtErr × Option Rebuild :=
  match compileIngressRules range.capacity m.rxArray with
  | none => refreshFallback range answers.broad m
  | some c =>
      let rebuild : Rebuild := { rules := c.rules, fallback := false, merges := c.merges }
      let (m, ret) := finishRefresh range rebuild answers.compiled m
      if ret = .ok then (m, ret, some rebuild)
      else refreshFallback range answers.broad m

/-- The section of `co_rtt_can_filter_refresh` that holds `rxRuleMutex`. -/
def refreshLocked (range : BankRange) (force : Bool) (answers : RefreshAnswers)
    (m : FilterModule) : FilterModule × RtErr × Option Rebuild :=
  if answers.locked = false then ({ m with useCANrxFilters := false }, .error, none)
  else if force = false ∧ m.rxFilterDirty = false then (m, .ok, none)
  else rebuildFilters range answers m

/-- The reserved range lies within the banks of the device. -/
def bankRangeValid (range : BankRange) (maxhdr : Option Nat) : Bool :=
  match maxhdr with
  | none => false
  | some maxhdr =>
      decide (maxhdr ≠ 0) && decide (range.base < maxhdr) &&
        decide (range.count ≤ maxhdr - range.base)

/-- The tests of `co_rtt_can_filter_refresh` in front of the mutex; `none` goes on. -/
def refreshTest (range : BankRange) (force : Bool) (m : FilterModule) :
    FilterModule × Option RtErr :=
  if force = false ∧ m.rxFilterDirty = false then (m, some .ok)
  else if bankRangeValid range m.maxhdr = false then
    ({ m with useCANrxFilters := false }, some .error)
  else (m, none)

/-- `co_rtt_can_filter_refresh`, and the table if it was rebuilt. -/
def canFilterRefresh (range : BankRange) (force : Bool) (answers : RefreshAnswers)
    (m : FilterModule) : FilterModule × RtErr × Option Rebuild :=
  match refreshTest range force m with
  | (m, some ret) => (m, ret, none)
  | (m, none) => refreshLocked range force answers m

/-! ### Receive rules -/

/-- The arguments of `CO_CANrxBufferInit` behind the index. -/
structure RxArgs where
  ident : BitVec 16
  mask : BitVec 16
  rtr : Bool
  object : Nat
  callback : Option Nat

/-- The entry that `CO_CANrxBufferInit` writes. -/
def canRxBuffer (args : RxArgs) : CanRx where
  ident := args.ident &&& stdMask ||| (if args.rtr then rtrFlag else 0#16)
  mask := args.mask &&& stdMask ||| rtrFlag
  object := args.object
  callback := args.callback

/-- The arrays that `CO_CANmodule_init` and `CO_CANrxBufferInit` fill. -/
inductive Filled : List CanRx → Prop where
  | cleared (size : Nat) : Filled (List.replicate size CanRx.empty)
  | bufferInit (rxArray : List CanRx) (index : Nat) (args : RxArgs) (h : Filled rxArray) :
      Filled (rxArray.set index (canRxBuffer args))

/-- `struct rt_can_msg`, without its data. -/
structure CanMsg where
  id : BitVec 29
  ide : IdType
  rtr : FrameType
  len : BitVec 8

/-- The standard frame that a message was received as. -/
def CanMsg.frame (msg : CanMsg) : StdFrame where
  id := msg.id.setWidth 11
  rtr := msg.rtr

/-- Identifier and RTR bit, aligned with `CO_CANrx_t.ident`. -/
def StdFrame.word (frame : StdFrame) : BitVec 16 :=
  frame.ident ||| (if frame.rtr = .rtr then rtrFlag else 0#16)

/-- The comparison of the dispatcher. -/
def CanRx.Matches (rx : CanRx) (frame : StdFrame) : Prop := AgreeOn rx.mask frame.word rx.ident

instance (rx : CanRx) (frame : StdFrame) : Decidable (rx.Matches frame) :=
  inferInstanceAs (Decidable (AgreeOn _ _ _))

/-- The search of `co_rtt_can_dispatch`: object and callback of the first match. -/
def canDispatch (rxArray : List CanRx) (msg : CanMsg) : Option (Nat × Nat) :=
  if msg.ide ≠ .std ∨ 8#8 < msg.len then none
  else
    (rxArray.find? fun rx => rx.active && decide (rx.Matches msg.frame)).bind fun rx =>
      rx.callback.map fun callback => (rx.object, callback)

theorem getLsbD_stdMask (i : Nat) : stdMask.getLsbD i = decide (i < 11) := by
  by_cases hi : i < 16
  · interval_cases i <;> rfl
  · rw [BitVec.getLsbD_of_ge _ _ (Nat.le_of_not_lt hi)]
    simp
    omega

theorem getLsbD_rtrFlag (i : Nat) : rtrFlag.getLsbD i = decide (i = 11) := by
  by_cases hi : i < 16
  · interval_cases i <;> rfl
  · rw [BitVec.getLsbD_of_ge _ _ (Nat.le_of_not_lt hi)]
    simp
    omega

theorem getLsbD_ident (frame : StdFrame) {i : Nat} (hi : 11 ≤ i) :
    frame.ident.getLsbD i = false := by
  rw [StdFrame.ident, BitVec.getLsbD_setWidth, BitVec.getLsbD_of_ge _ _ hi, Bool.and_false]

theorem getLsbD_or_rtrFlag (word : BitVec 16) (rtr : Bool) (i : Nat) :
    (word ||| (if rtr then rtrFlag else 0#16)).getLsbD i =
      (word.getLsbD i || (rtr && decide (i = 11))) := by
  cases rtr
  · simp
  · simp [getLsbD_rtrFlag]

theorem frameType_eq (rx : CanRx) :
    rx.frameType = if rx.ident.getLsbD 11 then .rtr else .dtr := by
  have hbit : rx.ident &&& rtrFlag ≠ 0#16 ↔ rx.ident.getLsbD 11 = true := by
    constructor
    · intro hne
      by_contra hclear
      apply hne
      apply BitVec.eq_of_getLsbD_eq
      intro i _
      rw [BitVec.getLsbD_and, getLsbD_rtrFlag]
      by_cases hi : i = 11
      · rw [hi, Bool.eq_false_iff.mpr hclear]
        rfl
      · simp [hi]
    · intro hset hzero
      have hbit : (rx.ident &&& rtrFlag).getLsbD 11 = false := by
        rw [hzero]
        rfl
      rw [BitVec.getLsbD_and, hset, getLsbD_rtrFlag] at hbit
      contradiction
  rw [CanRx.frameType]
  exact if_congr hbit rfl rfl

theorem frameType_eq_iff (rx : CanRx) (frameType : FrameType) :
    rx.frameType = frameType ↔ rx.ident.getLsbD 11 = decide (frameType = .rtr) := by
  rw [frameType_eq]
  cases rx.ident.getLsbD 11 <;> cases frameType <;> simp

theorem getLsbD_word (frame : StdFrame) (i : Nat) : frame.word.getLsbD i =
    (frame.ident.getLsbD i || (decide (frame.rtr = .rtr) && decide (i = 11))) := by
  have hword := getLsbD_or_rtrFlag frame.ident (decide (frame.rtr = .rtr)) i
  rw [StdFrame.word]
  simpa using hword

/-- For an entry that `CO_CANrxBufferInit` has written, the compiled candidate lets
exactly the frames through that the dispatcher matches. -/
theorem accepts_candidate_iff (args : RxArgs) (frame : StdFrame) :
    (canRxBuffer args).candidate.Accepts frame ↔ (canRxBuffer args).Matches frame := by
  have hmask : ∀ i, (canRxBuffer args).mask.getLsbD i =
      ((args.mask.getLsbD i && decide (i < 11)) || decide (i = 11)) := by
    intro i
    have hbits := getLsbD_or_rtrFlag (args.mask &&& stdMask) true i
    rw [BitVec.getLsbD_and, getLsbD_stdMask] at hbits
    simpa [canRxBuffer] using hbits
  have hword : frame.word.getLsbD 11 = decide (frame.rtr = .rtr) := by
    rw [getLsbD_word, getLsbD_ident frame (Nat.le_refl 11)]
    simp
  unfold CanRx.Matches IngressRule.Accepts
  rw [agreeOn_iff, agreeOn_iff]
  constructor
  · rintro ⟨htype, hlow⟩ i hi
    rw [hmask] at hi
    by_cases hflag : i = 11
    · rw [hflag, hword]
      exact ((frameType_eq_iff _ _).mp htype).symm
    · have hstd : i < 11 := by
        by_contra hhigh
        simp [hflag, hhigh] at hi
      have hselected : (canRxBuffer args).candidate.mask.getLsbD i = true := by
        rw [CanRx.candidate, BitVec.getLsbD_and, hmask, hi, getLsbD_stdMask]
        simp [hstd]
      have hsame := hlow i hselected
      rw [getLsbD_word, hsame]
      simp [CanRx.candidate, getLsbD_stdMask, hflag, hstd]
  · intro hall
    refine ⟨?_, fun i hi => ?_⟩
    · apply (frameType_eq_iff _ _).mpr
      rw [← hword]
      exact (hall 11 (by simp [hmask])).symm
    · simp only [CanRx.candidate, BitVec.getLsbD_and, getLsbD_stdMask, Bool.and_eq_true,
        decide_eq_true_eq] at hi
      obtain ⟨hselected, hstd⟩ := hi
      have hsame := hall i hselected
      have hflag : i ≠ 11 := by omega
      rw [getLsbD_word] at hsame
      simp only [hflag, decide_false, Bool.and_false, Bool.or_false] at hsame
      rw [hsame]
      simp [CanRx.candidate, getLsbD_stdMask, hstd]

/-- Only a matching entry with a callback is found, and one is found if there is any. -/
theorem isSome_canDispatch {rxArray : List CanRx} {msg : CanMsg}
    (h : (canDispatch rxArray msg).isSome) :
    ∃ rx ∈ rxArray, rx.active = true ∧ rx.Matches msg.frame := by
  unfold canDispatch at h
  split at h
  · contradiction
  · rw [Option.isSome_bind, Option.any_eq_true] at h
    obtain ⟨rx, hfind, -⟩ := h
    have hfound := List.find?_some hfind
    rw [Bool.and_eq_true, decide_eq_true_eq] at hfound
    exact ⟨rx, List.mem_of_find?_eq_some hfind, hfound⟩

/-- An active entry was written by `CO_CANrxBufferInit`. -/
theorem Filled.exists_args {rxArray : List CanRx} (h : Filled rxArray) :
    ∀ rx ∈ rxArray, rx.active = true → ∃ args, rx = canRxBuffer args := by
  induction h with
  | cleared size =>
      intro rx hmem hactive
      rw [List.eq_of_mem_replicate hmem] at hactive
      contradiction
  | bufferInit rxArray index args _ ih =>
      intro rx hmem hactive
      rcases List.mem_or_eq_of_mem_set hmem with hold | rfl
      · exact ih rx hold hactive
      · exact ⟨args, rfl⟩

/-- The frames of the active receive rules, compiled or matched in software. -/
theorem Filled.required_iff {rxArray : List CanRx} (h : Filled rxArray) (frame : StdFrame) :
    Required rxArray frame ↔ ∃ rx ∈ rxArray, rx.active = true ∧ rx.Matches frame := by
  constructor
  · rintro ⟨rx, hmem, hactive, haccepts⟩
    obtain ⟨args, rfl⟩ := h.exists_args rx hmem hactive
    exact ⟨_, hmem, hactive, (accepts_candidate_iff args frame).mp haccepts⟩
  · rintro ⟨rx, hmem, hactive, hmatches⟩
    obtain ⟨args, rfl⟩ := h.exists_args rx hmem hactive
    exact ⟨_, hmem, hactive, (accepts_candidate_iff args frame).mpr hmatches⟩

/-! ### What a refresh does -/

/-- The table that a refresh was going to program. -/
inductive Built (range : BankRange) (rxArray : List CanRx) : Rebuild → Prop where
  | compiled (c : Compilation) (h : compileIngressRules range.capacity rxArray = some c) :
      Built range rxArray { rules := c.rules, fallback := false, merges := c.merges }
  | broad (rules : RuleTable) (h : buildBroadFallback range.capacity rxArray = some rules) :
      Built range rxArray { rules := rules, fallback := true, merges := [] }

theorem Built.count_le {range : BankRange} {rxArray : List CanRx} {rebuild : Rebuild}
    (h : Built range rxArray rebuild) : rebuild.rules.count ≤ range.capacity := by
  cases h with
  | compiled c h => exact count_compileIngressRules h
  | broad rules h => exact count_buildBroadFallback h

theorem Built.accepts {range : BankRange} {rxArray : List CanRx} {rebuild : Rebuild}
    (h : Built range rxArray rebuild) {frame : StdFrame} (hframe : Required rxArray frame) :
    Accepts rebuild.rules frame := by
  cases h with
  | compiled c h => exact accepts_compileIngressRules h hframe
  | broad rules h => exact accepts_buildBroadFallback h hframe

/-- Without a fallback or a lossy merge the table asks for nothing more. -/
theorem Built.accepts_iff {range : BankRange} {rxArray : List CanRx} {rebuild : Rebuild}
    (h : Built range rxArray rebuild) (hcompiled : rebuild.fallback = false)
    (hlossless : ∀ pair ∈ rebuild.merges, ¬ Lossy pair.1 pair.2) (frame : StdFrame) :
    Accepts rebuild.rules frame ↔ Required rxArray frame := by
  cases h with
  | compiled c h =>
      exact ⟨required_of_accepts h hlossless, accepts_compileIngressRules h⟩
  | broad rules h => contradiction

/-- Every bank of the range holds a rule of the table, and every rule has a bank. -/
structure Programmed (range : BankRange) (rules : RuleTable) (banks : Banks) : Prop where
  count_pos : 0 < rules.count
  items : ∀ i, i < range.capacity →
    banks (range.base + i) = some ((filterConfig range rules).items i)

theorem filterConfig_items_accepts (range : BankRange) (rules : RuleTable) (i : Nat)
    (frame : StdFrame) : ((filterConfig range rules).items i).accepts frame = true ↔
      (rules.entry (i % rules.count)).Accepts frame := by
  unfold FilterItem.accepts filterConfig IngressRule.Accepts
  simp only [decide_true, Bool.true_and, Bool.and_eq_true]
  exact and_congr decide_eq_true_iff decide_eq_true_iff

theorem Programmed.banksAccept_iff {range : BankRange} {rules : RuleTable} {banks : Banks}
    (h : Programmed range rules banks) (hfits : rules.count ≤ range.capacity)
    (frame : StdFrame) : banksAccept range banks frame = true ↔ Accepts rules frame := by
  unfold banksAccept
  rw [List.any_eq_true]
  constructor
  · rintro ⟨i, hi, hbank⟩
    rw [h.items i (List.mem_range.mp hi), Option.any_some] at hbank
    exact ⟨i % rules.count, Nat.mod_lt i h.count_pos,
      (filterConfig_items_accepts range rules i frame).mp hbank⟩
  · rintro ⟨k, hk, haccepts⟩
    have hlt : k < range.capacity := Nat.lt_of_lt_of_le hk hfits
    refine ⟨k, List.mem_range.mpr hlt, ?_⟩
    rw [h.items k hlt, Option.any_some]
    apply (filterConfig_items_accepts range rules k frame).mpr
    rwa [Nat.mod_eq_of_lt hk]

/-- What a refresh never touches. -/
structure SameRules (m m' : FilterModule) : Prop where
  maxhdr : m'.maxhdr = m.maxhdr
  rxArray : m'.rxArray = m.rxArray
  canNormal : m'.canNormal = m.canNormal

theorem SameRules.trans {m m' m'' : FilterModule} (h : SameRules m m') (h' : SameRules m' m'') :
    SameRules m m'' where
  maxhdr := h'.maxhdr.trans h.maxhdr
  rxArray := h'.rxArray.trans h.rxArray
  canNormal := h'.canNormal.trans h.canNormal

/-- A table was built for the current rules, programmed, and the flag lowered. -/
structure Refreshed (range : BankRange) (m m' : FilterModule) (rebuild : Rebuild) : Prop where
  same : SameRules m m'
  built : Built range m.rxArray rebuild
  programmed : Programmed range rebuild.rules m'.banks
  dirty : m'.rxFilterDirty = false

theorem applyIngressRules_ok {range : BankRange} {rules : RuleTable} {reply : FilterReply}
    {banks : Banks} (h : (applyIngressRules range rules reply banks).2 = .ok) :
    Programmed range rules (applyIngressRules range rules reply banks).1 := by
  unfold applyIngressRules at h ⊢
  by_cases hempty : rules.count = 0 ∨ range.capacity = 0 ∨ range.count < range.capacity
  · rw [if_pos hempty] at h
    contradiction
  · rw [if_neg hempty] at h ⊢
    rw [not_or] at hempty
    cases reply with
    | done =>
        refine ⟨Nat.pos_of_ne_zero hempty.1, fun i hi => ?_⟩
        have hrange : range.base ≤ range.base + i ∧
            range.base + i < range.base + (filterConfig range rules).count :=
          ⟨Nat.le_add_right .., Nat.add_lt_add_left hi _⟩
        dsimp only
        rw [program, if_pos hrange, Nat.add_sub_cancel_left]
    | failed code after => contradiction

theorem finishRefresh_cases (range : BankRange) (rebuild : Rebuild) (reply : FilterReply)
    (m : FilterModule) :
    SameRules m (finishRefresh range rebuild reply m).1 ∧
      (((finishRefresh range rebuild reply m).2 = .ok ∧
          Programmed range rebuild.rules (finishRefresh range rebuild reply m).1.banks ∧
          (finishRefresh range rebuild reply m).1.rxFilterDirty = false) ∨
        ((finishRefresh range rebuild reply m).2 ≠ .ok ∧
          (finishRefresh range rebuild reply m).1.rxFilterDirty = m.rxFilterDirty)) := by
  have happly := @applyIngressRules_ok range rebuild.rules reply m.banks
  unfold finishRefresh
  generalize applyIngressRules range rebuild.rules reply m.banks = result at happly ⊢
  obtain ⟨banks, ret⟩ := result
  dsimp only at happly ⊢
  by_cases hret : ret = .ok
  · rw [if_pos hret]
    exact ⟨⟨rfl, rfl, rfl⟩, Or.inl ⟨hret, happly hret, rfl⟩⟩
  · rw [if_neg hret]
    exact ⟨⟨rfl, rfl, rfl⟩, Or.inr ⟨hret, rfl⟩⟩

/-- Either a table is programmed or the dirty flag stays as it was. -/
inductive RebuildOutcome (range : BankRange) (m : FilterModule) :
    FilterModule × RtErr × Option Rebuild → Prop where
  | rebuilt (m' : FilterModule) (rebuild : Rebuild) (h : Refreshed range m m' rebuild) :
      RebuildOutcome range m (m', .ok, some rebuild)
  | failed (m' : FilterModule) (ret : RtErr) (report : Option Rebuild) (hret : ret ≠ .ok)
      (hsame : SameRules m m') (hdirty : m'.rxFilterDirty = m.rxFilterDirty) :
      RebuildOutcome range m (m', ret, report)

/-- A refresh that starts from banks an earlier attempt has left. -/
theorem RebuildOutcome.after {range : BankRange} {m middle : FilterModule}
    {result : FilterModule × RtErr × Option Rebuild} (hsame : SameRules m middle)
    (hdirty : middle.rxFilterDirty = m.rxFilterDirty) (h : RebuildOutcome range middle result) :
    RebuildOutcome range m result := by
  cases h with
  | rebuilt m' rebuild h =>
      refine .rebuilt _ _ ⟨hsame.trans h.same, ?_, h.programmed, h.dirty⟩
      have hbuilt := h.built
      rwa [hsame.rxArray] at hbuilt
  | failed m' ret report hret hlater hflag =>
      exact .failed _ _ _ hret (hsame.trans hlater) (hflag.trans hdirty)

theorem refreshFallback_outcome (range : BankRange) (reply : FilterReply) (m : FilterModule) :
    RebuildOutcome range m (refreshFallback range reply m) := by
  unfold refreshFallback
  split
  · exact .failed _ _ _ nofun ⟨rfl, rfl, rfl⟩ rfl
  · rename_i rules hrules
    dsimp only
    obtain ⟨hsame, ⟨hret, hprogrammed, hdirty⟩ | ⟨hret, hdirty⟩⟩ :=
      finishRefresh_cases range { rules := rules, fallback := true, merges := [] } reply m
    · rw [hret]
      exact .rebuilt _ _ ⟨hsame, .broad rules hrules, hprogrammed, hdirty⟩
    · exact .failed _ _ _ hret hsame hdirty

theorem rebuildFilters_outcome (range : BankRange) (answers : RefreshAnswers)
    (m : FilterModule) : RebuildOutcome range m (rebuildFilters range answers m) := by
  unfold rebuildFilters
  split
  · exact refreshFallback_outcome range answers.broad m
  · rename_i c hcompiled
    dsimp only
    obtain ⟨hsame, ⟨hret, hprogrammed, hdirty⟩ | ⟨hret, hdirty⟩⟩ :=
      finishRefresh_cases range { rules := c.rules, fallback := false, merges := c.merges }
        answers.compiled m
    · rw [if_pos hret, hret]
      exact .rebuilt _ _ ⟨hsame, .compiled c hcompiled, hprogrammed, hdirty⟩
    · rw [if_neg hret]
      exact (refreshFallback_outcome range answers.broad _).after hsame hdirty

/-- The outcomes of a refresh. One that is not forced fails with the flag raised only. -/
inductive RefreshOutcome (range : BankRange) (force : Bool) (m : FilterModule) :
    FilterModule × RtErr × Option Rebuild → Prop where
  | current (hforce : force = false) (hclean : m.rxFilterDirty = false) :
      RefreshOutcome range force m (m, .ok, none)
  | refused (ret : RtErr) (hret : ret ≠ .ok) :
      RefreshOutcome range force m ({ m with useCANrxFilters := false }, ret, none)
  | rebuilt (m' : FilterModule) (rebuild : Rebuild) (h : Refreshed range m m' rebuild) :
      RefreshOutcome range force m (m', .ok, some rebuild)
  | failed (m' : FilterModule) (ret : RtErr) (report : Option Rebuild) (hret : ret ≠ .ok)
      (hforced : force = true ∨ m.rxFilterDirty = true) (hsame : SameRules m m')
      (hdirty : m'.rxFilterDirty = m.rxFilterDirty) :
      RefreshOutcome range force m (m', ret, report)

theorem refreshLocked_outcome (range : BankRange) (force : Bool) (answers : RefreshAnswers)
    (m : FilterModule) : RefreshOutcome range force m (refreshLocked range force answers m) := by
  unfold refreshLocked
  split
  · exact .refused _ nofun
  · split
    · rename_i hclean
      exact .current hclean.1 hclean.2
    · rename_i hneeded
      have hforced : force = true ∨ m.rxFilterDirty = true := by
        cases force
        · cases hdirty : m.rxFilterDirty
          · exact absurd ⟨rfl, hdirty⟩ hneeded
          · exact Or.inr rfl
        · exact Or.inl rfl
      have houtcome := rebuildFilters_outcome range answers m
      generalize rebuildFilters range answers m = result at houtcome ⊢
      cases houtcome with
      | rebuilt m' rebuild h => exact .rebuilt _ _ h
      | failed m' ret report hret hsame hdirty =>
          exact .failed _ _ _ hret hforced hsame hdirty

theorem canFilterRefresh_outcome (range : BankRange) (force : Bool) (answers : RefreshAnswers)
    (m : FilterModule) :
    RefreshOutcome range force m (canFilterRefresh range force answers m) := by
  unfold canFilterRefresh refreshTest
  by_cases hclean : force = false ∧ m.rxFilterDirty = false
  · rw [if_pos hclean]
    exact .current hclean.1 hclean.2
  · rw [if_neg hclean]
    by_cases hrange : bankRangeValid range m.maxhdr = false
    · rw [if_pos hrange]
      exact .refused _ nofun
    · rw [if_neg hrange]
      exact refreshLocked_outcome range force answers m

theorem finishRefresh_ret (range : BankRange) (rebuild : Rebuild) (reply : FilterReply)
    (m : FilterModule) : (finishRefresh range rebuild reply m).2 =
      (applyIngressRules range rebuild.rules reply m.banks).2 := by
  unfold finishRefresh
  dsimp only
  split
  · rfl
  · rfl

/-- A compiled table that the device takes is the one that is programmed. -/
theorem rebuild_of_taken {range : BankRange} {answers : RefreshAnswers} {m : FilterModule}
    {c : Compilation} (hcompiled : compileIngressRules range.capacity m.rxArray = some c)
    (htaken : (applyIngressRules range c.rules answers.compiled m.banks).2 = .ok) :
    (rebuildFilters range answers m).2.2 =
      some { rules := c.rules, fallback := false, merges := c.merges } := by
  unfold rebuildFilters
  rw [hcompiled]
  dsimp only
  rw [if_pos ((finishRefresh_ret ..).trans htaken)]

/-- With two banks the fallback is programmed only after the compiled table was refused. -/
theorem refused_of_fallback {range : BankRange} (htwo : 2 ≤ range.capacity) {force : Bool}
    {answers : RefreshAnswers} {m : FilterModule} {rebuild : Rebuild}
    (h : (canFilterRefresh range force answers m).2.2 = some rebuild)
    (hfallback : rebuild.fallback = true) :
    ∃ c, compileIngressRules range.capacity m.rxArray = some c ∧
      (applyIngressRules range c.rules answers.compiled m.banks).2 ≠ .ok := by
  obtain ⟨c, hcompiled⟩ :=
    Option.isSome_iff_exists.mp (compileIngressRules_isSome htwo m.rxArray)
  refine ⟨c, hcompiled, fun htaken => ?_⟩
  unfold canFilterRefresh refreshTest at h
  by_cases hclean : force = false ∧ m.rxFilterDirty = false
  · rw [if_pos hclean] at h
    contradiction
  · rw [if_neg hclean] at h
    by_cases hrange : bankRangeValid range m.maxhdr = false
    · rw [if_pos hrange] at h
      contradiction
    · rw [if_neg hrange] at h
      unfold refreshLocked at h
      dsimp only at h
      by_cases hlocked : answers.locked = false
      · rw [if_pos hlocked] at h
        contradiction
      · rw [if_neg hlocked, if_neg hclean, rebuild_of_taken hcompiled htaken] at h
        rw [← Option.some.inj h] at hfallback
        contradiction

/-- The banks let every frame through for which the dispatcher finds a callback. -/
def Covered (range : BankRange) (m : FilterModule) : Prop :=
  ∀ msg, (canDispatch m.rxArray msg).isSome → banksAccept range m.banks msg.frame = true

theorem Refreshed.covered {range : BankRange} {m m' : FilterModule} {rebuild : Rebuild}
    (h : Refreshed range m m' rebuild) (hfilled : Filled m.rxArray) : Covered range m' := by
  intro msg hfound
  rw [h.same.rxArray] at hfound
  apply (h.programmed.banksAccept_iff h.built.count_le _).mpr
  apply h.built.accepts
  exact (hfilled.required_iff _).mpr (isSome_canDispatch hfound)

end CanopenRtt.Driver
