import CanopenRtt.Storage.EepromEntry
/-!
# Automatic saves of a healthy EEPROM

`co_storage_rtt_eeprom_auto_process` copies one byte per call and compares CRCs at the end of
the payload, so a healthy EEPROM is reported as failed exactly when the RAM has moved behind
the cursor.
-/

namespace CanopenRtt.Storage

open Support

variable {w : Nat}

namespace Eeprom

/-- More page calls were made. -/
def Later (e e' : Eeprom) : Prop := e'.answers = e.answers ∧ e.log.length ≤ e'.log.length

/-- Every page call made since succeeded. -/
def Healthy (e e' : Eeprom) : Prop :=
  ∀ n, e.log.length ≤ n → n < e'.log.length → (e.answers n).ok = true

theorem Later.refl (e : Eeprom) : Later e e := ⟨rfl, Nat.le_refl _⟩

theorem Later.trans {e e' e'' : Eeprom} (h : Later e e') (h' : Later e' e'') : Later e e'' :=
  ⟨h'.1.trans h.1, Nat.le_trans h.2 h'.2⟩

theorem Healthy.split {e e' e'' : Eeprom} (h : Healthy e e'') (hfirst : Later e e')
    (hsecond : Later e' e'') : Healthy e e' ∧ Healthy e' e'' := by
  refine ⟨fun n hlow hhigh => h n hlow (Nat.lt_of_lt_of_le hhigh hsecond.2), ?_⟩
  intro n hlow hhigh
  rw [hfirst.1]
  exact h n (Nat.le_trans hfirst.2 hlow) hhigh

end Eeprom

/-! ## The calls of the provider -/

theorem Ran.later {data : Option (List Byte)} {addr offset len : Nat} {e : Eeprom}
    {out : Eeprom × Option (List Byte)} (h : Ran data addr offset len e out) :
    e.Later out.1 := by
  obtain ⟨transfers, k, hlog, -⟩ := h.log
  refine ⟨h.answers, ?_⟩
  rw [hlog, List.length_append]
  exact Nat.le_add_right _ _

namespace At24c

variable {config : At24cConfig w} {i : At24c w} {host : Host}

/-- What a read of the provider gives. -/
structure ReadSpec (i : At24c w) (addr len : BitVec w) (e : Eeprom)
    (out : Eeprom × Option (List Byte)) : Prop where
  later : e.Later out.1
  medium : out.1.medium = e.medium
  bytes : ∀ bytes, out.2 = some bytes → bytes = slice e.medium addr.toNat len.toNat
  healthy : i.rangeValid addr len = true → e.Healthy out.1 → out.2.isSome = true

theorem readBlock_spec (h : Opened config i) (addr len : BitVec w) (e : Eeprom) :
    ReadSpec i addr len e (i.readBlock addr len e) := by
  unfold readBlock
  by_cases hrange : i.rangeValid addr len = true
  · rw [if_pos hrange]
    have hran := transferLoop_storage h hrange none e
    exact ⟨hran.later, (hran.read rfl).1, (hran.read rfl).2, fun _ hhealthy => hran.ok.mpr hhealthy⟩
  · rw [if_neg hrange]
    exact ⟨.refl e, rfl, nofun, fun hvalid => absurd hvalid hrange⟩

theorem eepromReadBlock_spec (h : Opened config i) (addr len : BitVec w) (e : Eeprom) :
    e.Later (i.eepromReadBlock addr len e).1 ∧ (i.eepromReadBlock addr len e).1.medium = e.medium ∧
      (i.rangeValid addr len = true → e.Healthy (i.eepromReadBlock addr len e).1 →
        (i.eepromReadBlock addr len e).2 = slice e.medium addr.toNat len.toNat) := by
  have hspec := readBlock_spec h addr len e
  unfold eepromReadBlock
  cases hread : i.readBlock addr len e with
  | mk e' result =>
      rw [hread] at hspec
      cases result with
      | none =>
          exact ⟨hspec.later, hspec.medium, fun hvalid hhealthy =>
            absurd (hspec.healthy hvalid hhealthy) Bool.false_ne_true⟩
      | some bytes => exact ⟨hspec.later, hspec.medium, fun _ _ => hspec.bytes bytes rfl⟩

/-- What a write of the provider does. -/
structure WriteSpec (i : At24c w) (data : List Byte) (addr len : BitVec w) (e : Eeprom)
    (out : Eeprom × Bool) : Prop where
  later : e.Later out.1
  kept : ∀ a, out.1.medium a = e.medium a ∨ addr.toNat ≤ a ∧ a < addr.toNat + len.toNat ∧
    data[a - addr.toNat]? = some (out.1.medium a)
  written : data.length = len.toNat → out.2 = true →
    slice out.1.medium addr.toNat len.toNat = data
  healthy : i.rangeValid addr len = true → e.Healthy out.1 → out.2 = true

theorem writeBlock_spec (h : Opened config i) (data : List Byte) (addr len : BitVec w)
    (e : Eeprom) : WriteSpec i data addr len e (i.writeBlock data addr len e) := by
  unfold writeBlock
  by_cases hrange : i.rangeValid addr len = true
  · rw [if_pos hrange]
    have hran := transferLoop_storage h hrange (some data) e
    refine ⟨hran.later, ?_, ?_, fun _ hhealthy => hran.ok.mpr hhealthy⟩
    · intro a
      rcases hran.kept a with hsame | ⟨hlow, hhigh, d, hd, hbyte⟩
      · exact .inl hsame
      · cases hd
        exact .inr ⟨hlow, hhigh, hbyte⟩
    · intro hlength hok
      rw [← hlength]
      refine slice_ext_iff.mpr fun j hj => ?_
      have hbyte := List.getElem?_eq_getElem hj
      have hput := hran.written data rfl hok j _ (Nat.zero_le _) (by omega) hbyte
      dsimp only
      rw [hput]
      exact hbyte
  · rw [if_neg hrange]
    exact ⟨.refl e, fun _ => .inl rfl, fun _ => nofun, fun hvalid => absurd hvalid hrange⟩

/-- One byte is updated, or left as it was. -/
structure UpdateSpec (i : At24c w) (byte : Byte) (addr : BitVec w) (e : Eeprom)
    (out : Eeprom × Bool) : Prop where
  later : e.Later out.1
  kept : ∀ a, a ≠ addr.toNat → out.1.medium a = e.medium a
  either : out.1.medium addr.toNat = e.medium addr.toNat ∨ out.1.medium addr.toNat = byte
  updated : out.2 = true → out.1.medium addr.toNat = byte
  healthy : i.rangeValid addr 1 = true → e.Healthy out.1 → out.2 = true

theorem slice_one (m : Medium) (a : Nat) : slice m a 1 = [m a] := rfl

theorem updateByte_spec (h : Opened config i) (hone : (1 : BitVec w).toNat = 1) (byte : Byte)
    (addr : BitVec w) (e : Eeprom) : UpdateSpec i byte addr e (i.updateByte byte addr e) := by
  have hread := readBlock_spec h addr 1 e
  unfold updateByte
  cases hblock : i.readBlock addr 1 e with
  | mk e' result =>
      rw [hblock] at hread
      cases result with
      | none =>
          exact ⟨hread.later, fun a _ => congrFun hread.medium a, .inl (congrFun hread.medium _),
            nofun, fun hvalid hhealthy =>
              absurd (hread.healthy hvalid hhealthy) Bool.false_ne_true⟩
      | some stored =>
          have hstored := hread.bytes stored rfl
          rw [hone, slice_one] at hstored
          dsimp only
          by_cases hsame : stored = [byte]
          · rw [if_pos hsame]
            have hbyte : e'.medium addr.toNat = byte := by
              rw [hstored] at hsame
              rw [hread.medium]
              exact List.singleton_inj.mp hsame
            exact ⟨hread.later, fun a _ => congrFun hread.medium a, .inr hbyte, fun _ => hbyte,
              fun _ _ => rfl⟩
          · rw [if_neg hsame]
            have hwrite := writeBlock_spec h [byte] addr 1 e'
            refine ⟨hread.later.trans hwrite.later, ?_, ?_, ?_, ?_⟩
            · intro a ha
              rcases hwrite.kept a with hkept | ⟨hlow, hhigh, -⟩
              · exact hkept.trans (congrFun hread.medium a)
              · omega
            · rcases hwrite.kept addr.toNat with hkept | ⟨-, -, hput⟩
              · exact .inl (hkept.trans (congrFun hread.medium _))
              · rw [Nat.sub_self] at hput
                exact .inr (Option.some.inj hput).symm
            · intro hok
              have hput := hwrite.written (by rw [hone]; rfl) hok
              rw [hone, slice_one] at hput
              exact List.singleton_inj.mp hput
            · intro hvalid hhealthy
              obtain ⟨-, hlast⟩ := hhealthy.split hread.later hwrite.later
              exact hwrite.healthy hvalid hlast

theorem getCrcBlock_spec (h : Opened config i) (hstreams : host.Streams) (addr len : BitVec w)
    (e : Eeprom) :
    e.Later (getCrcBlock host config i addr len e).1 ∧
      (getCrcBlock host config i addr len e).1.medium = e.medium ∧
      ((getCrcBlock host config i addr len e).2 = 0 ∨
        (getCrcBlock host config i addr len e).2 =
          host.crc16 (slice e.medium addr.toNat len.toNat) 0) ∧
      (i.rangeValid addr len = true → e.Healthy (getCrcBlock host config i addr len e).1 →
        (getCrcBlock host config i addr len e).2 =
          host.crc16 (slice e.medium addr.toNat len.toNat) 0) := by
  by_cases hrange : i.rangeValid addr len = true
  · obtain ⟨result, hran, hcrc⟩ := getCrcBlock_ran h hstreams hrange e
    obtain ⟨hmedium, hbytes⟩ := hran.read rfl
    refine ⟨hran.later, hmedium, ?_, ?_⟩
    · rw [hcrc]
      cases result with
      | none => exact .inl rfl
      | some bytes =>
          right
          rw [hbytes bytes rfl]
          rfl
    · intro _ hhealthy
      obtain ⟨bytes, rfl⟩ := Option.isSome_iff_exists.mp (hran.ok.mpr hhealthy)
      rw [hcrc, hbytes bytes rfl]
      rfl
  · unfold getCrcBlock
    rw [if_neg hrange]
    exact ⟨.refl e, rfl, .inl rfl, fun hvalid => absurd hvalid hrange⟩

end At24c

end CanopenRtt.Storage
