import CanopenRtt.Storage.EepromAuto
import CanopenRtt.Support.Run
/-!
# Runs of the automatic EEPROM save

The effect of a call on one entry, the calls over all entries with their own areas of the
EEPROM, and any sequence of calls and of changes of the parameters in RAM.
-/

namespace CanopenRtt.Storage

open Support

variable {w : Nat}

/-- A range of the EEPROM, its address and its length. -/
abbrev Area := Nat × Nat

def Area.Holds (r : Area) (a : Nat) : Prop := r.1 ≤ a ∧ a < r.1 + r.2

def Area.Apart (r r' : Area) : Prop := ∀ a, r.Holds a → ¬ r'.Holds a

namespace Provider

theorem toNat_one (p : Provider w) : (1 : BitVec w).toNat = 1 :=
  BitVec.toNat_one (Nat.lt_of_lt_of_le (by decide) p.wide)

theorem toNat_four (p : Provider w) : (4 : BitVec w).toNat = 4 := by
  have hpow : 2 ^ 16 ≤ 2 ^ w := Nat.pow_le_pow_right (by decide) p.wide
  have hfour : (4 : BitVec w).toNat = 4 % 2 ^ w := BitVec.toNat_ofNat 4 w
  rw [hfour]
  exact Nat.mod_eq_of_lt (by omega)

end Provider

namespace EepromEntry

variable {p : Provider w} {entry : EepromEntry w} {e : Eeprom}

def payloadArea (entry : EepromEntry w) : Area := (entry.eepromAddr.toNat, entry.ram.length)

def signatureArea (entry : EepromEntry w) : Area := (entry.eepromAddrSignature.toNat, 4)

/-- The areas of an entry lie in the storage region and the cursor in the payload. -/
structure Placed (i : At24c w) (entry : EepromEntry w) : Prop where
  fits : entry.ram.length < 2 ^ w
  payload : i.rangeValid entry.eepromAddr entry.len = true
  signature : i.rangeValid entry.eepromAddrSignature 4 = true
  apart : entry.payloadArea.Apart entry.signatureArea
  cursor : entry.offset < entry.len

/-- The payload in the EEPROM. -/
def image (entry : EepromEntry w) (m : Medium) : List Byte :=
  slice m entry.eepromAddr.toNat entry.ram.length

theorem Placed.toNat_len {i : At24c w} (h : entry.Placed i) :
    entry.len.toNat = entry.ram.length := by
  unfold len
  rw [BitVec.toNat_ofNat, Nat.mod_eq_of_lt h.fits]

theorem Placed.positive {i : At24c w} (h : entry.Placed i) : 0 < entry.ram.length := by
  have hlt : entry.offset.toNat < entry.len.toNat := h.cursor
  rw [h.toNat_len] at hlt
  exact Nat.zero_lt_of_lt hlt

theorem Placed.len_ne_zero {i : At24c w} (h : entry.Placed i) : entry.len ≠ 0 := by
  intro hzero
  have hlen := congrArg BitVec.toNat hzero
  rw [h.toNat_len, At24c.toNat_zero] at hlen
  exact absurd h.positive (by omega)

theorem length_signatureBytes (host : Host) (crc : BitVec 16) (len : Nat) :
    (signatureBytes host crc len).length = 4 := by
  unfold signatureBytes hostBytes
  split <;> simp [length_lowBytes]

/-! ## The signature -/

/-- What the update of a signature does. -/
structure SignatureSpec (p : Provider w) (entry : EepromEntry w) (e : Eeprom)
    (out : Eeprom × EepromEntry w × Bool) : Prop where
  later : e.Later out.1
  same : ∃ crc, out.2.1 = { entry with crc }
  kept : ∀ a, ¬ entry.signatureArea.Holds a → out.1.medium a = e.medium a
  healthy : e.Healthy out.1 →
    (out.2.2 = true ↔ p.host.crc16 entry.ram 0 = p.host.crc16 (entry.image e.medium) 0)

theorem updateSignature_spec (h : entry.Placed p.device) (e : Eeprom) :
    SignatureSpec p entry e (entry.updateSignature p e) := by
  obtain ⟨hlater, hmedium, -, hcrc⟩ :=
    At24c.getCrcBlock_spec p.opened p.streams entry.eepromAddr entry.len e
  rw [h.toNat_len] at hcrc
  unfold updateSignature
  rw [if_neg h.len_ne_zero]
  dsimp only
  cases hread : p.device.getCrcBlock p.host p.config entry.eepromAddr entry.len e with
  | mk e' crcRead =>
      rw [hread] at hlater hmedium hcrc
      dsimp only at hlater hmedium hcrc ⊢
      by_cases hequal : p.host.crc16 entry.ram 0 = crcRead
      · rw [if_neg (not_not.mpr hequal)]
        have hwrite := At24c.writeBlock_spec p.opened
          (signatureBytes p.host (p.host.crc16 entry.ram 0) entry.ram.length)
          entry.eepromAddrSignature 4 e'
        have hback := At24c.eepromReadBlock_spec p.opened entry.eepromAddrSignature 4
          (p.device.writeBlock (signatureBytes p.host (p.host.crc16 entry.ram 0) entry.ram.length)
            entry.eepromAddrSignature 4 e').1
        refine ⟨(hlater.trans hwrite.later).trans hback.1, ⟨_, rfl⟩, ?_, ?_⟩
        · intro a ha
          rw [hback.2.1, ← hmedium]
          rcases hwrite.kept a with hsame | ⟨hlow, hhigh, -⟩
          · exact hsame
          · rw [p.toNat_four] at hhigh
            exact absurd ⟨hlow, hhigh⟩ ha
        · intro hhealthy
          obtain ⟨hfirst, hlast⟩ := hhealthy.split (hlater.trans hwrite.later) hback.1
          obtain ⟨hcrcHealthy, hwriteHealthy⟩ := hfirst.split hlater hwrite.later
          have hok := hwrite.healthy h.signature hwriteHealthy
          have hput := hwrite.written
            (by rw [length_signatureBytes, p.toNat_four]) hok
          have hvalue := hback.2.2 h.signature hlast
          rw [hput] at hvalue
          refine iff_of_true ?_ (hequal.trans (hcrc h.payload hcrcHealthy))
          dsimp only
          rw [hvalue, hok]
          simp
      · rw [if_pos hequal]
        refine ⟨hlater, ⟨_, rfl⟩, fun a _ => congrFun hmedium a, fun hhealthy => ?_⟩
        refine iff_of_false Bool.false_ne_true fun hsame => hequal ?_
        exact hsame.trans (hcrc h.payload hhealthy).symm

/-! ## One byte -/

/-- What the copy of one byte of the payload does. -/
structure ByteSpec (entry : EepromEntry w) (offset : Nat) (e : Eeprom)
    (out : Eeprom × Bool × Bool) : Prop where
  later : e.Later out.1
  kept : ∀ a, a ≠ entry.eepromAddr.toNat + offset → out.1.medium a = e.medium a
  healthy : e.Healthy out.1 → out.2.1 = true ∧
    out.1.medium (entry.eepromAddr.toNat + offset) = entry.ram.getD offset 0 ∧
    (out.2.2 = true ↔ e.medium (entry.eepromAddr.toNat + offset) ≠ entry.ram.getD offset 0)

theorem updatePayloadByte_spec (h : entry.Placed p.device) {offset : BitVec w}
    (hoffset : offset < entry.len) (e : Eeprom) :
    ByteSpec entry offset.toNat e (entry.updatePayloadByte p offset e) := by
  have hlt : offset.toNat < entry.len.toNat := hoffset
  obtain ⟨hvalid, haddr⟩ := At24c.rangeValid_part h.payload
    (show offset.toNat + (1 : BitVec w).toNat ≤ entry.len.toNat by rw [p.toNat_one]; omega)
    (by rw [p.toNat_one]; decide)
  obtain ⟨hlater, hmedium, hbytes⟩ :=
    At24c.eepromReadBlock_spec p.opened (entry.eepromAddr + offset) 1 e
  have hupdate := At24c.updateByte_spec p.opened p.toNat_one (entry.ram.getD offset.toNat 0)
    (entry.eepromAddr + offset) (p.device.eepromReadBlock (entry.eepromAddr + offset) 1 e).1
  rw [haddr, p.toNat_one, At24c.slice_one] at hbytes
  unfold updatePayloadByte
  dsimp only
  cases hrun : p.device.updateByte (entry.ram.getD offset.toNat 0) (entry.eepromAddr + offset)
      (p.device.eepromReadBlock (entry.eepromAddr + offset) 1 e).1 with
  | mk e' ok =>
      rw [hrun] at hupdate
      have hall := hlater.trans hupdate.later
      have hkept : ∀ a, a ≠ entry.eepromAddr.toNat + offset.toNat → e'.medium a = e.medium a := by
        intro a ha
        rw [← haddr] at ha
        exact (hupdate.kept a ha).trans (congrFun hmedium a)
      cases ok with
      | false =>
          refine ⟨hall, hkept, fun hhealthy => ?_⟩
          obtain ⟨-, hlast⟩ := hhealthy.split hlater hupdate.later
          exact absurd (hupdate.healthy hvalid hlast) Bool.false_ne_true
      | true =>
          refine ⟨hall, hkept, fun hhealthy => ⟨rfl, ?_, ?_⟩⟩
          · rw [← haddr]
            exact hupdate.updated rfl
          · obtain ⟨hfirst, -⟩ := hhealthy.split hlater hupdate.later
            show decide (_ ≠ _) = true ↔ _
            rw [hbytes hvalid hfirst, decide_eq_true_eq]
            exact not_congr List.singleton_inj

/-! ## One entry -/

/-- What a call may change of an entry and of the EEPROM. -/
structure Steps (i : At24c w) (entry : EepromEntry w) (e : Eeprom)
    (out : Eeprom × EepromEntry w × Bool) : Prop where
  later : e.Later out.1
  same : ∃ offset crc payloadChanged,
    out.2.1 = { entry with offset, crc, payloadChanged } ∧ offset < entry.len
  kept : ∀ a, ¬ entry.payloadArea.Holds a → ¬ entry.signatureArea.Holds a →
    out.1.medium a = e.medium a

/-- The signature can be brought up to date from the RAM and the payload in the EEPROM. -/
def Matches (host : Host) (entry : EepromEntry w) (m : Medium) : Prop :=
  entry.payloadChanged = true → host.crc16 entry.ram 0 = host.crc16 (entry.image m) 0

theorem settle_spec (h : entry.Placed p.device) (e : Eeprom) :
    Steps p.device entry e (entry.settle p e) ∧
      (e.Healthy (entry.settle p e).1 →
        ((entry.settle p e).2.2 = true ↔ entry.Matches p.host e.medium)) := by
  unfold settle Matches
  by_cases hchanged : entry.payloadChanged = true
  · have hspec := updateSignature_spec h e
    rw [if_pos hchanged]
    cases hrun : entry.updateSignature p e with
    | mk e' rest =>
        obtain ⟨entry', ok⟩ := rest
        rw [hrun] at hspec
        obtain ⟨crc, hsame⟩ := hspec.same
        cases hsame
        have hkept : ∀ a, ¬ entry.payloadArea.Holds a → ¬ entry.signatureArea.Holds a →
            e'.medium a = e.medium a := fun a _ ha => hspec.kept a ha
        cases ok with
        | true =>
            refine ⟨⟨hspec.later, ⟨_, _, _, rfl, h.cursor⟩, hkept⟩, fun hhealthy => ?_⟩
            exact iff_of_true rfl fun _ => (hspec.healthy hhealthy).mp rfl
        | false =>
            refine ⟨⟨hspec.later, ⟨_, _, _, rfl, h.cursor⟩, hkept⟩, fun hhealthy => ?_⟩
            refine iff_of_false Bool.false_ne_true fun hmatches => ?_
            exact Bool.false_ne_true ((hspec.healthy hhealthy).mpr (hmatches hchanged))
  · rw [if_neg hchanged]
    exact ⟨⟨.refl e, ⟨_, _, _, rfl, h.cursor⟩, fun _ _ _ => rfl⟩,
      fun _ => iff_of_true rfl fun hbad => absurd hbad hchanged⟩

/-- The first bytes of the payload are in the EEPROM. -/
def Copied (entry : EepromEntry w) (count : Nat) (m : Medium) : Prop :=
  ∀ j, j < count → m (entry.eepromAddr.toNat + j) = entry.ram.getD j 0

theorem image_eq_ram {m : Medium} (h : entry.Copied entry.ram.length m) :
    entry.image m = entry.ram := by
  refine slice_ext_iff.mpr fun j hj => ?_
  rw [h j hj, List.getD_eq_getElem _ _ hj]
  exact List.getElem?_eq_getElem hj

/-- What the loop of a `saveAll` does. -/
structure LoopSpec (entry : EepromEntry w) (offset : Nat) (e : Eeprom)
    (out : Eeprom × Bool × Bool) : Prop where
  later : e.Later out.1
  kept : ∀ a, ¬ entry.payloadArea.Holds a → out.1.medium a = e.medium a
  healthy : e.Healthy out.1 → entry.Copied offset e.medium →
    out.2.1 = true ∧ entry.image out.1.medium = entry.ram

theorem saveLoop_spec (h : entry.Placed p.device) (offset : BitVec w) (changed : Bool)
    (e : Eeprom) : LoopSpec entry offset.toNat e (entry.saveLoop p offset changed e) := by
  induction offset, changed, e using saveLoop.induct p entry with
  | case1 offset changed e hoffset e' byteChanged hrun =>
      have hspec := updatePayloadByte_spec h hoffset e
      rw [hrun] at hspec
      have hlt : offset.toNat < entry.len.toNat := hoffset
      rw [h.toNat_len] at hlt
      rw [saveLoop, dif_pos hoffset, hrun]
      refine ⟨hspec.later, fun a ha => hspec.kept a ?_, fun hhealthy => ?_⟩
      · rintro rfl
        exact ha ⟨Nat.le_add_right _ _, Nat.add_lt_add_left hlt _⟩
      · exact absurd (hspec.healthy hhealthy).1 Bool.false_ne_true
  | case2 offset changed e hoffset e' byteChanged hrun ih =>
      have hspec := updatePayloadByte_spec h hoffset e
      rw [hrun] at hspec
      have hlt : offset.toNat < entry.len.toNat := hoffset
      rw [h.toNat_len] at hlt
      rw [saveLoop, dif_pos hoffset, hrun]
      refine ⟨hspec.later.trans ih.later, fun a ha => ?_, fun hhealthy hcopied => ?_⟩
      · refine (ih.kept a ha).trans (hspec.kept a ?_)
        rintro rfl
        exact ha ⟨Nat.le_add_right _ _, Nat.add_lt_add_left hlt _⟩
      · obtain ⟨hfirst, hrest⟩ := hhealthy.split hspec.later ih.later
        obtain ⟨-, hbyte, -⟩ := hspec.healthy hfirst
        apply ih.healthy hrest
        rw [At24c.toNat_add_one hoffset]
        intro j hj
        by_cases hlast : j = offset.toNat
        · rw [hlast]
          exact hbyte
        · exact (hspec.kept _ (by omega)).trans (hcopied j (by omega))
  | case3 offset changed e hoffset =>
      rw [saveLoop, dif_neg hoffset]
      refine ⟨.refl e, fun _ _ => rfl, fun _ hcopied => ⟨rfl, image_eq_ram fun j hj => ?_⟩⟩
      have hend : ¬ offset.toNat < entry.len.toNat := hoffset
      rw [h.toNat_len] at hend
      exact hcopied j (by omega)

theorem Placed.marked {i : At24c w} (h : entry.Placed i) (changed : Bool) :
    (if changed then { entry with payloadChanged := true } else entry).Placed i := by
  cases changed with
  | false => exact h
  | true => exact ⟨h.fits, h.payload, h.signature, h.apart, h.cursor⟩

theorem Steps.of_marked {i : At24c w} {changed : Bool} {e' : Eeprom}
    {out : Eeprom × EepromEntry w × Bool}
    (h : Steps i (if changed then { entry with payloadChanged := true } else entry) e' out)
    (hlater : e.Later e') (hkept : ∀ a, ¬ entry.payloadArea.Holds a → e'.medium a = e.medium a) :
    Steps i entry e out := by
  cases changed with
  | false =>
      exact ⟨hlater.trans h.later, h.same, fun a ha hs => (h.kept a ha hs).trans (hkept a ha)⟩
  | true =>
      exact ⟨hlater.trans h.later, h.same, fun a ha hs => (h.kept a ha hs).trans (hkept a ha)⟩

/-- A forced save of a healthy EEPROM succeeds. -/
theorem saveEntry_spec (h : entry.Placed p.device) (e : Eeprom) :
    Steps p.device entry e (entry.saveEntry p e) ∧
      (e.Healthy (entry.saveEntry p e).1 → (entry.saveEntry p e).2.2 = true) := by
  have hloop := saveLoop_spec h 0 false e
  rw [At24c.toNat_zero] at hloop
  unfold saveEntry
  cases hrun : entry.saveLoop p 0 false e with
  | mk e' rest =>
      obtain ⟨entryOk, changed⟩ := rest
      rw [hrun] at hloop
      dsimp only
      cases entryOk with
      | false =>
          constructor
          · cases changed with
            | false => exact ⟨hloop.later, ⟨_, _, _, rfl, h.cursor⟩, fun a ha _ => hloop.kept a ha⟩
            | true => exact ⟨hloop.later, ⟨_, _, _, rfl, h.cursor⟩, fun a ha _ => hloop.kept a ha⟩
          · intro hhealthy
            exact absurd (hloop.healthy hhealthy nofun).1 Bool.false_ne_true
      | true =>
          rw [if_pos rfl]
          obtain ⟨hsteps, hok⟩ := settle_spec (h.marked changed) e'
          refine ⟨hsteps.of_marked hloop.later hloop.kept, fun hhealthy => ?_⟩
          obtain ⟨hfirst, hlast⟩ := hhealthy.split hloop.later hsteps.later
          have himage := (hloop.healthy hfirst nofun).2
          refine (hok hlast).mpr fun _ => ?_
          cases changed with
          | false => exact congrArg (p.host.crc16 · 0) himage.symm
          | true => exact congrArg (p.host.crc16 · 0) himage.symm

/-- At the end of a pass over a payload that has changed, the CRC of the RAM is that of the
payload in the EEPROM with its last byte copied. -/
def Settles (host : Host) (entry : EepromEntry w) (m : Medium) : Prop :=
  entry.offset.toNat + 1 = entry.ram.length →
    entry.payloadChanged = true ∨
      m (entry.eepromAddr.toNat + entry.offset.toNat) ≠ entry.ram.getD entry.offset.toNat 0 →
    host.crc16 entry.ram 0 = host.crc16
      ((entry.image m).set entry.offset.toNat (entry.ram.getD entry.offset.toNat 0)) 0

theorem image_set {m m' : Medium} {offset : Nat} {byte : Byte}
    (hkept : ∀ a, a ≠ entry.eepromAddr.toNat + offset → m' a = m a)
    (hbyte : m' (entry.eepromAddr.toNat + offset) = byte) :
    entry.image m' = (entry.image m).set offset byte := by
  apply List.ext_getElem?
  intro j
  unfold image
  by_cases hj : j < entry.ram.length
  · rw [getElem?_slice m' _ hj, List.getElem?_set, length_slice]
    by_cases hsame : offset = j
    · subst hsame
      rw [if_pos rfl, if_pos hj, hbyte]
    · rw [if_neg hsame, getElem?_slice m _ hj, hkept _ (by omega)]
  · rw [List.getElem?_eq_none (by simpa using hj), List.getElem?_eq_none (by simpa using hj)]

/-- A cyclic call on a healthy EEPROM. -/
theorem cycleEntry_spec (h : entry.Placed p.device) (e : Eeprom) :
    Steps p.device entry e (entry.cycleEntry p e) ∧
      (e.Healthy (entry.cycleEntry p e).1 →
        ((entry.cycleEntry p e).2.2 = true ↔ entry.Settles p.host e.medium)) := by
  have hbyte := updatePayloadByte_spec h h.cursor e
  have hlt : entry.offset.toNat < entry.len.toNat := h.cursor
  have hnext := At24c.toNat_add_one h.cursor
  rw [h.toNat_len] at hlt
  have hkept : ∀ a, ¬ entry.payloadArea.Holds a →
      a ≠ entry.eepromAddr.toNat + entry.offset.toNat := by
    rintro a ha rfl
    exact ha ⟨Nat.le_add_right _ _, Nat.add_lt_add_left hlt _⟩
  unfold cycleEntry
  cases hrun : entry.updatePayloadByte p entry.offset e with
  | mk e' rest =>
      obtain ⟨byteOk, changed⟩ := rest
      rw [hrun] at hbyte
      cases byteOk with
      | false =>
          refine ⟨⟨hbyte.later, ⟨_, _, _, rfl, h.cursor⟩,
            fun a ha _ => hbyte.kept a (hkept a ha)⟩, ?_⟩
          intro hhealthy
          exact absurd (hbyte.healthy hhealthy).1 Bool.false_ne_true
      | true =>
          have hcursor : (if changed then { entry with payloadChanged := true } else entry).offset =
              entry.offset := by cases changed <;> rfl
          have hlen : ∀ offset : BitVec w,
              ({ (if changed then { entry with payloadChanged := true } else entry : EepromEntry w)
                with offset } : EepromEntry w).len = entry.len := by
            intro offset
            cases changed <;> rfl
          dsimp only
          rw [hlen, hcursor]
          by_cases hend : entry.len ≤ entry.offset + 1
          · rw [if_pos hend]
            have hwrap : entry.offset.toNat + 1 = entry.ram.length := by
              rw [BitVec.le_def, hnext, h.toNat_len] at hend
              omega
            have hplaced : ({ (if changed then { entry with payloadChanged := true } else entry :
                EepromEntry w) with offset := 0 } : EepromEntry w).Placed p.device := by
              have hzero : (0 : BitVec w) < entry.len := by
                rw [BitVec.lt_def, At24c.toNat_zero, h.toNat_len]
                exact h.positive
              cases changed with
              | false => exact ⟨h.fits, h.payload, h.signature, h.apart, hzero⟩
              | true => exact ⟨h.fits, h.payload, h.signature, h.apart, hzero⟩
            obtain ⟨hsteps, hok⟩ := settle_spec hplaced e'
            constructor
            · refine ⟨hbyte.later.trans hsteps.later, ?_, ?_⟩
              · obtain ⟨offset, crc, payloadChanged, hsame, hbelow⟩ := hsteps.same
                refine ⟨offset, crc, payloadChanged, ?_, ?_⟩
                · rw [hsame]
                  cases changed <;> rfl
                · rwa [hlen] at hbelow
              · intro a ha hs
                refine (hsteps.kept a ?_ ?_).trans (hbyte.kept a (hkept a ha))
                · cases changed with
                  | false => exact ha
                  | true => exact ha
                · cases changed with
                  | false => exact hs
                  | true => exact hs
            · intro hhealthy
              obtain ⟨hfirst, hlast⟩ := hhealthy.split hbyte.later hsteps.later
              obtain ⟨-, hput, hchanged⟩ := hbyte.healthy hfirst
              rw [hok hlast]
              unfold Matches Settles
              rw [← image_set hbyte.kept hput]
              cases changed with
              | false =>
                  have hsame := mt hchanged.mpr Bool.false_ne_true
                  constructor
                  · intro hmatches _ hdirty
                    exact hmatches (hdirty.resolve_right hsame)
                  · exact fun hsettles hdirty => hsettles hwrap (.inl hdirty)
              | true =>
                  constructor
                  · exact fun hmatches _ _ => hmatches rfl
                  · exact fun hsettles _ => hsettles hwrap (.inr (hchanged.mp rfl))
          · rw [if_neg hend]
            have hbelow : entry.offset + 1 < entry.len := BitVec.not_le.mp hend
            constructor
            · refine ⟨hbyte.later, ?_, fun a ha _ => hbyte.kept a (hkept a ha)⟩
              cases changed with
              | false => exact ⟨_, _, _, rfl, hbelow⟩
              | true => exact ⟨_, _, _, rfl, hbelow⟩
            · refine fun _ => iff_of_true rfl fun hwrap => absurd hend (not_not.mpr ?_)
              rw [BitVec.le_def, hnext, h.toNat_len, hwrap]

/-- A call on one entry. -/
theorem autoEntry_spec (h : entry.Placed p.device) (saveAll : Bool) (e : Eeprom) :
    Steps p.device entry e (entry.autoEntry p saveAll e) ∧
      (e.Healthy (entry.autoEntry p saveAll e).1 → ((entry.autoEntry p saveAll e).2.2 = true ↔
        (saveAll = false → entry.auto = true → entry.Settles p.host e.medium))) := by
  unfold autoEntry
  cases hauto : entry.auto with
  | false =>
      exact ⟨⟨.refl e, ⟨_, _, _, rfl, h.cursor⟩, fun _ _ _ => rfl⟩,
        fun _ => iff_of_true rfl fun _ hbad => absurd hbad Bool.false_ne_true⟩
  | true =>
      cases saveAll with
      | false =>
          obtain ⟨hsteps, hok⟩ := cycleEntry_spec h e
          exact ⟨hsteps, fun hhealthy => (hok hhealthy).trans
            ⟨fun hsettles _ _ => hsettles, fun hsettles => hsettles rfl rfl⟩⟩
      | true =>
          obtain ⟨hsteps, hok⟩ := saveEntry_spec h e
          exact ⟨hsteps, fun hhealthy => iff_of_true (hok hhealthy) nofun⟩

/-- The two areas of an entry. -/
def areas (entry : EepromEntry w) : Area × Area := (entry.payloadArea, entry.signatureArea)

end EepromEntry

/-! ## All entries -/

/-- An address is in one of the areas of an entry. -/
def Within (areas : Area × Area) (a : Nat) : Prop := areas.1.Holds a ∨ areas.2.Holds a

/-- Entries that keep to their own areas, as the allocator of the provider grants them. -/
structure LaidOut (i : At24c w) (entries : List (EepromEntry w)) : Prop where
  placed : ∀ entry ∈ entries, entry.Placed i
  apart : (entries.map EepromEntry.areas).Pairwise fun r r' => ∀ a, Within r a → ¬ Within r' a

theorem EepromEntry.Steps.placed {i : At24c w} {entry : EepromEntry w} {e : Eeprom}
    {out : Eeprom × EepromEntry w × Bool} (h : Steps i entry e out) (hplaced : entry.Placed i) :
    out.2.1.Placed i ∧ out.2.1.areas = entry.areas := by
  obtain ⟨offset, crc, payloadChanged, hsame, hbelow⟩ := h.same
  rw [hsame]
  exact ⟨⟨hplaced.fits, hplaced.payload, hplaced.signature, hplaced.apart, hbelow⟩, rfl⟩

theorem EepromEntry.settles_congr {host : Host} {entry : EepromEntry w} {i : At24c w}
    {m m' : Medium} (hplaced : entry.Placed i) (h : ∀ a, Within entry.areas a → m a = m' a) :
    entry.Settles host m ↔ entry.Settles host m' := by
  have hpayload : ∀ j, j < entry.ram.length →
      m (entry.eepromAddr.toNat + j) = m' (entry.eepromAddr.toNat + j) := fun j hj =>
    h _ (.inl ⟨Nat.le_add_right _ _, Nat.add_lt_add_left hj _⟩)
  have hcursor : entry.offset.toNat < entry.ram.length := by
    rw [← hplaced.toNat_len]
    exact hplaced.cursor
  have himage : entry.image m = entry.image m' :=
    slice_congr fun a hlow hhigh => h a (.inl ⟨hlow, hhigh⟩)
  unfold Settles
  rw [himage, hpayload _ hcursor]

/-- What a call over all entries does. -/
structure ProcessSpec (p : Provider w) (saveAll : Bool) (entries : List (EepromEntry w))
    (e : Eeprom) (out : Eeprom × List (EepromEntry w) × Bool) : Prop where
  later : e.Later out.1
  placed : ∀ entry ∈ out.2.1, entry.Placed p.device
  areas : out.2.1.map EepromEntry.areas = entries.map EepromEntry.areas
  ok : e.Healthy out.1 → (out.2.2 = true ↔ ∀ entry ∈ entries,
    saveAll = false → entry.auto = true → entry.Settles p.host e.medium)

theorem eepromAutoProcess_spec {p : Provider w} {entries : List (EepromEntry w)}
    (h : LaidOut p.device entries) (saveAll : Bool) (e : Eeprom) :
    ProcessSpec p saveAll entries e (eepromAutoProcess p saveAll entries e) := by
  induction entries generalizing e with
  | nil => exact ⟨.refl e, nofun, rfl, fun _ => iff_of_true rfl nofun⟩
  | cons entry entries ih =>
      have hentry := h.placed entry List.mem_cons_self
      obtain ⟨hfirst, hothers⟩ := List.pairwise_cons.mp h.apart
      obtain ⟨hsteps, hok⟩ := entry.autoEntry_spec hentry saveAll e
      have hrest := ih ⟨fun x hx => h.placed x (List.mem_cons_of_mem _ hx), hothers⟩
        (entry.autoEntry p saveAll e).1
      obtain ⟨hplaced, hareas⟩ := hsteps.placed hentry
      unfold eepromAutoProcess
      refine ⟨hsteps.later.trans hrest.later, ?_, ?_, ?_⟩
      · intro x hx
        rcases List.mem_cons.mp hx with rfl | hx
        · exact hplaced
        · exact hrest.placed x hx
      · exact congrArg₂ List.cons hareas hrest.areas
      · intro hhealthy
        obtain ⟨hhead, htail⟩ := hhealthy.split hsteps.later hrest.later
        have hframe : ∀ x ∈ entries, x.Settles p.host (entry.autoEntry p saveAll e).1.medium ↔
            x.Settles p.host e.medium := by
          intro x hx
          apply EepromEntry.settles_congr (h.placed x (List.mem_cons_of_mem _ hx))
          intro a ha
          have hout : ¬ Within entry.areas a := fun hin =>
            hfirst x.areas (List.mem_map_of_mem hx) a hin ha
          exact hsteps.kept a (fun hin => hout (.inl hin)) (fun hin => hout (.inr hin))
        rw [List.forall_mem_cons, ← hok hhead]
        have htailOk := hrest.ok htail
        have hforall : (∀ x ∈ entries, saveAll = false → x.auto = true →
            x.Settles p.host (entry.autoEntry p saveAll e).1.medium) ↔
            ∀ x ∈ entries, saveAll = false → x.auto = true → x.Settles p.host e.medium :=
          forall₂_congr fun x hx => imp_congr_right fun _ => imp_congr_right fun _ => hframe x hx
        rw [hforall] at htailOk
        rw [← htailOk]
        exact Bool.and_eq_true_iff

/-- `CO_storage_t` with the EEPROM and the emergency `CO_EM_NON_VOLATILE_AUTO_SAVE`. -/
structure EepromStorage (w : Nat) where
  enabled : Bool
  entries : List (EepromEntry w)
  eeprom : Eeprom
  emergency : Bool

namespace EepromStorage

/-- The application writes a byte of a payload in RAM, or the main loop saves. -/
inductive Input where
  | write (entry offset : Nat) (byte : Byte)
  | process (saveAll : Bool)

/-- `co_storage_rtt_auto_process` -/
def autoProcess (p : Provider w) (saveAll : Bool) (s : EepromStorage w) :
    EepromStorage w × Bool :=
  if !s.enabled then (s, true)
  else
    let (eeprom, entries, ok) := eepromAutoProcess p saveAll s.entries s.eeprom
    ({ s with eeprom, entries, emergency := !ok }, ok)

def step (p : Provider w) (s : EepromStorage w) : Input → EepromStorage w
  | .write entry offset byte =>
      { s with entries := s.entries.modify entry fun x => { x with ram := x.ram.set offset byte } }
  | .process saveAll => (s.autoProcess p saveAll).1

/-- Every automatic entry settles in a cyclic call. -/
def Settled (host : Host) (saveAll : Bool) (s : EepromStorage w) : Prop :=
  saveAll = true ∨ ∀ entry ∈ s.entries, entry.auto = true → entry.Settles host s.eeprom.medium

/-- What a call reports when all its transfers have succeeded. -/
structure HealthyReport (host : Host) (saveAll : Bool) (s : EepromStorage w)
    (out : EepromStorage w × Bool) : Prop where
  returned : out.2 = true ↔ (s.enabled = true → s.Settled host saveAll)
  emergency : s.enabled = true → (out.1.emergency = true ↔ ¬ s.Settled host saveAll)

theorem autoProcess_spec {p : Provider w} {s : EepromStorage w}
    (h : LaidOut p.device s.entries) (saveAll : Bool) :
    LaidOut p.device (s.autoProcess p saveAll).1.entries ∧
      (s.eeprom.Healthy (s.autoProcess p saveAll).1.eeprom →
        HealthyReport p.host saveAll s (s.autoProcess p saveAll)) := by
  have hspec := eepromAutoProcess_spec h saveAll s.eeprom
  unfold autoProcess
  cases henabled : s.enabled with
  | false =>
      refine ⟨h, fun _ => ⟨?_, fun hbad => ?_⟩⟩
      · exact iff_of_true rfl fun hbad => absurd (henabled.symm.trans hbad) Bool.false_ne_true
      · exact absurd (henabled.symm.trans hbad) Bool.false_ne_true
  | true =>
      have hsettled : (∀ entry ∈ s.entries, saveAll = false → entry.auto = true →
          entry.Settles p.host s.eeprom.medium) ↔ s.Settled p.host saveAll := by
        unfold Settled
        cases saveAll with
        | false => simp
        | true => simp
      refine ⟨⟨hspec.placed, ?_⟩, fun hhealthy => ?_⟩
      · have hapart := h.apart
        rw [← hspec.areas] at hapart
        exact hapart
      · have hok := (hspec.ok hhealthy).trans hsettled
        refine ⟨?_, fun _ => ?_⟩
        · exact hok.trans ⟨fun hs _ => hs, fun hs => hs henabled⟩
        · rw [← hok]
          show (!(eepromAutoProcess p saveAll s.entries s.eeprom).2.2) = true ↔ _
          simp

/-- A write of the application leaves the areas of the entries alone. -/
theorem laidOut_write {i : At24c w} {entries : List (EepromEntry w)} (h : LaidOut i entries)
    (k offset : Nat) (byte : Byte) :
    LaidOut i (entries.modify k fun x => { x with ram := x.ram.set offset byte }) := by
  have hwrite : ∀ x : EepromEntry w, x.Placed i →
      ({ x with ram := x.ram.set offset byte } : EepromEntry w).Placed i := by
    intro x hx
    have hlen : ({ x with ram := x.ram.set offset byte } : EepromEntry w).len = x.len :=
      congrArg (BitVec.ofNat w) List.length_set
    refine ⟨?_, ?_, hx.signature, ?_, ?_⟩
    · rw [List.length_set]
      exact hx.fits
    · rw [hlen]
      exact hx.payload
    · unfold EepromEntry.payloadArea
      rw [List.length_set]
      exact hx.apart
    · rw [hlen]
      exact hx.cursor
  have hareas : ∀ x : EepromEntry w,
      ({ x with ram := x.ram.set offset byte } : EepromEntry w).areas = x.areas := by
    intro x
    unfold EepromEntry.areas EepromEntry.payloadArea
    rw [List.length_set]
    rfl
  constructor
  · intro x hx
    obtain ⟨n, hn, rfl⟩ := List.getElem_of_mem hx
    rw [List.getElem_modify]
    rw [List.length_modify] at hn
    have hplaced := h.placed _ (List.getElem_mem hn)
    split
    · exact hwrite _ hplaced
    · exact hplaced
  · have hmap : (entries.modify k fun x => { x with ram := x.ram.set offset byte }).map
        EepromEntry.areas = entries.map EepromEntry.areas := by
      apply List.ext_getElem?
      intro n
      rw [List.getElem?_map, List.getElem?_map, List.getElem?_modify]
      cases entries[n]? with
      | none => rfl
      | some x =>
          by_cases hk : k = n
          · simp [hk, hareas]
          · simp [hk]
    rw [hmap]
    exact h.apart

/-- Every cyclic or forced save of a run on a healthy EEPROM succeeds exactly when the RAM
settles with the EEPROM. -/
theorem report_of_healthy (p : Provider w) {start : EepromStorage w}
    (h : LaidOut p.device start.entries) (inputs : List Input) :
    EveryStep (step p) (fun s input => ∀ saveAll, input = .process saveAll →
      s.eeprom.Healthy (s.autoProcess p saveAll).1.eeprom →
        HealthyReport p.host saveAll s (s.autoProcess p saveAll)) start inputs := by
  refine @everyStep_of_run_invariant _ _ _ (fun s => LaidOut p.device s.entries) _ ?_ ?_ _ h inputs
  · intro s input hs
    cases input with
    | write entry offset byte => exact laidOut_write hs entry offset byte
    | process saveAll => exact (autoProcess_spec hs saveAll).1
  · rintro s input hs saveAll rfl
    exact (autoProcess_spec hs saveAll).2

end EepromStorage

/-! ## An AT24C32 -/

/-- The AT24C32 on a little-endian target. -/
def at24c32Provider : Provider 32 where
  host := .ccitt
  config := At24c.at24c32
  device := (At24c.deviceInit At24c.at24c32 (At24c.configInit At24c.at24c32 At24c.zeroed) true).1
  opened := (At24c.opened_of_deviceInit (by decide : At24c.deviceInit At24c.at24c32
    (At24c.configInit At24c.at24c32 At24c.zeroed) true = (_, true))).1
  streams := Host.ccitt_streams
  wide := by decide

def twoBytes : EepromEntry 32 where
  auto := true
  ram := [1, 2]
  eepromAddr := 260
  eepromAddrSignature := 256
  offset := 0
  crc := 0
  payloadChanged := false

def blank : EepromStorage 32 where
  enabled := true
  entries := [twoBytes]
  eeprom := ⟨fun _ => 0xFF, [], fun _ => ⟨true, fun _ => true⟩⟩
  emergency := false

theorem blank_laidOut : LaidOut at24c32Provider.device blank.entries := by
  constructor
  · intro entry hentry
    rw [List.mem_singleton.mp hentry]
    refine ⟨by decide, by decide, by decide, ?_, by decide⟩
    rintro a ⟨hlow, -⟩ ⟨-, hhigh⟩
    change 260 ≤ a at hlow
    change a < 256 + 4 at hhigh
    omega
  · exact List.pairwise_singleton _ _

/-- The first byte has been saved and changes again before the end of the pass. -/
def overtaken : EepromStorage 32 :=
  run (EepromStorage.step at24c32Provider) blank [.process false, .write 0 0 9]

theorem healthy_overtaken (e : Eeprom) : overtaken.eeprom.Healthy e := by
  intro n _ _
  have hlater := (eepromAutoProcess_spec blank_laidOut false blank.eeprom).later.1
  exact congrArg (fun answers : Nat → PageAnswer => (answers n).ok) hlater

theorem report_overtaken :
    LaidOut at24c32Provider.device blank.entries ∧
      overtaken.eeprom.Healthy (overtaken.autoProcess at24c32Provider false).1.eeprom ∧
      (overtaken.autoProcess at24c32Provider false).2 = false ∧
      (overtaken.autoProcess at24c32Provider false).1.emergency = true :=
  ⟨blank_laidOut, healthy_overtaken _, by decide +kernel, by decide +kernel⟩

theorem report_blank :
    LaidOut at24c32Provider.device blank.entries ∧
      EveryStep (EepromStorage.step at24c32Provider) (fun s input => ∀ saveAll,
        input = .process saveAll →
        s.eeprom.Healthy (s.autoProcess at24c32Provider saveAll).1.eeprom →
          EepromStorage.HealthyReport .ccitt saveAll s (s.autoProcess at24c32Provider saveAll))
        blank [.process false, .write 0 0 9, .process false, .process true] :=
  ⟨blank_laidOut, EepromStorage.report_of_healthy at24c32Provider blank_laidOut _⟩

end CanopenRtt.Storage
