import CanopenRtt.Storage.DfsStorage
/-!
# What a successful automatic pass has saved

A pass skips an entry whose cached CRC is that of the payload. The cache says
what the file held when the CRC was recorded; a store that fails later changes
the file and leaves the cache, so a payload that returns to its old value is
skipped over a damaged file.
-/

namespace CanopenRtt.Storage

open Support

/-- A storage and, for each entry, the file as it was when its CRC was recorded. -/
structure DfsWatch where
  storage : DfsStorage
  recorded : Nat → Option (List Byte)

/-- A pass stores the entry. -/
def DfsEntry.needsStore (host : Host) (saveAll : Bool) (entry : DfsEntry) : Bool :=
  entry.auto &&
    match entry.config with
    | none => false
    | some config =>
        saveAll || !config.autoCrcValid || config.autoCrc ≠ entry.payloadCrc host

namespace DfsWatch

/-- The event records the CRC of the entry at `i`. -/
def records (host : Host) (storage : DfsStorage) (i : Nat) : DfsEvent → Bool
  | .storeCommand j answer =>
      i = j && (storage.entries[i]?.any fun entry => (entry.store host answer).2)
  | .readCommand j answer =>
      i = j && (storage.entries[i]?.any fun entry => (entry.load host answer).isLoaded)
  | .startup _ _ => true
  | .autoProcess saveAll answers =>
      storage.enabled && (storage.entries[i]?.any fun entry =>
        entry.needsStore host saveAll && (entry.store host (answers i)).2)
  | _ => false

def fileAt (storage : DfsStorage) (i : Nat) : Option (List Byte) :=
  storage.entries[i]?.bind DfsEntry.file

def step (host : Host) (watch : DfsWatch) (event : DfsEvent) : DfsWatch where
  storage := watch.storage.step host event
  recorded i :=
    if records host watch.storage i event then fileAt (watch.storage.step host event) i
    else watch.recorded i

/-- A pass that does not save all finds no automatic entry whose payload has the
recorded CRC while its file has changed since the CRC was recorded. -/
def Unspoiled (host : Host) (watch : DfsWatch) : DfsEvent → Prop
  | .autoProcess false _ =>
      watch.storage.enabled = true → ∀ i entry config,
        watch.storage.entries[i]? = some entry → entry.auto = true →
        entry.config = some config → config.autoCrcValid = true → config.dataCorrupt = false →
        config.autoCrc = entry.payloadCrc host → entry.file = watch.recorded i
  | _ => True

/-- The payloads before and after the event are among those that occur. -/
def PayloadsOccur (host : Host) (Occurs : List Byte → Prop) (watch : DfsWatch) (event : DfsEvent) :
    Prop :=
  (∀ entry ∈ watch.storage.entries, Occurs entry.ram) ∧
    ∀ entry ∈ (watch.storage.step host event).entries, Occurs entry.ram

/-- A pass that reports success with storage enabled has saved the payload of every
automatic entry that is not marked corrupt. -/
def Saves (host : Host) (watch : DfsWatch) : DfsEvent → Prop
  | .autoProcess saveAll answers =>
      watch.storage.enabled = true →
      (watch.storage.autoProcess host saveAll answers).2 = true →
      ∀ entry ∈ (watch.storage.autoProcess host saveAll answers).1.entries,
        entry.auto = true → entry.isCorrupt = false → entry.HoldsPayload host
  | _ => True

/-- A valid cache describes the recorded file. -/
def CacheOf (host : Host) (Occurs : List Byte → Prop) (recorded : Option (List Byte))
    (entry : DfsEntry) : Prop :=
  ∀ config, entry.config = some config → config.autoCrcValid = true → config.dataCorrupt = false →
    ∃ payload, Occurs payload ∧ host.crc16 payload 0 = config.autoCrc ∧
      payload.length = entry.ram.length ∧
      DfsEntry.load host { entry with file := recorded } .clean = .loaded payload

def Inv (host : Host) (Occurs : List Byte → Prop) (watch : DfsWatch) : Prop :=
  ∀ i entry, watch.storage.entries[i]? = some entry →
    CacheOf host Occurs (watch.recorded i) entry

/-! ## One entry -/

variable {host : Host} {Occurs : List Byte → Prop} {recorded : Option (List Byte)}

theorem cacheOf_of_invalid {entry : DfsEntry}
    (h : ∀ config, entry.config = some config → config.autoCrcValid = false ∨
      config.dataCorrupt = true) : CacheOf host Occurs recorded entry := by
  intro config hconfig hvalid hcorrupt
  rcases h config hconfig with hinvalid | hmarked
  · rw [hvalid] at hinvalid
    contradiction
  · rw [hcorrupt] at hmarked
    contradiction

theorem cacheOf_congr {entry after : DfsEntry} (h : CacheOf host Occurs recorded entry)
    (hconfig : after.config = entry.config) (hsub : after.subIndexOD = entry.subIndexOD)
    (hpath : after.pathFits = entry.pathFits) (hlen : after.ram.length = entry.ram.length) :
    CacheOf host Occurs recorded after := by
  intro config hafter hvalid hcorrupt
  obtain ⟨payload, hoccurs, hcrc, hlength, hload⟩ := h config (hconfig ▸ hafter) hvalid hcorrupt
  refine ⟨payload, hoccurs, hcrc, hlength.trans hlen.symm, ?_⟩
  rw [← hload]
  exact DfsEntry.load_congr hsub hpath hlen rfl

/-- An entry that has just been marked loaded over a file that holds its payload. -/
theorem cacheOf_markLoaded {entry : DfsEntry} (hoccurs : Occurs entry.ram)
    (hholds : entry.HoldsPayload host) :
    CacheOf host Occurs entry.file (entry.markLoaded (entry.payloadCrc host)) := by
  intro config hconfig _ _
  obtain ⟨before, -, rfl⟩ := Option.map_eq_some_iff.mp hconfig
  refine ⟨entry.ram, hoccurs, rfl, rfl, ?_⟩
  calc
    _ = entry.load host .clean := DfsEntry.load_congr rfl rfl rfl rfl
    _ = .loaded entry.ram := hholds

theorem store_true {entry : DfsEntry} {answer : DfsStoreAnswer}
    (h : (entry.store host answer).2 = true) :
    (entry.store host answer).1 =
        DfsEntry.markLoaded { entry with file := some (entry.fileImage host) }
          (entry.payloadCrc host) ∧
      DfsEntry.HoldsPayload host { entry with file := some (entry.fileImage host) } := by
  unfold DfsEntry.store at h ⊢
  split at h
  · contradiction
  next hstorable =>
  rw [if_neg hstorable]
  split at h
  · next hwritten =>
      rw [if_pos hwritten]
      have hfits : entry.storable = true := by simpa using hstorable
      exact ⟨rfl, DfsEntry.holdsPayload_of_fileImage host hfits rfl⟩
  · contradiction

/-- A store leaves the entry alone but for its file, unless it succeeds. -/
theorem store_false {entry : DfsEntry} {answer : DfsStoreAnswer}
    (h : (entry.store host answer).2 = false) :
    ∃ file, (entry.store host answer).1 = { entry with file := file } := by
  unfold DfsEntry.store at h ⊢
  split at h
  · next hstorable =>
      rw [if_pos hstorable]
      exact ⟨entry.file, rfl⟩
  next hstorable =>
  rw [if_neg hstorable]
  split at h
  · contradiction
  · next hwritten =>
      rw [if_neg hwritten]
      exact ⟨answer.left, rfl⟩

theorem cacheOf_store {entry : DfsEntry} {answer : DfsStoreAnswer} (hoccurs : Occurs entry.ram)
    (h : CacheOf host Occurs recorded entry) :
    CacheOf host Occurs
      (if (entry.store host answer).2 then (entry.store host answer).1.file else recorded)
      (entry.store host answer).1 := by
  cases hok : (entry.store host answer).2 with
  | true =>
      obtain ⟨hafter, hholds⟩ := store_true hok
      rw [hafter, if_pos rfl]
      exact @cacheOf_markLoaded host Occurs { entry with file := some (entry.fileImage host) }
        hoccurs hholds
  | false =>
      obtain ⟨file, hfile⟩ := store_false hok
      rw [hfile, if_neg (by decide)]
      exact cacheOf_congr h rfl rfl rfl rfl

theorem cacheOf_restore {entry : DfsEntry} {answer : DfsRestoreAnswer}
    (h : CacheOf host Occurs recorded entry) :
    CacheOf host Occurs recorded (entry.restore answer).1 := by
  have hmissing (entry : DfsEntry) : CacheOf host Occurs recorded entry.markMissing := by
    apply cacheOf_of_invalid
    intro config hconfig
    obtain ⟨before, -, rfl⟩ := Option.map_eq_some_iff.mp hconfig
    exact .inl rfl
  unfold DfsEntry.restore
  split
  · exact h
  split
  · exact hmissing _
  · split
    · exact h
    · exact hmissing _

/-- A read records the file it has loaded, or keeps the cache or invalidates it. -/
theorem cacheOf_read {entry : DfsEntry} {answer : DfsReadAnswer}
    (hoccurs : Occurs (entry.read host answer).1.ram)
    (h : CacheOf host Occurs recorded entry) :
    CacheOf host Occurs (if (entry.load host answer).isLoaded then entry.file else recorded)
      (entry.read host answer).1 := by
  unfold DfsEntry.read at hoccurs ⊢
  cases hload : entry.load host answer with
  | missing =>
      apply cacheOf_of_invalid
      intro config hconfig
      obtain ⟨before, -, rfl⟩ := Option.map_eq_some_iff.mp hconfig
      exact .inl rfl
  | unread => exact h
  | corrupt =>
      apply cacheOf_of_invalid
      intro config hconfig
      obtain ⟨before, -, rfl⟩ := Option.map_eq_some_iff.mp hconfig
      exact .inr rfl
  | loaded payload =>
      rw [hload] at hoccurs
      obtain ⟨hclean, hlength⟩ := DfsEntry.load_clean_of_loaded hload
      have hholds : DfsEntry.HoldsPayload host { entry with ram := payload } := by
        calc
          DfsEntry.load host { entry with ram := payload } .clean
              = entry.load host .clean := DfsEntry.load_congr rfl rfl hlength rfl
          _ = .loaded payload := hclean
      exact @cacheOf_markLoaded host Occurs { entry with ram := payload } hoccurs hholds

theorem file_read (entry : DfsEntry) (answer : DfsReadAnswer) :
    (entry.read host answer).1.file = entry.file := by
  unfold DfsEntry.read
  split <;> rfl

theorem cacheOf_bind (entry : DfsEntry) : CacheOf host Occurs recorded entry.bind := by
  apply cacheOf_of_invalid
  intro config hconfig
  injection hconfig with hconfig
  exact .inl (by rw [← hconfig])

/-! ## A step -/

theorem autoStore_of_needsStore {saveAll : Bool} {entry : DfsEntry} {answer : DfsStoreAnswer}
    (h : entry.needsStore host saveAll = true) :
    entry.autoStore host saveAll answer = entry.store host answer := by
  unfold DfsEntry.needsStore at h
  unfold DfsEntry.autoStore
  rw [Bool.and_eq_true] at h
  obtain ⟨hauto, hneeds⟩ := h
  rw [if_neg (by simp [hauto])]
  cases hconfig : entry.config with
  | none =>
      rw [hconfig] at hneeds
      contradiction
  | some config =>
      rw [hconfig] at hneeds
      exact if_pos hneeds

theorem auto_store (entry : DfsEntry) (answer : DfsStoreAnswer) :
    (entry.store host answer).1.auto = entry.auto := by
  cases hok : (entry.store host answer).2 with
  | true => rw [(store_true hok).1]; rfl
  | false =>
      obtain ⟨file, hfile⟩ := store_false hok
      rw [hfile]

theorem autoStore_of_not_needsStore {saveAll : Bool} {entry : DfsEntry} {answer : DfsStoreAnswer}
    (h : entry.needsStore host saveAll = false) :
    (entry.autoStore host saveAll answer).1 = entry := by
  unfold DfsEntry.needsStore at h
  unfold DfsEntry.autoStore
  split
  · rfl
  next hauto =>
  rw [show entry.auto = true by simpa using hauto, Bool.true_and] at h
  cases hconfig : entry.config with
  | none => rfl
  | some config =>
      rw [hconfig] at h
      have hquiet : ¬ (saveAll || !config.autoCrcValid ||
          decide (config.autoCrc ≠ entry.payloadCrc host)) = true := by
        intro htrue
        exact absurd (htrue.symm.trans h) (by decide)
      dsimp only
      rw [if_neg hquiet]

theorem auto_autoStore (entry : DfsEntry) (saveAll : Bool) (answer : DfsStoreAnswer) :
    (entry.autoStore host saveAll answer).1.auto = entry.auto := by
  cases hneeds : entry.needsStore host saveAll with
  | true => rw [autoStore_of_needsStore hneeds, auto_store]
  | false => rw [autoStore_of_not_needsStore hneeds]

theorem recorded_step {watch : DfsWatch} {event : DfsEvent} {i : Nat}
    (h : records host watch.storage i event = false) :
    (watch.step host event).recorded i = watch.recorded i := by
  exact if_neg (by rw [h]; decide)

theorem recorded_step_of_records {watch : DfsWatch} {event : DfsEvent} {i : Nat} {after : DfsEntry}
    (h : records host watch.storage i event = true)
    (hafter : (watch.storage.step host event).entries[i]? = some after) :
    (watch.step host event).recorded i = after.file := by
  calc
    (watch.step host event).recorded i
        = fileAt (watch.storage.step host event) i := if_pos h
    _ = after.file := by rw [fileAt, hafter]; rfl

theorem not_records_of_not_concerns {storage : DfsStorage} {event : DfsEvent} {i : Nat}
    (h : ¬ event.Concerns storage i) : records host storage i event = false := by
  cases event with
  | setRam j payload => rfl
  | storeCommand j answer => simp [records, show i ≠ j from h]
  | restoreCommand j answer => rfl
  | readCommand j answer => simp [records, show i ≠ j from h]
  | startup initOk answers => exact absurd trivial h
  | autoProcess saveAll answers => simp [records, show storage.enabled ≠ true from h]

theorem inv_step {watch : DfsWatch} {event : DfsEvent} (h : Inv host Occurs watch)
    (hoccurs : PayloadsOccur host Occurs watch event) :
    Inv host Occurs (watch.step host event) := by
  intro i after hafter
  have hafter : (watch.storage.step host event).entries[i]? = some after := hafter
  obtain ⟨before, hbefore, hstep⟩ := entryStep_of_step hafter
  have hcache := h i before hbefore
  have hram : Occurs before.ram := hoccurs.1 before (List.mem_of_getElem? hbefore)
  have hramAfter : Occurs after.ram := hoccurs.2 after (List.mem_of_getElem? hafter)
  cases hstep with
  | untouched _ hother =>
      rw [recorded_step (not_records_of_not_concerns hother)]
      exact hcache
  | setRam payload =>
      rw [recorded_step rfl]
      unfold DfsEntry.setRam
      split
      · next hlength => exact cacheOf_congr hcache rfl rfl rfl hlength
      · exact hcache
  | stored answer =>
      have hrecords : records host watch.storage i (.storeCommand i answer) =
          (before.store host answer).2 := by
        simp [records, hbefore]
      have hstored := @cacheOf_store host Occurs _ before answer hram hcache
      cases hok : (before.store host answer).2 with
      | true =>
          rw [recorded_step_of_records (hrecords.trans hok) hafter]
          rwa [if_pos hok] at hstored
      | false =>
          rw [recorded_step (hrecords.trans hok)]
          rwa [if_neg (by rw [hok]; decide)] at hstored
  | restored answer =>
      rw [recorded_step rfl]
      exact cacheOf_restore hcache
  | read answer =>
      have hrecords : records host watch.storage i (.readCommand i answer) =
          (before.load host answer).isLoaded := by
        simp [records, hbefore]
      have hread := cacheOf_read hramAfter hcache
      cases hloaded : (before.load host answer).isLoaded with
      | true =>
          rw [recorded_step_of_records (hrecords.trans hloaded) hafter, file_read]
          rwa [if_pos hloaded] at hread
      | false =>
          rw [recorded_step (hrecords.trans hloaded)]
          rwa [if_neg (by rw [hloaded]; decide)] at hread
  | bound initOk answers => exact cacheOf_bind before
  | startupRead initOk answers =>
      rw [recorded_step_of_records rfl hafter, file_read]
      have hread := @cacheOf_read host Occurs before.file before.bind (answers i) hramAfter
        (cacheOf_bind before)
      rwa [show before.bind.file = before.file from rfl, ite_self] at hread
  | autoStored saveAll answers henabled =>
      have hrecords : records host watch.storage i (.autoProcess saveAll answers) =
          (before.needsStore host saveAll && (before.store host (answers i)).2) := by
        simp [records, hbefore, henabled]
      cases hneeds : before.needsStore host saveAll with
      | true =>
          have hstored := @cacheOf_store host Occurs _ before (answers i) hram hcache
          rw [autoStore_of_needsStore hneeds] at hafter ⊢
          rw [hneeds, Bool.true_and] at hrecords
          cases hok : (before.store host (answers i)).2 with
          | true =>
              rw [recorded_step_of_records (hrecords.trans hok) hafter]
              rwa [if_pos hok] at hstored
          | false =>
              rw [recorded_step (hrecords.trans hok)]
              rwa [if_neg (by rw [hok]; decide)] at hstored
      | false =>
          rw [autoStore_of_not_needsStore hneeds,
            recorded_step (hrecords.trans (by rw [hneeds, Bool.false_and]))]
          exact hcache

/-! ## A successful pass -/

/-- An automatic entry whose iteration reports success holds its payload. -/
theorem holdsPayload_of_autoStore (hseparates : host.Separates Occurs) {saveAll : Bool}
    {entry : DfsEntry} {answer : DfsStoreAnswer} (hram : Occurs entry.ram)
    (hcache : CacheOf host Occurs recorded entry) (hauto : entry.auto = true)
    (hunspoiled : saveAll = false → ∀ config, entry.config = some config →
      config.autoCrcValid = true → config.dataCorrupt = false →
      config.autoCrc = entry.payloadCrc host → entry.file = recorded)
    (hok : (entry.autoStore host saveAll answer).2 = true)
    (hcorrupt : (entry.autoStore host saveAll answer).1.isCorrupt = false) :
    (entry.autoStore host saveAll answer).1.HoldsPayload host := by
  cases hneeds : entry.needsStore host saveAll with
  | true =>
      rw [autoStore_of_needsStore hneeds] at hok ⊢
      obtain ⟨hafter, hholds⟩ := store_true hok
      rw [hafter]
      calc
        _ = DfsEntry.load host { entry with file := some (entry.fileImage host) } .clean :=
          DfsEntry.load_congr rfl rfl rfl rfl
        _ = .loaded entry.ram := hholds
  | false =>
      rw [autoStore_of_not_needsStore hneeds] at hcorrupt ⊢
      unfold DfsEntry.autoStore at hok
      rw [if_neg (by simp [hauto])] at hok
      split at hok
      · contradiction
      next config hconfig =>
      have hquiet : (saveAll || !config.autoCrcValid ||
          decide (config.autoCrc ≠ entry.payloadCrc host)) = false := by
        unfold DfsEntry.needsStore at hneeds
        rw [hauto, hconfig] at hneeds
        exact hneeds
      simp only [Bool.or_eq_false_iff, Bool.not_eq_false', decide_eq_false_iff_not, not_not]
        at hquiet
      obtain ⟨⟨hsaveAll, hvalid⟩, hcrc⟩ := hquiet
      have hclear : config.dataCorrupt = false := by
        unfold DfsEntry.isCorrupt at hcorrupt
        rwa [hconfig] at hcorrupt
      obtain ⟨payload, hoccurs, hpayload, hlength, hload⟩ := hcache config hconfig hvalid hclear
      have hsame : payload = entry.ram :=
        hseparates payload entry.ram hoccurs hram hlength (hpayload.trans hcrc)
      have hfile := hunspoiled hsaveAll config hconfig hvalid hclear hcrc
      unfold DfsEntry.HoldsPayload
      rw [← hsame, ← hload]
      exact DfsEntry.load_congr rfl rfl rfl hfile

theorem saves_of_inv (hseparates : host.Separates Occurs) {watch : DfsWatch} {event : DfsEvent}
    (h : Inv host Occurs watch) (hoccurs : PayloadsOccur host Occurs watch event)
    (hunspoiled : Unspoiled host watch event) : Saves host watch event := by
  cases event with
  | autoProcess saveAll answers =>
      intro henabled hok after hmem hauto hcorrupt
      obtain ⟨i, hafter⟩ := List.getElem?_of_mem hmem
      have hafter : (watch.storage.step host (.autoProcess saveAll answers)).entries[i]? =
        some after := hafter
      obtain ⟨before, hbefore, hstep⟩ := entryStep_of_step hafter
      have hentryOk := autoStore_of_autoProcess henabled hok hbefore
      have hram : Occurs before.ram := hoccurs.1 before (List.mem_of_getElem? hbefore)
      cases hstep with
      | untouched _ hother => exact absurd henabled hother
      | autoStored _ _ _ =>
          have hautoBefore : before.auto = true := by
            rw [← hauto]
            exact (auto_autoStore before saveAll (answers i)).symm
          refine holdsPayload_of_autoStore hseparates hram (h i before hbefore) hautoBefore ?_
            hentryOk hcorrupt
          intro hsaveAll config hconfig
          subst hsaveAll
          exact hunspoiled henabled i before config hbefore hautoBefore hconfig
  | _ => trivial

/-- Every run of a storage in which no pass finds a spoiled file: what a successful
pass reports is true. -/
theorem dfsFreshness_of_run (host : Host) (Occurs : List Byte → Prop)
    (hseparates : host.Separates Occurs) (entries : List DfsEntry)
    (hunbound : ∀ entry ∈ entries, entry.config = none) (events : List DfsEvent)
    (hevents : EveryStep (step host)
      (fun watch event => PayloadsOccur host Occurs watch event ∧ Unspoiled host watch event)
      ⟨⟨false, entries⟩, fun _ => none⟩ events) :
    EveryStep (step host) (Saves host) ⟨⟨false, entries⟩, fun _ => none⟩ events := by
  have hstart : Inv host Occurs ⟨⟨false, entries⟩, fun _ => none⟩ := by
    intro i entry hentry config hconfig
    have hnone := hunbound entry (List.mem_of_getElem? hentry)
    rw [hnone] at hconfig
    contradiction
  refine everyStep_of_invariant ?_ ?_ hstart hevents
  · intro watch event h hevent
    exact inv_step h hevent.1
  · intro watch event h hevent
    exact saves_of_inv hseparates h hevent.1 hevent.2

/-- One automatic entry of one byte without a file. -/
def byteStart : DfsWatch :=
  ⟨⟨false, [{ subIndexOD := 2, auto := true, pathFits := true, ram := [1], config := none
              file := none }]⟩, fun _ => none⟩

def storeOk : DfsStoreAnswer :=
  { opens := true, writesHeader := true, writesPayload := true, flushes := true, closes := true
    left := none }

/-- The header cannot be written, and the file stays truncated. -/
def storeTruncated : DfsStoreAnswer := { storeOk with writesHeader := false, left := some [] }

/-- Save 1, change to 2 with the given answer, change to `last`, pass again. -/
def byteRun (answer : DfsStoreAnswer) (last : Byte) : List DfsEvent :=
  [.startup true fun _ => .clean, .autoProcess false fun _ => storeOk, .setRam 0 [2],
    .autoProcess false fun _ => answer, .setRam 0 [last], .autoProcess false fun _ => storeOk]

theorem ccitt_separates_oneByte : Host.ccitt.Separates (· ∈ [[1], [2]]) := by
  have hall : ∀ p ∈ ([[1], [2]] : List (List Byte)), ∀ q ∈ ([[1], [2]] : List (List Byte)),
      p.length = q.length → Host.ccitt.crc16 p 0 = Host.ccitt.crc16 q 0 → p = q := by
    decide +kernel
  exact fun p q hp hq => hall p hp q hq

/-- A failed save truncates the file and the payload returns to its saved value: the
next pass reports success over an empty file. -/
theorem dfsFreshness_revertedValue :
    Host.ccitt.Separates (· ∈ [[1], [2]]) ∧
      EveryStep (step Host.ccitt) (PayloadsOccur Host.ccitt (· ∈ [[1], [2]])) byteStart
        (byteRun storeTruncated 1) ∧
      ¬ EveryStep (step Host.ccitt) (Saves Host.ccitt) byteStart (byteRun storeTruncated 1) := by
  refine ⟨ccitt_separates_oneByte, ?_, ?_⟩
  · exact ⟨⟨by decide +kernel, by decide +kernel⟩, ⟨by decide +kernel, by decide +kernel⟩,
      ⟨by decide +kernel, by decide +kernel⟩, ⟨by decide +kernel, by decide +kernel⟩,
      ⟨by decide +kernel, by decide +kernel⟩, ⟨by decide +kernel, by decide +kernel⟩, trivial⟩
  · rintro ⟨-, -, -, -, -, hlast, -⟩
    have hholds := hlast (by decide +kernel) (by decide +kernel)
    exact absurd hholds (by decide +kernel)

theorem dfsFreshness_savedTwice :
    EveryStep (step Host.ccitt) (Saves Host.ccitt) byteStart (byteRun storeOk 2) := by
  refine dfsFreshness_of_run Host.ccitt (· ∈ [[1], [2]]) ccitt_separates_oneByte _ (by decide) _ ?_
  have hpass (watch : DfsWatch) (answers : Nat → DfsStoreAnswer)
      (hfiles : ∀ p ∈ watch.storage.entries.zipIdx, p.1.config.any (fun config =>
        config.autoCrcValid && config.autoCrc = p.1.payloadCrc Host.ccitt) = true →
        p.1.file = watch.recorded p.2) :
      Unspoiled Host.ccitt watch (.autoProcess false answers) := by
    intro _ i entry config hentry _ hconfig hvalid _ hcrc
    refine hfiles (entry, i) (List.mem_zipIdx_iff_getElem?.mpr hentry) ?_
    simp [hconfig, hvalid, hcrc]
  exact ⟨⟨⟨by decide +kernel, by decide +kernel⟩, trivial⟩,
    ⟨⟨by decide +kernel, by decide +kernel⟩, hpass _ _ (by decide +kernel)⟩,
    ⟨⟨by decide +kernel, by decide +kernel⟩, trivial⟩,
    ⟨⟨by decide +kernel, by decide +kernel⟩, hpass _ _ (by decide +kernel)⟩,
    ⟨⟨by decide +kernel, by decide +kernel⟩, trivial⟩,
    ⟨⟨by decide +kernel, by decide +kernel⟩, hpass _ _ (by decide +kernel)⟩, trivial⟩

end DfsWatch

end CanopenRtt.Storage
