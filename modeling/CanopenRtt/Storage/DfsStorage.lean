import CanopenRtt.Storage.DfsEntry
import CanopenRtt.Support.Run
/-!
# Automatic DFS storage

The storage object over its entries: startup, the commands of 0x1010 and 0x1011,
and the automatic processing of the mainline.
-/

namespace CanopenRtt.Storage

open Support

/-- `CO_storage_t`. -/
structure DfsStorage where
  enabled : Bool
  entries : List DfsEntry
  deriving DecidableEq

/-- How the reads of a startup end. -/
inductive StartupResult where
  | ok
  | corrupt
  | failed
  deriving DecidableEq

/-- The read loop of `co_storage_rtt_dfs_init`: it goes on after a file that is
rejected and stops at any other error. -/
def readEntries (host : Host) : List DfsEntry → (Nat → DfsReadAnswer) →
    List DfsEntry × StartupResult
  | [], _ => ([], .ok)
  | entry :: entries, answers =>
      let (entry, ok) := entry.read host (answers 0)
      if !ok && !entry.isCorrupt then (entry :: entries, .failed)
      else
        let (entries, result) := readEntries host entries fun i => answers (i + 1)
        (entry :: entries, if !ok && result = .ok then .corrupt else result)

namespace DfsStorage

/-- `co_storage_rtt_dfs_init` of a storage with entries; `initOk` is the result of
`CO_storage_init`. -/
def init (host : Host) (storage : DfsStorage) (initOk : Bool) (answers : Nat → DfsReadAnswer) :
    DfsStorage :=
  let entries := storage.entries.map DfsEntry.bind
  if !initOk then { enabled := false, entries := entries }
  else
    let (entries, result) := readEntries host entries answers
    { enabled := result ≠ .failed, entries := entries }

/-- `co_storage_rtt_dfs_auto_process`. -/
def autoProcess (host : Host) (storage : DfsStorage) (saveAll : Bool)
    (answers : Nat → DfsStoreAnswer) : DfsStorage × Bool :=
  if !storage.enabled then (storage, true)
  else
    let results := storage.entries.mapIdx fun i entry => entry.autoStore host saveAll (answers i)
    ({ storage with entries := results.map Prod.fst }, results.all Prod.snd)

end DfsStorage

/-- What can happen to a storage: the application changes a payload, a command
stores, restores or reads an entry, the node starts up, the mainline runs. -/
inductive DfsEvent where
  | setRam (i : Nat) (payload : List Byte)
  | storeCommand (i : Nat) (answer : DfsStoreAnswer)
  | restoreCommand (i : Nat) (answer : DfsRestoreAnswer)
  | readCommand (i : Nat) (answer : DfsReadAnswer)
  | startup (initOk : Bool) (answers : Nat → DfsReadAnswer)
  | autoProcess (saveAll : Bool) (answers : Nat → DfsStoreAnswer)

/-- A payload changes within the length of its entry. -/
def DfsEntry.setRam (entry : DfsEntry) (payload : List Byte) : DfsEntry :=
  if payload.length = entry.ram.length then { entry with ram := payload } else entry

/-- The storage after an event. -/
def DfsStorage.step (host : Host) (storage : DfsStorage) : DfsEvent → DfsStorage
  | .setRam i payload =>
      { storage with entries := storage.entries.modify i fun entry => entry.setRam payload }
  | .storeCommand i answer =>
      { storage with entries := storage.entries.modify i fun entry => (entry.store host answer).1 }
  | .restoreCommand i answer =>
      { storage with entries := storage.entries.modify i fun entry => (entry.restore answer).1 }
  | .readCommand i answer =>
      { storage with entries := storage.entries.modify i fun entry => (entry.read host answer).1 }
  | .startup initOk answers => storage.init host initOk answers
  | .autoProcess saveAll answers => (storage.autoProcess host saveAll answers).1

/-! ## What an event does to one entry -/

/-- A startup read of the list reads an entry once, or not at all. -/
theorem readEntries_getElem? (host : Host) {entries : List DfsEntry} {answers : Nat → DfsReadAnswer}
    {i : Nat} {after : DfsEntry} (h : (readEntries host entries answers).1[i]? = some after) :
    ∃ before, entries[i]? = some before ∧
      (after = before ∨ after = (before.read host (answers i)).1) := by
  induction entries generalizing answers i with
  | nil => simp [readEntries] at h
  | cons entry entries ih =>
      unfold readEntries at h
      dsimp only at h
      split at h
      · cases i with
        | zero => exact ⟨entry, rfl, .inr (Option.some.inj h).symm⟩
        | succ i => exact ⟨after, h, .inl rfl⟩
      · cases i with
        | zero => exact ⟨entry, rfl, .inr (Option.some.inj h).symm⟩
        | succ i => exact ih h

/-- The event is about the entry at `i`. -/
def DfsEvent.Concerns (storage : DfsStorage) (i : Nat) : DfsEvent → Prop
  | .setRam j _ => i = j
  | .storeCommand j _ => i = j
  | .restoreCommand j _ => i = j
  | .readCommand j _ => i = j
  | .startup _ _ => True
  | .autoProcess _ _ => storage.enabled = true

/-- The operation of an event on the entry at `i`. -/
inductive EntryStep (host : Host) (storage : DfsStorage) (i : Nat) (before : DfsEntry) :
    DfsEvent → DfsEntry → Prop where
  | untouched (event : DfsEvent) (hother : ¬ event.Concerns storage i) :
      EntryStep host storage i before event before
  | setRam (payload : List Byte) :
      EntryStep host storage i before (.setRam i payload) (before.setRam payload)
  | stored (answer : DfsStoreAnswer) :
      EntryStep host storage i before (.storeCommand i answer) (before.store host answer).1
  | restored (answer : DfsRestoreAnswer) :
      EntryStep host storage i before (.restoreCommand i answer) (before.restore answer).1
  | read (answer : DfsReadAnswer) :
      EntryStep host storage i before (.readCommand i answer) (before.read host answer).1
  | bound (initOk : Bool) (answers : Nat → DfsReadAnswer) :
      EntryStep host storage i before (.startup initOk answers) before.bind
  | startupRead (initOk : Bool) (answers : Nat → DfsReadAnswer) :
      EntryStep host storage i before (.startup initOk answers)
        (before.bind.read host (answers i)).1
  | autoStored (saveAll : Bool) (answers : Nat → DfsStoreAnswer)
      (henabled : storage.enabled = true) :
      EntryStep host storage i before (.autoProcess saveAll answers)
        (before.autoStore host saveAll (answers i)).1

theorem getElem?_modify_cases {α : Type*} {f : α → α} {i j : Nat} {l : List α} {after : α}
    (h : (l.modify j f)[i]? = some after) :
    ∃ before, l[i]? = some before ∧ (i ≠ j ∧ after = before ∨ i = j ∧ after = f before) := by
  rw [List.getElem?_modify] at h
  obtain ⟨before, hbefore, hafter⟩ := Option.map_eq_some_iff.mp h
  refine ⟨before, hbefore, ?_⟩
  split at hafter
  · next heq => exact .inr ⟨heq.symm, hafter.symm⟩
  · next hne => exact .inl ⟨fun heq => hne heq.symm, hafter.symm⟩

theorem entryStep_of_step {host : Host} {storage : DfsStorage} {event : DfsEvent} {i : Nat}
    {after : DfsEntry} (h : (storage.step host event).entries[i]? = some after) :
    ∃ before, storage.entries[i]? = some before ∧ EntryStep host storage i before event after := by
  cases event with
  | setRam j payload =>
      obtain ⟨before, hbefore, ⟨hne, rfl⟩ | ⟨rfl, rfl⟩⟩ := getElem?_modify_cases h
      · exact ⟨after, hbefore, .untouched _ hne⟩
      · exact ⟨before, hbefore, .setRam payload⟩
  | storeCommand j answer =>
      obtain ⟨before, hbefore, ⟨hne, rfl⟩ | ⟨rfl, rfl⟩⟩ := getElem?_modify_cases h
      · exact ⟨after, hbefore, .untouched _ hne⟩
      · exact ⟨before, hbefore, .stored answer⟩
  | restoreCommand j answer =>
      obtain ⟨before, hbefore, ⟨hne, rfl⟩ | ⟨rfl, rfl⟩⟩ := getElem?_modify_cases h
      · exact ⟨after, hbefore, .untouched _ hne⟩
      · exact ⟨before, hbefore, .restored answer⟩
  | readCommand j answer =>
      obtain ⟨before, hbefore, ⟨hne, rfl⟩ | ⟨rfl, rfl⟩⟩ := getElem?_modify_cases h
      · exact ⟨after, hbefore, .untouched _ hne⟩
      · exact ⟨before, hbefore, .read answer⟩
  | startup initOk answers =>
      unfold DfsStorage.step DfsStorage.init at h
      dsimp only at h
      split at h
      · rw [List.getElem?_map] at h
        obtain ⟨before, hbefore, rfl⟩ := Option.map_eq_some_iff.mp h
        exact ⟨before, hbefore, .bound initOk answers⟩
      · obtain ⟨bound, hbound, hread⟩ := readEntries_getElem? host h
        rw [List.getElem?_map] at hbound
        obtain ⟨before, hbefore, rfl⟩ := Option.map_eq_some_iff.mp hbound
        rcases hread with rfl | rfl
        · exact ⟨before, hbefore, .bound initOk answers⟩
        · exact ⟨before, hbefore, .startupRead initOk answers⟩
  | autoProcess saveAll answers =>
      have h : (storage.autoProcess host saveAll answers).1.entries[i]? = some after := h
      unfold DfsStorage.autoProcess at h
      split at h
      · next hdisabled =>
          exact ⟨after, h, .untouched _ fun henabled => by
            have htrue : storage.enabled = true := henabled
            simp [htrue] at hdisabled⟩
      next henabled =>
      dsimp only at h
      rw [List.getElem?_map, List.getElem?_mapIdx] at h
      obtain ⟨result, hresult, rfl⟩ := Option.map_eq_some_iff.mp h
      obtain ⟨before, hbefore, rfl⟩ := Option.map_eq_some_iff.mp hresult
      exact ⟨before, hbefore, .autoStored saveAll answers (by simpa using henabled)⟩

/-- An automatic pass that reports success had every entry report success. -/
theorem autoStore_of_autoProcess {host : Host} {storage : DfsStorage} {saveAll : Bool}
    {answers : Nat → DfsStoreAnswer} (henabled : storage.enabled = true)
    (hok : (storage.autoProcess host saveAll answers).2 = true) {i : Nat} {entry : DfsEntry}
    (hentry : storage.entries[i]? = some entry) :
    (entry.autoStore host saveAll (answers i)).2 = true := by
  unfold DfsStorage.autoProcess at hok
  rw [if_neg (by simp [henabled])] at hok
  have hall := List.all_eq_true.mp hok
  have hresult : (storage.entries.mapIdx fun j entry => entry.autoStore host saveAll
      (answers j))[i]? = some (entry.autoStore host saveAll (answers i)) := by
    rw [List.getElem?_mapIdx, hentry]
    rfl
  exact hall _ (List.mem_of_getElem? hresult)

end CanopenRtt.Storage
