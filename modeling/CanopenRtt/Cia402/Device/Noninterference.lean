import CanopenRtt.Cia402.Device.Reachable
/-!
# The axes of a manager do not disturb each other

Two runs of the entry points that agree on one axis and on what its surroundings answer to it
agree on that axis after every call, whatever the other axes do.
-/

namespace CanopenRtt.Cia402.Device

open CanopenRtt.Profile CanopenRtt.Support

/-- The axis an event of a SYNC generation belongs to. -/
def SyncEvent.device : SyncEvent → LogicalDevice
  | .snapshot device _ _ => device
  | .publishCommand device _ _ => device
  | .readFeedback device _ => device

/-- The axes are of different logical devices. -/
def Distinct (axes : List Axis) : Prop := (axes.map Axis.logicalDevice).Nodup

/-- The axis of a logical device. -/
def axisOf (device : LogicalDevice) (axes : List Axis) : Option Axis :=
  axes.find? fun axis => axis.logicalDevice = device

theorem axisOf_map {f : Axis → Axis} (hkeep : ∀ axis, (f axis).logicalDevice = axis.logicalDevice)
    (device : LogicalDevice) (axes : List Axis) :
    axisOf device (axes.map f) = (axisOf device axes).map f := by
  unfold axisOf
  rw [List.find?_map]
  congr 2
  funext axis
  exact congrArg (fun found => decide (found = device)) (hkeep axis)

theorem logicalDevice_of_axisOf {device : LogicalDevice} {axes : List Axis} {axis : Axis}
    (h : axisOf device axes = some axis) : axis.logicalDevice = device := by
  unfold axisOf at h
  have hfound := List.find?_some h
  exact of_decide_eq_true hfound

theorem distinct_map {f : Axis → Axis} (hkeep : ∀ axis, (f axis).logicalDevice = axis.logicalDevice)
    {axes : List Axis} (h : Distinct axes) : Distinct (axes.map f) := by
  unfold Distinct
  rw [List.map_map]
  have hsame : Axis.logicalDevice ∘ f = Axis.logicalDevice := funext hkeep
  rw [hsame]
  exact h

/-- What one axis contributes to the events of a loop. -/
def contribution (body : Axis → List SyncEvent) (device : LogicalDevice) (axes : List Axis) :
    List SyncEvent :=
  match axisOf device axes with
  | none => []
  | some axis => body axis

theorem filter_flatMap {body : Axis → List SyncEvent} {device : LogicalDevice} {axes : List Axis}
    (hown : ∀ axis, ∀ event ∈ body axis, event.device = axis.logicalDevice)
    (hdistinct : Distinct axes) :
    (axes.flatMap body).filter (fun event => event.device = device) =
      contribution body device axes := by
  induction axes with
  | nil => rfl
  | cons axis axes ih =>
      obtain ⟨hfirst, hrest⟩ := List.nodup_cons.mp hdistinct
      rw [List.flatMap_cons, List.filter_append, ih hrest]
      unfold contribution axisOf
      rw [List.find?_cons]
      by_cases hdevice : axis.logicalDevice = device
      · have hall : (body axis).filter (fun event => event.device = device) = body axis := by
          apply List.filter_eq_self.mpr
          intro event hevent
          exact decide_eq_true ((hown axis event hevent).trans hdevice)
        have hnone : axes.find? (fun other => other.logicalDevice = device) = none := by
          apply List.find?_eq_none.mpr
          intro other hother hsame
          apply hfirst
          rw [hdevice, ← of_decide_eq_true hsame]
          exact List.mem_map_of_mem hother
        rw [hall, hnone, decide_eq_true hdevice, List.append_nil]
      · have hempty : (body axis).filter (fun event => event.device = device) = [] := by
          apply List.filter_eq_nil_iff.mpr
          intro event hevent hsame
          exact hdevice ((hown axis event hevent).symm.trans (of_decide_eq_true hsame))
        rw [hempty, decide_eq_false hdevice, List.nil_append]

/-! ## The entry points, axis by axis -/

/-- The events of one axis in one SYNC generation. -/
def syncTraffic (inputs : SyncInputs) (sequence : BitVec 32) (axis : Axis) : List SyncEvent :=
  let snapshot := syncSnapshot inputs sequence axis
  let publish := syncPublish inputs snapshot.1
  snapshot.2 ++ publish.2 ++ (syncFeedback inputs sequence publish.1).2

theorem syncSnapshot_own (inputs : SyncInputs) (sequence : BitVec 32) (axis : Axis) :
    ∀ event ∈ (syncSnapshot inputs sequence axis).2, event.device = axis.logicalDevice := by
  unfold syncSnapshot
  dsimp only
  split
  · exact fun _ hevent => absurd hevent List.not_mem_nil
  · exact List.forall_mem_singleton.mpr rfl

theorem syncPublish_own (inputs : SyncInputs) (axis : Axis) :
    ∀ event ∈ (syncPublish inputs axis).2, event.device = axis.logicalDevice := by
  unfold syncPublish
  dsimp only
  split
  · exact fun _ hevent => absurd hevent List.not_mem_nil
  · exact List.forall_mem_singleton.mpr rfl

theorem syncFeedback_own (inputs : SyncInputs) (sequence : BitVec 32) (axis : Axis) :
    ∀ event ∈ (syncFeedback inputs sequence axis).2, event.device = axis.logicalDevice := by
  unfold syncFeedback
  dsimp only
  split
  · exact fun _ hevent => absurd hevent List.not_mem_nil
  · split
    · exact List.forall_mem_singleton.mpr rfl
    · exact List.forall_mem_singleton.mpr rfl

theorem contribution_map {f : Axis → Axis}
    (hkeep : ∀ axis, (f axis).logicalDevice = axis.logicalDevice) (body : Axis → List SyncEvent)
    (device : LogicalDevice) (axes : List Axis) :
    contribution body device (axes.map f) =
      contribution (fun axis => body (f axis)) device axes := by
  unfold contribution
  rw [axisOf_map hkeep]
  cases axisOf device axes <;> rfl

/-- The events of one axis in the traffic of a SYNC generation. -/
theorem filter_processSyncLocked (inputs : LogicalDevice → SyncInputs) {manager : Manager}
    (hbound : manager.odBound = true) (hdistinct : Distinct manager.axes)
    (device : LogicalDevice) :
    (processSyncLocked inputs manager).2.filter (fun event => event.device = device) =
      contribution (syncTraffic (inputs device) (manager.syncSequence + 1)) device
        manager.axes := by
  have hsnapshot : ∀ axis, (syncSnapshot (inputs axis.logicalDevice) (manager.syncSequence + 1)
      axis).1.logicalDevice = axis.logicalDevice :=
    fun axis => (syncSnapshot_only _ _ axis).logicalDevice
  have hpublish : ∀ axis, (syncPublish (inputs axis.logicalDevice) axis).1.logicalDevice =
      axis.logicalDevice := fun axis => (syncPublish_only _ axis).logicalDevice
  have hsecond := distinct_map hsnapshot hdistinct
  have hthird := distinct_map hpublish hsecond
  simp only [processSyncLocked, hbound, Bool.not_true, Bool.false_eq_true, if_false, syncPhase]
  rw [List.filter_append, List.filter_append,
    filter_flatMap (fun axis => syncSnapshot_own _ _ axis) hdistinct,
    filter_flatMap (fun axis => syncPublish_own _ axis) hsecond,
    filter_flatMap (fun axis => syncFeedback_own _ _ axis) hthird,
    contribution_map hpublish, contribution_map hsnapshot, contribution_map hsnapshot]
  unfold contribution
  cases haxis : axisOf device manager.axes with
  | none => rfl
  | some axis =>
      have hdevice := logicalDevice_of_axisOf haxis
      have hfirst := hsnapshot axis
      have hnext := hpublish (syncSnapshot (inputs axis.logicalDevice) (manager.syncSequence + 1)
        axis).1
      rw [hdevice] at hfirst hnext
      simp only [hfirst] at hnext
      simp only [hdevice, hfirst, hnext]
      rfl

/-! ## Runs with their surroundings -/

/-- A manager with the SYNC traffic so far. -/
structure Recorded where
  manager : Manager
  traffic : List SyncEvent

namespace Recorded

/-- What is seen of one axis: its state with the callbacks it has invoked, its objects, and its
SYNC traffic. -/
def view (r : Recorded) (device : LogicalDevice) : Option Axis × List SyncEvent :=
  (axisOf device r.manager.axes, r.traffic.filter fun event => event.device = device)

/-- A call of an entry point. The surroundings answer each axis as they like, with everything
that has happened in view. -/
inductive Call where
  | process (surroundings : Recorded → LogicalDevice → PassInputs)
  | processSync (surroundings : Recorded → LogicalDevice → SyncInputs)
  | communicationReset

def call (r : Recorded) : Call → Recorded
  | .process surroundings => { r with manager := Device.process (surroundings r) r.manager }
  | .processSync surroundings =>
      let (manager, events) := processSyncLocked (surroundings r) r.manager
      { manager, traffic := r.traffic ++ events }
  | .communicationReset => { r with manager := onCommunicationReset r.manager }

/-- Two calls of the same entry point that answer one axis alike, from what is seen of it. -/
inductive Call.Alike (device : LogicalDevice) : Call → Call → Prop where
  | process {first second : Recorded → LogicalDevice → PassInputs}
      (own : Option Axis × List SyncEvent → PassInputs)
      (hfirst : ∀ r, first r device = own (r.view device))
      (hsecond : ∀ r, second r device = own (r.view device)) :
      Alike device (.process first) (.process second)
  | processSync {first second : Recorded → LogicalDevice → SyncInputs}
      (own : Option Axis × List SyncEvent → SyncInputs)
      (hfirst : ∀ r, first r device = own (r.view device))
      (hsecond : ∀ r, second r device = own (r.view device)) :
      Alike device (.processSync first) (.processSync second)
  | communicationReset : Alike device .communicationReset .communicationReset

/-- Two recorded managers that agree on one axis. -/
structure Agree (device : LogicalDevice) (first second : Recorded) : Prop where
  view : first.view device = second.view device
  syncSequence : first.manager.syncSequence = second.manager.syncSequence
  odBound : first.manager.odBound = second.manager.odBound
  firstDistinct : Distinct first.manager.axes
  secondDistinct : Distinct second.manager.axes

theorem Agree.axis {device : LogicalDevice} {first second : Recorded}
    (h : Agree device first second) :
    axisOf device first.manager.axes = axisOf device second.manager.axes :=
  congrArg Prod.fst h.view

theorem Agree.traffic {device : LogicalDevice} {first second : Recorded}
    (h : Agree device first second) :
    first.traffic.filter (fun event => event.device = device) =
      second.traffic.filter fun event => event.device = device :=
  congrArg Prod.snd h.view

theorem Agree.process {device : LogicalDevice} {first second : Recorded}
    (h : Agree device first second) {inputs inputs' : LogicalDevice → PassInputs}
    (halike : inputs device = inputs' device) :
    Agree device { first with manager := Device.process inputs first.manager }
      { second with manager := Device.process inputs' second.manager } := by
  have hkeep : ∀ (inputs : LogicalDevice → PassInputs) axis,
      (processAxis (inputs axis.logicalDevice) axis).logicalDevice = axis.logicalDevice :=
    fun inputs axis => logicalDevice_processAxis _ axis
  have hbound := h.odBound
  unfold Device.process
  cases hfirst : first.manager.odBound with
  | false =>
      rw [hfirst] at hbound
      rw [← hbound]
      exact h
  | true =>
      rw [hfirst] at hbound
      rw [← hbound]
      refine ⟨Prod.ext ?_ h.traffic, h.syncSequence, rfl, distinct_map (hkeep _) h.firstDistinct,
        distinct_map (hkeep _) h.secondDistinct⟩
      show axisOf device (first.manager.axes.map _) = axisOf device (second.manager.axes.map _)
      rw [axisOf_map (hkeep _), axisOf_map (hkeep _), ← h.axis]
      cases haxis : axisOf device first.manager.axes with
      | none => rfl
      | some axis => simp only [Option.map_some, logicalDevice_of_axisOf haxis, halike]

theorem Agree.processSync {device : LogicalDevice} {first second : Recorded}
    (h : Agree device first second) {inputs inputs' : LogicalDevice → SyncInputs}
    (halike : inputs device = inputs' device) :
    Agree device
      ⟨(processSyncLocked inputs first.manager).1,
        first.traffic ++ (processSyncLocked inputs first.manager).2⟩
      ⟨(processSyncLocked inputs' second.manager).1,
        second.traffic ++ (processSyncLocked inputs' second.manager).2⟩ := by
  have hkeep : ∀ (inputs : LogicalDevice → SyncInputs) sequence axis,
      (syncAxis (inputs axis.logicalDevice) sequence axis).logicalDevice = axis.logicalDevice :=
    fun inputs sequence axis => (syncAxis_only _ sequence axis).logicalDevice
  cases hfirst : first.manager.odBound with
  | false =>
      have hsecond : second.manager.odBound = false := h.odBound.symm.trans hfirst
      have hidle : processSyncLocked inputs first.manager = (first.manager, []) := by
        unfold processSyncLocked
        rw [hfirst]
        rfl
      have hidle' : processSyncLocked inputs' second.manager = (second.manager, []) := by
        unfold processSyncLocked
        rw [hsecond]
        rfl
      rw [hidle, hidle', List.append_nil, List.append_nil]
      exact h
  | true =>
      have hsecond : second.manager.odBound = true := h.odBound.symm.trans hfirst
      have hsequence : ∀ (inputs : LogicalDevice → SyncInputs) (manager : Manager),
          manager.odBound = true →
          (processSyncLocked inputs manager).1.syncSequence = manager.syncSequence + 1 ∧
            (processSyncLocked inputs manager).1.odBound = true := by
        intro inputs manager hbound
        unfold processSyncLocked
        rw [if_neg (by rw [hbound]; decide)]
        exact ⟨rfl, hbound⟩
      refine ⟨Prod.ext ?_ ?_, ?_, ?_, ?_, ?_⟩
      · show axisOf device (processSyncLocked inputs first.manager).1.axes =
          axisOf device (processSyncLocked inputs' second.manager).1.axes
        rw [processSyncLocked_axes _ _ hfirst, processSyncLocked_axes _ _ hsecond,
          axisOf_map (hkeep _ _), axisOf_map (hkeep _ _), ← h.axis, h.syncSequence]
        cases haxis : axisOf device first.manager.axes with
        | none => rfl
        | some axis => simp only [Option.map_some, logicalDevice_of_axisOf haxis, halike]
      · show (first.traffic ++ _).filter _ = (second.traffic ++ _).filter _
        rw [List.filter_append, List.filter_append,
          filter_processSyncLocked inputs hfirst h.firstDistinct device,
          filter_processSyncLocked inputs' hsecond h.secondDistinct device, halike,
          h.syncSequence]
        unfold contribution
        rw [h.axis]
        exact congrArg (· ++ _) h.traffic
      · rw [(hsequence inputs _ hfirst).1, (hsequence inputs' _ hsecond).1, h.syncSequence]
      · rw [(hsequence inputs _ hfirst).2, (hsequence inputs' _ hsecond).2]
      · rw [processSyncLocked_axes _ _ hfirst]
        exact distinct_map (hkeep _ _) h.firstDistinct
      · rw [processSyncLocked_axes _ _ hsecond]
        exact distinct_map (hkeep _ _) h.secondDistinct

theorem Agree.communicationReset {device : LogicalDevice} {first second : Recorded}
    (h : Agree device first second) :
    Agree device { first with manager := onCommunicationReset first.manager }
      { second with manager := onCommunicationReset second.manager } := by
  have hkeep : ∀ axis, (syncReset axis).logicalDevice = axis.logicalDevice := fun _ => rfl
  refine ⟨Prod.ext ?_ h.traffic, h.syncSequence, h.odBound,
    distinct_map hkeep h.firstDistinct, distinct_map hkeep h.secondDistinct⟩
  show axisOf device (first.manager.axes.map syncReset) =
    axisOf device (second.manager.axes.map syncReset)
  rw [axisOf_map hkeep, axisOf_map hkeep, h.axis]

/-- One call on both sides. -/
theorem Agree.call {device : LogicalDevice} {first second : Recorded}
    (h : Agree device first second) {c c' : Call} (halike : c.Alike device c') :
    Agree device (first.call c) (second.call c') := by
  cases halike with
  | process own hfirst hsecond =>
      apply h.process
      rw [hfirst, hsecond, h.view]
  | processSync own hfirst hsecond =>
      apply h.processSync
      rw [hfirst, hsecond, h.view]
  | communicationReset => exact h.communicationReset

end Recorded

/-- Two runs of a manager that agree on one axis at the start and answer it alike agree on it
after every call: on its state, the callbacks it has invoked and its objects, and on its SYNC
traffic with the sequence numbers. -/
theorem agree_of_alike {first second : Manager} (hfirst : Reachable first)
    (hsecond : Reachable second) {device : LogicalDevice}
    (haxis : axisOf device first.axes = axisOf device second.axes)
    (hsequence : first.syncSequence = second.syncSequence)
    (hbound : first.odBound = second.odBound) {calls calls' : List Recorded.Call}
    (halike : List.Forall₂ (Recorded.Call.Alike device) calls calls') (n : Nat) :
    Recorded.Agree device (run Recorded.call ⟨first, []⟩ (calls.take n))
      (run Recorded.call ⟨second, []⟩ (calls'.take n)) := by
  have hstart : Recorded.Agree device ⟨first, []⟩ ⟨second, []⟩ :=
    ⟨Prod.ext haxis rfl, hsequence, hbound, hfirst.nodup, hsecond.nodup⟩
  have hcall : ∀ r r' c c', Recorded.Agree device r r' → c.Alike device c' →
      Recorded.Agree device (r.call c) (r'.call c') := fun _ _ _ _ h halike => h.call halike
  exact run_related hcall hstart (List.forall₂_take n halike)

/-! ## A two-axis manager -/

/-- Initialization of a manager with two position-controlled axes. -/
def pairInit : Option Manager × InitDiag :=
  managerInit (baseDictionary 0 ++ baseDictionary 1) (fun _ => {})
    [cyclicConfig, { cyclicConfig with logicalDevice := 1 }] (fun _ => {}) fun _ => (true, true)

def pairManager : Manager := pairInit.1.get (by decide)

theorem reachable_pairManager : Reachable pairManager := by
  have hinit : pairInit = (some pairManager, pairInit.2) := by
    rw [pairManager, Option.some_get]
  exact .init hinit

/-- A pass that asks one axis to shut down, and fails every read of the other one in the second
run. -/
theorem agree_pair :
    Recorded.Agree 0
      (run Recorded.call ⟨pairManager, []⟩
        [.process fun _ _ => { controlword := fun _ => some 0x0006 },
          .processSync fun _ _ => {}])
      (run Recorded.call ⟨pairManager, []⟩
        [.process fun _ device =>
            if device = 0 then { controlword := fun _ => some 0x0006 }
            else { controlword := fun _ => none },
          .processSync fun _ _ => {}]) :=
  agree_of_alike reachable_pairManager reachable_pairManager rfl rfl rfl
    (.cons (.process (fun _ => { controlword := fun _ => some 0x0006 }) (fun _ => rfl) fun _ => rfl)
      (.cons (.processSync (fun _ => {}) (fun _ => rfl) fun _ => rfl) .nil)) 2

end CanopenRtt.Cia402.Device
