import CanopenRtt.Cia402.Device.Sync
import CanopenRtt.Cia402.Device.Binding
import CanopenRtt.Support.Run
/-!
# The multi-axis Device manager

`CO_402_device_managerInit`, `CO_402_device_bindOD`, `CO_402_device_process`,
`CO_402_device_processSyncLocked` and `CO_402_device_onCommunicationReset`.
Answers of the surroundings are given per logical device; a manager never holds
two axes of one logical device.
-/

namespace CanopenRtt.Cia402.Device

open CanopenRtt.Profile CanopenRtt.Support

/-- `CO_402_device_axis_config_t`; a NULL interface is `none`. -/
structure AxisConfig where
  logicalDevice : BitVec 8
  drive : Option DriveIf
  sync : Option SyncIf
  /-- The DiagIF, reduced to whether its `getFaultInfo` is non-NULL. -/
  diag : Option Bool

/-- A configuration that passed `validateConfigs`. -/
structure ValidAxisConfig where
  logicalDevice : LogicalDevice
  drive : ValidDriveIf
  sync : Option SyncIf

structure Manager where
  od : ObjectDictionary
  axes : List Axis
  odBound : Bool
  syncSequence : BitVec 32

def driveInterfaceValid (drive : DriveIf) : Bool :=
  drive.operation .shutdown && drive.operation .switchOn && drive.operation .enableOperation &&
    drive.operation .disableVoltage && drive.operation .disableOperation &&
    drive.operation .quickStop && drive.operation .faultReaction && drive.operation .faultReset

theorem operation_present_of_valid {drive : DriveIf} (h : driveInterfaceValid drive = true)
    (op : DriveOperation) : drive.operation op = true := by
  simp only [driveInterfaceValid, Bool.and_eq_true] at h
  cases op <;> simp [h]

def diagIfValid (diag : Option Bool) : Bool := diag.getD false

def setDiag (error : InitError) (logicalDevice : BitVec 8) : InitDiag where
  error := error
  logicalDevice := logicalDevice

def supportedModesForAxis (config : ValidAxisConfig) : BitVec 32 :=
  if !config.drive.modeEnter || !config.drive.modeExit then 0
  else
    (if config.drive.profilePosition then supportedModePP else 0) |||
      (if config.drive.profileVelocity then supportedModePV else 0) |||
      (if config.drive.homing then supportedModeHM else 0) |||
      (match config.sync with
        | some sync =>
            if sync.publishCommand && sync.readFeedback then
              (sync.supportedModes &&& supportedModeCSP) |||
                (sync.supportedModes &&& supportedModeCSV) |||
                (sync.supportedModes &&& supportedModeCST)
            else 0
        | none => 0)

/-- The checks of `validateConfigs` on one configuration, against the later ones. -/
def validateConfig (config : AxisConfig) (later : List AxisConfig) :
    Except InitDiag ValidAxisConfig :=
  if hld : config.logicalDevice.toNat < logicalDeviceCountMax then
    match config.drive with
    | none => .error (setDiag .badAxis config.logicalDevice)
    | some drive =>
        if hdrive : driveInterfaceValid drive = true then
          if !diagIfValid config.diag then .error (setDiag .diagIf config.logicalDevice)
          else if later.any fun other => config.logicalDevice == other.logicalDevice then
            .error (setDiag .duplicateAxis config.logicalDevice)
          else
            .ok
              { logicalDevice := ⟨config.logicalDevice.toNat, hld⟩
                drive :=
                  { toDriveIf := drive
                    operation_present := operation_present_of_valid hdrive }
                sync := config.sync }
        else .error (setDiag .badAxis config.logicalDevice)
  else .error (setDiag .badAxis config.logicalDevice)

def validateConfigList : List AxisConfig → Except InitDiag (List ValidAxisConfig)
  | [] => .ok []
  | config :: rest => do
      let valid ← validateConfig config rest
      let validRest ← validateConfigList rest
      return valid :: validRest

def validateConfigs (configs : List AxisConfig) : Except InitDiag (List ValidAxisConfig) :=
  if configs.length = 0 || configs.length > logicalDeviceCountMax then
    .error (setDiag .configMismatch 0)
  else validateConfigList configs

/-- The runtime record built for one configured logical device. -/
def axisInit (config : ValidAxisConfig) (image : ODImage) : Axis where
  logicalDevice := config.logicalDevice
  state := .notReadyToSwitchOn
  mode := .none
  requestedModeRaw := Mode.none.raw
  requestedModeRecognized := true
  od := fun _ => none
  drive := config.drive
  faultResetBitPrevious := false
  faultResetInProgress := false
  pendingExitMode := .none
  pendingEnterMode := .none
  supportedModes := supportedModesForAxis config
  pp := {}
  pv := {}
  hm := {}
  sync := config.sync
  syncRuntime := {}
  pdsTransitionOperation := none
  pdsTransitionTargetState := .unknown
  diagnosis := {}
  image := image
  trace := []

/-- A fresh axis whose entries are cached as `od`. -/
def boundAxis (config : ValidAxisConfig) (image : ODImage) (od : ODCache) : Axis :=
  { axisInit config image with od := od }

/-- `CO_402_device_bindOD`: validate every axis, publish, then install extensions. -/
def bindOD (writes : LogicalDevice → BindWrites) (manager : Manager) : Manager × InitDiag :=
  if manager.axes = [] then (manager, setODDiag .configMismatch 0 0 0)
  else
    match forEachAxis (validateAxis manager.od) manager.axes with
    | (axes, some diag) => ({ manager with odBound := false, axes := axes }, diag)
    | (axes, none) =>
        match forEachAxis (publishAxis writes) axes with
        | (axes, some diag) => ({ manager with odBound := false, axes := axes }, diag)
        | (axes, none) =>
            ({ manager with
                odBound := true
                axes := axes
                od := axes.foldl installForwardingExtensions manager.od }, {})

/-- Publish the initial Statusword and 0x6061 of one axis. -/
def publishInitial (written : LogicalDevice → Bool × Bool) (axis : Axis) : Axis :=
  let image := axis.image
  let image :=
    if (written axis.logicalDevice).1 then
      { image with statusword := statuswordForState .notReadyToSwitchOn }
    else image
  let image :=
    if (written axis.logicalDevice).2 then { image with modesOfOperationDisplay := Mode.none.raw }
    else image
  { axis with image := image }

/-- `CO_402_device_managerInit`. No manager results when the configuration is
rejected; a binding failure leaves the unbound manager in place. -/
def managerInit (od : ObjectDictionary) (generated : LogicalDevice → ODImage)
    (configs : List AxisConfig) (writes : LogicalDevice → BindWrites)
    (written : LogicalDevice → Bool × Bool) : Option Manager × InitDiag :=
  match validateConfigs configs with
  | .error diag => (none, diag)
  | .ok valid =>
      let manager : Manager :=
        { od := od
          axes := valid.map fun config => axisInit config (generated config.logicalDevice)
          odBound := false
          syncSequence := 0 }
      match bindOD writes manager with
      | (manager, diag) =>
          if diag.error = .ok then
            (some { manager with axes := manager.axes.map (publishInitial written) }, diag)
          else (some manager, diag)

/-- `CO_402_device_process`. -/
def process (inputs : LogicalDevice → PassInputs) (manager : Manager) : Manager :=
  if !manager.odBound then manager
  else
    { manager with
      axes := manager.axes.map fun axis => processAxis (inputs axis.logicalDevice) axis }

/-- One loop over the axes, collecting what its body does. -/
def syncPhase (body : Axis → Axis × List SyncEvent) (axes : List Axis) :
    List Axis × List SyncEvent :=
  (axes.map fun axis => (body axis).1, axes.flatMap fun axis => (body axis).2)

/-- `CO_402_device_processSyncLocked`, with the SyncIF traffic it causes. -/
def processSyncLocked (inputs : LogicalDevice → SyncInputs) (manager : Manager) :
    Manager × List SyncEvent :=
  if !manager.odBound then (manager, [])
  else
    let syncSequence := manager.syncSequence + 1
    let (axes, snapshots) :=
      syncPhase (fun axis => syncSnapshot (inputs axis.logicalDevice) syncSequence axis)
        manager.axes
    let (axes, publications) :=
      syncPhase (fun axis => syncPublish (inputs axis.logicalDevice) axis) axes
    let (axes, feedbacks) :=
      syncPhase (fun axis => syncFeedback (inputs axis.logicalDevice) syncSequence axis) axes
    let axes := axes.map fun axis => syncImage (inputs axis.logicalDevice) axis
    ({ manager with syncSequence := syncSequence, axes := axes },
      snapshots ++ publications ++ feedbacks)

def onCommunicationReset (manager : Manager) : Manager :=
  { manager with axes := manager.axes.map syncReset }

/-- The entry points of the Device core after initialization. A bind names the
dictionary it runs on, as the adapter replaces `manager->od` before it. -/
inductive Step where
  | process (inputs : LogicalDevice → PassInputs)
  | processSync (inputs : LogicalDevice → SyncInputs)
  | bindOD (od : ObjectDictionary) (writes : LogicalDevice → BindWrites)
  | communicationReset

def Manager.step (manager : Manager) : Step → Manager
  | .process inputs => Device.process inputs manager
  | .processSync inputs => (processSyncLocked inputs manager).1
  | .bindOD od writes => (Device.bindOD writes { manager with od := od }).1
  | .communicationReset => onCommunicationReset manager

/-- The states reachable from `CO_402_device_managerInit`. -/
inductive Reachable : Manager → Prop where
  | init {od : ObjectDictionary} {generated : LogicalDevice → ODImage}
      {configs : List AxisConfig} {writes : LogicalDevice → BindWrites}
      {written : LogicalDevice → Bool × Bool} {manager : Manager} {diag : InitDiag}
      (h : managerInit od generated configs writes written = (some manager, diag)) :
      Reachable manager
  | step {manager : Manager} (h : Reachable manager) (step : Step) :
      Reachable (manager.step step)

theorem Reachable.run {manager : Manager} (h : Reachable manager) (steps : List Step) :
    Reachable (run Manager.step manager steps) :=
  run_invariant (fun _ step hreachable => hreachable.step step) h steps

/-! ## A one-axis manager -/

/-- A DriveIF with the PDS callbacks, the mode callbacks and no profile mode. -/
def cyclicDrive : ValidDriveIf where
  operation := fun _ => true
  getPosition := true
  getVelocity := true
  getTorque := false
  modeEnter := true
  modeExit := true
  profilePosition := false
  profileVelocity := false
  homing := false
  operation_present := fun _ => rfl

/-- The configuration of a position-controlled axis. -/
def cyclicConfig : AxisConfig where
  logicalDevice := 0
  drive := some cyclicDrive.toDriveIf
  sync := some ⟨supportedModeCSP ||| supportedModeCSV, true, true⟩
  diag := some true

/-- The configuration that the validation makes of it. -/
def cyclicValidConfig : ValidAxisConfig := ⟨0, cyclicDrive, cyclicConfig.sync⟩

/-- The objects of the axis. -/
def cyclicDictionary : ObjectDictionary := baseDictionary 0

/-- Initialization of a manager with this one axis. -/
def cyclicInit : Option Manager × InitDiag :=
  managerInit cyclicDictionary (fun _ => {}) [cyclicConfig] (fun _ => {}) fun _ => (true, true)

example : cyclicInit.2.error = .ok := by decide

def cyclicManager : Manager := cyclicInit.1.get (by decide)

theorem cyclicInit_eq : cyclicInit = (some cyclicManager, cyclicInit.2) := by
  rw [cyclicManager, Option.some_get]

theorem reachable_cyclicManager : Reachable cyclicManager := .init cyclicInit_eq

end CanopenRtt.Cia402.Device
