import CanopenRtt.Cia402.Device.Axis
/-!
# Diagnostic latch and deferred events

`CO_402_device_diag.c`. Every configured axis has a complete DiagIF
(`validateConfigs` insists on it), so `CO_402_device_diag_ifValid` is not
repeated here.
-/

namespace CanopenRtt.Cia402.Device

def faultInfoValid (fault : FaultInfo) : Bool :=
  fault.pdsErrorCode != 0 && fault.emcyCode != 0

def contractFailure (axis : Axis) : Axis :=
  { axis with diagnosis := { axis.diagnosis with contractFailed := true } }

/-- First manufacturer-specific error-status bit reserved for local axes. -/
def diagErrorBitBase : BitVec 8 := 0x40

def diagErrorBit (logicalDevice : LogicalDevice) : BitVec 8 :=
  diagErrorBitBase + BitVec.ofNat 8 logicalDevice

/-- The event queued for a fault of this axis. -/
def diagEvent (type : DiagEventType) (logicalDevice : LogicalDevice) (fault : FaultInfo) :
    DiagEvent where
  type := type
  logicalDevice := BitVec.ofNat 8 logicalDevice
  errorBit := diagErrorBit logicalDevice
  fault := fault

def pollProductFault (inputs : PassInputs) (axis : Axis) : Axis × Option FaultInfo :=
  if axis.diagnosis.active || axis.diagnosis.contractFailed then (axis, none)
  else
    (axis.record (.getFaultInfo .product (inputs.getFaultInfo .product)),
      inputs.getFaultInfo .product)

/-- The tail of `CO_402_device_diag_latch`, once a mapping has been selected. -/
def latchSelected (inputs : PassInputs) (origin : FaultOrigin) (selectedFault : FaultInfo)
    (axis : Axis) : Axis × Bool :=
  if !faultInfoValid selectedFault then (contractFailure axis, false)
  else if (axis.od .errorCode).isNone || !inputs.latchErrorCode origin then
    (contractFailure axis, false)
  else
    let event := diagEvent .report axis.logicalDevice selectedFault
    let axis := axis.record (.latched event)
    ({ axis with
        image := { axis.image with errorCode := selectedFault.pdsErrorCode }
        diagnosis :=
          { axis.diagnosis with
            active := true
            origin := origin
            fault := selectedFault
            pending := true
            event := event } }, true)

def diagLatch (inputs : PassInputs) (origin : FaultOrigin) (fault : Option FaultInfo)
    (axis : Axis) : Axis × Bool :=
  if axis.diagnosis.active then (axis, true)
  else
    match fault with
    | some selectedFault => latchSelected inputs origin selectedFault axis
    | none =>
        let axis := axis.record (.getFaultInfo origin (inputs.getFaultInfo origin))
        match inputs.getFaultInfo origin with
        | none => (contractFailure axis, false)
        | some mappedFault => latchSelected inputs origin mappedFault axis

/-- The tail of `CO_402_device_diag_clear`, for an active fault. -/
def queueReset (axis : Axis) : Axis :=
  let event := diagEvent .reset axis.logicalDevice axis.diagnosis.fault
  let axis := axis.record (.cleared event)
  { axis with
    diagnosis :=
      { axis.diagnosis with
        pending := true
        event := event
        active := false
        origin := .product
        fault := {} } }

def diagClear (inputs : PassInputs) (axis : Axis) : Axis × Bool :=
  if axis.diagnosis.contractFailed then (axis, false)
  else if (axis.od .errorCode).isNone || !inputs.clearErrorCode then
    (contractFailure axis, false)
  else if !axis.diagnosis.active then
    ({ axis with image := { axis.image with errorCode := 0 } }, true)
  else (queueReset { axis with image := { axis.image with errorCode := 0 } }, true)

/-- Restore 0x603F after binding; `written` is the outcome of the write. -/
def restoreAxis (written replayActive : Bool) (axis : Axis) : Axis × Bool :=
  if (axis.od .errorCode).isNone then (axis, false)
  else if !written then (contractFailure axis, false)
  else
    let pdsErrorCode := if axis.diagnosis.active then axis.diagnosis.fault.pdsErrorCode else 0
    let axis := { axis with image := { axis.image with errorCode := pdsErrorCode } }
    if replayActive && axis.diagnosis.active then
      ({ axis with
          diagnosis :=
            { axis.diagnosis with
              pending := true
              event := diagEvent .report axis.logicalDevice axis.diagnosis.fault } }, true)
    else (axis, true)

def takePendingEvent (axis : Axis) : Axis × Option DiagEvent :=
  if !axis.diagnosis.pending then (axis, none)
  else
    ({ axis with diagnosis := { axis.diagnosis with pending := false, event := {} } },
      some axis.diagnosis.event)

end CanopenRtt.Cia402.Device
