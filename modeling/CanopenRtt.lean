import CanopenRtt.Support.Run
import CanopenRtt.Support.Outputs
import CanopenRtt.Profile.Transport
import CanopenRtt.Cia402.Device.Manager
import CanopenRtt.Cia402.Device.Moves
import CanopenRtt.Cia402.Device.PassMoves
import CanopenRtt.Cia402.Device.Frame
import CanopenRtt.Cia402.Device.Ownership
import CanopenRtt.Cia402.Device.DiagContract
import CanopenRtt.Cia402.Device.FaultLatch
import CanopenRtt.Cia402.Device.Legality
import CanopenRtt.Cia402.Device.Events
import CanopenRtt.Cia402.Device.Preemption
import CanopenRtt.Cia402.Device.SyncCoherence
import CanopenRtt.Cia402.Device.DriveFollows
import CanopenRtt.Cia402.Controller.Core
import CanopenRtt.Cia402.Controller.Pulse
import CanopenRtt.Cia402.Controller.Client
import CanopenRtt.Cia402.Controller.ClientMoves
import CanopenRtt.Cia402.Controller.WriteDiscipline
import CanopenRtt.Support.Conveyor
import CanopenRtt.Cia402.Device.Undisturbed
import CanopenRtt.Support.Trajectory
import CanopenRtt.Cia402.Path
import CanopenRtt.Cia402.ClosedLoop
import CanopenRtt.Cia402.Convergence
import CanopenRtt.Cia402.Remote
import CanopenRtt.Cia402.RemoteLoop
import CanopenRtt.Cia402.RemoteRuns
import CanopenRtt.Cia402.Controller.TransitionTimer
import CanopenRtt.Cia402.Controller.TimeConservation
import CanopenRtt.Cia402.Controller.UpdateHistory
import CanopenRtt.Support.History
import CanopenRtt.Support.ByteMedium
import CanopenRtt.Storage.Auxiliary
import CanopenRtt.Storage.LssPersist
import CanopenRtt.Storage.LssCrashSafety
import CanopenRtt.Support.SerialTime
import CanopenRtt.App.LssBitrate
import CanopenRtt.App.BitrateActivation
import CanopenRtt.Support.HostOrder
import CanopenRtt.Storage.Host
import CanopenRtt.Storage.DfsEntry
import CanopenRtt.Storage.DfsStorage
import CanopenRtt.Storage.DfsFreshness
import CanopenRtt.Support.Threads
import CanopenRtt.Lifecycle.WorkerWake
import CanopenRtt.Profile.MasterAdmission
import CanopenRtt.Driver.RxShutdown
import CanopenRtt.Support.Bitmap
import CanopenRtt.Cia401.Dictionary
import CanopenRtt.Cia401.Device
import CanopenRtt.Cia401.Binding
import CanopenRtt.Cia401.Hooks
import CanopenRtt.Cia401.Process
import CanopenRtt.Cia401.PassFrame
import CanopenRtt.Cia401.Network
import CanopenRtt.Cia401.Calls
import CanopenRtt.Cia401.Soundness
import CanopenRtt.Cia401.OutputGate
import CanopenRtt.Cia401.InputLoops
import CanopenRtt.Cia401.InputEvents
import CanopenRtt.Cia401.EventDelivery
import CanopenRtt.Cia401.OutputWrites
import CanopenRtt.Cia401.DeviceRtt
import CanopenRtt.Cia401.FailSafeObligation
import CanopenRtt.Cia401.AnalogObjects
import CanopenRtt.Cia401.AnalogEvents
import CanopenRtt.Cia401.TpdoDecoding
import CanopenRtt.Cia401.SlotOwnership
import CanopenRtt.Cia401.BindContract
import CanopenRtt.Cia401.BoundAccess
import CanopenRtt.Cia401.BindLaw
import CanopenRtt.Cia401.BoundRuns
import CanopenRtt.Cia401.AnalogLaw
import CanopenRtt.Cia401.AnalogCommunication
import CanopenRtt.Support.SlotArray
import CanopenRtt.Lifecycle.Registry
import CanopenRtt.Lifecycle.RegistryLoops
import CanopenRtt.Lifecycle.AutoAttach
import CanopenRtt.Lifecycle.Ownership
import CanopenRtt.Support.TableLoop
import CanopenRtt.Support.MaskedWord
import CanopenRtt.Driver.IngressFilter
import CanopenRtt.Driver.IngressCompile
import CanopenRtt.Driver.FilterRefresh
import CanopenRtt.Driver.FilterRuns
import CanopenRtt.Profile.MasterTransport
import CanopenRtt.Profile.MasterRuns
import CanopenRtt.Profile.MasterCompletion
import CanopenRtt.Storage.DfsFile
import CanopenRtt.Storage.At24c
import CanopenRtt.Storage.At24cLayout
import CanopenRtt.Storage.EepromEntry
import CanopenRtt.Storage.EepromAuto
import CanopenRtt.Storage.EepromRuns
import CanopenRtt.Support.WrappingClock
import CanopenRtt.App.ElapsedTime
import CanopenRtt.Cia402.Device.Noninterference
import CanopenRtt.Cia402.Device.ModeStage
import CanopenRtt.Cia402.Device.Homing
import CanopenRtt.Cia402.Device.SupportedModes
import CanopenRtt.Cia402.Device.SetPoint
import CanopenRtt.Cia402.Device.BindingExact
import CanopenRtt.Cia402.Device.BoundAccess
import CanopenRtt.Support.Monitor
import CanopenRtt.Lifecycle.Application
import CanopenRtt.Lifecycle.ApplicationEvents
import CanopenRtt.Lifecycle.Startup
import CanopenRtt.Lifecycle.ResourceMonitor
import CanopenRtt.Lifecycle.StartupMonitor
import CanopenRtt.Lifecycle.StartupSteps
import CanopenRtt.Lifecycle.StartupStages
import CanopenRtt.Lifecycle.StartupCleanup
import CanopenRtt.Lifecycle.FailedInit
import CanopenRtt.Lifecycle.Restart
import CanopenRtt.Lifecycle.ApplicationRuns
import CanopenRtt.Support.HiddenMoves
import CanopenRtt.Lifecycle.GenerationWord
import CanopenRtt.Lifecycle.Generations
import CanopenRtt.Lifecycle.GenerationSteps
import CanopenRtt.Lifecycle.GenerationStages
import CanopenRtt.Lifecycle.GenerationRuns
import CanopenRtt.Lifecycle.GenerationRefinement
import CanopenRtt.Driver.TxPath
import CanopenRtt.Driver.TxRuns
import CanopenRtt.Support.StackDiscipline
import CanopenRtt.Support.BindingTable
import CanopenRtt.Driver.CanModule
import CanopenRtt.Driver.CanModuleRuns
import CanopenRtt.App.MainlineDeadline
import CanopenRtt.App.MainlineRuns
import CanopenRtt.Lifecycle.BindingOrder
import CanopenRtt.Profile.Registry
import CanopenRtt.Profile.Mixed
import CanopenRtt.Cia402.Device.EventSlot
import CanopenRtt.Cia402.DeviceRtt
import CanopenRtt.Cia402.DeviceRttSteps
import CanopenRtt.Cia402.DeviceRttCallbacks
import CanopenRtt.Cia402.DeviceRttRuns
