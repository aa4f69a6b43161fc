import SyncRGB.ByteCodec.Bytes
import SyncRGB.ByteCodec.Reader
import SyncRGB.ByteCodec.Writer
import SyncRGB.ByteCodec.Bounds
import SyncRGB.Transition.Run
import SyncRGB.Device.CallThread
import SyncRGB.ByteCodec.InputStream
import SyncRGB.ByteCodec.Layout
import SyncRGB.Controller.DescriptionLayout
import SyncRGB.Profile.ProfileFile
import SyncRGB.Profile.RestoredRuns
import SyncRGB.Profile.RestoredState
import SyncRGB.Profile.SavedProfile
import SyncRGB.Profile.MalformedProfile
import SyncRGB.VectorEdit.Resize
import SyncRGB.Profile.LoadDevice
import SyncRGB.Profile.LoadedDevices
import SyncRGB.JsonRpc.Json
import SyncRGB.Profile.ProfileStore
import SyncRGB.JsonRpc.Profiles
import SyncRGB.Effect.Keeps
import SyncRGB.JsonRpc.Colors
import SyncRGB.JsonRpc.Modes
import SyncRGB.VectorEdit.Positions
import SyncRGB.VectorEdit.Pointwise
import SyncRGB.Controller.Types
import SyncRGB.Controller.Description
import SyncRGB.Controller.SizeAgreement
import SyncRGB.Controller.Windows
import SyncRGB.Controller.RoundTrip
import SyncRGB.Controller.Transmitted
import SyncRGB.Controller.Accounting
import SyncRGB.Controller.Updates
import SyncRGB.Server.Dispatch
import SyncRGB.Server.ReadSafety
import SyncRGB.Server.TargetSafety
import SyncRGB.Server.DriverCalls
import SyncRGB.Server.Listener
import SyncRGB.Server.Framing
import SyncRGB.Client.NetworkClient
import SyncRGB.Client.MirrorRefresh
import SyncRGB.Client.Session
import SyncRGB.Client.Mirrors
import SyncRGB.Client.Versions
import SyncRGB.Client.VersionSteps
import SyncRGB.Client.VersionSafety
import SyncRGB.Client.ListPhases
import SyncRGB.Client.ListSteps
import SyncRGB.Client.Notifications
import SyncRGB.Resources.DeviceList
import SyncRGB.Resources.ResourceManager
import SyncRGB.Resources.EventReplay
import SyncRGB.Resources.HotPlug
import SyncRGB.Modes.Selection
import SyncRGB.Modes.ActiveMode
import SyncRGB.FileTree.Path
import SyncRGB.FileTree.Walk
import SyncRGB.FileTree.FreeTree
import SyncRGB.Profile.ProfilePath
import SyncRGB.Transition.Fairness
import SyncRGB.Resources.Rescan
import SyncRGB.Resources.Detection
import SyncRGB.Resources.DetectionErrors
import SyncRGB.Resources.Background
import SyncRGB.Resources.BackgroundSlot
import SyncRGB.Resources.Registration
import SyncRGB.JsonRpc.Handler
import SyncRGB.JsonRpc.ResponseLaw
import SyncRGB.ByteCodec.Utf8
import SyncRGB.VectorEdit.Slices
import SyncRGB.Controller.ZoneColors
import SyncRGB.Controller.ZoneSizes
import SyncRGB.Controller.ZoneStores
import SyncRGB.Effect.Atomic
import SyncRGB.Effect.Results
import SyncRGB.JsonRpc.Control
import SyncRGB.JsonRpc.ColorMethods
import SyncRGB.JsonRpc.Reports
import SyncRGB.JsonRpc.ZoneMethods
import SyncRGB.JsonRpc.ControlMethods
import SyncRGB.JsonRpc.CleanErrors
import SyncRGB.JsonRpc.Dump
import SyncRGB.JsonRpc.Dispatcher
import SyncRGB.JsonRpc.SizeRequests
import SyncRGB.JsonRpc.ErrorAtomicity
import SyncRGB.JsonRpc.ErrorTexts
import SyncRGB.JsonRpc.ZoneFrame
import SyncRGB.JsonRpc.ForcedResize
import SyncRGB.JsonRpc.MethodReplies
import SyncRGB.JsonRpc.ReportTexts
import SyncRGB.JsonRpc.RequestTexts
import SyncRGB.Server.WebSocket
import SyncRGB.Controller.Commands
import SyncRGB.Controller.ColorCommands
import SyncRGB.Controller.Partition
import SyncRGB.Client.Commands
import SyncRGB.Profile.ProfileList
import SyncRGB.Startup.ServiceStatus
import SyncRGB.JsonRpc.ShutdownLatch
import SyncRGB.Resources.DetectionGate
import SyncRGB.Resources.LostWakeup
import SyncRGB.Resources.SingleDetection
import SyncRGB.Server.LoopbackShutdown
import SyncRGB.Server.Connections
import SyncRGB.Server.AuthGate
import SyncRGB.Server.ClientInfos
import SyncRGB.VectorEdit.IndexLoop
import SyncRGB.Keyboard.Keymap
import SyncRGB.Keyboard.IndexSafety
import SyncRGB.Keyboard.Sorted
import SyncRGB.Keyboard.Shifts
import SyncRGB.Keyboard.SwapKey
import SyncRGB.Keyboard.Layouts
import SyncRGB.VectorEdit.RowMajor
import SyncRGB.Keyboard.KeyMatrix
import SyncRGB.Log.Rotation
import SyncRGB.VectorEdit.FirstFit
import SyncRGB.VectorEdit.Substring
import SyncRGB.Resources.Matchers
import SyncRGB.JsonRpc.Numbers
import SyncRGB.JsonRpc.ColorChannels
import SyncRGB.JsonRpc.LedPositions
import SyncRGB.JsonRpc.IndexedMethods
import SyncRGB.JsonRpc.Addressing
import SyncRGB.Profile.ProfileIdentity
import SyncRGB.JsonRpc.IndexedRefusals
import SyncRGB.ByteCodec.CodePage
import SyncRGB.ByteCodec.QuotedWords
import SyncRGB.Cli.ApplyOptions
import SyncRGB.Cli.ColorSpread
import SyncRGB.Cli.Scaling
import SyncRGB.Startup.ElevatedRelaunch
import SyncRGB.Cli.ColorLists
import SyncRGB.Cli.ColorTokens
import SyncRGB.VectorEdit.Grouping
import SyncRGB.E131.DeviceLists
import SyncRGB.E131.SharedUniverses
import SyncRGB.Settings.JsonFile
import SyncRGB.Settings.SettingsManager
import SyncRGB.Settings.StoreRuns
import SyncRGB.Log.LogManager
import SyncRGB.Log.Suppression
import SyncRGB.Startup.ServiceSettings
import SyncRGB.Startup.ServiceReaders
import SyncRGB.VectorEdit.Oldest
import SyncRGB.Log.DailyLog
import SyncRGB.Log.DailyRotation
import SyncRGB.Log.DailyRuns
import SyncRGB.Cli.Passes
import SyncRGB.Cli.PassAgreement
import SyncRGB.VectorEdit.EqualBlocks
import SyncRGB.Controller.ColorBytes
import SyncRGB.E131.ChannelPacking
import SyncRGB.E131.PackedStreams
import SyncRGB.E131.StreamConditions
import SyncRGB.E131.MatrixMaps
import SyncRGB.E131.MatrixScans
import SyncRGB.Ddp.Endpoints
import SyncRGB.Ddp.EndpointTable
import SyncRGB.ByteCodec.BigEndian
import SyncRGB.VectorEdit.Tiling
import SyncRGB.Ddp.Fragments
import SyncRGB.Ddp.FragmentRuns
import SyncRGB.VectorEdit.CheckedStore
import SyncRGB.LedStrip.Frames
import SyncRGB.LedStrip.FrameLayouts
import SyncRGB.VectorEdit.SkippingErase
import SyncRGB.Resources.Callbacks
import SyncRGB.Resources.CallbackRemoval
import SyncRGB.Transition.Mutex
import SyncRGB.Device.LazyInit
import SyncRGB.Device.LazyRuns
import SyncRGB.Effect.Wp
import SyncRGB.HostMemory.Cells
import SyncRGB.Pawn.Machine
import SyncRGB.Pawn.Instructions
import SyncRGB.Pawn.Closure
import SyncRGB.Pawn.Confinement
import SyncRGB.Pawn.Backings
import SyncRGB.Pawn.PageArithmetic
import SyncRGB.Pawn.Windows
import SyncRGB.Effect.Outcome
import SyncRGB.Pawn.Natives
import SyncRGB.Pawn.NativeCalls
import SyncRGB.Pawn.DebugPrint
import SyncRGB.Pawn.Loader
import SyncRGB.Pawn.LoaderChecks
import SyncRGB.Pawn.DriverNatives
import SyncRGB.Pawn.Ioctl
import SyncRGB.Pawn.IoctlSandbox
import SyncRGB.Pawn.DriverHandles
import SyncRGB.Server.PartialStream
import SyncRGB.Client.SdkSession
import SyncRGB.Spd.DimmSlots
import SyncRGB.Spd.Identification
import SyncRGB.Spd.Ddr4Slots
import SyncRGB.Spd.Ddr5Slots
