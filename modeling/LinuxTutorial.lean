import LinuxTutorial.Shared.Transition
import LinuxTutorial.Shared.Progress
import LinuxTutorial.Shared.Totals
import LinuxTutorial.Shared.RecordLock
import LinuxTutorial.Sync.FileLock
import LinuxTutorial.Sync.LockSteps
import LinuxTutorial.Sync.LockState
import LinuxTutorial.Sync.MutualExclusion
import LinuxTutorial.Sync.LockProgress
import LinuxTutorial.Sync.LockShutdown
import LinuxTutorial.Sync.LockStarvation
import LinuxTutorial.Shared.Interaction
import LinuxTutorial.Uvc.Camera
import LinuxTutorial.Uvc.Driver
import LinuxTutorial.Uvc.Rules
import LinuxTutorial.Uvc.Capture
import LinuxTutorial.Uvc.Setup
import LinuxTutorial.Uvc.CompleteFrame
import LinuxTutorial.Uvc.Lifecycle
import LinuxTutorial.Uvc.RingSafety
import LinuxTutorial.Uvc.Interruption
import LinuxTutorial.Net.AcceptServer
import LinuxTutorial.Net.Books
import LinuxTutorial.Net.Orderly
import LinuxTutorial.Net.Ownership
import LinuxTutorial.Ipc.SockServer
import LinuxTutorial.Ipc.SockName
import LinuxTutorial.Net.ServerSteps
import LinuxTutorial.Ipc.SockText
import LinuxTutorial.Ipc.SockFraming
import LinuxTutorial.Ipc.MessageQueue
import LinuxTutorial.Ipc.QueueText
import LinuxTutorial.Ipc.QueueNumbers
import LinuxTutorial.Ipc.QueueShutdown
import LinuxTutorial.Net.HeldThreads
import LinuxTutorial.Net.ServerShutdown
import LinuxTutorial.Net.ContextLifetime
import LinuxTutorial.Ipc.SockStale
import LinuxTutorial.Net.SessionText
import LinuxTutorial.Net.Established
import LinuxTutorial.Net.ReceivedText
import LinuxTutorial.Net.ServerLog
import LinuxTutorial.Net.Clients
import LinuxTutorial.Ipc.Semaphore
import LinuxTutorial.Ipc.SemaphoreLifetime
import LinuxTutorial.Ipc.SemaphoreRuns
import LinuxTutorial.Shared.Blocks
import LinuxTutorial.Uvc.Conversion
import LinuxTutorial.Uvc.ConversionBounds
import LinuxTutorial.Uvc.PixelLayout
import LinuxTutorial.Uvc.Picture
import LinuxTutorial.Uvc.Completion
import LinuxTutorial.Shared.Clamp
import LinuxTutorial.Uvc.Colour
import LinuxTutorial.Uvc.CaptureFailure
import LinuxTutorial.Shared.IntLoop
import LinuxTutorial.Shared.Rows
import LinuxTutorial.Shared.HexText
import LinuxTutorial.Shared.Delimited
import LinuxTutorial.Log.LogData
import LinuxTutorial.Log.DumpSafety
import LinuxTutorial.Log.HexDump
import LinuxTutorial.Log.LogFile
import LinuxTutorial.Log.LogLine
import LinuxTutorial.Ipc.QueueHang
import LinuxTutorial.Net.ClientsHeld
import LinuxTutorial.Net.ClientsLog
import LinuxTutorial.Sync.LockRemains
import LinuxTutorial.Uvc.InterruptedSession
