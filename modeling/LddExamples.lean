import LddExamples.Runs
import LddExamples.ByteWindows
import LddExamples.BoundedFiles
import LddExamples.RingBuffers
import LddExamples.KernelInterface
import LddExamples.StorageMirror
import LddExamples.StorageDevice
import LddExamples.StorageRuns
import LddExamples.SectorLocks
import LddExamples.UnlockRequests
import LddExamples.StorageContents
import LddExamples.MirrorBackups
import LddExamples.MultiMinorDevice
import LddExamples.MultiMinorFiles
import LddExamples.MultiMinorBounds
import LddExamples.SysfsView
import LddExamples.CharacterSkeleton
import LddExamples.DualPoll
import LddExamples.ReadObservations
import LddExamples.FailedWrites
import LddExamples.PollReadiness
import LddExamples.PollDelivery
import LddExamples.BlockingReads
import LddExamples.ResourceLog
import LddExamples.DualPollInit
import LddExamples.MultiMinorInit
import LddExamples.KeypadQueue
import LddExamples.QueueClearing
import LddExamples.KeypadDevice
import LddExamples.KeypadKeys
import LddExamples.MultiReaderDevice
import LddExamples.MessageReads
import LddExamples.MessageReaders
import LddExamples.TemperatureLog
import LddExamples.LightDevice
import LddExamples.InterruptDemo
import LddExamples.ReadLengths
import LddExamples.LinkedRings
import LddExamples.ListModule
import LddExamples.ListRefinement
import LddExamples.KernelTimer
import LddExamples.KeyboardSniffer
import LddExamples.DeferredWork
import LddExamples.SharedReferences
import LddExamples.SignalDriver
import LddExamples.SignalTargets
import LddExamples.TemperatureSensor
import LddExamples.ThresholdMoves
import LddExamples.AlertCounter
import LddExamples.LightSnapshots
import LddExamples.RuntimePower
import LddExamples.PowerState
import LddExamples.LockScan
import LddExamples.DataStoreLoop
import LddExamples.SeekLimits
import LddExamples.ChunkedTransfers
import LddExamples.SplitTransfers
import LddExamples.WrittenRanges
import LddExamples.StringBuffers
import LddExamples.MiscDevice
import LddExamples.StringMessages
import LddExamples.LightInterfaces
import LddExamples.ThresholdCodes
import LddExamples.BackupWrites
import LddExamples.BackupPaths
import LddExamples.SectorHelpers
import LddExamples.StoreLogs
import LddExamples.StringStores
import LddExamples.LedColor
import LddExamples.Numerals
import LddExamples.SensorControl
import LddExamples.SensorApp
import LddExamples.TerminatedBuffers
import LddExamples.LockedSections
import LddExamples.QueueSections
import LddExamples.StorageSections
import LddExamples.MirrorSections
import LddExamples.KernelThreads
import LddExamples.ThreadTurns
import LddExamples.ThreadModules
import LddExamples.MultiMinorSections
import LddExamples.MessageApp
import LddExamples.MessageCounts
import LddExamples.EventCounts
import LddExamples.HighResolutionTimer
import LddExamples.PollApps
import LddExamples.LedAttributes
import LddExamples.DriverLoading
import LddExamples.GpioLed
