import DetachedTasks.Main
import DetachedTasks.Rehearsal
import DetachedTasks.Sandbox.World
import DetachedTasks.Task.Watcher
import DetachedTasks.Proofs.DecimalText
import DetachedTasks.Proofs.Utf8RoundTrip
import DetachedTasks.Proofs.ResultReading
import DetachedTasks.Proofs.PartialResult
import DetachedTasks.Proofs.PathPlaces
import DetachedTasks.Proofs.SiblingFiles
import DetachedTasks.Proofs.StorageFiles
import DetachedTasks.Proofs.ChildDeeds
import DetachedTasks.Proofs.TaskQueries
import DetachedTasks.Proofs.LiveScene
import DetachedTasks.Proofs.LiveCalls
import DetachedTasks.Proofs.TomlStrings
import DetachedTasks.Proofs.HandleRoundTrip
import DetachedTasks.Proofs.ResultInFlight
import DetachedTasks.Proofs.LogStreaming
import DetachedTasks.Proofs.StreamRuns
import DetachedTasks.Proofs.ChildLife
import DetachedTasks.Proofs.CompleteDelivery
import DetachedTasks.Proofs.ParentPlaces
import DetachedTasks.Proofs.MemoryFrames
import DetachedTasks.Proofs.TaskPlaces
import DetachedTasks.Proofs.Footprints
import DetachedTasks.Proofs.TaskFootprints
import DetachedTasks.Proofs.TaskOperations
import DetachedTasks.Proofs.TaskTerritory
import DetachedTasks.Proofs.MemoryPrograms
import DetachedTasks.Proofs.LaunchedTasks
import DetachedTasks.Proofs.UndisturbedOperations
import DetachedTasks.Proofs.WorkspaceRuns
import DetachedTasks.Proofs.StatusPhases
import DetachedTasks.Proofs.StatusFinality
import DetachedTasks.Proofs.TaskIndependence
import DetachedTasks.Proofs.AbsoluteNames
import DetachedTasks.Proofs.TreeFrames
import DetachedTasks.Proofs.StorageSpots
import DetachedTasks.Proofs.StoragePrograms
import DetachedTasks.Proofs.CleanupReach
import DetachedTasks.Proofs.AllocationRecords
import DetachedTasks.Proofs.AllocationRuns
import DetachedTasks.Proofs.SandboxRuns
import DetachedTasks.Proofs.StorageTrees
import DetachedTasks.Proofs.LaunchOutcome
import DetachedTasks.Proofs.SavedHandles
import DetachedTasks.Proofs.PollLoop
import DetachedTasks.Proofs.FollowedTasks
import DetachedTasks.Proofs.RemovedDirectory
import DetachedTasks.Proofs.VanishingDirectory
import DetachedTasks.Proofs.TextPaths
import DetachedTasks.Proofs.NamedFiles
import DetachedTasks.Proofs.ScriptReading
import DetachedTasks.Proofs.PollCycles
import DetachedTasks.Proofs.Staleness
import DetachedTasks.Proofs.RehearsedRuns
import DetachedTasks.Proofs.WakeUps
import DetachedTasks.Proofs.StorageViews
import DetachedTasks.Proofs.TornHandles
import DetachedTasks.Proofs.KeptLogs
import DetachedTasks.Proofs.InvocationFootprints
import DetachedTasks.Proofs.SteadyPrograms
import DetachedTasks.Proofs.SureReaders
import DetachedTasks.Proofs.RepeatedLogs
import DetachedTasks.Proofs.TextRuns
import DetachedTasks.Proofs.RelayedLines
import DetachedTasks.Proofs.ResultGrammar
import DetachedTasks.Proofs.TextOrder
import DetachedTasks.Proofs.TemplateOccurrences
import DetachedTasks.Proofs.SortedPairs
import DetachedTasks.Proofs.DistinctKeys
import DetachedTasks.Proofs.RecordReading
import DetachedTasks.Proofs.OmittedSettings
import DetachedTasks.Proofs.CheckedSettings
import DetachedTasks.Proofs.WrittenRecords
import DetachedTasks.Proofs.ScriptRoundTrip
import DetachedTasks.Proofs.MemoryTrees
import DetachedTasks.Proofs.CompleteCleanup
import DetachedTasks.Proofs.AbsoluteForms
import DetachedTasks.Proofs.WorkspaceSurroundings
import DetachedTasks.Proofs.TaskLayout
import DetachedTasks.Proofs.KeptLineEnds
import DetachedTasks.Proofs.StorageShapes
import DetachedTasks.Proofs.PairedRuns
import DetachedTasks.Proofs.OpaqueScripts
import DetachedTasks.Proofs.WrittenOptions
import DetachedTasks.Proofs.OptionRuns
import DetachedTasks.Proofs.LaunchEnvironments
import DetachedTasks.Proofs.LaunchArguments
import DetachedTasks.Proofs.WellFormedBytes
import DetachedTasks.Proofs.FragmentRoundTrip
import DetachedTasks.Proofs.LogOffsets
