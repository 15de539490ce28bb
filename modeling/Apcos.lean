import Apcos.Lib.Base64
import Apcos.Lib.Comp
import Apcos.Source.Bridge.Approval
import Apcos.Source.Memory.Encryption
import Apcos.Source.Memory.TaskTable
import Apcos.Source.Memory.VectorMemory
import Apcos.Source.Memory.Effects
import Apcos.Lib.Runs
import Apcos.Source.Memory.Calls
import Apcos.Guarantees.FailClosed
import Apcos.Guarantees.TransitionLog
import Apcos.Guarantees.LegacyStore
import Apcos.Guarantees.SupervisedStore
import Apcos.Guarantees.Interleaving
import Apcos.Guarantees.Codec
import Apcos.Source.Cognition.ChallengeLogic
import Apcos.Source.Cognition.CommandRouter
import Apcos.Source.Cognition.RouterEffects
import Apcos.Guarantees.RouterAudit
import Apcos.Lib.Regex
import Apcos.Source.Cognition.IntentParser
import Apcos.Source.Session.Identity
import Apcos.Source.Session.InteractionController
import Apcos.Guarantees.TierEnforcement
import Apcos.Source.Voice.TranscriptionWorker
import Apcos.Source.Voice.VoiceSession
import Apcos.Guarantees.VoiceAttribution
import Apcos.Guarantees.PolicyAgreement
import Apcos.Guarantees.BridgeGates
import Apcos.Guarantees.BusShutdown
import Apcos.Guarantees.BusRecursion
import Apcos.Guarantees.BusBlocking
import Apcos.Guarantees.EnergyMonotone
import Apcos.Guarantees.EnvelopeAgreement
import Apcos.Lib.Window
import Apcos.Source.Supervisor.BridgeProcess
import Apcos.Guarantees.LoopFree
import Apcos.Guarantees.Acknowledgements
import Apcos.Lib.Receiver
import Apcos.Guarantees.EventDelivery
import Apcos.Guarantees.ServiceDependencies
import Apcos.Guarantees.AuthorityAnswers
import Apcos.Guarantees.BusHandles
import Apcos.Lib.RateLimit
import Apcos.Source.Python.Arithmetic
import Apcos.Source.Cognition.ProactiveController
import Apcos.Guarantees.ProactiveLimits
import Apcos.Source.Hardware.SleepManager
import Apcos.Guarantees.VoiceRestart
import Apcos.Source.Voice.WakeWord
import Apcos.Guarantees.WakeCommand
import Apcos.Source.Behavior.ResourceGovernor
import Apcos.Source.Hardware.DeviceState
import Apcos.Guarantees.PressureProtection
import Apcos.Lib.Walk
import Apcos.Source.Bootstrap.StartupValidator
import Apcos.Guarantees.ImportScan
import Apcos.Lib.Search
import Apcos.Source.Cognition.ReasoningEngine
import Apcos.Guarantees.StrategyText
import Apcos.Guarantees.RoutedEffects
import Apcos.Guarantees.ConfidenceGate
import Apcos.Guarantees.ChallengeOnce
import Apcos.Guarantees.ServiceStarts
import Apcos.Guarantees.StartOrder
import Apcos.Guarantees.CorrelationWindow
import Apcos.Guarantees.ForwardedEvents
import Apcos.Guarantees.MalformedLines
import Apcos.Guarantees.EnergyReadings
import Apcos.Lib.Timer
import Apcos.Guarantees.SleepEvents
import Apcos.Guarantees.ThermalHysteresis
import Apcos.Guarantees.RetentionStamp
import Apcos.Guarantees.ThreadSlots
import Apcos.Guarantees.TemperatureReading
import Apcos.Guarantees.SnapshotCoherence
import Apcos.Lib.Assoc
import Apcos.Guarantees.ConfigLoading
import Apcos.Guarantees.ExternalEvents
import Apcos.Guarantees.TaskNames
import Apcos.Lib.Words
import Apcos.Source.Python.Words
import Apcos.Source.Python.Matching
import Apcos.Guarantees.CommandGrammar
import Apcos.Guarantees.CommandReading
import Apcos.Guarantees.CommandRoundTrip
import Apcos.Guarantees.RoutableCommands
import Apcos.Guarantees.StoredText
import Apcos.Guarantees.LimiterCounters
import Apcos.Guarantees.AudioChunks
import Apcos.Guarantees.StrategyBounds
import Apcos.Guarantees.CanonicalRanking
import Apcos.Guarantees.Subscriptions
import Apcos.Guarantees.ThresholdCalibration
import Apcos.Guarantees.CachedModel
import Apcos.Guarantees.StoredTasks
import Apcos.Guarantees.LoopRefinement
import Apcos.Guarantees.EnergySignals
import Apcos.Guarantees.PipelineRefinement
import Apcos.Guarantees.SchedulerJoins
import Apcos.Guarantees.StoredVectors
import Apcos.Guarantees.StoppedLoops
import Apcos.Guarantees.TranscriptionRegions
import Apcos.Guarantees.SleepingRuntime
