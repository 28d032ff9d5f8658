import TelconetSentinel.Library.WeightedWalks
import TelconetSentinel.Library.LazySearch
import TelconetSentinel.Library.FallibleLists
import TelconetSentinel.Models
import TelconetSentinel.Topology
import TelconetSentinel.ShortestDistance
import TelconetSentinel.FaultScenarios
import TelconetSentinel.FaultAudit
import TelconetSentinel.AuditMeaning
import TelconetSentinel.Resilience
import TelconetSentinel.FailureDomains
import TelconetSentinel.TopologyFingerprint
import TelconetSentinel.SeverityOrder
import TelconetSentinel.NodeFaults
import TelconetSentinel.LinkImpact
import TelconetSentinel.Library.FixedWidthText
import TelconetSentinel.Timestamps
import TelconetSentinel.Library.KeyedLists
import TelconetSentinel.Library.TopRetention
import TelconetSentinel.TelemetryModels
import TelconetSentinel.Library.Simulation
import TelconetSentinel.TelemetryStore
import TelconetSentinel.TelemetryRetention
import TelconetSentinel.TelemetrySqlStore
import TelconetSentinel.TelemetryEquivalence
import TelconetSentinel.TelemetryConfig
import TelconetSentinel.Library.Interleaving
import TelconetSentinel.TelemetryIngest
import TelconetSentinel.PublishedState
import TelconetSentinel.TruthfulAnswers
import TelconetSentinel.RetrySafety
import TelconetSentinel.Convergence
import TelconetSentinel.ConvergenceSqlStore
import TelconetSentinel.ConvergenceEquivalence
import TelconetSentinel.Library.RecentRetention
import TelconetSentinel.ConvergenceRuns
import TelconetSentinel.Library.GatedStages
import TelconetSentinel.LiveCollector
import TelconetSentinel.LiveProtocol
import TelconetSentinel.IncidentService
import TelconetSentinel.IncidentIndexes
import TelconetSentinel.Library.BacktrackingPatterns
import TelconetSentinel.Library.PythonText
import TelconetSentinel.DetectionLog
import TelconetSentinel.PacketLoss
import TelconetSentinel.Library.IpNetworks
import TelconetSentinel.Library.IpNetworkTexts
import TelconetSentinel.Deduplication
import TelconetSentinel.RuntimePlan
import TelconetSentinel.RuntimeEvidence
import TelconetSentinel.RuntimeVerification
import TelconetSentinel.PublishedEvidence
import TelconetSentinel.Library.DocumentValues
import TelconetSentinel.Intent
import TelconetSentinel.IntentPrefixes
import TelconetSentinel.ValidatedDesigns
import TelconetSentinel.RuntimeConformance
import TelconetSentinel.ConformanceGate
import TelconetSentinel.ContainerlabLinks
import TelconetSentinel.RuntimePlanBuilder
import TelconetSentinel.PlannedScenarios
import TelconetSentinel.PlannedInjections
import TelconetSentinel.PlannedMetrics
import TelconetSentinel.PlannedAdjacencies
import TelconetSentinel.TelemetryBinding
import TelconetSentinel.TelemetryCollector
import TelconetSentinel.CollectedSnapshots
import TelconetSentinel.LinkBinding
import TelconetSentinel.OneToOneLinks
import TelconetSentinel.BoundPeers
import TelconetSentinel.TelemetryMetrics
import TelconetSentinel.MetricSeries
import TelconetSentinel.Library.OrderStatistics
import TelconetSentinel.Library.BinaryFloats
import TelconetSentinel.PythonNumbers
import TelconetSentinel.BfdComparison
import TelconetSentinel.ExperimentMetrics
import TelconetSentinel.RepeatedTrials
import TelconetSentinel.ProducedEvidence
import TelconetSentinel.Library.EscapedText
import TelconetSentinel.LabelEscaping
import TelconetSentinel.Library.BreadthFirst
import TelconetSentinel.Reachability
import TelconetSentinel.AbsentStates
import TelconetSentinel.LiveProbe
import TelconetSentinel.TrialStatistics
import TelconetSentinel.Library.GeneralFormat
import TelconetSentinel.ExperimentExposition
import TelconetSentinel.Library.AllowedFailures
import TelconetSentinel.MeasurementLog
import TelconetSentinel.LogRejection
import TelconetSentinel.Library.ExpositionText
import TelconetSentinel.Library.FixedPointText
import TelconetSentinel.MetricsText
import TelconetSentinel.ResilienceMetrics
import TelconetSentinel.LiveMetrics
import TelconetSentinel.ExperimentSeries
import TelconetSentinel.TelemetryText
import TelconetSentinel.Api
import TelconetSentinel.ApiErrors
import TelconetSentinel.ApiPages
import TelconetSentinel.ApiRuns
import TelconetSentinel.ApiMetrics
import TelconetSentinel.ApiSafety
import TelconetSentinel.Library.Interaction
import TelconetSentinel.LiveCollection
import TelconetSentinel.LiveCollectionCleanup
import TelconetSentinel.AtomicWrites
