import DbsMonitor.Proofs.SourceError
import DbsMonitor.Proofs.LockOrder
import DbsMonitor.Proofs.OpenConnections
import DbsMonitor.Proofs.ConnectionData
import DbsMonitor.Proofs.Progress
import DbsMonitor.Proofs.Backoff
import DbsMonitor.Proofs.AlertEvidence
import DbsMonitor.Proofs.CollectionFreeze
import DbsMonitor.Proofs.DeliveryAttempts
import DbsMonitor.Proofs.DispatchChecks
import DbsMonitor.Proofs.NotifyObligations
import DbsMonitor.Proofs.RecoveryOrder
import DbsMonitor.Proofs.RepeatSpacing
import DbsMonitor.Proofs.AgentSilence
import DbsMonitor.Proofs.EnvelopeBinding
import DbsMonitor.Proofs.RotationSafety
import DbsMonitor.Proofs.StaleSessions
import DbsMonitor.Proofs.TokenLifecycle
import DbsMonitor.Proofs.CatalogConvergence
import DbsMonitor.Proofs.SeedPreservation
import DbsMonitor.Proofs.SnapshotConvergence
import DbsMonitor.Proofs.PartitionMaintenance
import DbsMonitor.Proofs.DispositionHistory
import DbsMonitor.Proofs.ClockJumps
import DbsMonitor.Proofs.RuleRanges
import DbsMonitor.Proofs.StoredNumbers
import DbsMonitor.Proofs.InstancePages
import DbsMonitor.Proofs.MaintenanceViews
import DbsMonitor.Proofs.WatermarkLevels
import DbsMonitor.Proofs.FailureReports
import DbsMonitor.Proofs.HealthRollup
import DbsMonitor.Proofs.TriggerGroups
import DbsMonitor.Proofs.RateHistory
import DbsMonitor.Proofs.InstanceAggregation
import DbsMonitor.Proofs.SqlFormatting
import DbsMonitor.Proofs.AcceptanceVerdict
import DbsMonitor.Proofs.DueTimes
import DbsMonitor.Proofs.MailBodies
import DbsMonitor.Proofs.MigrationSafety
import DbsMonitor.Proofs.ArtifactReclaim
import DbsMonitor.Proofs.BundleContents
