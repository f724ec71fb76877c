import CamAdmiral.InventoryIdentity
import CamAdmiral.ScannerConflicts
import CamAdmiral.ScanSlot
import CamAdmiral.StorageHealth
import CamAdmiral.RecoveryAtomicity
import CamAdmiral.RecoveryIncidents
import CamAdmiral.IdentityHistory
import CamAdmiral.DashboardProjection
import CamAdmiral.DeselectedNetworks
import CamAdmiral.Migrations
import CamAdmiral.AuthRetries
import CamAdmiral.MonitorFreshness
import CamAdmiral.FrigateTargets
import CamAdmiral.HandoffSharing
import CamAdmiral.NotificationOrder
import CamAdmiral.NotificationDelivery
import CamAdmiral.PairingCore
import CamAdmiral.TelegramPairing
import CamAdmiral.Mapping
import CamAdmiral.Programs
import CamAdmiral.FrigateCore
import CamAdmiral.ReconcileCore
import CamAdmiral.FullSyncCore
import CamAdmiral.FrigateSessions
import CamAdmiral.ReconcileTurns
import CamAdmiral.ReconcileRounds
import CamAdmiral.ImportSync
import CamAdmiral.ReconcileCalls
import CamAdmiral.CameraEnabling
import CamAdmiral.ImportRestoreCore
import CamAdmiral.FrigateRuns
import CamAdmiral.ConfigDeletions
import CamAdmiral.FrigateRemoval
import CamAdmiral.DeletionRuns
import CamAdmiral.ImportOrigin
import CamAdmiral.StorageReadoption
import CamAdmiral.StreamHealth
import CamAdmiral.IdentityLinks
import CamAdmiral.InventoryScope
import CamAdmiral.RecoveryValidation
import CamAdmiral.LanScan
import CamAdmiral.Grouping
import CamAdmiral.TargetedRecovery
import CamAdmiral.FirstFit
import CamAdmiral.PartialRecords
import CamAdmiral.MergeOrder
import CamAdmiral.TargetedMerge
import CamAdmiral.UrlSplit
import CamAdmiral.UrlQuote
import CamAdmiral.UrlHost
import CamAdmiral.NetworkLocation
import CamAdmiral.SourceCredentials
import CamAdmiral.CredentialRoundTrip
import CamAdmiral.SourceIdentity
import CamAdmiral.FixedWidth
import CamAdmiral.Timestamps
import CamAdmiral.PartialFold
import CamAdmiral.ProbeReplies
import CamAdmiral.Base64
import CamAdmiral.MasterKey
import CamAdmiral.AdminAuth
import CamAdmiral.RelayActivity
import CamAdmiral.Rounding
import CamAdmiral.Timeline
import CamAdmiral.CameraAvailability
import CamAdmiral.HealthCore
import CamAdmiral.HealthPools
import CamAdmiral.Walks
import CamAdmiral.SourceResolution
import CamAdmiral.RecoveryRequestCore
import CamAdmiral.RecoveryRequests
import CamAdmiral.Substitution
import CamAdmiral.LogRedaction
import CamAdmiral.Eviction
import CamAdmiral.FrameCache
import CamAdmiral.PathWalk
import CamAdmiral.MediaAliases
import CamAdmiral.FaultJournal
import CamAdmiral.OnvifCore
import CamAdmiral.OnvifFaults
import CamAdmiral.StoredSources
import CamAdmiral.RecoveryIsolation
import CamAdmiral.OwnedWrites
import CamAdmiral.OwnershipRuns
import CamAdmiral.RelayCore
import CamAdmiral.RelayRequests
import CamAdmiral.RelayConvergence
import CamAdmiral.MediaRevisions
import CamAdmiral.ConfigWrites
import CamAdmiral.Custody
import CamAdmiral.ImportAttempt
import CamAdmiral.ImportJobs
import CamAdmiral.ImportReturns
