import Frick.Properties.StreamSequence
import Frick.Properties.AppendRace
import Frick.Properties.SharedConnection
import Frick.Properties.ShareProvenance
import Frick.Properties.ChunkProvenance
import Frick.Properties.PasswordChange
import Frick.Properties.PasswordReset
import Frick.Properties.StreamCursor
import Frick.Properties.PendingCounter
import Frick.Properties.RecordRoundTrip
import Frick.Properties.RequestOwnership
import Frick.Properties.JobTerminal
import Frick.Properties.JobRecovery
import Frick.Properties.SchemaEvolution
import Frick.Properties.RestoreAtomicity
import Frick.Properties.RestoreLedger
import Frick.Properties.DumpRestore
import Frick.Properties.JobTenancy
import Frick.Properties.BlobIsolation
import Frick.Properties.RefreshFamilies
import Frick.Properties.DriverArms
import Frick.Properties.AuditChain
import Frick.Properties.CallCapacity
import Frick.Properties.ConnectionCaps
import Frick.Sync.WritePlacement
import Frick.Properties.TenantFilter
import Frick.Properties.PlacementConvergence
import Frick.Properties.ProjectionFeed
import Frick.Properties.PresenceFeed
import Frick.Properties.SearchHits
import Frick.Properties.CallSignals
import Frick.Properties.GuessLimit
import Frick.Properties.ReadDecision
import Frick.Properties.RejectedSubscribe
import Frick.Properties.FailedAccept
import Frick.Properties.ServedBytes
import Frick.Properties.BlobQuota
import Frick.Properties.ObjectVersions
import Frick.Properties.ForeignRelease
import Frick.Properties.Backpressure
import Frick.Client.ReplayWindow
import Frick.Properties.Retention
import Frick.Server.Sealing
import Frick.Properties.LeaseRenewal
