import TelegramDrive.SyncEngine.Convergence
import TelegramDrive.SyncEngine.IncrementalScan
import TelegramDrive.SyncEngine.Ownership
import TelegramDrive.SyncEngine.ConflictLife
import TelegramDrive.SyncEngine.Replacement
import TelegramDrive.Crypto.Commits
import TelegramDrive.Transfers.BandwidthConservation
import TelegramDrive.Transfers.Durability
import TelegramDrive.Transfers.StopRequests
import TelegramDrive.FileInventory.Soundness
import TelegramDrive.Supporter.Revocations
import TelegramDrive.ApiCatalog.Freshness
import TelegramDrive.SignIn.Supersession
import TelegramDrive.Workspace.SignOut
import TelegramDrive.FolderLayout.Isolation
import TelegramDrive.SyncEngine.PlanSafety
import TelegramDrive.Crypto.VaultRuns
import TelegramDrive.Workspace.GracePeriod
import TelegramDrive.Workspace.CacheClearing
import TelegramDrive.Workspace.PackHonesty
import TelegramDrive.Mobile.StagedRuns
import TelegramDrive.Sharing.LimitedAttempts
import TelegramDrive.RestApi.BulkOutcomes
import TelegramDrive.WebDav.WritableNames
import TelegramDrive.Workspace.CarriedMoves
import TelegramDrive.FolderLayout.FreshOrder
import TelegramDrive.SettingsSync.KeptBackups
import TelegramDrive.Transfers.PacedTraffic
import TelegramDrive.Media.TrackDimensions
import TelegramDrive.Workspace.EnumeratedPages
import TelegramDrive.Workspace.PlaybackRuns
import TelegramDrive.Upgrade.Recovery
import TelegramDrive.Media.Inspected
import TelegramDrive.SyncEngine.PatternMatching
import TelegramDrive.RemoteUploads.Fetching
import TelegramDrive.Envelope.Canonical
import TelegramDrive.Workspace.MetadataFence
import TelegramDrive.Streaming.MediaRanges
