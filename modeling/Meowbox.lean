import Meowbox.Operations.Fencing
import Meowbox.Operations.Queue
import Meowbox.Operations.Family
import Meowbox.Operations.QueueBounds
import Meowbox.Operations.Idempotency
import Meowbox.Operations.Contract
import Meowbox.Operations.Quiesce
import Meowbox.AgentJobs.BootChange
import Meowbox.AgentJobs.Convergence
import Meowbox.Backups.Exclusion
import Meowbox.Deploys.Logs
import Meowbox.Sites.Primary
import Meowbox.Backups.Completion
import Meowbox.Backups.Lease
import Meowbox.Backups.Catalogue
import Meowbox.Backups.ReceiptsKept
import Meowbox.Webhooks.Presence
import Meowbox.Webhooks.Attempts
import Meowbox.Auth.LoginLimits
import Meowbox.Auth.ConcurrentRefresh
import Meowbox.Auth.Revocation
import Meowbox.Auth.SecondFactor
import Meowbox.Backups.ResticContract
import Meowbox.Federation.ReplayOnce
import Meowbox.Federation.Endpoints
import Meowbox.Federation.Trust
import Meowbox.Federation.Projection
import Meowbox.PanelAccess.Agreement
import Meowbox.Vpn.Addresses
import Meowbox.Vpn.Access
import Meowbox.PanelAccess.Readmission
import Meowbox.Transfers.Admission
import Meowbox.Transfers.Ready
import Meowbox.Federation.RolloutSafety
import Meowbox.Transfers.Ranges
import Meowbox.Common.Semver
import Meowbox.Federation.Dispatch
import Meowbox.Gateway.Desired
import Meowbox.PanelAccess.StateEnv
import Meowbox.Backups.StreamSlots
import Meowbox.Webhooks.Conserving
import Meowbox.AgentJobs.Once
import Meowbox.Federation.Manifest
import Meowbox.Agent.CountryLists
import Meowbox.Agent.Streaming
import Meowbox.Notifications.Digest
