import Sluice.Main
import Sluice.Redis.Limiter
import Sluice.Settings.Printer
import Sluice.Simulation
import Sluice.Transport
import Sluice.Proofs.Pool.Balance
import Sluice.Proofs.Pool.Rotation
import Sluice.Proofs.Pool.Callers
import Sluice.Proofs.Quota.History
import Sluice.Proofs.Quota.Verdict
import Sluice.Proofs.Uri.Path
import Sluice.Proofs.Transport.Target
import Sluice.Proofs.Admission.Spelling
import Sluice.Proofs.Retry.Account
import Sluice.Proofs.Retry.Interruption
import Sluice.Proofs.Pool.Overflow
import Sluice.Proofs.Admission.Charges
import Sluice.Proofs.Directory.Leases
import Sluice.Proofs.Rules.SharedKeys
import Sluice.Proofs.Rules.Visits
import Sluice.Proofs.Gateway.Pipeline
import Sluice.Proofs.Retry.Failover
import Sluice.Proofs.Transport.Connection
import Sluice.Proofs.Gateway.Success
import Sluice.Proofs.Server.Launch
import Sluice.Proofs.Pool.Effects
import Sluice.Proofs.Pool.Tally
import Sluice.Proofs.Pool.Smoothness
import Sluice.Proofs.Pool.EqualWeights
import Sluice.Proofs.Quota.Optimality
import Sluice.Proofs.Quota.Spacing
import Sluice.Proofs.Quota.Forgetting
import Sluice.Proofs.Rules.Applicability
import Sluice.Proofs.Transport.Forwarding
import Sluice.Proofs.Transport.Placement
import Sluice.Proofs.Quota.Memory
import Sluice.Proofs.Text.Utf8
import Sluice.Proofs.Transport.Excerpt
import Sluice.Proofs.Duration.Seconds
import Sluice.Proofs.Retry.Backoff
import Sluice.Proofs.Gateway.Length
