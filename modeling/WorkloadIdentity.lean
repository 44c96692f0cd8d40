import WorkloadIdentity.Main
import WorkloadIdentity.Proofs.Exchange.Trace
import WorkloadIdentity.Proofs.Certificate.Login
import WorkloadIdentity.Proofs.Certificate.Authentication
import WorkloadIdentity.Proofs.Certificate.Sessions
import WorkloadIdentity.Proofs.Certificate.Refusals
import WorkloadIdentity.Proofs.FileSystem.Frame
import WorkloadIdentity.Proofs.FileSystem.TokenFile
import WorkloadIdentity.Proofs.Exchange.Handover
import WorkloadIdentity.Proofs.TokenHandover
import WorkloadIdentity.Proofs.Retry.Undisturbed
import WorkloadIdentity.Proofs.Retry.Signal
import WorkloadIdentity.Proofs.Refresh.Shutdown
import WorkloadIdentity.Proofs.Refresh.Deletion
import WorkloadIdentity.Proofs.Refresh.Blocks
import WorkloadIdentity.Proofs.Certificate.Leftover
import WorkloadIdentity.Proofs.TokenStores
import WorkloadIdentity.Proofs.FileSystem.Replacement
import WorkloadIdentity.Proofs.FileSystem.Exposure
import WorkloadIdentity.Proofs.FileSystem.Disposal
import WorkloadIdentity.Proofs.Exchange.Address
import WorkloadIdentity.Proofs.Exchange.Identity
import WorkloadIdentity.Proofs.Settings.Layering
import WorkloadIdentity.Proofs.Duration
import WorkloadIdentity.Proofs.Settings.Slots
import WorkloadIdentity.Proofs.Settings.Written
import WorkloadIdentity.Proofs.Yaml
import WorkloadIdentity.Proofs.Settings.Environment
import WorkloadIdentity.Proofs.Settings.Leaves
import WorkloadIdentity.Proofs.Certificate.Workloads
import WorkloadIdentity.Proofs.Json.Grammar
import WorkloadIdentity.Proofs.Json.Text
import WorkloadIdentity.Proofs.Json.Reader
import WorkloadIdentity.Proofs.Rejection
import WorkloadIdentity.Proofs.Text.Blank
import WorkloadIdentity.Proofs.Settings.Spelling
import WorkloadIdentity.Proofs.Settings.Variable
import WorkloadIdentity.Proofs.Exchange.Token
import WorkloadIdentity.Proofs.Exchange.Delivery
import WorkloadIdentity.Proofs.Retry.Delays
import WorkloadIdentity.Proofs.Settings.Overrun
import WorkloadIdentity.Proofs.Certificate.Validity
import WorkloadIdentity.Proofs.HostIdentity
import WorkloadIdentity.Proofs.Certificate.Chain
import WorkloadIdentity.Proofs.Settings.Names
import WorkloadIdentity.Proofs.Strategy
import WorkloadIdentity.Proofs.Url.Ascii
