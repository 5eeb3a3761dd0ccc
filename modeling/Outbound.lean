import Outbound.Bucket.Run
import Outbound.Probe
import Outbound.Proofs.Admission.Accounting
import Outbound.Proofs.Bucket.Window
import Outbound.Proofs.Bucket.Withdrawal
import Outbound.Proofs.Call.Turns
import Outbound.Proofs.Chain.Tour
import Outbound.Proofs.Client.Interruption
import Outbound.Proofs.Client.Join
import Outbound.Proofs.Client.Secrecy
import Outbound.Proofs.Client.Labels
import Outbound.Proofs.Client.Verdicts
import Outbound.Proofs.Context.Building
import Outbound.Proofs.Failure.Wrapping
import Outbound.Proofs.Path.Collapse
import Outbound.Proofs.Retry.Growth
import Outbound.Proofs.Retry.Responses
import Outbound.Proofs.Retry.Wording
import Outbound.Proofs.Telemetry.Exposed
import Outbound.Proofs.Telemetry.Memory
import Outbound.Proofs.Telemetry.Registration
import Outbound.Session
import Outbound.Telemetry.Exposition
