import AccessPolicy.Main
import AccessPolicy.Proofs.Concurrency.Coherence
import AccessPolicy.Proofs.Concurrency.Ownership
import AccessPolicy.Proofs.Concurrency.Solo
import AccessPolicy.Proofs.Decision.Addition
import AccessPolicy.Proofs.Decision.Arrival
import AccessPolicy.Proofs.Decision.Patterns
import AccessPolicy.Proofs.Decision.Scoping
import AccessPolicy.Proofs.Engine.Isolation
import AccessPolicy.Proofs.Decision.Footprint
import AccessPolicy.Proofs.Binary64.Rounding
import AccessPolicy.Proofs.Documents.Survival
import AccessPolicy.Proofs.Condition.Identity
import AccessPolicy.Proofs.Engine.Calls
import AccessPolicy.Proofs.Engine.Accounting
import AccessPolicy.Proofs.Engine.Failure
import AccessPolicy.Proofs.Policy.Refusal
import AccessPolicy.Proofs.Value.Order
import AccessPolicy.Proofs.Value.Stability
import AccessPolicy.Proofs.Decision.Folding
import AccessPolicy.Proofs.Documents.Windows
import AccessPolicy.Proofs.Time.Chronology
import AccessPolicy.Proofs.Time.Opening
import AccessPolicy.Proofs.Documents.Limits
import AccessPolicy.Proofs.Concurrency.Sharing
import AccessPolicy.Proofs.Settings.Reading
import AccessPolicy.Proofs.Metrics.Report
