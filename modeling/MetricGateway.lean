import MetricGateway.Proofs.Client.Listing
import MetricGateway.Proofs.Client.Probing
import MetricGateway.Proofs.Condition.Spelling
import MetricGateway.Proofs.Credentials.Resolving
import MetricGateway.Proofs.Environment.Loading
import MetricGateway.Proofs.Gateway.Buckets
import MetricGateway.Proofs.Gateway.FieldValues
import MetricGateway.Proofs.Gateway.Limit
import MetricGateway.Proofs.Gateway.NotFound
import MetricGateway.Proofs.Gateway.RangeRequest
import MetricGateway.Proofs.Gateway.Signed
import MetricGateway.Proofs.Page.Traversal
import MetricGateway.Proofs.Payload.Ambiguity
import MetricGateway.Proofs.Points.NotANumber
import MetricGateway.Proofs.Points.Policy
import MetricGateway.Proofs.Points.Widening
import MetricGateway.Proofs.PromQL.Alternatives
import MetricGateway.Proofs.PromQL.Confinement
import MetricGateway.Proofs.PromQL.Pattern
import MetricGateway.Proofs.Registry.Interleaving
import MetricGateway.Proofs.Server.Frame
import MetricGateway.Proofs.Server.Health
import MetricGateway.Proofs.Server.Key
import MetricGateway.Proofs.Server.Outcome
import MetricGateway.Proofs.Server.RoundTrip
import MetricGateway.Proofs.Settings.Sources
import MetricGateway.Server
import MetricGateway.Settings
import MetricGateway.Proofs.Credentials.Granting
import MetricGateway.Proofs.Condition.Numeral
import MetricGateway.Proofs.PromQL.Templates
