import Middleware.Blocking
import Middleware.Failure.Source
import Middleware.Proofs.Download.Cancellation
import Middleware.Proofs.Download.Reference
import Middleware.Settings.Assembly
import Middleware.Settings.Source
import Middleware.Proofs.Telemetry.Delivery
import Middleware.Proofs.Telemetry.Observation
import Middleware.Proofs.Download.Observation
import Middleware.Proofs.Download.Independence
import Middleware.Proofs.Chain.Passage
import Middleware.Proofs.Chain.Panic
import Middleware.Proofs.Download.Panic
import Middleware.Proofs.Download.Course
import Middleware.Proofs.Chain.Provenance
import Middleware.Proofs.Download.Provenance
import Middleware.Proofs.Chain.Inputs
import Middleware.Proofs.Download.Attestation
import Middleware.Proofs.Task.Agreement
import Middleware.Proofs.Download.Inputs
import Middleware.Proofs.Download.Blocking
import Middleware.Proofs.Telemetry.Omission
import Middleware.Proofs.Chain.Neutrality
import Middleware.Proofs.Download.Neutrality
import Middleware.Proofs.Settings.Order
import Middleware.Proofs.Settings.Assembly
import Middleware.Proofs.Settings.Overlay
import Middleware.Proofs.Chain.Suspension
import Middleware.Proofs.Download.Rethrow
import Middleware.Proofs.Download.Suspension
import Middleware.Proofs.Telemetry.FanOut
import Middleware.Proofs.Failure.Search
import Middleware.Proofs.Stack.Registration
import Middleware.Proofs.Chain.Report
import Middleware.Proofs.Download.Subject
import Middleware.Proofs.Chain.Settlement
import Middleware.Proofs.Download.Settlement
import Middleware.Proofs.Download.Deprecation
import Middleware.Proofs.Chain.Lines
import Middleware.Proofs.Message.Edits
import Middleware.Proofs.Reply
import Middleware.Proofs.Toml.WellFormed
import Middleware.Proofs.Toml.Document
import Middleware.Proofs.Toml.Paths
import Middleware.Proofs.Settings.Document
