import StructuredLog.Emission.Recorder
import StructuredLog.Generation.Batch
import StructuredLog.Generation.Rendering
import StructuredLog.Migration.Batch
import StructuredLog.Store.Script
import StructuredLog.Proofs.Statement.Correspondence
import StructuredLog.Proofs.Template.Holes
import StructuredLog.Proofs.Generation.Plan
import StructuredLog.Proofs.Message.Agreement
import StructuredLog.Proofs.Message.NamedPlaceholders
import StructuredLog.Proofs.Migration.Verdict
import StructuredLog.Proofs.Migration.Phases
import StructuredLog.Proofs.Migration.Linearization
import StructuredLog.Proofs.Generation.Soundness
import StructuredLog.Proofs.HostType.Canonical
import StructuredLog.Proofs.Identifier.Derivation
import StructuredLog.Proofs.Identifier.Naming
import StructuredLog.Proofs.Message.Positions
import StructuredLog.Proofs.Migration.Parameters
import StructuredLog.Proofs.Migration.Preservation
import StructuredLog.Proofs.Migration.Settling
import StructuredLog.Proofs.Migration.Rerun
import StructuredLog.Proofs.Migration.Uniqueness
import StructuredLog.Proofs.Migration.Atomicity
import StructuredLog.Proofs.Template.RoundTrip
import StructuredLog.Proofs.Generation.Diagnosis
import StructuredLog.Proofs.Generation.Container
import StructuredLog.Proofs.Message.Capacity
import StructuredLog.Proofs.Migration.Declaring
import StructuredLog.Proofs.Migration.Outcome
import StructuredLog.Proofs.Migration.Rewriting
import StructuredLog.Proofs.Migration.Acceptance
import StructuredLog.Proofs.Diagnostic.History
import StructuredLog.Proofs.Diagnostic.Repeats
import StructuredLog.Proofs.Template.Runs
import StructuredLog.Proofs.Template.Scanning
import StructuredLog.Proofs.Template.Bytes
import StructuredLog.Proofs.Generation.Batch
import StructuredLog.Proofs.Generation.Schedule
import StructuredLog.Proofs.Diagnostic.Honesty
import StructuredLog.Proofs.Diagnostic.Sorting
import StructuredLog.Proofs.Diagnostic.Flushing
import StructuredLog.Proofs.Migration.Search
import StructuredLog.Proofs.Store.Generations
import StructuredLog.Proofs.Migration.SharedStore
import StructuredLog.Proofs.Message.FieldMessages
import StructuredLog.Proofs.Message.Widths
import StructuredLog.Proofs.Generation.Mentions
import StructuredLog.Proofs.Migration.CleanDeclarations
import StructuredLog.Proofs.Generation.RepeatedIds
import StructuredLog.Proofs.Statement.FirstMatch
import StructuredLog.Proofs.Generation.MentionWarnings
import StructuredLog.Proofs.Text.Uppercase
import StructuredLog.Proofs.Identifier.Validity
import StructuredLog.Proofs.Identifier.FreshNames
import StructuredLog.Proofs.Message.Entries
import StructuredLog.Proofs.Emission.Gating
import StructuredLog.Proofs.Message.OnDemand
import StructuredLog.Proofs.Template.Halving
import StructuredLog.Proofs.Template.Windows
import StructuredLog.Proofs.Source.Offsets
import StructuredLog.Proofs.Generation.UnknownLabels
