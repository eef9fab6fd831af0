import TelemetrySim.Main
import TelemetrySim.Proofs.Outcome
import TelemetrySim.Proofs.Resolution.Invariant
import TelemetrySim.Proofs.Resolution.Reference
import TelemetrySim.Proofs.Resolution.Document
import TelemetrySim.Proofs.Resolution.Marker
import TelemetrySim.Proofs.Resolution.WellFormed
import TelemetrySim.Proofs.Live.KnownKinds
import TelemetrySim.Proofs.Live.Directory
import TelemetrySim.Proofs.Live.Build
import TelemetrySim.Proofs.Live.Sharing
import TelemetrySim.Proofs.Live.Wiring
import TelemetrySim.Proofs.Live.Run
import TelemetrySim.Proofs.Live.Delivery
import TelemetrySim.Proofs.Resolution.Chain
import TelemetrySim.Proofs.Resolution.Inheritance
import TelemetrySim.Proofs.Resolution.Fixpoint
import TelemetrySim.Proofs.Resolution.Kind
import TelemetrySim.Proofs.Resolution.Extension
import TelemetrySim.Proofs.Resolution.Phases
import TelemetrySim.Proofs.Resolution.Nearest
import TelemetrySim.Proofs.Expansion
import TelemetrySim.Proofs.Resolution.Reordering
import TelemetrySim.Proofs.Naming
import TelemetrySim.Proofs.Resolution.Link
import TelemetrySim.Proofs.Appearance
import TelemetrySim.Proofs.Product
import TelemetrySim.Proofs.Rewriting
import TelemetrySim.Proofs.Sorted
import TelemetrySim.Proofs.Resolution.Names
import TelemetrySim.Proofs.Resolution.Valid
import TelemetrySim.Proofs.Live.Streams
import TelemetrySim.Proofs.Live.Prefix
import TelemetrySim.Proofs.Live.Transcript
import TelemetrySim.Proofs.Exposition.Lines
import TelemetrySim.Proofs.Exposition.Registry
import TelemetrySim.Proofs.Exposition.Kinds
import TelemetrySim.Proofs.Exposition.LineEnds
import TelemetrySim.Proofs.Exposition.Readings
import TelemetrySim.Proofs.Exposition.Sections
import TelemetrySim.Proofs.Live.Shutdown
import TelemetrySim.Proofs.Resolution.Insertion
import TelemetrySim.Proofs.Live.Insertion
import TelemetrySim.Proofs.Resolution.Blame
import TelemetrySim.Proofs.Resolution.PhaseOrder
import TelemetrySim.Proofs.Resolution.Claims
import TelemetrySim.Proofs.Pattern
import TelemetrySim.Proofs.Placeholder
import TelemetrySim.Proofs.Random
import TelemetrySim.Proofs.Live.Configured
import TelemetrySim.Proofs.Live.Updates
import TelemetrySim.Proofs.Live.Accumulation
import TelemetrySim.Proofs.Enumeration
import TelemetrySim.Proofs.Exposition.Labels
import TelemetrySim.Proofs.Substitution
import TelemetrySim.Proofs.Domains
import TelemetrySim.Proofs.Refusal
import TelemetrySim.Proofs.Mention
import TelemetrySim.Proofs.Residue
import TelemetrySim.Proofs.Flaws
import TelemetrySim.Proofs.Resolution.Message
import TelemetrySim.Proofs.Resolution.Diagnosis
import TelemetrySim.Proofs.Live.Counter
import TelemetrySim.Proofs.Live.Seeds
import TelemetrySim.Proofs.Resolution.Exporter
import TelemetrySim.Proofs.Live.FirstUse
