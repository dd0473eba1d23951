import ServiceShapes.EventStream.Channel
import ServiceShapes.Files.Loading
import ServiceShapes.Generation.ServiceConfig
import ServiceShapes.Generation.StreamSigning
import ServiceShapes.Model.Normalized
import ServiceShapes.PropertyBag.Shared
import ServiceShapes.Symbol.References
import ServiceShapes.Text.PascalCase
import ServiceShapes.Proofs.Documents.RoundTrip
import ServiceShapes.Proofs.Normalization.Copies
import ServiceShapes.Proofs.Normalization.Idempotence
import ServiceShapes.Proofs.Normalization.Ownership
import ServiceShapes.Proofs.Normalization.Streaming
import ServiceShapes.Proofs.Resolution.Dependencies
import ServiceShapes.Proofs.Resolution.Duality
import ServiceShapes.Proofs.Resolution.Metadata
import ServiceShapes.Proofs.Configuration.Signing
import ServiceShapes.Proofs.Channels.Runs
import ServiceShapes.Proofs.Channels.Conservation
import ServiceShapes.Proofs.Channels.Failure
import ServiceShapes.Proofs.Decorators.Registration
import ServiceShapes.Proofs.Configuration.Answers
import ServiceShapes.Proofs.Decorators.Stages
import ServiceShapes.Proofs.Templates.Rendering
import ServiceShapes.Proofs.Configuration.Crates
import ServiceShapes.Proofs.Symbols.Crates
import ServiceShapes.Proofs.Templates.Indentation
import ServiceShapes.Proofs.Crates.MergeLaws
import ServiceShapes.Proofs.Text.EditDistance
import ServiceShapes.Proofs.Suggestions.Distance
import ServiceShapes.Proofs.Lookups
import ServiceShapes.Proofs.Resolution.Visits
import ServiceShapes.Proofs.Normalization.Failures
import ServiceShapes.Proofs.Documents.Listing
import ServiceShapes.Proofs.Suggestions.Nearest
import ServiceShapes.Proofs.Documents.Rearranged
import ServiceShapes.Proofs.Documents.FieldOrder
import ServiceShapes.Proofs.Traits.Origins
import ServiceShapes.Proofs.Resolution.Namespaces
import ServiceShapes.Proofs.Crates.ManifestLines
import ServiceShapes.Proofs.Types.Reading
import ServiceShapes.Proofs.Configuration.Splicing
import ServiceShapes.Proofs.Aggregates
import ServiceShapes.Proofs.PropertyBags.Operations
import ServiceShapes.Proofs.PropertyBags.Sharing
import ServiceShapes.Proofs.Text.PascalCase
