import ApiShape.Config.Toml
import ApiShape.Document.Reader
import ApiShape.Model.Graph
import ApiShape.Model.Json
import ApiShape.Normalize.Document
import ApiShape.Pointer.Datum
import ApiShape.Proofs.Normalize.Layer
import ApiShape.Proofs.Normalize.Steps
import ApiShape.Proofs.Node.Normal
import ApiShape.Proofs.Node.Nested
import ApiShape.Proofs.Normalize.Document
import ApiShape.Proofs.Node.Interpretation
import ApiShape.Proofs.Normalize.Alternatives
import ApiShape.Proofs.Normalize.Nullable
import ApiShape.Proofs.Normalize.Simplified
import ApiShape.Proofs.Normalize.WellFormed
import ApiShape.Proofs.Graph.Dependencies
import ApiShape.Proofs.Graph.Inlining
import ApiShape.Proofs.Graph.Meaning
import ApiShape.Proofs.Graph.Cycles
import ApiShape.Proofs.Text.Utf8
import ApiShape.Proofs.Text.Percent
import ApiShape.Proofs.Text.Blank
import ApiShape.Proofs.Pointer.Segments
import ApiShape.Proofs.Document.Places
import ApiShape.Proofs.Document.SchemaNames
import ApiShape.Proofs.Normalize.Building
import ApiShape.Proofs.Normalize.References
import ApiShape.Proofs.Document.Ancestors
import ApiShape.Proofs.Node.Conjuncts
import ApiShape.Proofs.Document.DistinctNames
import ApiShape.Proofs.Normalize.Inherited
import ApiShape.Proofs.Document.Reading
import ApiShape.Proofs.Source.Reader
import ApiShape.Proofs.Graph.Recursion
import ApiShape.Proofs.Alongside.Pairing
import ApiShape.Proofs.Alongside.Schema
import ApiShape.Proofs.Normalize.NullSpellings
import ApiShape.Proofs.Document.Revised
import ApiShape.Proofs.Node.Undocumented
import ApiShape.Proofs.Normalize.Undocumented
import ApiShape.Proofs.Document.ComponentNames
import ApiShape.Proofs.Document.Definitions
import ApiShape.Proofs.Document.OtherKinds
import ApiShape.Proofs.Normalize.Definitions
import ApiShape.Proofs.Normalize.Agreement
import ApiShape.Proofs.Normalize.Confined
import ApiShape.Proofs.Normalize.Sites
import ApiShape.Proofs.Normalize.OperationIds
import ApiShape.Proofs.Normalize.StrictIds
import ApiShape.Proofs.Normalize.Ends
import ApiShape.Proofs.Source.JsonValue
import ApiShape.Proofs.Source.JsonReader
import ApiShape.Proofs.Document.Walk
import ApiShape.Proofs.Source.Intact
import ApiShape.Proofs.Document.Intact
import ApiShape.Proofs.Normalize.KeptIds
import ApiShape.Proofs.Node.StructuralEquality
import ApiShape.Proofs.Node.Lifts
import ApiShape.Proofs.Document.DistinctKeys
import ApiShape.Proofs.Pointer.Positions
import ApiShape.Proofs.Pointer.Fragments
import ApiShape.Proofs.Document.Detours
import ApiShape.Proofs.Normalize.Locations
import ApiShape.Proofs.Normalize.SkippedValues
import ApiShape.Proofs.Node.Reordered
import ApiShape.Proofs.Document.Chains
import ApiShape.Proofs.Document.Iteration
import ApiShape.Proofs.PathTemplate
import ApiShape.Proofs.Normalize.Discriminator
import ApiShape.Proofs.Model.Responses
import ApiShape.Proofs.Normalize.Parameters
import ApiShape.Proofs.Text.Slashes
import ApiShape.Proofs.Normalize.ReferenceTexts
import ApiShape.Proofs.Normalize.Security
import ApiShape.Proofs.Normalize.Enumeration
import ApiShape.Proofs.Normalize.Keywords
import ApiShape.Proofs.Alongside.Operation
import ApiShape.Proofs.Alongside.Paths
import ApiShape.Proofs.Document.Relabelled
import ApiShape.Proofs.Normalize.Relabelled
import ApiShape.Proofs.MediaType.Ranks
import ApiShape.Proofs.Node.Serialization
import ApiShape.Proofs.Pointer.Composition
import ApiShape.Proofs.Pointer.Canonical
import ApiShape.Proofs.Text.WellFormed
import ApiShape.Proofs.Pointer.Numerals
import ApiShape.Proofs.Text.Encodings
import ApiShape.Proofs.Pointer.EncodedFragments
