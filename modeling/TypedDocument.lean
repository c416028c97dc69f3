import TypedDocument.CommandLine.Table
import TypedDocument.Main
import TypedDocument.Proofs.Conversion.Candidates
import TypedDocument.Proofs.Conversion.RoundTrip
import TypedDocument.Proofs.Converter.SchemaConversion
import TypedDocument.View
import TypedDocument.Proofs.Validation.Overlay
import TypedDocument.Proofs.Regex.Matching
import TypedDocument.Proofs.Regex.Words
import TypedDocument.Proofs.JsonSchema.Keywords
import TypedDocument.Proofs.JsonSchema.Acceptance
import TypedDocument.Proofs.Reordering.Basic
import TypedDocument.Proofs.Reordering.Json
import TypedDocument.Proofs.Reordering.Decoding
import TypedDocument.Proofs.Declaration.Reading
import TypedDocument.Proofs.Declaration.Options
import TypedDocument.Proofs.Reordering.Reading
import TypedDocument.Proofs.Path.Moves
import TypedDocument.Proofs.Converter.Renames
import TypedDocument.Proofs.Declaration.Declared
import TypedDocument.Proofs.Declaration.Soundness
import TypedDocument.Proofs.Declaration.Defaults
import TypedDocument.Proofs.Declaration.Described
import TypedDocument.Proofs.Declaration.RoundTrip
import TypedDocument.Proofs.Validation.Outline
import TypedDocument.Proofs.Conversion.Decodable
import TypedDocument.Proofs.Declaration.Revalidation
import TypedDocument.Proofs.JsonSchema.Members
import TypedDocument.Proofs.Converter.Pruning
import TypedDocument.Proofs.Converter.Exclusion
import TypedDocument.Proofs.Converter.Return
import TypedDocument.Proofs.Reordering.Validation
import TypedDocument.Proofs.Validation.Thinning
import TypedDocument.Proofs.Declaration.Parts
import TypedDocument.Proofs.Reordering.Schema
import TypedDocument.Proofs.Declaration.Recognition
import TypedDocument.Proofs.Schema.Creation
import TypedDocument.Proofs.Path.Writing
import TypedDocument.Proofs.Path.Failure
import TypedDocument.Proofs.Schema.Numbering
import TypedDocument.Proofs.View
import TypedDocument.Proofs.Path.Deleting
import TypedDocument.Proofs.Path.Overlaying
import TypedDocument.Proofs.Path.Preorder
import TypedDocument.Proofs.Path.Addressing
import TypedDocument.Proofs.Schema.Merging
import TypedDocument.Proofs.Calendar.UsualForm
import TypedDocument.Proofs.Validation.FirstOffence
import TypedDocument.Proofs.Conversion.Faults
import TypedDocument.Proofs.Field.Presets
import TypedDocument.Proofs.Number.Nearest
import TypedDocument.Proofs.Document.Correspondence
import TypedDocument.Proofs.Declaration.Location
