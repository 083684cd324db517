import Stencil.Service.Answer
import Stencil.Keys.Workshop
import Stencil.Proofs.Association
import Stencil.Proofs.Text.Pieces
import Stencil.Proofs.Text.Trimming
import Stencil.Proofs.Template.Reference
import Stencil.Proofs.Template.Grammar
import Stencil.Proofs.Template.Concatenation
import Stencil.Proofs.Template.Source
import Stencil.Proofs.Template.Canonical
import Stencil.Proofs.Template.Malformed
import Stencil.Proofs.Value.Document
import Stencil.Proofs.Value.Correspondence
import Stencil.Proofs.Value.Leaf
import Stencil.Proofs.Value.Record
import Stencil.Proofs.Value.Failure
import Stencil.Proofs.Pipe.Correspondence
import Stencil.Proofs.Pipe.Failure
import Stencil.Proofs.Pipe.Registration
import Stencil.Proofs.Pipe.Cutting
import Stencil.Proofs.Pipe.Selection
import Stencil.Proofs.Evaluation.DocumentNode
import Stencil.Proofs.Evaluation.UnknownPipe
import Stencil.Proofs.Evaluation.Lookup
import Stencil.Proofs.Evaluation.Footprint
import Stencil.Proofs.Evaluation.Extension
import Stencil.Proofs.Evaluation.Argument
import Stencil.Proofs.Evaluation.Padding
import Stencil.Proofs.Config.Building
import Stencil.Proofs.Config.Construction
import Stencil.Proofs.Document.Reading
import Stencil.Proofs.Path.Composition
import Stencil.Proofs.Path.Records
import Stencil.Proofs.Config.Cycle
import Stencil.Proofs.Config.Meaning
import Stencil.Proofs.Delegation.Walk
import Stencil.Proofs.Keys.Label
import Stencil.Proofs.Keys.Workshop
import Stencil.Proofs.Keys.Search
import Stencil.Proofs.Keys.Update
import Stencil.Proofs.Service.Rendering
import Stencil.Proofs.Number.Lenient
import Stencil.Proofs.Pipe.LeafNode
import Stencil.Proofs.Document.Fingerprint
import Stencil.Proofs.Evaluation.LeafNode
import Stencil.Proofs.Number.Range
import Stencil.Proofs.Number.Rounding
import Stencil.Proofs.Pipe.Numeric
import Stencil.Proofs.Text.Joining
import Stencil.Proofs.Text.Separator
import Stencil.Proofs.Text.Classes
import Stencil.Proofs.Number.Whole
import Stencil.Proofs.Path.Fields
import Stencil.Proofs.Path.Refusal
import Stencil.Proofs.Query.Fields
import Stencil.Proofs.Calendar.Pattern
import Stencil.Proofs.Calendar.DayNumber
import Stencil.Proofs.Pipe.Splitting
import Stencil.Proofs.Pipe.Refusal
import Stencil.Proofs.Pipe.Temporal
