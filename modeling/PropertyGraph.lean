import PropertyGraph.Access.Snapshot
import PropertyGraph.Batch.Update
import PropertyGraph.Declaration.Expansion
import PropertyGraph.Declaration.Manifest
import PropertyGraph.Graph.Label
import PropertyGraph.Sample.Model
import PropertyGraph.Settings
import PropertyGraph.TypeRef.KeyHash
import PropertyGraph.TypeRef.Map
import PropertyGraph.Proofs.Access.Run
import PropertyGraph.Proofs.Write.Plan
import PropertyGraph.Proofs.Access.Fields
import PropertyGraph.Proofs.Access.Owner
import PropertyGraph.Proofs.Batch.Fold
import PropertyGraph.Proofs.Batch.Ignored
import PropertyGraph.Proofs.Batch.Independence
import PropertyGraph.Proofs.Convert.Acceptance
import PropertyGraph.Proofs.Convert.Collections
import PropertyGraph.Proofs.Convert.Conformance
import PropertyGraph.Proofs.Convert.Optional
import PropertyGraph.Proofs.Convert.Scalars
import PropertyGraph.Proofs.Convert.Texts
import PropertyGraph.Proofs.Convert.Unchanged
import PropertyGraph.Proofs.Field.Exact
import PropertyGraph.Proofs.Graph.Layout
import PropertyGraph.Proofs.Path.Bytes
import PropertyGraph.Proofs.Path.Faults
import PropertyGraph.Proofs.Path.Rendering
import PropertyGraph.Proofs.Read.Arrival
import PropertyGraph.Proofs.Read.Blame
import PropertyGraph.Proofs.Read.Declared
import PropertyGraph.Proofs.Read.Denial
import PropertyGraph.Proofs.Read.Frame
import PropertyGraph.Proofs.Read.Onward
import PropertyGraph.Proofs.Registry.PathIndex
import PropertyGraph.Proofs.Write.Aliases
import PropertyGraph.Proofs.Write.Composition
import PropertyGraph.Proofs.Write.Descent
import PropertyGraph.Proofs.Write.Echo
import PropertyGraph.Proofs.Write.Extension
import PropertyGraph.Proofs.Write.Failure
import PropertyGraph.Proofs.Write.Foretold
import PropertyGraph.Proofs.Write.Grow
import PropertyGraph.Proofs.Write.Lengthening
import PropertyGraph.Proofs.Write.Navigation
import PropertyGraph.Proofs.Write.OneCell
import PropertyGraph.Proofs.Write.ReadBack
import PropertyGraph.Proofs.Write.Sharing
import PropertyGraph.Proofs.Write.Suggestions
import PropertyGraph.Proofs.Declaration.Table
import PropertyGraph.Proofs.Declaration.Variants
import PropertyGraph.Proofs.Write.Guards
import PropertyGraph.Proofs.Name.Suggestion
import PropertyGraph.Proofs.Registry.PropertyTable
import PropertyGraph.Proofs.TypeRef.KeyHash
import PropertyGraph.Proofs.Batch.Order
import PropertyGraph.Proofs.Declaration.CratePath
