import Ensemble.Document.Reader
import Ensemble.Schema.Document
import Ensemble.Rules.Document
import Ensemble.Cluster.Finder
import Ensemble.Proofs.Condition.Symmetry
import Ensemble.Proofs.Condition.Verdict
import Ensemble.Proofs.Value.Float
import Ensemble.Proofs.Catalog.Ids
import Ensemble.Proofs.Clique.Graph
import Ensemble.Proofs.Clique.Search
import Ensemble.Proofs.Pairing.Pairs
import Ensemble.Proofs.Cluster.Order
import Ensemble.Proofs.Clique.IndexSet
import Ensemble.Proofs.Cluster.Sets
import Ensemble.Proofs.Cluster.Compatibility
import Ensemble.Proofs.Cluster.Search
import Ensemble.Proofs.Rules
import Ensemble.Proofs.Cluster.Listing
import Ensemble.Proofs.Cluster.Validity
import Ensemble.Proofs.Cluster.Growth
import Ensemble.Proofs.Cluster.Judgement
import Ensemble.Proofs.Schema.Acceptance
import Ensemble.Proofs.Condition.Leaves
import Ensemble.Proofs.Condition.Soundness
import Ensemble.Proofs.Pairing.Matrix
import Ensemble.Proofs.Cluster.Safety
import Ensemble.Proofs.Cluster.Failures
import Ensemble.Proofs.Cluster.Matrix
import Ensemble.Proofs.Value.Extremes
import Ensemble.Proofs.Condition.Reordering
import Ensemble.Proofs.Catalog.Building
import Ensemble.Proofs.Cluster.Report
import Ensemble.Proofs.Cluster.Records
import Ensemble.Proofs.Cluster.Cancellation
import Ensemble.Proofs.Cluster.Truncation
import Ensemble.Proofs.Cluster.InsertionOrder
import Ensemble.Proofs.Pairing.Failures
import Ensemble.Proofs.Cluster.SizeRules
import Ensemble.Proofs.Condition.Parameters
import Ensemble.Proofs.Condition.Grammar
import Ensemble.Proofs.Condition.Footprint
import Ensemble.Proofs.Value.Packing
import Ensemble.Proofs.Value.Sameness
import Ensemble.Proofs.Catalog.History
import Ensemble.Proofs.Condition.Reachability
import Ensemble.Proofs.Value.Units
import Ensemble.Proofs.Value.Rounding
import Ensemble.Proofs.Document.Record
import Ensemble.Proofs.Value.Document
import Ensemble.Proofs.Schema.DimensionForm
import Ensemble.Proofs.Schema.RoundTrip
import Ensemble.Proofs.Schema.Bounds
import Ensemble.Proofs.Pairing.Routing
import Ensemble.Proofs.Clique.Enumeration
import Ensemble.Proofs.Condition.Duality
import Ensemble.Proofs.Cluster.Decision
import Ensemble.Proofs.Condition.Location
import Ensemble.Proofs.Schema.Violations
import Ensemble.Proofs.Value.Heights
import Ensemble.Proofs.Schema.Coverage
import Ensemble.Proofs.Schema.Flattening
import Ensemble.Proofs.Condition.Layering
import Ensemble.Proofs.Schema.Vocabulary
import Ensemble.Proofs.Catalog.Rejections
import Ensemble.Proofs.Pairing.Validation
import Ensemble.Proofs.Clique.Degrees
import Ensemble.Proofs.Cluster.Relationships
import Ensemble.Proofs.Condition.Uniqueness
import Ensemble.Proofs.Value.Distance
import Ensemble.Proofs.Condition.Spread
import Ensemble.Proofs.Error.Recording
import Ensemble.Proofs.Rules.Compiling
import Ensemble.Proofs.Value.Order
import Ensemble.Proofs.Value.Quotient
import Ensemble.Proofs.Pairing.Document
import Ensemble.Proofs.Cluster.Document
