import Ensemble.Cluster.Basic
import Ensemble.Cluster.Relationship

/-!
# Analyses

An analysis lists the clusters of a catalog, how they are related, and a few totals.
-/

namespace Ensemble

/-- Totals over the clusters of a list. -/
structure ClusterTotals where
  clusters : Nat
  /-- The greatest size; zero when there are no clusters. -/
  maxSize : Nat
  /-- The mean size; zero when there are no clusters. -/
  meanSize : Float
  /-- The number of items that are in some cluster. -/
  covered : Nat
  deriving BEq

namespace ClusterTotals

/-- The totals of the given sets. -/
def ofSets (capacity : Nat) (sets : List IndexSet) : ClusterTotals :=
  let sizes := sets.map IndexSet.size
  { clusters := sets.length
    maxSize := sizes.foldl Nat.max 0
    meanSize :=
      if sets.isEmpty then 0
      else Float.ofNat (sizes.foldl (· + ·) 0) / Float.ofNat sets.length
    covered := (sets.foldl IndexSet.union (.empty capacity)).size }

end ClusterTotals

/-- The clusters of a catalog. -/
structure ClusterAnalysis where
  catalog : String
  pairRules : String
  clusterRules : String
  clusters : List Cluster
  relationships : List Relationship
  totals : ClusterTotals
  /-- Whether there were more clusters than were asked for. -/
  truncated : Bool
  /-- Whether the search was stopped before its end. -/
  cancelled : Bool
  deriving BEq

namespace ClusterAnalysis

/-- The clusters that cannot grow. -/
def maximalClusters (analysis : ClusterAnalysis) : List Cluster :=
  analysis.clusters.filter (·.isMaximum)

/-! ## Documents -/

/-- The document of an analysis. -/
def toDocument (analysis : ClusterAnalysis) : Document :=
  Document.ofFields
    [("catalog", .text analysis.catalog), ("ruleset", .text analysis.pairRules),
     ("cluster_ruleset", .text analysis.clusterRules),
     ("clusters", .array (analysis.clusters.map Cluster.toDocument)),
     ("relationships", .array (analysis.relationships.map Relationship.toDocument)),
     ("total_clusters", .ofNat analysis.totals.clusters),
     ("max_cluster_size", .ofNat analysis.totals.maxSize),
     ("avg_cluster_size", .ofFloat analysis.totals.meanSize),
     ("total_items_covered", .ofNat analysis.totals.covered),
     ("truncated", .bool analysis.truncated), ("cancelled", .bool analysis.cancelled)]

namespace Field

/-- The name of the catalog. -/
def catalog : Field String := .required "catalog" Document.toText

/-- The name of the rules about pairs. -/
def pairRules : Field String := .required "ruleset" Document.toText

/-- The name of the rules about clusters. -/
def clusterRules : Field String := .required "cluster_ruleset" Document.toText

/-- The clusters. -/
def clusters : Field (List Cluster) := .required "clusters" (Document.toList Cluster.ofDocument)

/-- The relationships. -/
def relationships : Field (List Relationship) :=
  .required "relationships" (Document.toList Relationship.ofDocument)

/-- The number of clusters. -/
def total : Field Nat := .required "total_clusters" Document.toCount

/-- The greatest size. -/
def maxSize : Field Nat := .required "max_cluster_size" Document.toCount

/-- The mean size. -/
def meanSize : Field Float := .required "avg_cluster_size" Document.toNumber

/-- The number of covered items. -/
def covered : Field Nat := .required "total_items_covered" Document.toCount

/-- Whether there were more clusters. -/
def truncated : Field Bool := .required "truncated" Document.toBool

/-- Whether the search was stopped. -/
def cancelled : Field Bool := .required "cancelled" Document.toBool

end Field

/-- The analysis that a document holds. -/
def ofDocument (d : Document) : Except Fault ClusterAnalysis := do
  let fields ← Record.read .ignored
    [Field.catalog.check, Field.pairRules.check, Field.clusterRules.check, Field.clusters.check,
     Field.relationships.check, Field.total.check, Field.maxSize.check, Field.meanSize.check,
     Field.covered.check, Field.truncated.check, Field.cancelled.check] d
  return {
    catalog := ← Field.catalog.of fields
    pairRules := ← Field.pairRules.of fields
    clusterRules := ← Field.clusterRules.of fields
    clusters := ← Field.clusters.of fields
    relationships := ← Field.relationships.of fields
    totals := {
      clusters := ← Field.total.of fields
      maxSize := ← Field.maxSize.of fields
      meanSize := ← Field.meanSize.of fields
      covered := ← Field.covered.of fields }
    truncated := ← Field.truncated.of fields
    cancelled := ← Field.cancelled.of fields }

end ClusterAnalysis

end Ensemble
