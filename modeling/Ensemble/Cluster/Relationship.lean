import Ensemble.Clique.IndexSet
import Ensemble.Document.Record
import Ensemble.Pairing.Pairs

/-!
# Relationships between clusters

Two clusters of a list are related if they share an item.  They are named by their positions.
-/

namespace Ensemble

/-- How a cluster lies to a related one. -/
inductive RelationshipKind where
  /-- It is properly contained in the other. -/
  | subset
  /-- It properly contains the other. -/
  | superset
  /-- Neither. -/
  | overlap
  deriving DecidableEq, Repr

namespace RelationshipKind

/-- The name used in documents. -/
def name : RelationshipKind → String
  | .subset => "subset"
  | .superset => "superset"
  | .overlap => "overlap"

/-- The kind with a name. -/
def ofName? : String → Option RelationshipKind
  | "subset" => some .subset
  | "superset" => some .superset
  | "overlap" => some .overlap
  | _ => none

/-- The kind for two sizes and the number of shared items. -/
def ofSizes (size other shared : Nat) : RelationshipKind :=
  if shared = size ∧ size < other then .subset
  else if shared = other ∧ other < size then .superset
  else .overlap

end RelationshipKind

/-- Two clusters that share items. -/
structure Relationship where
  /-- The position of the earlier cluster. -/
  cluster : Nat
  /-- The position of the later cluster. -/
  related : Nat
  kind : RelationshipKind
  /-- The number of shared items. -/
  shared : Nat
  deriving DecidableEq, Repr

namespace Relationship

/-- The relationship of two sets at given positions, if they share a member. -/
def ofSets? (a b : IndexSet × Nat) : Option Relationship :=
  let shared := (a.1.inter b.1).size
  if shared = 0 then none
  else some ⟨a.2, b.2, .ofSizes a.1.size b.1.size shared, shared⟩

/-- The relationships of the sets of a list, in the order of the positions. -/
def all (sets : List IndexSet) : List Relationship :=
  (pairsOf sets.zipIdx).filterMap fun (a, b) => ofSets? a b

/-! ## Documents -/

/-- The document of a relationship. -/
def toDocument (r : Relationship) : Document :=
  Document.ofFields
    [("cluster_id", .ofNat r.cluster), ("related_cluster_id", .ofNat r.related),
     ("relationship_type", .text r.kind.name), ("overlap_size", .ofNat r.shared)]

namespace Field

/-- The position of the earlier cluster. -/
def cluster : Field Nat := .required "cluster_id" Document.toCount

/-- The position of the later cluster. -/
def related : Field Nat := .required "related_cluster_id" Document.toCount

/-- The kind. -/
def kind : Field RelationshipKind :=
  .required "relationship_type" (Document.toVariant RelationshipKind.ofName?)

/-- The number of shared items. -/
def shared : Field Nat := .required "overlap_size" Document.toCount

end Field

/-- The relationship that a document holds. -/
def ofDocument (d : Document) : Except Fault Relationship := do
  let fields ← Record.read .ignored
    [Field.cluster.check, Field.related.check, Field.kind.check, Field.shared.check] d
  return {
    cluster := ← Field.cluster.of fields
    related := ← Field.related.of fields
    kind := ← Field.kind.of fields
    shared := ← Field.shared.of fields }

end Relationship

end Ensemble
