import Ensemble.Clique.Search
import Ensemble.Cluster.Analysis
import Ensemble.Cluster.Limits
import Ensemble.Pairing.Matcher

/-!
# Finding clusters

The valid clusters of a catalog are the cliques of the graph of compatible pairs that have an
allowed size and pass the cluster rules.  `analyze` searches all of them; `evaluateSet` judges a set
that is given.
-/

namespace Ensemble

/-- A catalog with the rules that its clusters have to satisfy. -/
structure ClusterFinder where
  catalog : Catalog
  matcher : Matcher
  rules : ClusterRules
  config : SearchConfig
  /-- The pairs are compared under the schema of the catalog. -/
  schema_eq : matcher.schema = catalog.schema
  /-- The cluster rules can read the schema, and their sizes are in order. -/
  bound : rules.bind catalog.schema = .ok ()

namespace ClusterFinder

/-- Binds rules to the schema of a catalog. -/
def bind (catalog : Catalog) (pairRules : PairRules) (rules : ClusterRules)
    (config : SearchConfig) : Except Error ClusterFinder :=
  match hp : pairRules.bind catalog.schema with
  | .error e => .error e
  | .ok () =>
    match h : rules.bind catalog.schema with
    | .error e => .error e
    | .ok () =>
      .ok ⟨catalog, ⟨pairRules, catalog.schema, Clock.source ⟨0⟩, hp⟩, rules, config, rfl, h⟩

/-- The least and the greatest size of a cluster. -/
def sizeBounds (finder : ClusterFinder) : Except Error (Nat × Nat) :=
  finder.config.sizeBounds finder.rules finder.catalog.size

/-! ## Sets of items -/

/-- The items of a set, in catalog order. -/
def members (finder : ClusterFinder) (s : IndexSet) : List Item :=
  s.members.filterMap (finder.catalog.items[·]?)

/-- The ids of a set, in ascending order. -/
def sortedIds (finder : ClusterFinder) (s : IndexSet) : List ItemId :=
  ItemId.sorted ((finder.members s).map (·.id))

/-- The set in words. -/
def describe (finder : ClusterFinder) (s : IndexSet) : String :=
  "cluster [" ++ ", ".intercalate ((finder.sortedIds s).map (·.text)) ++ "]"

/-- Whether a set passes every cluster rule. -/
def passes (finder : ClusterFinder) (s : IndexSet) : Except Error Bool :=
  (finder.rules.passes (finder.members s)).mapError (·.inFrame (finder.describe s))

/-- What the cluster rules say about a set. -/
def evaluateRules (finder : ClusterFinder) (s : IndexSet) : Except Error (List RuleEvaluation) :=
  (finder.rules.evaluate (finder.members s)).mapError (·.inFrame (finder.describe s))

/-- Whether no candidate can be added to a set of fewer than `max` items. -/
def isMaximal (finder : ClusterFinder) (s : IndexSet) (max : Nat) (candidates : IndexSet) :
    Except Error Bool :=
  if s.size ≥ max then .ok true else go candidates.members
where
  /-- Whether no index of a list can be added. -/
  go : List Nat → Except Error Bool
    | [] => .ok true
    | i :: rest => do
      if ← finder.passes (s.insert i) then return false else go rest

/-! ## Searching -/

/-- The graph of compatible pairs. -/
def graph (finder : ClusterFinder) : Except Error Graph :=
  (pairsOf finder.catalog.items.zipIdx).foldlM
    (fun g ((a, i), (b, j)) => do
      if ← finder.matcher.passes a b then return g.addEdge (i, j) else return g)
    (.edgeless finder.catalog.size)

/-- The search for the cliques that pass the cluster rules.  Its state counts the polls. -/
def search (finder : ClusterFinder) (graph : Graph) (min max : Nat) (cancel : Cancellation) :
    Search (StateT Nat (Except Error)) where
  graph := graph
  min := min
  max := max
  poll := modifyGet fun polls => (cancel.answer polls, polls + 1)
  accept s := finder.passes s

/-- Larger sets come first, and sets of one size in the lexicographic order of their ids. -/
def precedes (a b : List ItemId) : Bool :=
  a.length > b.length || (a.length == b.length && lexLe a b)
where
  /-- Whether ids do not come after others in lexicographic order. -/
  lexLe : List ItemId → List ItemId → Bool
    | [], _ => true
    | _ :: _, [] => false
    | a :: as, b :: bs => if a = b then lexLe as bs else decide (a.text < b.text)

/-- The sets in the order in which they are reported. -/
def sortSets (finder : ClusterFinder) (sets : List IndexSet) : List IndexSet :=
  ((sets.map fun s => (finder.sortedIds s, s)).mergeSort fun a b => precedes a.1 b.1).map (·.2)

/-- The record of a set that the search has found. -/
def clusterOf (finder : ClusterFinder) (graph : Graph) (max : Nat) (s : IndexSet) :
    Except Error Cluster := do
  let evaluations ← finder.evaluateRules s
  let isMaximum ← finder.isMaximal s max (graph.commonNeighbors s)
  return ⟨finder.sortedIds s, s.size, evaluations, true, isMaximum⟩

/-- Finds the clusters, until the search is stopped. -/
def analyzeWith (finder : ClusterFinder) (cancel : Cancellation) :
    Except Error ClusterAnalysis := do
  let (min, max) ← finder.sizeBounds
  let graph ← finder.graph
  let result ← (finder.search graph min max cancel).run.run' 0
  let sorted := finder.sortSets result.found
  let (sets, truncated) := match finder.config.maxClusters with
    | some cap => (sorted.take cap, decide (sorted.length > cap))
    | none => (sorted, false)
  let clusters ← sets.mapM (finder.clusterOf graph max)
  return {
    catalog := finder.catalog.name
    pairRules := finder.matcher.rules.name
    clusterRules := finder.rules.name
    clusters
    relationships := Relationship.all sets
    totals := .ofSets finder.catalog.size sets
    truncated
    cancelled := result.cancelled }

/-- Finds all clusters. -/
def analyze (finder : ClusterFinder) : Except Error ClusterAnalysis := finder.analyzeWith .never

/-! ## Judging a set -/

/-- The set of items with the given ids. -/
def indicesOf (finder : ClusterFinder) (ids : List ItemId) : Except Error IndexSet :=
  ids.foldlM
    (fun s id => match finder.catalog.indexOf? id with
      | some i => .ok (s.insert i)
      | none => .error (Cause.unknownItem id.text))
    (.empty finder.catalog.size)

/-- The pairs of members that are not compatible. -/
def conflicts (finder : ClusterFinder) (s : IndexSet) : Except Error (List (Item × Item)) :=
  (pairsOf (finder.members s)).filterM fun (a, b) => do
    return !(← finder.matcher.passes a b)

/-- The evaluation that says whether all members are compatible. -/
def pairEvaluation (size : Nat) (conflicts : List (Item × Item)) : RuleEvaluation where
  ruleName := "pairwise_compatibility"
  passed := conflicts.isEmpty
  reason :=
    if conflicts.isEmpty then "all " ++ toString (size * (size - 1) / 2) ++ " pairs compatible"
    else "incompatible: " ++ "; ".intercalate
      (conflicts.map fun (a, b) => a.id.text ++ " and " ++ b.id.text)

/-- The evaluation that says whether a set has an allowed size. -/
def sizeEvaluation (size min max : Nat) : RuleEvaluation where
  ruleName := "cluster_size"
  passed := min ≤ size && size ≤ max
  reason :=
    "size " ++ toString size ++ ", allowed " ++ toString min ++ "..=" ++ toString max

/-- Whether an item is compatible with all of a list. -/
def compatibleWithAll (finder : ClusterFinder) (item : Item) : List Item → Except Error Bool
  | [] => .ok true
  | other :: rest => do
    if ← finder.matcher.passes item other then finder.compatibleWithAll item rest
    else return false

/-- The items outside a set that are compatible with all its members. -/
def candidates (finder : ClusterFinder) (s : IndexSet) : Except Error IndexSet :=
  finder.catalog.items.zipIdx.foldlM
    (fun found (item, i) => do
      if s.contains i then return found
      if ← finder.compatibleWithAll item (finder.members s) then return found.insert i
      return found)
    (.empty finder.catalog.size)

/-- Judges the set of items with the given ids. -/
def evaluateSet (finder : ClusterFinder) (ids : List ItemId) : Except Error Cluster := do
  let (min, max) ← finder.sizeBounds
  let s ← finder.indicesOf ids
  let conflicts ← finder.conflicts s
  let ruleEvaluations ← finder.evaluateRules s
  let evaluations :=
    pairEvaluation s.size conflicts :: sizeEvaluation s.size min max :: ruleEvaluations
  let isValid := RuleEvaluation.allPassed evaluations
  let isMaximum ←
    if isValid then do finder.isMaximal s max (← finder.candidates s) else pure false
  return ⟨finder.sortedIds s, s.size, evaluations, isValid, isMaximum⟩

end ClusterFinder

end Ensemble
