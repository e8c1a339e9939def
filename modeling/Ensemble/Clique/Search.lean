import Ensemble.Clique.Graph

/-!
# Searching cliques

The search visits the cliques of a graph one after the other, in lexicographic order of their
ascending members.  A clique is extended by the later vertices that are neighbours of all its
members, unless it is as large as allowed already, or too few vertices are left to make it large
enough.  Before each visit the search asks whether it should stop.
-/

namespace Ensemble

/-- What a search looks for, and what it asks while it runs. -/
structure Search (m : Type → Type) where
  graph : Graph
  /-- The least size of a clique to find. -/
  min : Nat
  /-- The greatest size of a clique. -/
  max : Nat
  /-- Whether to stop. -/
  poll : m Bool
  /-- Whether a clique of the right size is wanted. -/
  accept : IndexSet → m Bool

/-- What a search, or a part of it, has done. -/
structure SearchResult where
  /-- The wanted cliques, in the order of the visits. -/
  found : List IndexSet
  /-- The number of visits. -/
  explored : Nat
  /-- Whether the search was stopped. -/
  cancelled : Bool

namespace SearchResult

/-- Nothing was done. -/
def none : SearchResult := ⟨[], 0, false⟩

/-- The search was stopped. -/
def stopped : SearchResult := ⟨[], 0, true⟩

/-- One part of a search and the part that follows it. -/
def append (a b : SearchResult) : SearchResult :=
  ⟨a.found ++ b.found, a.explored + b.explored, a.cancelled || b.cancelled⟩

instance : Append SearchResult := ⟨append⟩

end SearchResult

namespace Search

variable {m : Type → Type} [Monad m]

/-- Visits a clique: whether it is wanted. -/
def visit (search : Search m) (clique : IndexSet) : m SearchResult := do
  if clique.size ≥ Nat.max search.min 1 then
    if ← search.accept clique then return ⟨[clique], 1, false⟩
  return ⟨[], 1, false⟩

/-- Whether a clique can be extended by some of the candidates to one of an allowed size. -/
def extends? (search : Search m) (clique : IndexSet) (candidates : List Nat) : Bool :=
  clique.size < search.max && clique.size + candidates.length ≥ Nat.max search.min 1

/-- Runs the part of a search that comes after another part, unless that one was stopped. -/
def andThen (a : SearchResult) (next : m SearchResult) : m SearchResult :=
  if a.cancelled then return a else return a ++ (← next)

/-- The candidates that are left when a clique is extended by a vertex. -/
def candidates (search : Search m) (v : Nat) (later : List Nat) : List Nat :=
  later.filter (search.graph.adjacent v)

omit [Monad m] in
theorem length_candidates_le {search : Search m} {v : Nat} {later : List Nat} :
    (search.candidates v later).length ≤ later.length :=
  List.length_filter_le ..

/-- Searches the extensions of a clique by candidates.  The candidates ascend and are neighbours of
all members. -/
def extensions (search : Search m) (clique : IndexSet) : List Nat → m SearchResult
  | [] => return .none
  | v :: later => do
    if ← search.poll then return .stopped
    let extended := clique.insert v
    let candidates := search.candidates v later
    let visited ← search.visit extended
    let first ← if search.extends? extended candidates then
        andThen visited (search.extensions extended candidates)
      else pure visited
    andThen first (search.extensions clique later)
termination_by candidates => candidates.length
decreasing_by
  · exact Nat.lt_succ_self _
  · exact Nat.lt_succ_of_le search.length_candidates_le

/-- Searches the whole graph. -/
def run (search : Search m) : m SearchResult :=
  if search.max > 0 then
    search.extensions (.empty search.graph.size) (List.range search.graph.size)
  else return .none

end Search

end Ensemble
