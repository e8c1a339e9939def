import Ensemble.Proofs.Clique.Graph
import Ensemble.Proofs.Clique.Search
import Ensemble.Proofs.Except

/-!
# Searches that are never stopped

A search that is never asked to stop is an enumeration: it passes the cliques of an allowed size to
the test, each once and in lexicographic order, and finds those that pass.  The test may have any
effect.  If it fails on a clique, the search fails with its error and tests no other clique.
-/

namespace Ensemble

namespace Search

/-! ## Uninterrupted searches -/

section

variable {m : Type → Type} [Monad m]

/-- The search that is never stopped. -/
def uninterrupted (g : Graph) (min max : Nat) (accept : IndexSet → m Bool) : Search m where
  graph := g
  min := min
  max := max
  poll := return false
  accept := accept

variable [LawfulMonad m] {search : Search m}

/-- Without a stop every clique is visited. -/
theorem visitAll_of_never (hpoll : search.poll = return false) (sets : List IndexSet) :
    search.visitAll sets = do
      let found ← sets.filterM search.finds
      return ⟨found, sets.length, false⟩ := by
  induction sets with
  | nil => simp [visitAll, filterM_nil, SearchResult.none]
  | cons s sets ih =>
    rw [visitAll, hpoll, pure_bind, if_neg Bool.false_ne_true, visit_eq, filterM_cons, bind_assoc,
      bind_assoc]
    refine congrArg _ (funext fun found => ?_)
    rw [pure_bind, andThen_of_running rfl, ih, map_bind, bind_assoc]
    refine congrArg _ (funext fun rest => ?_)
    rw [map_pure, pure_bind]
    refine congrArg pure ?_
    show SearchResult.append _ _ = _
    cases found <;> simp [SearchResult.append, Nat.add_comm 1]

/-- The sets that are large enough to be tested. -/
def tests (min : Nat) (sets : List IndexSet) : List IndexSet :=
  sets.filter fun s => s.size ≥ Nat.max min 1

theorem filterM_finds {g : Graph} {min max : Nat} {accept : IndexSet → m Bool}
    (sets : List IndexSet) :
    sets.filterM (uninterrupted g min max accept).finds = (tests min sets).filterM accept := by
  rw [tests, ← filterM_filter (q := fun s => decide (s.size ≥ Nat.max min 1))]
  · refine filterM_congr fun s hs => ?_
    have hsize : s.size ≥ Nat.max min 1 := of_decide_eq_true (List.mem_filter.1 hs).2
    exact if_pos hsize
  · exact fun s _ hsmall => if_neg (of_decide_eq_false hsmall)

end

/-! ## Recorded tests -/

section

variable {ε : Type} {accept : IndexSet → Except ε Bool} {sets asked : List IndexSet}

/-- A test that is noted. -/
def recorded (accept : IndexSet → Except ε Bool) (s : IndexSet) :
    Tracked (List IndexSet) ε Bool :=
  ExceptT.mk do
    modify (· ++ [s])
    return accept s

theorem outcome_recorded (s : IndexSet) :
    (recorded accept s).outcome asked = (accept s, asked ++ [s]) := rfl

/-- A selection by a test that never fails tests every set. -/
theorem outcome_filterM_ok {approved : IndexSet → Bool}
    (h : ∀ s ∈ sets, accept s = .ok (approved s)) (asked : List IndexSet) :
    Tracked.outcome (sets.filterM (recorded accept)) asked
      = (.ok (sets.filter approved), asked ++ sets) := by
  induction sets generalizing asked with
  | nil =>
    rw [filterM_nil, Tracked.outcome_pure, List.append_nil, List.filter_nil]
  | cons s sets ih =>
    obtain ⟨hs, hsets⟩ := List.forall_mem_cons.1 h
    rw [filterM_cons, Tracked.outcome_bind, outcome_recorded, hs]
    dsimp only
    rw [Tracked.outcome_bind, ih hsets]
    dsimp only
    rw [Tracked.outcome_pure, List.append_assoc, List.filter_cons]
    rfl

/-- A selection by a test that fails ends with the first set that it fails on. -/
theorem outcome_filterM_error {before after : List IndexSet} {s : IndexSet} {e : ε}
    (hbefore : ∀ t ∈ before, ∃ b, accept t = .ok b) (hs : accept s = .error e)
    (asked : List IndexSet) :
    Tracked.outcome ((before ++ s :: after).filterM (recorded accept)) asked
      = (.error e, asked ++ (before ++ [s])) := by
  induction before generalizing asked with
  | nil =>
    rw [List.nil_append, filterM_cons, Tracked.outcome_bind, outcome_recorded, hs]
    rfl
  | cons t before ih =>
    obtain ⟨⟨b, hb⟩, hrest⟩ := List.forall_mem_cons.1 hbefore
    rw [List.cons_append, filterM_cons, Tracked.outcome_bind, outcome_recorded, hb]
    dsimp only
    rw [Tracked.outcome_bind, ih hrest, List.append_assoc]
    rfl

end

/-! ## Enumeration -/

section

variable {m : Type → Type} [Monad m] [LawfulMonad m] {g : Graph} {min max : Nat}

/-- The sets of indices are the cliques of a graph of an allowed size, in lexicographic order. -/
structure Enumerates (g : Graph) (min max : Nat) (sets : List IndexSet) : Prop where
  /-- The members of a set come before those of its extensions. -/
  lexicographic : sets.Pairwise fun a b => a.members < b.members
  mem : ∀ s, s ∈ sets ↔ s.capacity = g.size ∧ s.Within g.size ∧
    (∀ i ∈ s.members, ∀ j ∈ s.members, i ≠ j → g.adjacent i j = true) ∧
    Nat.max min 1 ≤ s.size ∧ s.size ≤ max

/-- The cliques that a search visits if it is never stopped. -/
def visited (g : Graph) (min max : Nat) : List IndexSet :=
  (uninterrupted (m := Id) g min max fun _ => return false).allNodes

/-- The cliques that a search tests if it is never stopped. -/
def cliques (g : Graph) (min max : Nat) : List IndexSet :=
  (visited g min max).filter fun s => s.size ≥ Nat.max min 1

theorem enumerates_cliques (g : Graph) (min max : Nat) :
    Enumerates g min max (cliques g min max) where
  lexicographic := pairwise_allNodes.filter _
  mem := fun s => by
    unfold cliques visited
    rw [List.mem_filter, decide_eq_true_iff]
    constructor
    · rintro ⟨hs, hmin⟩
      obtain ⟨hcapacity, hwithin, hclique, hmax⟩ := (mem_allNodes_iff hmin).1 hs
      exact ⟨hcapacity, hwithin, Graph.clique_iff.1 hclique, hmin, hmax⟩
    · rintro ⟨hcapacity, hwithin, hclique, hmin, hmax⟩
      exact ⟨(mem_allNodes_iff hmin).2 ⟨hcapacity, hwithin, Graph.clique_iff.2 hclique, hmax⟩, hmin⟩

theorem run_uninterrupted (accept : IndexSet → m Bool) :
    (uninterrupted g min max accept).run = do
      let found ← (cliques g min max).filterM accept
      return ⟨found, (visited g min max).length, false⟩ := by
  have hnodes : (uninterrupted g min max accept).allNodes = visited g min max :=
    allNodes_congr rfl rfl rfl
  rw [run_eq_visitAll, visitAll_of_never rfl, hnodes, filterM_finds]
  rfl

/-- What a search that is never stopped gives, and the sets that it tests. -/
def runRecorded {ε : Type} (g : Graph) (min max : Nat) (accept : IndexSet → Except ε Bool) :
    Except ε SearchResult × List IndexSet :=
  Tracked.outcome (uninterrupted g min max (recorded accept)).run []

/-- A search that is never stopped tests the cliques of an allowed size one after the other, in
lexicographic order, whatever effects the test has.  If the test never fails, every clique is tested
once and those that pass are found; otherwise the search fails as the test does on the first clique
on which it fails. -/
theorem enumeration_exact (g : Graph) (min max : Nat) :
    Enumerates g min max (cliques g min max)
      ∧ (∀ {m : Type → Type} [Monad m] [LawfulMonad m] (accept : IndexSet → m Bool),
          (uninterrupted g min max accept).run = do
            let found ← (cliques g min max).filterM accept
            return ⟨found, (visited g min max).length, false⟩)
      ∧ ∀ {ε : Type} (accept : IndexSet → Except ε Bool),
          (∀ approved : IndexSet → Bool,
            (∀ s ∈ cliques g min max, accept s = .ok (approved s)) →
            runRecorded g min max accept
              = (.ok ⟨(cliques g min max).filter approved, (visited g min max).length, false⟩,
                  cliques g min max))
          ∧ ∀ before s after e, cliques g min max = before ++ s :: after →
              (∀ t ∈ before, ∃ b, accept t = .ok b) → accept s = .error e →
              runRecorded g min max accept = (.error e, before ++ [s]) := by
  refine ⟨enumerates_cliques g min max, fun accept => run_uninterrupted accept,
    fun accept => ⟨fun approved happroved => ?_, fun before s after e hsets hbefore hs => ?_⟩⟩
  · rw [runRecorded, run_uninterrupted, Tracked.outcome_bind, outcome_filterM_ok happroved]
    rfl
  · rw [runRecorded, run_uninterrupted, Tracked.outcome_bind, hsets,
      outcome_filterM_error hbefore hs]
    rfl

end

/-- A triangle, and a vertex that is joined to one of its corners. -/
def kite : Graph := .ofEdges 4 [(0, 1), (0, 2), (1, 2), (2, 3)]

/-- A search of the kite that wants edges only tests the triangle as well, and one that cannot bear
the triangle goes no further. -/
theorem enumeration_exact_kite :
    cliques kite 2 4 = [.ofList 4 [0, 1], .ofList 4 [0, 1, 2], .ofList 4 [0, 2], .ofList 4 [1, 2],
        .ofList 4 [2, 3]]
      ∧ runRecorded kite 2 4 (fun s => (.ok (s.size == 2) : Except String Bool))
        = (.ok ⟨(cliques kite 2 4).filter (·.size == 2), (visited kite 2 4).length, false⟩,
            cliques kite 2 4)
      ∧ runRecorded kite 2 4 (fun s => if s.size = 3 then .error "too large" else .ok true)
        = (.error "too large", [.ofList 4 [0, 1], .ofList 4 [0, 1, 2]]) := by
  obtain ⟨-, -, hrecorded⟩ := enumeration_exact kite 2 4
  have hcliques : cliques kite 2 4 = [.ofList 4 [0, 1], .ofList 4 [0, 1, 2], .ofList 4 [0, 2],
      .ofList 4 [1, 2], .ofList 4 [2, 3]] :=
    List.map_injective_iff.2 IndexSet.parts_injective (by decide +kernel)
  refine ⟨hcliques, (hrecorded _).1 _ fun s _ => rfl, ?_⟩
  refine (hrecorded _).2 [.ofList 4 [0, 1]] _ _ _ hcliques (fun t ht => ?_) rfl
  rw [List.mem_singleton.1 ht]
  exact ⟨true, rfl⟩

end Search

end Ensemble
