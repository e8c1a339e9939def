import Ensemble.Clique.Search
import Ensemble.Proofs.Clique.IndexSet

/-!
# The cliques that a search visits

A search walks through a tree of cliques.  `Search.nodes` lists the cliques of the tree in the order
of the visits, whatever the search then does with each, and `Search.visitAll` visits the cliques of
a list one after the other.  A search is the visit of its list (`extensions_eq_visitAll`), so what it
finds, asks and skips can be read off the list.

The list holds, each once and in lexicographic order, cliques of at most the greatest size, and all
of those that have the least size.
-/

namespace Ensemble

/-! ## Parts of a search -/

namespace SearchResult

theorem none_append (a : SearchResult) : none ++ a = a := by
  show append none a = a
  simp [append, none]

theorem append_assoc (a b c : SearchResult) : a ++ b ++ c = a ++ (b ++ c) := by
  show append (append a b) c = append a (append b c)
  simp [append, Nat.add_assoc, Bool.or_assoc]

theorem cancelled_append (a b : SearchResult) :
    (a ++ b).cancelled = (a.cancelled || b.cancelled) := rfl

end SearchResult

namespace Search

variable {m : Type → Type} [Monad m]

theorem andThen_of_cancelled {a : SearchResult} (h : a.cancelled = true) (next : m SearchResult) :
    andThen a next = pure a := if_pos h

section

variable [LawfulMonad m]

theorem andThen_of_running {a : SearchResult} (h : a.cancelled = false) (next : m SearchResult) :
    andThen a next = (a ++ ·) <$> next := by
  rw [andThen, if_neg (by simp [h])]
  simp

/-- Parts of a search can be put together in either order. -/
theorem andThen_assoc (a : SearchResult) (x y : m SearchResult) :
    (andThen a x >>= fun b => andThen b y) = andThen a (x >>= fun b => andThen b y) := by
  cases ha : a.cancelled with
  | true =>
    rw [andThen_of_cancelled ha, andThen_of_cancelled ha, pure_bind, andThen_of_cancelled ha]
  | false =>
    rw [andThen_of_running ha, andThen_of_running ha, bind_map_left, map_bind]
    refine congrArg _ (funext fun b => ?_)
    have hab : (a ++ b).cancelled = b.cancelled := by rw [SearchResult.cancelled_append, ha]; rfl
    cases hb : b.cancelled with
    | true => rw [andThen_of_cancelled hb, andThen_of_cancelled (hab.trans hb), map_pure]
    | false =>
      rw [andThen_of_running hb, andThen_of_running (hab.trans hb), Functor.map_map]
      simp only [SearchResult.append_assoc]

end

/-! ## Visits -/

/-- Whether a visited clique is found: it is large enough and passes the test. -/
def finds (search : Search m) (s : IndexSet) : m Bool :=
  if s.size ≥ Nat.max search.min 1 then search.accept s else return false

/-- Visits cliques one after the other, until the search is stopped. -/
def visitAll (search : Search m) : List IndexSet → m SearchResult
  | [] => return .none
  | s :: rest => do
    if ← search.poll then return .stopped
    andThen (← search.visit s) (search.visitAll rest)

/-- The cliques that a search visits among the extensions of a clique by candidates. -/
def nodes (search : Search m) (clique : IndexSet) : List Nat → List IndexSet
  | [] => []
  | v :: later =>
    let extended := clique.insert v
    let candidates := search.candidates v later
    extended
      :: ((if search.extends? extended candidates then search.nodes extended candidates else [])
        ++ search.nodes clique later)
termination_by candidates => candidates.length
decreasing_by
  · exact Nat.lt_succ_of_le search.length_candidates_le
  · exact Nat.lt_succ_self _

/-- The cliques that a search of the whole graph visits. -/
def allNodes (search : Search m) : List IndexSet :=
  if search.max > 0 then search.nodes (.empty search.graph.size) (List.range search.graph.size)
  else []

variable [LawfulMonad m]

theorem visit_eq (search : Search m) (s : IndexSet) :
    search.visit s = do
      let found ← search.finds s
      return ⟨if found then [s] else [], 1, false⟩ := by
  unfold visit finds
  by_cases h : s.size ≥ Nat.max search.min 1
  · rw [if_pos h, if_pos h]
    refine congrArg _ (funext fun found => ?_)
    cases found <;> rfl
  · rw [if_neg h, if_neg h, pure_bind]
    rfl

theorem visitAll_append (search : Search m) (xs ys : List IndexSet) :
    search.visitAll (xs ++ ys) =
      search.visitAll xs >>= fun first => andThen first (search.visitAll ys) := by
  induction xs with
  | nil =>
    rw [List.nil_append, visitAll, pure_bind, andThen_of_running rfl]
    simp only [SearchResult.none_append, id_map']
  | cons s xs ih =>
    rw [List.cons_append, visitAll, visitAll, bind_assoc]
    refine congrArg _ (funext fun stop => ?_)
    cases stop with
    | true => simp [andThen_of_cancelled (a := .stopped) rfl]
    | false =>
      simp only [Bool.false_eq_true, ↓reduceIte, bind_assoc, ih]
      refine congrArg _ (funext fun visited => ?_)
      exact (andThen_assoc ..).symm

/-- A search visits its cliques one after the other. -/
theorem extensions_eq_visitAll (search : Search m) (clique : IndexSet) (candidates : List Nat) :
    search.extensions clique candidates = search.visitAll (search.nodes clique candidates) := by
  induction clique, candidates using nodes.induct search with
  | case1 clique => rw [extensions, nodes, visitAll]
  | case2 clique v later extended candidates ih₁ ih₂ =>
    rw [extensions, nodes, visitAll]
    refine congrArg _ (funext fun stop => ?_)
    cases stop with
    | true => rfl
    | false =>
      simp only [Bool.false_eq_true, ↓reduceIte]
      refine congrArg _ (funext fun visited => ?_)
      by_cases h : search.extends? extended candidates = true
      · rw [if_pos h, if_pos h, visitAll_append, ← andThen_assoc, ← ih₁, ← ih₂]
      · rw [if_neg h, if_neg h, pure_bind, List.nil_append, ih₂]

theorem run_eq_visitAll (search : Search m) : search.run = search.visitAll search.allNodes := by
  unfold run allNodes
  split
  · exact search.extensions_eq_visitAll _ _
  · rfl

/-! ## The visited cliques -/

omit [Monad m] [LawfulMonad m]

/-- The candidates ascend and come after the members of the clique. -/
structure Ahead (clique : IndexSet) (candidates : List Nat) : Prop where
  ascending : candidates.Pairwise (· < ·)
  above : ∀ i ∈ clique.members, ∀ v ∈ candidates, i < v

theorem insertInto_of_above {v : Nat} :
    ∀ {is : List Nat}, (∀ i ∈ is, i < v) → IndexSet.insertInto v is = is ++ [v]
  | [], _ => rfl
  | i :: is, h => by
    have hi : i < v := h i List.mem_cons_self
    rw [IndexSet.insertInto, if_neg (by omega), if_neg (by omega),
      insertInto_of_above fun j hj => h j (List.mem_cons_of_mem _ hj), List.cons_append]

namespace Ahead

variable {search : Search m} {clique : IndexSet} {v : Nat} {rest : List Nat}

theorem members_insert (h : Ahead clique (v :: rest)) :
    (clique.insert v).members = clique.members ++ [v] :=
  insertInto_of_above fun i hi => h.above i hi v List.mem_cons_self

theorem size_insert (h : Ahead clique (v :: rest)) :
    (clique.insert v).size = clique.size + 1 := by
  rw [IndexSet.size, h.members_insert, List.length_append]
  rfl

theorem later (h : Ahead clique (v :: rest)) : Ahead clique rest where
  ascending := h.ascending.of_cons
  above := fun i hi w hw => h.above i hi w (List.mem_cons_of_mem _ hw)

theorem extended (h : Ahead clique (v :: rest)) :
    Ahead (clique.insert v) (search.candidates v rest) where
  ascending := h.ascending.of_cons.filter _
  above := fun i hi w hw => by
    have hw' : w ∈ rest := (List.mem_filter.1 hw).1
    rcases IndexSet.mem_insert.1 hi with rfl | hi
    · exact List.rel_of_pairwise_cons h.ascending hw'
    · exact h.above i hi w (List.mem_cons_of_mem _ hw')

end Ahead

variable {search : Search m} {clique s : IndexSet} {cands : List Nat}

/-- A visited clique extends the given one by candidates that are neighbours of each other. -/
theorem extends_of_mem_nodes (h : Ahead clique cands) (hs : s ∈ search.nodes clique cands) :
    ∃ v t, s.members = clique.members ++ v :: t ∧ (v :: t).Sublist cands ∧
      (v :: t).Pairwise (search.graph.adjacent · ·) ∧ s.capacity = clique.capacity := by
  induction clique, cands using nodes.induct search with
  | case1 clique => simp [nodes] at hs
  | case2 clique v later extended candidates ih₁ ih₂ =>
    -- `s` is the clique with `v`, an extension of that, or an extension by later candidates.
    rw [nodes] at hs
    rcases List.mem_cons.1 hs with rfl | hs
    · exact ⟨v, [], h.members_insert, by simp, by simp, rfl⟩
    rcases List.mem_append.1 hs with hs | hs
    · split at hs
      · obtain ⟨w, t, hmem, hsub, hadj, hcap⟩ := ih₁ h.extended hs
        refine ⟨v, w :: t, ?_, ?_, ?_, hcap⟩
        · rw [hmem, h.members_insert, List.append_assoc]
          rfl
        · exact (hsub.trans List.filter_sublist).cons_cons v
        · exact List.pairwise_cons.2 ⟨fun u hu => (List.mem_filter.1 (hsub.subset hu)).2, hadj⟩
      · cases hs
    · obtain ⟨w, t, hmem, hsub, hadj, hcap⟩ := ih₂ h.later hs
      exact ⟨w, t, hmem, hsub.cons v, hadj, hcap⟩

theorem size_le_of_mem_nodes (h : Ahead clique cands) (hmax : clique.size < search.max)
    (hs : s ∈ search.nodes clique cands) : s.size ≤ search.max := by
  induction clique, cands using nodes.induct search with
  | case1 clique => simp [nodes] at hs
  | case2 clique v later extended candidates ih₁ ih₂ =>
    rw [nodes] at hs
    rcases List.mem_cons.1 hs with rfl | hs
    · have hsize := h.size_insert
      omega
    rcases List.mem_append.1 hs with hs | hs
    · split at hs
      · rename_i hext
        simp only [extends?, Bool.and_eq_true, decide_eq_true_eq] at hext
        exact ih₁ h.extended hext.1 hs
      · cases hs
    · exact ih₂ h.later hmax hs

/-- No clique of an allowed size is skipped. -/
theorem mem_nodes {v : Nat} {t : List Nat} (h : Ahead clique cands)
    (hmem : s.members = clique.members ++ v :: t) (hcap : s.capacity = clique.capacity)
    (hsub : (v :: t).Sublist cands) (hadj : (v :: t).Pairwise (search.graph.adjacent · ·))
    (hmin : Nat.max search.min 1 ≤ s.size) (hmax : s.size ≤ search.max) :
    s ∈ search.nodes clique cands := by
  induction clique, cands using nodes.induct search generalizing v t with
  | case1 clique => cases hsub
  | case2 clique w later =>
    rename_i ih₁ ih₂
    rw [nodes]
    -- Either `s` does without the candidate `w`, or it is the first that `s` adds.
    cases hsub with
    | cons _ hsub =>
      refine List.mem_cons_of_mem _ (List.mem_append_right _ ?_)
      exact ih₂ h.later hmem hcap hsub hadj
    | cons_cons _ hsub =>
      obtain ⟨hv, ht⟩ := List.pairwise_cons.1 hadj
      have hmem' : s.members = (clique.insert w).members ++ t := by
        rw [h.members_insert, hmem, List.append_assoc]
        rfl
      have hsub' : t.Sublist (search.candidates w later) := by
        have hfilter := hsub.filter (search.graph.adjacent w)
        rwa [List.filter_eq_self.2 fun u hu => hv u hu] at hfilter
      have hlen : s.size = (clique.insert w).size + t.length := by
        rw [IndexSet.size, hmem', List.length_append]
        rfl
      cases t with
      | nil =>
        have heq : s = clique.insert w := IndexSet.ext (by simpa using hmem') hcap
        exact heq ▸ List.mem_cons_self
      | cons u t =>
        have hext : search.extends? (clique.insert w) (search.candidates w later) = true := by
          -- The rest of `s` is among the candidates, so there are enough of them.
          have hlength := hsub'.length_le
          simp only [extends?, Bool.and_eq_true, decide_eq_true_eq]
          rw [List.length_cons] at hlen hlength
          omega
        refine List.mem_cons_of_mem _ (List.mem_append_left _ ?_)
        rw [if_pos hext]
        exact ih₁ h.extended hmem' hcap hsub' ht

/-- The extensions of a clique are visited in lexicographic order. -/
theorem pairwise_nodes (h : Ahead clique cands) :
    (search.nodes clique cands).Pairwise fun a b => a.members < b.members := by
  induction clique, cands using nodes.induct search with
  | case1 clique => simp [nodes]
  | case2 clique v later extended candidates ih₁ ih₂ =>
    rw [nodes]
    -- The first visits add `v` to the clique and the later ones a greater candidate.
    have first : ∀ a ∈ (if search.extends? extended candidates then
        search.nodes extended candidates else []), ∃ t, t ≠ [] ∧
          a.members = clique.members ++ v :: t := by
      intro a ha
      split at ha
      · obtain ⟨w, t, hmem, -⟩ := extends_of_mem_nodes h.extended ha
        refine ⟨w :: t, by simp, ?_⟩
        rw [hmem, h.members_insert, List.append_assoc]
        rfl
      · cases ha
    have second : ∀ b ∈ search.nodes clique later, ∃ w t, v < w ∧
        b.members = clique.members ++ w :: t := by
      intro b hb
      obtain ⟨w, t, hmem, hsub, -⟩ := extends_of_mem_nodes h.later hb
      exact ⟨w, t, List.rel_of_pairwise_cons h.ascending (hsub.subset List.mem_cons_self), hmem⟩
    refine List.pairwise_cons.2 ⟨fun b hb => ?_, List.pairwise_append.2 ⟨?_, ih₂ h.later, ?_⟩⟩
    · rw [h.members_insert]
      rcases List.mem_append.1 hb with hb | hb
      · obtain ⟨t, ht, hmem⟩ := first b hb
        rw [hmem]
        obtain ⟨w, t, rfl⟩ := List.exists_cons_of_ne_nil ht
        exact List.append_left_lt (List.cons_lt_cons_iff.2 (.inr ⟨rfl, List.nil_lt_cons _ _⟩))
      · obtain ⟨w, t, hlt, hmem⟩ := second b hb
        rw [hmem]
        exact List.append_left_lt (List.cons_lt_cons_iff.2 (.inl hlt))
    · split
      · exact ih₁ h.extended
      · exact .nil
    · intro a ha b hb
      obtain ⟨t, -, ha⟩ := first a ha
      obtain ⟨w, u, hlt, hb⟩ := second b hb
      rw [ha, hb]
      exact List.append_left_lt (List.cons_lt_cons_iff.2 (.inl hlt))

/-! ## Searches of the whole graph -/

theorem ahead_range (n : Nat) : Ahead (.empty n) (List.range n) where
  ascending := List.pairwise_lt_range
  above := fun _ hi => absurd hi List.not_mem_nil

/-- Of the sets that have the least size, a search visits the cliques of at most the greatest. -/
theorem mem_allNodes_iff (hmin : Nat.max search.min 1 ≤ s.size) :
    s ∈ search.allNodes ↔
      s.capacity = search.graph.size ∧ s.Within search.graph.size ∧
        s.members.Pairwise (search.graph.adjacent · ·) ∧ s.size ≤ search.max := by
  unfold allNodes
  constructor
  · intro hs
    split at hs
    · rename_i hmax
      have h := ahead_range search.graph.size
      obtain ⟨v, t, hmem, hsub, hadj, hcap⟩ := extends_of_mem_nodes h hs
      have hmem : s.members = v :: t := hmem
      refine ⟨hcap, fun i hi => ?_, hmem ▸ hadj, size_le_of_mem_nodes h hmax hs⟩
      exact List.mem_range.1 (hsub.subset (hmem ▸ hi))
    · cases hs
  · rintro ⟨hcap, hlt, hadj, hmax⟩
    cases hmem : s.members with
    | nil =>
      rw [IndexSet.size, hmem] at hmin
      exact absurd hmin (by simp)
    | cons v t =>
      have hpos : 1 ≤ s.size := le_trans (Nat.le_max_right ..) hmin
      rw [if_pos (lt_of_lt_of_le hpos hmax)]
      have hsub : (v :: t).Sublist (List.range search.graph.size) := hmem ▸ hlt.sublist_range
      exact mem_nodes (ahead_range _) hmem hcap hsub (hmem ▸ hadj) hmin hmax

/-- The visited cliques depend on the graph and the sizes only, not on what is asked or wanted. -/
theorem nodes_congr {m' : Type → Type} {other : Search m'} (hgraph : search.graph = other.graph)
    (hmin : search.min = other.min) (hmax : search.max = other.max) (clique : IndexSet)
    (candidates : List Nat) : search.nodes clique candidates = other.nodes clique candidates := by
  induction clique, candidates using nodes.induct search with
  | case1 clique => rw [nodes, nodes]
  | case2 clique v later extended candidates ih₁ ih₂ =>
    have hcandidates : other.candidates v later = candidates := by
      show List.filter _ _ = List.filter _ _
      rw [hgraph]
    have hextends : other.extends? extended candidates = search.extends? extended candidates := by
      unfold extends?
      rw [hmin, hmax]
    rw [nodes, nodes, hcandidates, hextends, ih₁, ih₂]

theorem allNodes_congr {m' : Type → Type} {other : Search m'} (hgraph : search.graph = other.graph)
    (hmin : search.min = other.min) (hmax : search.max = other.max) :
    search.allNodes = other.allNodes := by
  unfold allNodes
  rw [hmax, hgraph, nodes_congr hgraph hmin hmax]

/-- Cliques are visited in lexicographic order. -/
theorem pairwise_allNodes : search.allNodes.Pairwise fun a b => a.members < b.members := by
  unfold allNodes
  split
  · exact pairwise_nodes (ahead_range _)
  · exact .nil

theorem nodup_allNodes : search.allNodes.Nodup := by
  refine pairwise_allNodes.imp fun {a b} hlt heq => ?_
  exact List.lt_irrefl _ (heq ▸ hlt)

end Search

end Ensemble
