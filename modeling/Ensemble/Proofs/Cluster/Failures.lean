import Ensemble.Proofs.Cluster.Judgement
import Ensemble.Proofs.Cluster.Safety

/-!
# Failures of analyses and judgements

Cluster rules that are bound to the schema of a catalog fail on a set of its items for one cause
only: a rule asks for the range of an attribute that no member carries.  A search looks at sets that
are not empty, so it fails for this cause, or because the sizes that are asked for are out of order.
A judgement of given ids may moreover meet an unknown id, or no ids at all.
-/

namespace Ensemble

namespace ClusterFinder

variable {finder : ClusterFinder} {g : Graph} {min max : Nat} {s : IndexSet} {S : List Item}
  {ids : List ItemId} {c : Cause}

/-- A rule asks for the range of an attribute that no item of a set carries. -/
inductive MissingRange (finder : ClusterFinder) (S : List Item) : Cause → Prop
  | missing {field : String} {maxRange : Float}
      (hop : .formalityRange field maxRange ∈ finder.rules.operators)
      (h : ∀ a ∈ S, a.attribute? field = none) : MissingRange finder S (.missingField field)

/-- The causes for which a search can fail. -/
inductive SearchFailure (finder : ClusterFinder) : Cause → Prop
  | bounds {min max : Nat} (h : max < min) : SearchFailure finder (.invalidClusterBounds min max)
  | missing {S : List Item} {c : Cause} (hne : S ≠ []) (hS : S.Sublist finder.catalog.items)
      (h : finder.MissingRange S c) : SearchFailure finder c

/-- The causes for which a judgement of given ids can fail. -/
inductive JudgementFailure (finder : ClusterFinder) (ids : List ItemId) : Cause → Prop
  | search {c : Cause} (h : finder.SearchFailure c) : JudgementFailure finder ids c
  | unknown {id : ItemId} (hid : id ∈ ids) (h : id ∉ finder.catalog.items.map (·.id)) :
      JudgementFailure finder ids (.unknownItem id.text)
  | empty {operator : String} (h : ids = []) : JudgementFailure finder ids (.emptyItemSet operator)

/-! ## Rules -/

/-- A cluster rule fails on items of the catalog only as one of its operators may. -/
theorem failsOnly_operator (hS : ∀ a ∈ S, a ∈ finder.catalog.items) {op : SetOperator}
    (hop : op ∈ finder.rules.operators) : FailsOnly (op.Failure S) (op.evaluate S) := by
  obtain ⟨-, -, hbind⟩ := bind_eq_ok_iff.1 finder.bound
  have hread : op.checkSchema finder.catalog.schema = .ok () :=
    RuleSet.bind_eq_ok_iff_operators.1 hbind op hop
  exact SetOperator.failsOnly_evaluate hread fun a ha => finder.catalog.valid a (hS a ha)

theorem missingRange_of_failure (hne : S ≠ []) {op : SetOperator}
    (hop : op ∈ finder.rules.operators) (h : op.Failure S c) : finder.MissingRange S c := by
  cases h with
  | empty hnil => exact absurd hnil hne
  | missing hrange hne hmissing =>
    subst hrange
    exact .missing hop hmissing

/-- Cluster rules fail on a set of items that is not empty only for want of an attribute. -/
theorem failsOnly_rules (hne : S ≠ []) (hS : ∀ a ∈ S, a ∈ finder.catalog.items) :
    FailsOnly (finder.MissingRange S) (finder.rules.evaluate S) ∧
      FailsOnly (finder.MissingRange S) (finder.rules.passes S) := by
  have hop : ∀ op ∈ finder.rules.operators, FailsOnly (finder.MissingRange S) (op.evaluate S) :=
    fun op hop => (failsOnly_operator hS hop).mono fun _ => missingRange_of_failure hne hop
  exact ⟨RuleSet.failsOnly_evaluate hop, RuleSet.failsOnly_passes hop⟩

theorem failsOnly_rules_nil (finder : ClusterFinder) :
    FailsOnly (fun c => ∃ operator, c = .emptyItemSet operator) (finder.rules.evaluate []) := by
  refine RuleSet.failsOnly_evaluate fun op hop => ?_
  refine (failsOnly_operator (fun _ ha => absurd ha List.not_mem_nil) hop).mono ?_
  rintro c (⟨-⟩ | ⟨-, hne, -⟩)
  · exact ⟨_, rfl⟩
  · exact absurd rfl hne

/-! ## Sets of positions -/

theorem Selection.members_ne_nil (hs : finder.Selection s) (hne : s.members ≠ []) :
    finder.members s ≠ [] := by
  intro hnil
  have hlength := hs.length_members
  rw [hnil] at hlength
  exact hne (List.length_eq_zero_iff.1 hlength.symm)

theorem MissingRange.searchFailure (hs : finder.Selection s) (hne : s.members ≠ [])
    (h : finder.MissingRange (finder.members s) c) : finder.SearchFailure c :=
  .missing (hs.members_ne_nil hne) hs.members_sublist h

theorem failsOnly_passes (hs : finder.Selection s) (hne : s.members ≠ []) :
    FailsOnly finder.SearchFailure (finder.passes s) := by
  have hrules := failsOnly_rules (hs.members_ne_nil hne) fun a ha => hs.members_sublist.subset ha
  refine (hrules.2.mono fun c h => h.searchFailure hs hne).mapError fun e => ?_
  exact e.cause_inFrame _

theorem failsOnly_evaluateRules (hs : finder.Selection s) (hne : s.members ≠ []) :
    FailsOnly finder.SearchFailure (finder.evaluateRules s) := by
  have hrules := failsOnly_rules (hs.members_ne_nil hne) fun a ha => hs.members_sublist.subset ha
  refine (hrules.1.mono fun c h => h.searchFailure hs hne).mapError fun e => ?_
  exact e.cause_inFrame _

theorem failsOnly_isMaximal_go (hs : finder.Selection s) {is : List Nat}
    (his : ∀ i ∈ is, i < finder.catalog.size) :
    FailsOnly finder.SearchFailure (isMaximal.go finder s is) := by
  induction is with
  | nil => exact failsOnly_ok true
  | cons i is ih =>
    obtain ⟨hi, his⟩ := List.forall_mem_cons.1 his
    have hne : (s.insert i).members ≠ [] := List.ne_nil_of_mem (IndexSet.mem_insert.2 (.inl rfl))
    rw [isMaximal.go]
    refine (failsOnly_passes (hs.insert hi) hne).bind fun grows _ => ?_
    split
    · exact failsOnly_pure false
    · exact ih his

theorem failsOnly_isMaximal (hs : finder.Selection s) {candidates : IndexSet}
    (hcandidates : candidates.Within finder.catalog.size) :
    FailsOnly finder.SearchFailure (finder.isMaximal s max candidates) := by
  unfold isMaximal
  split
  · exact failsOnly_ok true
  · exact failsOnly_isMaximal_go hs hcandidates

theorem failsOnly_clusterOf (hg : g.size = finder.catalog.size) (hs : finder.Selection s)
    (hne : s.members ≠ []) : FailsOnly finder.SearchFailure (finder.clusterOf g max s) := by
  have hcommon : (g.commonNeighbors s).Within finder.catalog.size := by
    intro i hi
    obtain ⟨j, hj⟩ := List.exists_mem_of_ne_nil _ hne
    exact hg ▸ (Graph.adjacent_lt (((Graph.mem_commonNeighbors hne).1 hi).2 j hj)).2
  unfold clusterOf
  refine (failsOnly_evaluateRules hs hne).bind fun _ _ => ?_
  exact (failsOnly_isMaximal hs hcommon).bind fun _ _ => failsOnly_pure _

/-! ## Searches -/

theorem failsOnly_sizeBounds (finder : ClusterFinder) :
    FailsOnly finder.SearchFailure finder.sizeBounds := by
  unfold sizeBounds SearchConfig.sizeBounds checkSizes
  refine FailsOnly.bind ?_ fun _ _ => failsOnly_pure _
  split
  · split
    · rename_i h
      exact failsOnly_error (.bounds h)
    · exact failsOnly_ok ()
  · exact failsOnly_ok ()

theorem failsOnly_search (hg : g.size = finder.catalog.size) (cancel : Cancellation) :
    FailsOnly finder.SearchFailure ((finder.search g min max cancel).run.run' 0) := by
  rw [Search.run_eq_visitAll, run'_visitAll, allNodes_search]
  refine (failsOnly_filterM fun s hs => ?_).bind fun _ _ => failsOnly_pure _
  unfold wants
  split
  · rename_i hsize
    obtain ⟨hsel, hne⟩ := selection_of_mem_nodes hg ((cancel.reached_sublist ..).subset hs) hsize
    exact failsOnly_passes hsel hne
  · exact failsOnly_ok false

theorem failsOnly_analyzeWith (finder : ClusterFinder) (cancel : Cancellation) :
    FailsOnly finder.SearchFailure (finder.analyzeWith cancel) := by
  unfold analyzeWith
  refine finder.failsOnly_sizeBounds.bind ?_
  rintro ⟨min, max⟩ -
  refine (failsOnly_of_exists finder.exists_graph).bind fun g hgraph => ?_
  have hg : g.size = finder.catalog.size := (depicts_of_graph hgraph).size
  refine (failsOnly_search hg cancel).bind fun result hresult => ?_
  have hclusters : ∀ sets : List IndexSet, sets ⊆ finder.sortSets result.found →
      FailsOnly finder.SearchFailure (sets.mapM (finder.clusterOf g max)) := by
    intro sets hsets
    refine failsOnly_mapM fun s hs => ?_
    have hfound : s ∈ result.found := (finder.sortSets_perm _).subset (hsets hs)
    obtain ⟨hsel, hne⟩ := selection_of_mem_found hg hresult hfound
    exact failsOnly_clusterOf hg hsel hne
  dsimp only
  cases finder.config.maxClusters with
  | none => exact (hclusters _ fun _ hs => hs).bind fun _ _ => failsOnly_pure _
  | some cap => exact (hclusters _ (List.take_subset ..)).bind fun _ _ => failsOnly_pure _

/-! ## Judgements -/

theorem failsOnly_indicesOf (finder : ClusterFinder) (ids : List ItemId) :
    FailsOnly (finder.JudgementFailure ids) (finder.indicesOf ids) := by
  refine failsOnly_foldlM (fun id hid s => ?_) _
  cases hindex : finder.catalog.indexOf? id with
  | some i => exact failsOnly_ok _
  | none =>
    refine failsOnly_error (.unknown hid fun hmem => ?_)
    have hsome := Catalog.isSome_indexOf?.2 hmem
    rw [hindex] at hsome
    cases hsome

theorem known_of_indicesOf (h : finder.indicesOf ids = .ok s) :
    ∀ id ∈ ids, id ∈ finder.catalog.items.map (·.id) := by
  unfold indicesOf at h
  generalize IndexSet.empty finder.catalog.size = t at h
  induction ids generalizing t with
  | nil => exact fun id hid => absurd hid List.not_mem_nil
  | cons id ids ih =>
    rw [List.foldlM_cons] at h
    obtain ⟨t', ht, h⟩ := bind_eq_ok_iff.1 h
    refine List.forall_mem_cons.2 ⟨?_, ih t' h⟩
    rw [← Catalog.isSome_indexOf?]
    cases hindex : finder.catalog.indexOf? id with
    | some i => rfl
    | none =>
      rw [hindex] at ht
      cases ht

theorem positionsOf_eq_nil_iff (hids : ∀ id ∈ ids, id ∈ finder.catalog.items.map (·.id)) :
    (finder.positionsOf ids).members = [] ↔ ids = [] := by
  constructor
  · intro hnil
    by_contra hne
    obtain ⟨id, hid⟩ := List.exists_mem_of_ne_nil _ hne
    obtain ⟨i, hi⟩ := Option.isSome_iff_exists.1 (Catalog.isSome_indexOf?.2 (hids id hid))
    have hmem : i ∈ (finder.positionsOf ids).members := mem_positionsOf.2 ⟨id, hid, hi⟩
    rw [hnil] at hmem
    cases hmem
  · rintro rfl
    rfl

theorem failsOnly_evaluateRules_positionsOf
    (hids : ∀ id ∈ ids, id ∈ finder.catalog.items.map (·.id)) :
    FailsOnly (finder.JudgementFailure ids) (finder.evaluateRules (finder.positionsOf ids)) := by
  by_cases hnil : ids = []
  · have hmembers : finder.members (finder.positionsOf ids) = [] := by
      rw [members, (positionsOf_eq_nil_iff hids).2 hnil]
      rfl
    unfold evaluateRules
    rw [hmembers]
    refine (finder.failsOnly_rules_nil.mono ?_).mapError fun e => e.cause_inFrame _
    rintro _ ⟨operator, rfl⟩
    exact .empty hnil
  · have hne := mt (positionsOf_eq_nil_iff hids).1 hnil
    exact (failsOnly_evaluateRules selection_positionsOf hne).mono fun _ => .search

theorem failsOnly_evaluateSet (finder : ClusterFinder) (ids : List ItemId) :
    FailsOnly (finder.JudgementFailure ids) (finder.evaluateSet ids) := by
  obtain ⟨g, hgraph⟩ := finder.exists_graph
  have hg := depicts_of_graph hgraph
  unfold evaluateSet
  refine (finder.failsOnly_sizeBounds.mono fun _ => .search).bind ?_
  rintro ⟨min, max⟩ -
  refine (finder.failsOnly_indicesOf ids).bind fun s hindices => ?_
  have hids := known_of_indicesOf hindices
  obtain rfl := Except.ok.inj (hindices.symm.trans (indicesOf_eq_ok hids))
  have hs : finder.Selection (finder.positionsOf ids) := selection_positionsOf
  obtain ⟨conflicts, hconflicts, -⟩ := conflicts_eq_ok hg hs
  refine (failsOnly_of_exists ⟨conflicts, hconflicts⟩).bind fun _ _ => ?_
  refine (failsOnly_evaluateRules_positionsOf hids).bind fun _ _ => ?_
  dsimp only
  split
  · obtain ⟨found, hfound, hmem⟩ := candidates_eq_ok hg hs
    have hwithin : found.Within finder.catalog.size := fun i hi => ((hmem i).1 hi).1
    rw [hfound, ok_bind]
    refine ((failsOnly_isMaximal hs hwithin).mono fun _ => .search).bind fun _ _ => ?_
    exact failsOnly_pure _
  · exact failsOnly_pure _

/-- Cluster rules fail on a set of items that is not empty only for want of an attribute whose range
they ask for.  So an analysis, stopped or not, fails only for that or for sizes out of order, and a
judgement only for these, for an unknown id, or for want of ids. -/
theorem cluster_failures (finder : ClusterFinder) :
    (∀ S, S ≠ [] → (∀ a ∈ S, a ∈ finder.catalog.items) →
      FailsOnly (finder.MissingRange S) (finder.rules.evaluate S) ∧
        FailsOnly (finder.MissingRange S) (finder.rules.passes S)) ∧
    (∀ cancel, FailsOnly finder.SearchFailure (finder.analyzeWith cancel)) ∧
    ∀ ids, FailsOnly (finder.JudgementFailure ids) (finder.evaluateSet ids) := by
  refine ⟨fun S hne hS => ?_, fun cancel => ?_, fun ids => ?_⟩
  · exact failsOnly_rules hne hS
  · exact finder.failsOnly_analyzeWith cancel
  · exact finder.failsOnly_evaluateSet ids

/-- A garment of unknown formality. -/
def smock : Item := { id := ⟨"smock"⟩, name := "smock" }

/-- The schema of garments whose formality may be unknown. -/
def dressCode : Schema :=
  ⟨"dress code", "1", [⟨"formality", .integer none none, false⟩], .reject, by decide⟩

/-- A garment of unknown formality, with a rule on the range of formalities. -/
def atelier : ClusterFinder where
  catalog := .holding "atelier" dressCode [smock] (by decide +kernel) (by decide +kernel)
  matcher := ⟨⟨"any", [], by decide⟩, dressCode, Clock.source ⟨0⟩, by decide +kernel⟩
  rules :=
    ⟨⟨"even", [⟨"formality", none, .leaf (.formalityRange "formality" 1)⟩], by decide⟩, none, none⟩
  config := { minSize := some 1 }
  schema_eq := rfl
  bound := by decide +kernel

theorem cluster_failures_atelier :
    [smock] ≠ [] ∧ (∀ a ∈ [smock], a ∈ atelier.catalog.items) ∧
    (∃ e, atelier.rules.evaluate [smock] = .error e ∧ atelier.MissingRange [smock] e.cause) ∧
    (∃ e, atelier.analyzeWith .never = .error e ∧ atelier.SearchFailure e.cause) ∧
    ∃ e, atelier.evaluateSet [] = .error e ∧ atelier.JudgementFailure [] e.cause := by
  have hne : [smock] ≠ [] := List.cons_ne_nil _ _
  have hmem : ∀ a ∈ [smock], a ∈ atelier.catalog.items := fun a ha => ha
  obtain ⟨hrules, hsearch, hjudge⟩ := cluster_failures atelier
  obtain ⟨e, he⟩ : ∃ e, atelier.rules.evaluate [smock] = .error e :=
    exists_error_iff.2 (by decide +kernel)
  obtain ⟨e', he'⟩ : ∃ e, atelier.analyzeWith .never = .error e :=
    exists_error_iff.2 (by decide +kernel)
  obtain ⟨e'', he''⟩ : ∃ e, atelier.evaluateSet [] = .error e :=
    exists_error_iff.2 (by decide +kernel)
  exact ⟨hne, hmem, ⟨e, he, (hrules _ hne hmem).1 e he⟩, ⟨e', he', hsearch _ e' he'⟩,
    ⟨e'', he'', hjudge _ e'' he''⟩⟩

end ClusterFinder

end Ensemble
