import Ensemble.Proofs.Cluster.Listing

/-!
# Analyses that are stopped

A search that is stopped has visited the first of the sets that a complete search visits.  So what
it has found is a part of what there is, in the same order, and the record of a set is made from
the whole graph in either case.
-/

namespace Ensemble

/-! ## Polls -/

namespace Cancellation

variable {α : Type} {cancel : Cancellation} {xs : List α} {k polls : Nat}

/-- The polls before the elements that are reached are answered in the negative. -/
theorem answer_of_lt_reached (h : k < (cancel.reached polls xs).length) :
    cancel.answer (polls + k) = false := by
  induction xs generalizing polls k with
  | nil => exact absurd h (Nat.not_lt_zero k)
  | cons x xs ih =>
    rw [reached] at h
    split at h
    · exact absurd h (Nat.not_lt_zero k)
    · rename_i hgo
      cases k with
      | zero => simpa using hgo
      | succ k =>
        have hlater := ih (Nat.lt_of_succ_lt_succ h)
        rwa [Nat.add_right_comm] at hlater

/-- The poll after the elements that are reached is answered in the affirmative, if there is one. -/
theorem answer_length_reached (h : (cancel.reached polls xs).length < xs.length) :
    cancel.answer (polls + (cancel.reached polls xs).length) = true := by
  induction xs generalizing polls with
  | nil => exact absurd h (Nat.not_lt_zero _)
  | cons x xs ih =>
    rw [reached] at h ⊢
    split at h
    · rename_i hstop
      rw [if_pos hstop]
      exact hstop
    · rename_i hgo
      rw [if_neg hgo]
      have hlater := ih (Nat.lt_of_succ_lt_succ h)
      rwa [Nat.add_right_comm] at hlater

/-- A list is not reached to its end if and only if some poll is answered in the affirmative. -/
theorem length_reached_lt_iff :
    (cancel.reached 0 xs).length < xs.length ↔
      ∃ k < Nat.min ((cancel.reached 0 xs).length + 1) xs.length, cancel.answer k = true := by
  constructor
  · intro h
    have hanswer := answer_length_reached h
    rw [Nat.zero_add] at hanswer
    exact ⟨_, Nat.lt_min.2 ⟨Nat.lt_succ_self _, h⟩, hanswer⟩
  · rintro ⟨k, hk, hanswer⟩
    obtain ⟨hle, hlt⟩ := Nat.lt_min.1 hk
    have hge : ¬ k < (cancel.reached 0 xs).length := by
      intro hlt
      have hno := answer_of_lt_reached hlt
      rw [Nat.zero_add, hanswer] at hno
      cases hno
    omega

end Cancellation

namespace ClusterFinder

variable {finder : ClusterFinder} {g : Graph} {min max : Nat} {cancel : Cancellation}
  {result : SearchResult}

/-- How often an analysis asks whether to stop. -/
def polls (finder : ClusterFinder) (cancel : Cancellation) : Except Error Nat := do
  let (min, max) ← finder.sizeBounds
  let graph ← finder.graph
  let (_, polls) ← (finder.search graph min max cancel).run.run 0
  return polls

/-! ## Searches -/

/-- Where a complete search succeeds, so does one that is stopped.  It finds some of the sets, and
all of them unless it is stopped indeed. -/
theorem exists_part_of_search (h : (finder.search g min max .never).run.run' 0 = .ok result)
    (cancel : Cancellation) :
    ∃ part polls, (finder.search g min max cancel).run.run 0 = .ok (part, polls) ∧
      part.found.Sublist result.found ∧
      (part.cancelled = true ↔ ∃ k < polls, cancel.answer k = true) ∧
      (part.cancelled = false → part = result) := by
  obtain ⟨_, h⟩ := run'_search_eq_ok_iff.1 h
  obtain ⟨hjudged, hresult, -⟩ := run_search_eq_ok_iff.1 h
  rw [Cancellation.reached_never] at hjudged hresult
  -- The sets that are visited are among those of the complete search, which could judge them all.
  have hreached := cancel.reached_sublist 0 (finder.nodes g min max)
  refine ⟨_, _, run_search_eq_ok_iff.2 ⟨fun s hs => hjudged s (hreached.subset hs), rfl, rfl⟩,
    ?_, ?_, ?_⟩
  · rw [hresult]
    exact hreached.filter _
  · rw [decide_eq_true_iff]
    exact Cancellation.length_reached_lt_iff
  · intro hall
    rw [decide_eq_false_iff_not, Nat.not_lt] at hall
    rw [hresult, hreached.eq_of_length_le hall]

/-! ## Analyses -/

/-- An analysis that is stopped lists a part of the clusters, in the same order and with the same
records.  It says that it was stopped if and only if a poll was answered in the affirmative, and
otherwise it is the complete analysis. -/
theorem part_of_analysis {full : ClusterAnalysis} (hcap : finder.config.maxClusters = none)
    (h : finder.analyze = .ok full) (cancel : Cancellation) :
    ∃ part polls, finder.analyzeWith cancel = .ok part ∧ finder.polls cancel = .ok polls ∧
      part.clusters.Sublist full.clusters ∧
      (part.cancelled = true ↔ ∃ k < polls, cancel.answer k = true) ∧
      (part.cancelled = false → part = full) := by
  obtain ⟨min, max, graph, result, clusters, hbounds, hgraph, hresult, hclusters, rfl⟩ :=
    (analyzeWith_eq_ok_iff_of_uncapped hcap).1 h
  obtain ⟨-, hnodup, hfound⟩ :=
    found_of_search (depicts_of_graph hgraph) (one_le_of_sizeBounds hbounds) hresult
  obtain ⟨part, polls, hpart, hsub, hstopped, hall⟩ := exists_part_of_search hresult cancel
  -- The sets that are found in part are sorted as they are among all, and have their records.
  have hsorted := sortSets_sublist hnodup (fun s hs => ((hfound s).1 hs).selection) hsub
  obtain ⟨records, hrecords, hsublist⟩ := exists_mapM_of_sublist hclusters hsorted
  have hrun := run'_search_eq_ok_iff.2 ⟨polls, hpart⟩
  have hpolls : finder.polls cancel = .ok polls := by
    unfold ClusterFinder.polls
    simp only [hbounds, hgraph, hpart, ok_bind, pure_eq_ok]
  refine ⟨_, polls, (analyzeWith_eq_ok_iff_of_uncapped hcap).2
    ⟨min, max, graph, part, records, hbounds, hgraph, hrun, hrecords, rfl⟩, hpolls, hsublist,
    hstopped, fun hgo => ?_⟩
  obtain rfl := hall hgo
  obtain rfl := Except.ok.inj (hrecords.symm.trans hclusters)
  rfl

/-- The analysis of the wardrobe, stopped at its third poll, is a part of the whole. -/
theorem part_of_analysis_wardrobe :
    wardrobe.config.maxClusters = none ∧ ∃ full part, wardrobe.analyze = .ok full ∧
      wardrobe.analyzeWith (.after 2) = .ok part ∧ part.cancelled = true ∧
      part.clusters.Sublist full.clusters := by
  obtain ⟨full, hfull⟩ := exists_analysis_wardrobe
  obtain ⟨part, polls, hpart, hpolls, hsub, hstopped, -⟩ := part_of_analysis rfl hfull (.after 2)
  have hmore : (wardrobe.polls (.after 2)).toOption = some 3 := by decide +kernel
  obtain rfl := Option.some.inj ((toOption_eq_some_iff.2 hpolls).symm.trans hmore)
  exact ⟨rfl, full, part, hfull, hpart, hstopped.2 ⟨2, by decide, rfl⟩, hsub⟩

end ClusterFinder

end Ensemble
