import Ensemble.Cluster.Finder
import Ensemble.Proofs.Catalog.Ids

/-!
# Ids of clusters

The ids of a cluster ascend, so halving finds exactly its members.  Clusters are listed by falling
size, and those of one size in the lexicographic order of their ids; this is a linear order of lists
of ids.
-/

namespace Ensemble

namespace Cluster

theorem findId_nil (id : ItemId) : findId id [] = false := by
  rw [findId]
  rfl

theorem findId_of_drop {id middle : ItemId} {ids later : List ItemId}
    (h : ids.drop (ids.length / 2) = middle :: later) :
    findId id ids =
      if middle = id then true
      else if middle.text < id.text then findId id later
      else findId id (ids.take (ids.length / 2)) := by
  rw [findId]
  split
  · rename_i hnil
    rw [hnil] at h
    cases h
  · rename_i hcons
    obtain ⟨rfl, rfl⟩ := List.cons.inj (hcons.symm.trans h)
    rfl

/-- Halving finds the members of an ascending list. -/
theorem findId_iff {id : ItemId} {ids : List ItemId} (h : ItemId.Ascending ids) :
    findId id ids = true ↔ id ∈ ids := by
  have split_at : ∀ {k middle later} {xs : List ItemId}, xs.drop k = middle :: later →
      xs = xs.take k ++ middle :: later := by
    intro k middle later xs hdrop
    rw [← hdrop, List.take_append_drop]
  induction ids using findId.induct id with
  | case1 ids hdrop =>
    have hlen := congrArg List.length hdrop
    rw [List.length_drop, List.length_nil] at hlen
    obtain rfl : ids = [] := List.length_eq_zero_iff.1 (by omega)
    simp [findId_nil]
  | case2 ids later hdrop =>
    have hid : id ∈ ids := List.mem_of_mem_drop (hdrop ▸ List.mem_cons_self)
    rw [findId_of_drop hdrop, if_pos rfl]
    simp [hid]
  | case3 ids middle later hdrop hne hlt ih =>
    have hsplit := split_at hdrop
    obtain ⟨-, hright, hacross⟩ := List.pairwise_append.1 (hsplit ▸ h : List.Pairwise _ _)
    have hleft : id ∉ ids.take (ids.length / 2) := fun hid =>
      String.lt_irrefl _ (String.lt_trans (hacross id hid middle List.mem_cons_self) hlt)
    rw [findId_of_drop hdrop, if_neg hne, if_pos hlt]
    refine (ih (List.pairwise_cons.1 hright).2).trans ?_
    conv_rhs => rw [hsplit]
    simp [hleft, Ne.symm hne]
  | case4 ids middle later hdrop hne hlt ih =>
    have hsplit := split_at hdrop
    obtain ⟨hleft, hright, -⟩ := List.pairwise_append.1 (hsplit ▸ h : List.Pairwise _ _)
    have hlater : id ∉ later := fun hid => hlt ((List.pairwise_cons.1 hright).1 id hid)
    rw [findId_of_drop hdrop, if_neg hne, if_neg hlt]
    refine (ih hleft).trans ?_
    conv_rhs => rw [hsplit]
    simp [hlater, Ne.symm hne]

theorem contains_iff {cluster : Cluster} (h : ItemId.Ascending cluster.itemIds) {id : ItemId} :
    cluster.contains id = true ↔ id ∈ cluster.itemIds := findId_iff h

end Cluster

/-! ## The order of the report -/

namespace ClusterFinder

variable {as bs cs : List ItemId}

/-- The first ids are reported earlier: they are more, or as many and lexicographically less. -/
def Before (as bs : List ItemId) : Prop :=
  bs.length < as.length ∨ as.length = bs.length ∧ as.map (·.text) < bs.map (·.text)

theorem Before.ne (h : Before as bs) : as ≠ bs := by
  rintro rfl
  rcases h with h | ⟨-, h⟩
  · exact Nat.lt_irrefl _ h
  · exact List.lt_irrefl _ h

theorem Before.asymm (h : Before as bs) : ¬ Before bs as := by
  rcases h with h | ⟨hlen, h⟩
  · rintro (h' | ⟨hlen', -⟩) <;> omega
  · rintro (h' | ⟨-, h'⟩)
    · omega
    · exact List.lt_asymm h h'

instance : Std.Irrefl Before := ⟨fun _ h => h.ne rfl⟩

instance : Std.Antisymm Before := ⟨fun _ _ h h' => absurd h' h.asymm⟩

theorem lexLe_iff : precedes.lexLe as bs = true ↔ ¬ bs.map (·.text) < as.map (·.text) := by
  induction as generalizing bs with
  | nil => simp [precedes.lexLe]
  | cons a as ih =>
    cases bs with
    | nil => simp [precedes.lexLe]
    | cons b bs =>
      rw [precedes.lexLe, List.map_cons, List.map_cons, List.cons_lt_cons_iff]
      by_cases hab : a = b
      · rw [if_pos hab, ih]
        simp [hab]
      · have hne : a.text ≠ b.text := ItemId.text_injective.ne hab
        rw [if_neg hab, decide_eq_true_iff]
        simp only [Ne.symm hne, false_and, or_false]
        constructor
        · intro hlt hgt
          exact String.lt_irrefl _ (String.lt_trans hlt hgt)
        · intro hge
          exact Std.lt_of_le_of_ne (String.not_lt.1 hge) hne

theorem precedes_iff :
    precedes as bs = true ↔
      bs.length < as.length ∨ as.length = bs.length ∧ ¬ bs.map (·.text) < as.map (·.text) := by
  rw [← lexLe_iff]
  simp [precedes]

theorem precedes_trans (hab : precedes as bs = true) (hbc : precedes bs cs = true) :
    precedes as cs = true := by
  rw [precedes_iff] at hab hbc ⊢
  rcases hab with hab | ⟨hlen, hab⟩
  · left
    omega
  · rcases hbc with hbc | ⟨hlen', hbc⟩
    · left
      omega
    · refine .inr ⟨hlen.trans hlen', List.not_lt.2 ?_⟩
      exact List.le_trans (List.not_lt.1 hab) (List.not_lt.1 hbc)

theorem precedes_total (as bs : List ItemId) : (precedes as bs || precedes bs as) = true := by
  rw [Bool.or_eq_true, precedes_iff, precedes_iff]
  rcases Nat.lt_trichotomy as.length bs.length with h | h | h
  · exact .inr (.inl h)
  · by_cases hlt : bs.map (·.text) < as.map (·.text)
    · exact .inr (.inr ⟨h.symm, List.lt_asymm hlt⟩)
    · exact .inl (.inr ⟨h, hlt⟩)
  · exact .inl (.inl h)

theorem before_of_precedes (h : precedes as bs = true) (hne : as ≠ bs) : Before as bs := by
  rcases precedes_iff.1 h with h | ⟨hlen, hge⟩
  · exact .inl h
  · refine .inr ⟨hlen, Classical.byContradiction fun hlt => hne ?_⟩
    exact ItemId.text_injective.list_map (List.le_antisymm (List.not_lt.1 hge) (List.not_lt.1 hlt))

end ClusterFinder

end Ensemble
