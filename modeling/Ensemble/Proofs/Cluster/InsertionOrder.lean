import Ensemble.Proofs.Catalog.Building
import Ensemble.Proofs.Cluster.Growth
import Ensemble.Proofs.Cluster.Matrix
import Ensemble.Proofs.Cluster.Truncation
import Ensemble.Proofs.Condition.Reordering

/-!
# The order of insertion

The positions of items in a catalog decide which of two items is compared with the other, in which
order a search visits sets, and in which order a cluster rule sees the members of a set.  None of
this is visible in an analysis, apart from the reasons of the rules, if no dimension of the schema
accepts floats: the analyses of two catalogs with the same items list the same sets, and say the
same about them.
-/

namespace Ensemble

/-! ## Analyses that say the same -/

/-- Two records say the same, apart from their reasons. -/
structure Cluster.Agrees (c d : Cluster) : Prop where
  itemIds : c.itemIds = d.itemIds
  size : c.size = d.size
  isValid : c.isValid = d.isValid
  isMaximum : c.isMaximum = d.isMaximum
  judgements : c.evaluations.map (·.judgement) = d.evaluations.map (·.judgement)

/-- Two analyses say the same, apart from the reasons in their records. -/
structure ClusterAnalysis.Agrees (analysis other : ClusterAnalysis) : Prop where
  clusters : List.Forall₂ Cluster.Agrees analysis.clusters other.clusters
  relationships : analysis.relationships = other.relationships
  totals : analysis.totals = other.totals
  truncated : analysis.truncated = other.truncated

theorem forall₂_of_map_eq {α β γ : Type} {f : α → γ} {g : β → γ} {R : α → β → Prop} :
    ∀ {xs : List α} {ys : List β}, xs.map f = ys.map g →
      (∀ x ∈ xs, ∀ y ∈ ys, f x = g y → R x y) → List.Forall₂ R xs ys
  | [], [], _, _ => .nil
  | [], _ :: _, h, _ => nomatch h
  | _ :: _, [], h, _ => nomatch h
  | x :: xs, y :: ys, h, hR => by
    obtain ⟨hhead, htail⟩ := List.cons.inj h
    refine .cons (hR x List.mem_cons_self y List.mem_cons_self hhead) ?_
    exact forall₂_of_map_eq htail fun x hx y hy => hR x (.tail _ hx) y (.tail _ hy)

theorem Rule.passes_iff_verdict {Op Binding : Type} [Operator Op Binding] {rule : Rule Op}
    {binding : Binding} :
    rule.Passes binding ↔ verdict (rule.condition.evaluate binding) = some true := by
  unfold Rule.Passes Rule.evaluate
  cases rule.condition.evaluate binding <;> simp

namespace ClusterFinder

variable {f f' : ClusterFinder} {S S' : List Item} {A A' : ClusterAnalysis} {c c' : Cluster}

/-- The same rules over the same items, which may be in another order. -/
structure Rearranges (f f' : ClusterFinder) : Prop where
  items : f.catalog.items.Perm f'.catalog.items
  schema : f.catalog.schema = f'.catalog.schema
  pairRules : f.matcher.rules = f'.matcher.rules
  rules : f.rules = f'.rules
  config : f.config = f'.config
  noFloat : ∀ d ∈ f.catalog.schema.dimensions, d.kind.tag ≠ .float

namespace Rearranges

theorem symm (h : Rearranges f f') : Rearranges f' f where
  items := h.items.symm
  schema := h.schema.symm
  pairRules := h.pairRules.symm
  rules := h.rules.symm
  config := h.config.symm
  noFloat := h.schema ▸ h.noFloat

theorem sizeBounds (h : Rearranges f f') : f.sizeBounds = f'.sizeBounds := by
  unfold ClusterFinder.sizeBounds Catalog.size
  rw [h.config, h.rules, h.items.length_eq]

theorem isCompatible (h : Rearranges f f') (a b : Item) :
    f.matcher.isCompatible a b = f'.matcher.isCompatible a b := by
  unfold Matcher.isCompatible Matcher.validatePair
  rw [f.schema_eq, f'.schema_eq, h.schema, Matcher.passes_congr h.pairRules]

theorem compatible_iff (h : Rearranges f f') (hperm : S.Perm S') :
    f.Compatible S ↔ f'.Compatible S' := by
  unfold Compatible
  simp only [hperm.mem_iff, h.isCompatible]

/-! ## Rules -/

/-- The cluster rules have the same verdicts on items in any order. -/
theorem verdict_rule (h : Rearranges f f') (hS : S.Sublist f.catalog.items) (hperm : S.Perm S')
    {rule : Rule SetOperator} (hrule : rule ∈ f.rules.rules) :
    verdict (rule.condition.evaluate S) = verdict (rule.condition.evaluate S') := by
  refine rule.condition.verdict_congr fun op hop => SetOperator.verdict_perm hperm ?_
  rintro field comparison value rfl
  obtain ⟨-, -, hbind⟩ := bind_eq_ok_iff.1 f.bound
  have hmem := RuleSet.mem_operators.2 ⟨rule, hrule, hop⟩
  have hread := RuleSet.bind_eq_ok_iff_operators.1 hbind _ hmem
  obtain ⟨d, hd⟩ := SetOperator.exists_dimension hread
  have hkind := h.noFloat d (List.mem_of_find?_eq_some hd)
  exact SetOperator.classified_of_kind hd hkind fun a ha => f.catalog.valid a (hS.subset ha)

theorem passes_iff (h : Rearranges f f') (hS : S.Sublist f.catalog.items) (hperm : S.Perm S')
    {b : Bool} : f.rules.passes S = .ok b ↔ f'.rules.passes S' = .ok b := by
  have hcongr := RuleSet.passesAll_congr fun rule hrule => h.verdict_rule hS hperm hrule
  rw [← h.rules, ← toOption_eq_some_iff, ← toOption_eq_some_iff]
  exact (congrArg (· = some b) hcongr).to_iff

theorem valid (h : Rearranges f f') (hS : S.Sublist f.catalog.items) (hperm : S.Perm S')
    (hvalid : f.Valid S) : f'.Valid S' := by
  obtain ⟨⟨min, max, hbounds, hle, hmax⟩, hpairs, hpass⟩ := hvalid
  rw [hperm.length_eq] at hle hmax
  refine ⟨⟨min, max, h.sizeBounds ▸ hbounds, hle, hmax⟩, (h.compatible_iff hperm).1 hpairs, ?_⟩
  intro rule hrule
  rw [← h.rules] at hrule
  have hpass := hpass rule hrule
  rwa [Rule.passes_iff_verdict, h.verdict_rule hS hperm hrule, ← Rule.passes_iff_verdict] at hpass

/-! ## Sets -/

/-- Every part of the one catalog is, in another order, a part of the other. -/
theorem exists_part (h : Rearranges f f') (hS : S.Sublist f.catalog.items) :
    ∃ T, T.Sublist f'.catalog.items ∧ S.Perm T := by
  obtain ⟨T, hperm, hT⟩ := List.exists_perm_sublist hS h.items
  exact ⟨T, hT, hperm.symm⟩

/-- Where one catalog has an analysis, so has the other. -/
theorem exists_analysis (h : Rearranges f f') (hA : ∃ A, f.analyze = .ok A) :
    ∃ A', f'.analyze = .ok A' := by
  obtain ⟨min, max, hbounds, hjudged⟩ := exists_analysis_iff.1 hA
  refine exists_analysis_iff.2 ⟨min, max, h.sizeBounds ▸ hbounds, ?_⟩
  intro S' hS' hcompatible hle hmax
  obtain ⟨S, hS, hperm⟩ := h.symm.exists_part hS'
  rw [hperm.length_eq] at hle hmax
  obtain ⟨b, hb⟩ := hjudged S hS ((h.symm.compatible_iff hperm).1 hcompatible) hle hmax
  exact ⟨b, (h.passes_iff hS hperm.symm).1 hb⟩

end Rearranges

theorem sorted_eq_of_perm {finder : ClusterFinder} (hS : S.Sublist finder.catalog.items)
    (hperm : S.Perm S') : ItemId.sorted (S.map (·.id)) = ItemId.sorted (S'.map (·.id)) := by
  have hnodup : (S.map (·.id)).Nodup := finder.catalog.distinct.sublist (hS.map _)
  have hids := hperm.map (·.id)
  refine (ItemId.ascending_sorted hnodup).eq_of_mem_iff
    (ItemId.ascending_sorted (hids.nodup_iff.1 hnodup)) fun id => ?_
  rw [ItemId.mem_sorted, ItemId.mem_sorted, hids.mem_iff]

/-- A part of the catalog is determined by its ids. -/
theorem eq_of_sorted_eq {finder : ClusterFinder} {T : List Item}
    (hS : S.Sublist finder.catalog.items) (hT : T.Sublist finder.catalog.items)
    (h : ItemId.sorted (S.map (·.id)) = ItemId.sorted (T.map (·.id))) : S = T := by
  obtain ⟨s, hs, rfl⟩ := exists_selection hS
  obtain ⟨t, ht, rfl⟩ := exists_selection hT
  rw [hs.eq_of_sortedIds_eq ht h]

/-- The listed ids are those of the valid parts of the catalog. -/
theorem Listing.mem_itemIds_iff {finder : ClusterFinder} (L : finder.Listing A)
    {ids : List ItemId} :
    ids ∈ A.clusters.map (·.itemIds) ↔
      ∃ S, S.Sublist finder.catalog.items ∧ finder.Valid S ∧
        ids = ItemId.sorted (S.map (·.id)) := by
  rw [L.map_itemIds, List.mem_map]
  constructor
  · rintro ⟨s, hs, rfl⟩
    have hwanted := (L.mem_sets s).1 hs
    have hsel := hwanted.selection
    exact ⟨finder.members s, hsel.members_sublist,
      (wanted_iff_valid L.bounds L.depicts hsel).1 hwanted, rfl⟩
  · rintro ⟨S, hS, hvalid, rfl⟩
    obtain ⟨s, hs, rfl⟩ := exists_selection hS
    exact ⟨s, (L.mem_sets s).2 ((wanted_iff_valid L.bounds L.depicts hs).2 hvalid), rfl⟩

/-- Whether a cluster grows to a listed one can be told from the listed ids. -/
theorem exists_growsTo_iff :
    (∃ d ∈ A.clusters, c.GrowsTo d) ↔
      ∃ ids ∈ A.clusters.map (·.itemIds), ∃ id, id ∉ c.itemIds ∧
        ∀ x, x ∈ ids ↔ x = id ∨ x ∈ c.itemIds := by
  simp only [List.mem_map, exists_exists_and_eq_and]
  rfl

namespace Rearranges

theorem mem_itemIds_of_mem (h : Rearranges f f') (L : f.Listing A) (L' : f'.Listing A')
    {ids : List ItemId} (hids : ids ∈ A.clusters.map (·.itemIds)) :
    ids ∈ A'.clusters.map (·.itemIds) := by
  obtain ⟨S, hS, hvalid, rfl⟩ := L.mem_itemIds_iff.1 hids
  obtain ⟨T, hT, hperm⟩ := h.exists_part hS
  refine L'.mem_itemIds_iff.2 ⟨T, hT, h.valid hS hperm hvalid, ?_⟩
  exact sorted_eq_of_perm hS hperm

/-- The same sets are listed, in the same order. -/
theorem map_itemIds_eq (h : Rearranges f f') (L : f.Listing A) (L' : f'.Listing A') :
    A.clusters.map (·.itemIds) = A'.clusters.map (·.itemIds) := by
  have hordered : (A.clusters.map (·.itemIds)).Pairwise Before :=
    List.pairwise_map.2 L.pairwise_before
  have hordered' : (A'.clusters.map (·.itemIds)).Pairwise Before :=
    List.pairwise_map.2 L'.pairwise_before
  refine hordered.eq_of_mem_iff hordered' fun ids => ⟨?_, ?_⟩
  · exact h.mem_itemIds_of_mem L L'
  · exact h.symm.mem_itemIds_of_mem L' L

/-! ## Records -/

/-- The records of one set of items say the same. -/
theorem agrees_of_itemIds (h : Rearranges f f') (L : f.Listing A) (L' : f'.Listing A')
    (hc : c ∈ A.clusters) (hc' : c' ∈ A'.clusters) (hids : c.itemIds = c'.itemIds) :
    c.Agrees c' := by
  obtain ⟨s, hs, hrecord⟩ := L.mem_clusters.1 hc
  obtain ⟨s', hs', hrecord'⟩ := L'.mem_clusters.1 hc'
  have hdesc := describes_of_clusterOf hs.selection hs.passes hrecord
  have hdesc' := describes_of_clusterOf hs'.selection hs'.passes hrecord'
  have hS := hs.selection.members_sublist
  -- The items of the second record are those of the first, in the order of the other catalog.
  have hperm : (f.members s).Perm (f'.members s') := by
    obtain ⟨T, hT, hperm⟩ := h.symm.exists_part hs'.selection.members_sublist
    have hsorted := sorted_eq_of_perm hs'.selection.members_sublist hperm
    have heq : f.members s = T := eq_of_sorted_eq hS hT <| by
      rw [← hdesc.itemIds, hids, hdesc'.itemIds, hsorted]
    exact heq ▸ hperm.symm
  have hmaximum : c.isMaximum = true ↔ c'.isMaximum = true := by
    rw [L.isMaximum_iff hc, L'.isMaximum_iff hc', exists_growsTo_iff, exists_growsTo_iff,
      h.map_itemIds_eq L L', hids]
  have hjudgements : c.evaluations.map (·.judgement) = c'.evaluations.map (·.judgement) := by
    have hcongr := RuleSet.judgements_congr fun rule hrule => h.verdict_rule hS hperm hrule
    have heval : (f.rules.rules.mapM fun rule => rule.evaluate (f.members s)) = .ok c.evaluations :=
      hdesc.evaluations
    have heval' : (f.rules.rules.mapM fun rule => rule.evaluate (f'.members s'))
        = .ok c'.evaluations := by
      rw [h.rules]
      exact hdesc'.evaluations
    rw [heval, heval'] at hcongr
    exact Option.some.inj hcongr
  exact {
    itemIds := hids
    size := by rw [hdesc.size, hdesc'.size, hperm.length_eq]
    isValid := hdesc.isValid.trans hdesc'.isValid.symm
    isMaximum := Bool.eq_iff_iff.2 hmaximum
    judgements := hjudgements }

theorem forall₂_agrees (h : Rearranges f f') (L : f.Listing A) (L' : f'.Listing A') :
    List.Forall₂ Cluster.Agrees A.clusters A'.clusters :=
  forall₂_of_map_eq (h.map_itemIds_eq L L') fun _ hc _ hc' => h.agrees_of_itemIds L L' hc hc'

end Rearranges

/-! ## Analyses -/

/-- Where the records say the same, so does the rest of two analyses. -/
theorem agrees_of_clusters (hA : f.analyze = .ok A) (hA' : f'.analyze = .ok A')
    (hclusters : List.Forall₂ Cluster.Agrees A.clusters A'.clusters)
    (htruncated : A.truncated = A'.truncated) : A.Agrees A' := by
  have hids : A.clusters.map (·.itemIds) = A'.clusters.map (·.itemIds) := by
    rw [← List.forall₂_eq_eq_eq, List.forall₂_map_left_iff, List.forall₂_map_right_iff]
    exact hclusters.imp fun _ _ hagrees => hagrees.itemIds
  obtain ⟨hrelationships, htotals, -⟩ := report_of_analyzeWith hA
  obtain ⟨hrelationships', htotals', -⟩ := report_of_analyzeWith hA'
  refine ⟨hclusters, ?_, ?_, htruncated⟩
  · rw [hrelationships, hrelationships', hids]
  · rw [htotals, htotals', hids]

theorem truncated_of_uncapped (hcap : f.config.maxClusters = none) (hA : f.analyze = .ok A) :
    A.truncated = false := by
  obtain ⟨_, _, _, _, _, -, -, -, -, rfl⟩ := (analyzeWith_eq_ok_iff_of_uncapped hcap).1 hA
  rfl

theorem Rearranges.agrees_of_uncapped (h : Rearranges f f') (hcap : f.config.maxClusters = none)
    (hA : f.analyze = .ok A) (hA' : f'.analyze = .ok A') : A.Agrees A' := by
  have hcap' : f'.config.maxClusters = none := h.config ▸ hcap
  obtain ⟨L⟩ := nonempty_listing hcap hA
  obtain ⟨L'⟩ := nonempty_listing hcap' hA'
  refine agrees_of_clusters hA hA' (h.forall₂_agrees L L') ?_
  rw [truncated_of_uncapped hcap hA, truncated_of_uncapped hcap' hA']

/-- An analysis that is cut off has a full one behind it. -/
theorem exists_full {k : Nat} (hcap : f.config.maxClusters = some k) (hA : f.analyze = .ok A) :
    ∃ full, (f.withCap none).analyze = .ok full ∧ full.CutsTo k A := by
  have hsame : f.withCap (some k) = f := by
    unfold withCap
    rw [← hcap]
  rcases f.error_or_cutsTo with ⟨e, herror⟩ | ⟨full, hfull, hcuts⟩
  · have hfails := herror (some k)
    rw [hsame, hA] at hfails
    cases hfails
  · obtain ⟨part, hpart, hcut⟩ := hcuts k
    rw [hsame, hA] at hpart
    obtain rfl := Except.ok.inj hpart
    exact ⟨full, hfull, hcut⟩

theorem Rearranges.withCap (h : Rearranges f f') (cap : Option Nat) :
    Rearranges (f.withCap cap) (f'.withCap cap) where
  items := h.items
  schema := h.schema
  pairRules := h.pairRules
  rules := h.rules
  config := congrArg (fun config : SearchConfig => { config with maxClusters := cap }) h.config
  noFloat := h.noFloat

/-- The analyses of two catalogs with the same items say the same. -/
theorem Rearranges.agrees (h : Rearranges f f') (hA : f.analyze = .ok A)
    (hA' : f'.analyze = .ok A') : A.Agrees A' := by
  cases hcap : f.config.maxClusters with
  | none => exact h.agrees_of_uncapped hcap hA hA'
  | some k =>
    obtain ⟨full, hfull, hcut⟩ := exists_full hcap hA
    obtain ⟨full', hfull', hcut'⟩ := exists_full (h.config ▸ hcap) hA'
    have hagrees := (h.withCap none).agrees_of_uncapped rfl hfull hfull'
    refine agrees_of_clusters hA hA' ?_ ?_
    · rw [hcut.clusters, hcut'.clusters]
      exact List.forall₂_take k hagrees.clusters
    · rw [hcut.truncated, hcut'.truncated, hagrees.totals]

/-- Two catalogs with the same items fail alike, or their analyses say the same. -/
theorem Rearranges.errors_or_agrees (h : Rearranges f f') :
    ((∃ e, f.analyze = .error e) ∧ ∃ e, f'.analyze = .error e) ∨
      ∃ A A', f.analyze = .ok A ∧ f'.analyze = .ok A' ∧ A.Agrees A' := by
  cases hA : f.analyze with
  | error e =>
    refine .inl ⟨⟨e, rfl⟩, ?_⟩
    cases hA' : f'.analyze with
    | error e' => exact ⟨e', rfl⟩
    | ok A' =>
      obtain ⟨A, hok⟩ := h.symm.exists_analysis ⟨A', hA'⟩
      rw [hA] at hok
      cases hok
  | ok A =>
    obtain ⟨A', hA'⟩ := h.exists_analysis ⟨A, hA⟩
    exact .inr ⟨A, A', rfl, hA', h.agrees hA hA'⟩

section

variable {catalog : Catalog} {pairRules : PairRules} {rules : ClusterRules} {config : SearchConfig}

theorem exists_bind (config : SearchConfig) (hpairs : pairRules.bind catalog.schema = .ok ())
    (hrules : rules.bind catalog.schema = .ok ()) :
    ∃ f, ClusterFinder.bind catalog pairRules rules config = .ok f := by
  unfold ClusterFinder.bind
  split
  · rename_i herror
    rw [hpairs] at herror
    cases herror
  · split
    · rename_i herror
      rw [hrules] at herror
      cases herror
    · exact ⟨_, rfl⟩

theorem parts_of_bind (h : ClusterFinder.bind catalog pairRules rules config = .ok f) :
    f.catalog = catalog ∧ f.matcher.rules = pairRules ∧ f.rules = rules ∧ f.config = config := by
  unfold ClusterFinder.bind at h
  split at h
  · cases h
  · split at h
    · cases h
    · obtain rfl := Except.ok.inj h
      exact ⟨rfl, rfl, rfl, rfl⟩

end

/-- Whether a list of items without floats makes a catalog, whether the catalog has an analysis, and
what the analysis says apart from the reasons of the rules, does not depend on the order of the
list. -/
theorem insertion_order_irrelevant (name : String) {schema : Schema} {items items' : List Item}
    {pairRules : PairRules} {rules : ClusterRules} (config : SearchConfig)
    (hfloat : ∀ d ∈ schema.dimensions, d.kind.tag ≠ .float) (hperm : items.Perm items')
    (hpairs : pairRules.bind schema = .ok ()) (hrules : rules.bind schema = .ok ()) :
    ((∃ e, Catalog.ofItems name schema items = .error e) ∧
      ∃ e, Catalog.ofItems name schema items' = .error e) ∨
    ∃ catalog catalog', Catalog.ofItems name schema items = .ok catalog ∧
      Catalog.ofItems name schema items' = .ok catalog' ∧
      ∃ f f', ClusterFinder.bind catalog pairRules rules config = .ok f ∧
        ClusterFinder.bind catalog' pairRules rules config = .ok f' ∧
        (((∃ e, f.analyze = .error e) ∧ ∃ e, f'.analyze = .error e) ∨
          ∃ A A', f.analyze = .ok A ∧ f'.analyze = .ok A' ∧ A.Agrees A') := by
  cases hcatalog : Catalog.ofItems name schema items with
  | error e =>
    refine .inl ⟨⟨e, rfl⟩, ?_⟩
    cases hcatalog' : Catalog.ofItems name schema items' with
    | error e' => exact ⟨e', rfl⟩
    | ok catalog' =>
      obtain ⟨catalog, hok⟩ := Catalog.exists_ofItems_perm hcatalog' hperm.symm
      rw [hcatalog] at hok
      cases hok
  | ok catalog =>
    obtain ⟨catalog', hcatalog'⟩ := Catalog.exists_ofItems_perm hcatalog hperm
    obtain ⟨-, rfl, rfl⟩ := Catalog.ofItems_eq_ok_iff.1 hcatalog
    obtain ⟨-, hschema, rfl⟩ := Catalog.ofItems_eq_ok_iff.1 hcatalog'
    obtain ⟨f, hf⟩ := exists_bind config hpairs hrules
    obtain ⟨f', hf'⟩ := exists_bind config (hschema ▸ hpairs) (hschema ▸ hrules)
    obtain ⟨hc, hp, hr, hcfg⟩ := parts_of_bind hf
    obtain ⟨hc', hp', hr', hcfg'⟩ := parts_of_bind hf'
    have h : Rearranges f f' := {
      items := by rwa [hc, hc']
      schema := by rw [hc, hc', hschema]
      pairRules := hp.trans hp'.symm
      rules := hr.trans hr'.symm
      config := hcfg.trans hcfg'.symm
      noFloat := by rwa [hc] }
    exact .inr ⟨catalog, catalog', rfl, hcatalog', f, f', hf, hf', h.errors_or_agrees⟩

theorem insertion_order_irrelevant_wardrobe :
    (∀ d ∈ garments.dimensions, d.kind.tag ≠ .float) ∧
    wardrobe.catalog.items.Perm wardrobe.catalog.items.reverse ∧
    wardrobe.matcher.rules.bind garments = .ok () ∧ wardrobe.rules.bind garments = .ok () ∧
    ∃ catalog f A A',
      Catalog.ofItems "wardrobe" garments wardrobe.catalog.items.reverse = .ok catalog ∧
      ClusterFinder.bind catalog wardrobe.matcher.rules wardrobe.rules wardrobe.config = .ok f ∧
      wardrobe.analyze = .ok A ∧ f.analyze = .ok A' ∧ A.Agrees A' := by
  have hfloat : ∀ d ∈ garments.dimensions, d.kind.tag ≠ .float := by decide
  have hperm : wardrobe.catalog.items.Perm wardrobe.catalog.items.reverse :=
    (List.reverse_perm _).symm
  have hcatalog : Catalog.ofItems "wardrobe" garments wardrobe.catalog.items
      = .ok wardrobe.catalog := Catalog.ofItems_eq_ok_iff.2 ⟨rfl, rfl, rfl⟩
  have hpairs : wardrobe.matcher.rules.bind garments = .ok () := wardrobe.matcher.bound
  have hrules : wardrobe.rules.bind garments = .ok () := wardrobe.bound
  refine ⟨hfloat, hperm, hpairs, hrules, ?_⟩
  rcases insertion_order_irrelevant "wardrobe" wardrobe.config hfloat hperm hpairs hrules with
    ⟨⟨e, herror⟩, -⟩ | ⟨c, c', hc, hc', f, f', hf, hf', h⟩
  · rw [hcatalog] at herror
    cases herror
  · obtain rfl := Except.ok.inj (hcatalog.symm.trans hc)
    have hbind : ClusterFinder.bind wardrobe.catalog wardrobe.matcher.rules wardrobe.rules
        wardrobe.config = .ok wardrobe := rfl
    obtain rfl := Except.ok.inj (hbind.symm.trans hf)
    obtain ⟨analysis, hanalysis⟩ := exists_analysis_wardrobe
    rcases h with ⟨⟨e, herror⟩, -⟩ | ⟨A, A', hA, hA', hagrees⟩
    · exact nomatch hanalysis.symm.trans herror
    · exact ⟨c', f', A, A', hc', hf', hA, hA', hagrees⟩

end ClusterFinder

end Ensemble
