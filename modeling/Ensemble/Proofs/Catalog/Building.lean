import Ensemble.Proofs.Catalog.Ids
import Ensemble.Proofs.Dictionary
import Ensemble.Proofs.Except
import Mathlib.Data.List.Perm.Lattice

/-!
# Building catalogs

Adding items one after the other gives the catalog that holds exactly these items, in the same
order, if there is one.  So the order matters neither to whether a list of items makes a catalog,
nor to which items it then holds.
-/

namespace Ensemble

/-! ## Indexes -/

namespace Indexes

variable {index index' : Dictionary Nat} {items : List Item}

/-- A list of items has one index. -/
theorem unique (h : Indexes index items) (h' : Indexes index' items) : index = index' := by
  refine Dictionary.eq_of_get?_eq fun key => Option.ext fun i => ?_
  rw [h key i, h' key i]

/-- The index that a list of items with distinct ids has. -/
theorem positions (h : (items.map (·.id)).Nodup) :
    Indexes (.ofList (items.zipIdx.map fun p => (p.1.id.text, p.2))) items := by
  have hkeys : ((items.zipIdx.map fun p => (p.1.id.text, p.2)).map (·.1)).Nodup := by
    have htexts := h.map ItemId.text_injective
    rw [← List.zipIdx_map_fst 0 items, List.map_map, List.map_map] at htexts
    rw [List.map_map]
    exact htexts
  intro key i
  rw [Dictionary.ofList, Dictionary.get?, Entries.get?_ofList_eq_some_iff hkeys, List.mem_map]
  simp only [Prod.exists, List.mem_zipIdx_iff_getElem?, Prod.mk.injEq]
  grind

end Indexes

namespace Catalog

variable {catalog c : Catalog} {name : String} {schema : Schema} {item : Item}
  {items items' : List Item}

theorem eq_of_parts {c d : Catalog} (hname : c.name = d.name) (hschema : c.schema = d.schema)
    (hitems : c.items = d.items) : c = d := by
  have hindex : c.index = d.index := c.indexed.unique (hitems ▸ d.indexed)
  cases c
  cases d
  cases hname
  cases hschema
  cases hitems
  cases hindex
  rfl

/-- The catalog of items that satisfy a schema, under distinct ids. -/
def holding (name : String) (schema : Schema) (items : List Item)
    (distinct : (items.map (·.id)).Nodup)
    (valid : ∀ item ∈ items, schema.validate item = .ok ()) : Catalog :=
  ⟨name, schema, items, _, valid, .positions distinct⟩

/-- An item can be added if there is a catalog with it at the end. -/
theorem add_eq_ok_iff :
    catalog.add item = .ok c ↔
      c.name = catalog.name ∧ c.schema = catalog.schema ∧ c.items = catalog.items ++ [item] := by
  constructor
  · intro h
    unfold add at h
    split at h
    · obtain rfl := Except.ok.inj h
      exact ⟨rfl, rfl, rfl⟩
    · cases h
  · rintro ⟨hname, hschema, hitems⟩
    have hdistinct := c.distinct
    rw [hitems, List.map_append] at hdistinct
    have hcheck : catalog.check item = .ok () := by
      refine check_eq_ok_iff.2 ⟨fun hid => ?_, ?_⟩
      · exact (List.nodup_append.1 hdistinct).2.2 _ hid _ (List.mem_singleton_self _) rfl
      · rw [← hschema]
        exact c.valid item (hitems ▸ List.mem_append_right _ (List.mem_singleton_self _))
    have hadd : catalog.add item = .ok (catalog.append item hcheck) := by
      unfold add
      split
      · rfl
      · rename_i herror
        rw [hcheck] at herror
        cases herror
    rw [hadd]
    exact congrArg Except.ok (eq_of_parts hname.symm hschema.symm hitems.symm)

theorem foldlM_add_eq_ok_iff :
    items.foldlM add catalog = .ok c ↔
      c.name = catalog.name ∧ c.schema = catalog.schema ∧ c.items = catalog.items ++ items := by
  induction items generalizing catalog with
  | nil =>
    rw [List.foldlM_nil, List.append_nil, pure_eq_ok, Except.ok.injEq]
    constructor
    · rintro rfl
      exact ⟨rfl, rfl, rfl⟩
    · rintro ⟨hname, hschema, hitems⟩
      exact (eq_of_parts hname hschema hitems).symm
  | cons item items ih =>
    rw [List.foldlM_cons, bind_eq_ok_iff]
    constructor
    · rintro ⟨next, hadd, h⟩
      obtain ⟨hname, hschema, hitems⟩ := add_eq_ok_iff.1 hadd
      obtain ⟨hname', hschema', hitems'⟩ := ih.1 h
      refine ⟨hname'.trans hname, hschema'.trans hschema, ?_⟩
      rw [hitems', hitems, List.append_assoc, List.singleton_append]
    · rintro ⟨hname, hschema, hitems⟩
      have hsplit : catalog.items ++ [item] ++ items = c.items := by
        rw [hitems, List.append_assoc, List.singleton_append]
      -- The catalog of the first items is a part of the whole one.
      have hfirst : (catalog.items ++ [item]).Sublist c.items :=
        hsplit ▸ List.sublist_append_left _ _
      have hvalid : ∀ i ∈ catalog.items ++ [item], catalog.schema.validate i = .ok () := by
        intro i hi
        rw [← hschema]
        exact c.valid i (hfirst.subset hi)
      let next := holding catalog.name catalog.schema (catalog.items ++ [item])
        (c.distinct.sublist (hfirst.map _)) hvalid
      exact ⟨next, add_eq_ok_iff.2 ⟨rfl, rfl, rfl⟩, ih.2 ⟨hname, hschema, hsplit.symm⟩⟩

/-- A list of items makes the catalog that holds exactly these, if there is one. -/
theorem ofItems_eq_ok_iff :
    ofItems name schema items = .ok c ↔
      c.name = name ∧ c.schema = schema ∧ c.items = items :=
  foldlM_add_eq_ok_iff

theorem exists_ofItems_perm (h : ofItems name schema items = .ok c) (hperm : items.Perm items') :
    ∃ c', ofItems name schema items' = .ok c' := by
  obtain ⟨-, rfl, rfl⟩ := ofItems_eq_ok_iff.1 h
  have hdistinct : (items'.map (·.id)).Nodup := (hperm.map _).nodup_iff.1 c.distinct
  have hvalid : ∀ i ∈ items', c.schema.validate i = .ok () :=
    fun i hi => c.valid i (hperm.mem_iff.2 hi)
  exact ⟨holding name c.schema items' hdistinct hvalid, ofItems_eq_ok_iff.2 ⟨rfl, rfl, rfl⟩⟩

end Catalog

end Ensemble
