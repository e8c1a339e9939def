import Ensemble.Proofs.Catalog.Building

/-!
# The history of a catalog

Catalogs start empty or from a list of items, and grow item by item.  Whichever way a catalog was
built, its items are those of the offered ones that were accepted: of each id, the first item that
satisfies the schema.  The index knows just these, each at its place.
-/

namespace Ensemble

namespace Schema

variable {schema : Schema} {item : Item} {items offered : List Item}

/-- The items that are accepted when they are offered one after the other: of each id, the first one
that satisfies the schema. -/
def accepted (schema : Schema) : List Item → List Item
  | [] => []
  | item :: rest =>
    if schema.validate item = .ok () then
      item :: (schema.accepted rest).filter fun other => other.id ≠ item.id
    else schema.accepted rest

/-- What was accepted is not taken back when one more item is offered; that has to have a new id. -/
theorem accepted_append_singleton :
    schema.accepted (offered ++ [item]) =
      schema.accepted offered ++
        if item.id ∉ (schema.accepted offered).map (·.id) ∧ schema.validate item = .ok ()
        then [item] else [] := by
  induction offered with
  | nil => simp [accepted]
  | cons first rest ih =>
    rw [List.cons_append, accepted, accepted, ih]
    split
    · rw [List.filter_append, List.cons_append, List.cons_inj_right, List.append_cancel_left_eq]
      -- The first item stands in the way of the last one if they share an id.
      by_cases hid : item.id = first.id
      · split <;> simp [hid]
      · have hmem : item.id ∈ (first :: (schema.accepted rest).filter
            fun other => other.id ≠ first.id).map (·.id)
            ↔ item.id ∈ (schema.accepted rest).map (·.id) := by
          grind
        simp only [hmem]
        split <;> simp [hid]
    · rfl

/-- Items that satisfy the schema under distinct ids are all accepted. -/
theorem accepted_eq_self (hdistinct : (items.map (·.id)).Nodup)
    (hvalid : ∀ item ∈ items, schema.validate item = .ok ()) : schema.accepted items = items := by
  induction items with
  | nil => rfl
  | cons first rest ih =>
    obtain ⟨hfirst, hrest⟩ := List.nodup_cons.1 hdistinct
    obtain ⟨hv, hvs⟩ := List.forall_mem_cons.1 hvalid
    rw [accepted, if_pos hv, ih hrest hvs]
    refine congrArg (first :: ·) (List.filter_eq_self.2 fun other hother => ?_)
    exact decide_eq_true fun h => hfirst (List.mem_map.2 ⟨other, hother, h⟩)

end Schema

namespace Catalog

variable {catalog c c' : Catalog} {name : String} {schema : Schema} {item : Item}
  {items offered : List Item} {e : Error}

/-! ## Steps -/

theorem check_of_add_eq_ok (h : catalog.add item = .ok c) : catalog.check item = .ok () := by
  unfold add at h
  split at h
  · assumption
  · cases h

theorem check_of_add_eq_error (h : catalog.add item = .error e) :
    catalog.check item = .error e := by
  unfold add at h
  split at h
  · cases h
  · rename_i hcheck
    rwa [Except.error.inj h] at hcheck

/-- A catalog keeps its name and its schema, and holds what its schema accepts of the items that
were offered. -/
structure Holds (catalog : Catalog) (name : String) (schema : Schema) (offered : List Item) :
    Prop where
  name_eq : catalog.name = name
  schema_eq : catalog.schema = schema
  items_eq : catalog.items = schema.accepted offered

namespace Holds

theorem empty : (Catalog.empty name schema).Holds name schema [] := ⟨rfl, rfl, rfl⟩

/-- An item that is added is accepted. -/
theorem add (h : catalog.Holds name schema offered) (hadd : catalog.add item = .ok c) :
    c.Holds name schema (offered ++ [item]) := by
  obtain ⟨rfl, rfl, hitems⟩ := h
  obtain ⟨hname, hschema, hitems'⟩ := add_eq_ok_iff.1 hadd
  have hcheck := check_eq_ok_iff.1 (check_of_add_eq_ok hadd)
  refine ⟨hname, hschema, ?_⟩
  rw [hitems', Schema.accepted_append_singleton, ← hitems, if_pos hcheck]

/-- An item that is refused is not. -/
theorem refuse (h : catalog.Holds name schema offered) (hadd : catalog.add item = .error e) :
    catalog.Holds name schema (offered ++ [item]) := by
  obtain ⟨rfl, rfl, hitems⟩ := h
  have hcheck : ¬ catalog.check item = .ok () := by
    rw [check_of_add_eq_error hadd]
    exact fun h => nomatch h
  refine ⟨rfl, rfl, ?_⟩
  rw [Schema.accepted_append_singleton, ← hitems, if_neg (mt check_eq_ok_iff.2 hcheck),
    List.append_nil]

/-- Offering a list of items is offering one after the other. -/
theorem addAll (h : catalog.Holds name schema offered) :
    (catalog.addAll items).1.Holds name schema (offered ++ items) := by
  induction items generalizing catalog offered with
  | nil => simpa [Catalog.addAll] using h
  | cons item rest ih =>
    rw [Catalog.addAll, List.append_cons]
    split
    · exact ih (h.add ‹_›)
    · exact ih (h.refuse ‹_›)

theorem ofItems (h : ofItems name schema items = .ok c) : c.Holds name schema items := by
  obtain ⟨rfl, rfl, rfl⟩ := ofItems_eq_ok_iff.1 h
  exact ⟨rfl, rfl, (Schema.accepted_eq_self c.distinct c.valid).symm⟩

end Holds

/-! ## Runs -/

/-- The catalogs that are built under a name and a schema, with the items that were offered on the
way.  A catalog that refuses an item stays as it is. -/
inductive Built (name : String) (schema : Schema) : List Item → Catalog → Prop
  | empty : Built name schema [] (empty name schema)
  | ofItems {items : List Item} {c : Catalog} :
    ofItems name schema items = .ok c → Built name schema items c
  | ofItemsPartial (items : List Item) :
    Built name schema items (ofItemsPartial name schema items).1
  | add {offered : List Item} {item : Item} {c c' : Catalog} :
    Built name schema offered c → c.add item = .ok c' → Built name schema (offered ++ [item]) c'
  | refuse {offered : List Item} {item : Item} {c : Catalog} {e : Error} :
    Built name schema offered c → c.add item = .error e → Built name schema (offered ++ [item]) c

theorem Built.holds (h : Built name schema offered c) : c.Holds name schema offered := by
  induction h with
  | empty => exact .empty
  | ofItems h => exact .ofItems h
  | ofItemsPartial items => exact Holds.empty.addAll
  | add _ hadd ih => exact ih.add hadd
  | refuse _ hadd ih => exact ih.refuse hadd

/-! ## Looking up -/

theorem indexOf?_eq_some_iff_getElem {id : ItemId} {i : Nat} :
    catalog.indexOf? id = some i ↔ ∃ h : i < catalog.items.length, catalog.items[i].id = id := by
  simp only [indexOf?_eq_some_iff, List.getElem?_eq_some_iff]
  grind

/-- The item that is found under an id is the one that has it. -/
theorem get?_eq_some_iff {id : ItemId} :
    catalog.get? id = some item ↔ item ∈ catalog.items ∧ item.id = id := by
  rw [get?, Option.bind_eq_some_iff]
  simp only [indexOf?_eq_some_iff, List.mem_iff_getElem?]
  constructor
  · rintro ⟨i, ⟨a, ha, hid⟩, hi⟩
    obtain rfl := Option.some.inj (ha.symm.trans hi)
    exact ⟨⟨i, hi⟩, hid⟩
  · rintro ⟨⟨i, hi⟩, hid⟩
    exact ⟨i, ⟨item, hi, hid⟩, hi⟩

/-- Whichever way a catalog was built, its items are the accepted ones of those that were offered,
in their order, and its look-ups lead to them alone. -/
theorem Built.items_and_lookups (h : Built name schema offered c) :
    c.name = name ∧ c.schema = schema ∧ c.items = schema.accepted offered
      ∧ (c.items.map (·.id)).Nodup
      ∧ (∀ item ∈ c.items, schema.validate item = .ok ())
      ∧ (∀ id i, c.indexOf? id = some i ↔ ∃ h : i < c.items.length, c.items[i].id = id)
      ∧ (∀ id, (c.get? id).isSome ↔ id ∈ c.items.map (·.id))
      ∧ ∀ id item, c.get? id = some item ↔ item ∈ c.items ∧ item.id = id := by
  obtain ⟨hname, hschema, hitems⟩ := h.holds
  have hget : ∀ id, (c.get? id).isSome ↔ id ∈ c.items.map (·.id) := fun id => by
    rw [Option.isSome_iff_exists, List.mem_map]
    simp only [get?_eq_some_iff]
  exact ⟨hname, hschema, hitems, c.distinct, hschema ▸ c.valid,
    fun _ _ => indexOf?_eq_some_iff_getElem, hget, fun _ _ => get?_eq_some_iff⟩

/-! ## A shelf -/

/-- The schema of books, which have to have a title. -/
def library : Schema := ⟨"library", "1", [⟨"title", .string, true⟩], .reject, by decide⟩

/-- A book without a title. -/
def blank (id : String) : Item := { id := ⟨id⟩, name := id }

/-- A book with a title. -/
def book (id title : String) : Item := (blank id).withAttribute "title" (.string title)

/-- The second book under one number is not accepted, and a book without a title takes no number
away. -/
theorem items_and_lookups_shelf : ∃ c,
    Built "shelf" library
      ([book "1" "Emma", blank "2", book "1" "Ivanhoe"] ++ [book "2" "Persuasion"]) c
      ∧ c.items = [book "1" "Emma", book "2" "Persuasion"]
      ∧ c.indexOf? ⟨"2"⟩ = some 1 := by
  obtain ⟨c, hc⟩ : ∃ c, (ofItemsPartial "shelf" library
      [book "1" "Emma", blank "2", book "1" "Ivanhoe"]).1.add (book "2" "Persuasion") = .ok c := by
    have hsome : ((ofItemsPartial "shelf" library [book "1" "Emma", blank "2",
        book "1" "Ivanhoe"]).1.add (book "2" "Persuasion")).toOption.isSome = true := by
      decide +kernel
    obtain ⟨c, hc⟩ := Option.isSome_iff_exists.1 hsome
    exact ⟨c, toOption_eq_some_iff.1 hc⟩
  have hbuilt := Built.add (.ofItemsPartial _) hc
  obtain ⟨-, -, hitems, -, -, hindex, -, -⟩ := hbuilt.items_and_lookups
  have haccepted : c.items = [book "1" "Emma", book "2" "Persuasion"] :=
    hitems.trans (by decide +kernel)
  refine ⟨c, hbuilt, haccepted, (hindex _ _).2 ⟨by simp [haccepted], ?_⟩⟩
  simp only [haccepted]
  rfl

end Catalog

end Ensemble
