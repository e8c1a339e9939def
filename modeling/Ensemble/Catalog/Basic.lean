import Ensemble.Schema.Basic

/-!
# Catalogs

A catalog holds items that satisfy one schema, under distinct ids and in the order in which they
were added.  The position of an item is its index in searches; a catalog keeps a dictionary of these
positions, in which ids are looked up.
-/

namespace Ensemble

/-- An index of a list of items: it leads from the texts of their ids to their positions, and
nowhere else. -/
def Indexes (index : Dictionary Nat) (items : List Item) : Prop :=
  ∀ key i, index.get? key = some i ↔ ∃ item, items[i]? = some item ∧ item.id.text = key

/-- Items of one schema. -/
structure Catalog where
  name : String
  schema : Schema
  /-- In the order in which they were added. -/
  items : List Item
  index : Dictionary Nat
  /-- Every item satisfies the schema. -/
  valid : ∀ item ∈ items, schema.validate item = .ok ()
  indexed : Indexes index items

/-- An item that was not added to a catalog. -/
structure Rejection where
  id : ItemId
  error : Error
  deriving DecidableEq

namespace Indexes

variable {index : Dictionary Nat} {items : List Item} {item : Item}

theorem nil : Indexes .empty [] := fun key i => by
  simp [Dictionary.empty, Dictionary.get?, Entries.get?]

/-- An item under a new id goes to the end. -/
theorem append (h : Indexes index items) (hnew : item.id ∉ items.map (·.id)) :
    Indexes (index.insert item.id.text items.length) (items ++ [item]) := by
  intro key i
  have hother : ∀ a, items[i]? = some a → a.id.text ≠ item.id.text := fun a ha htext =>
    hnew (List.mem_map.2 ⟨a, List.mem_of_getElem? ha, ItemId.ext htext⟩)
  have hlast : (items ++ [item])[i]? = if i = items.length then some item else items[i]? := by
    grind
  rw [Dictionary.get?_insert, hlast]
  by_cases hkey : item.id.text = key
  · subst hkey
    rw [if_pos rfl]
    split
    · rename_i hi
      simp [hi]
    · rename_i hi
      have hne : items.length ≠ i := fun e => hi e.symm
      simpa [hne] using hother
  · rw [if_neg hkey, h key i]
    split
    · rename_i hi
      simp [hi, hkey]
    · rfl

/-- No two items share an id. -/
theorem nodup (h : Indexes index items) : (items.map (·.id)).Nodup := by
  refine List.pairwise_iff_getElem.2 fun i j hi hj hij heq => ?_
  rw [List.length_map] at hi hj
  rw [List.getElem_map, List.getElem_map] at heq
  have hati := (h items[j].id.text i).2 ⟨items[i], List.getElem?_eq_getElem hi, congrArg _ heq⟩
  have hatj := (h items[j].id.text j).2 ⟨items[j], List.getElem?_eq_getElem hj, rfl⟩
  rw [hati] at hatj
  exact Nat.ne_of_lt hij (Option.some.inj hatj)

end Indexes

namespace Catalog

/-- The catalog without items. -/
def empty (name : String) (schema : Schema) : Catalog :=
  ⟨name, schema, [], .empty, fun _ h => absurd h List.not_mem_nil, .nil⟩

/-- No two items share an id. -/
theorem distinct (catalog : Catalog) : (catalog.items.map (·.id)).Nodup := catalog.indexed.nodup

/-! ## Looking up -/

/-- The number of items. -/
def size (catalog : Catalog) : Nat := catalog.items.length

/-- Whether there are no items. -/
def isEmpty (catalog : Catalog) : Bool := catalog.items.isEmpty

/-- The position of the item with an id. -/
def indexOf? (catalog : Catalog) (id : ItemId) : Option Nat := catalog.index.get? id.text

/-- The item with an id. -/
def get? (catalog : Catalog) (id : ItemId) : Option Item :=
  (catalog.indexOf? id).bind fun i => catalog.items[i]?

/-- The item with an id, or an error that names it. -/
def require (catalog : Catalog) (id : ItemId) : Except Error Item :=
  match catalog.get? id with
  | some item => .ok item
  | none => .error (Cause.unknownItem id.text)

/-- Whether an item has an id. -/
def contains (catalog : Catalog) (id : ItemId) : Bool := (catalog.indexOf? id).isSome

theorem indexOf?_eq_some_iff {catalog : Catalog} {id : ItemId} {i : Nat} :
    catalog.indexOf? id = some i ↔ ∃ a, catalog.items[i]? = some a ∧ a.id = id := by
  rw [indexOf?, catalog.indexed id.text i]
  simp only [ItemId.ext_iff]

theorem contains_iff {catalog : Catalog} {id : ItemId} :
    catalog.contains id = true ↔ id ∈ catalog.items.map (·.id) := by
  rw [contains, Option.isSome_iff_exists, List.mem_map]
  simp only [indexOf?_eq_some_iff, List.mem_iff_getElem?]
  exact ⟨fun ⟨i, a, ha, hid⟩ => ⟨a, ⟨i, ha⟩, hid⟩, fun ⟨a, ⟨i, ha⟩, hid⟩ => ⟨i, a, ha, hid⟩⟩

/-! ## Adding -/

/-- Whether an item may be added: its id is new, and it satisfies the schema. -/
def check (catalog : Catalog) (item : Item) : Except Error Unit :=
  if catalog.contains item.id then .error (Cause.duplicateItem item.id.text)
  else catalog.schema.validate item

theorem check_eq_ok_iff {catalog : Catalog} {item : Item} :
    catalog.check item = .ok () ↔
      item.id ∉ catalog.items.map (·.id) ∧ catalog.schema.validate item = .ok () := by
  rw [← contains_iff, check]
  split <;> simp_all

/-- A copy with one more item, which has been checked: it goes to the end, and its position into the
index. -/
def append (catalog : Catalog) (item : Item) (h : catalog.check item = .ok ()) : Catalog where
  name := catalog.name
  schema := catalog.schema
  items := catalog.items ++ [item]
  index := catalog.index.insert item.id.text catalog.items.length
  valid := fun i hi => (List.mem_append.1 hi).elim (catalog.valid i) fun hi => by
    obtain rfl := List.mem_singleton.1 hi
    exact (check_eq_ok_iff.1 h).2
  indexed := catalog.indexed.append (check_eq_ok_iff.1 h).1

/-- A copy with one more item. -/
def add (catalog : Catalog) (item : Item) : Except Error Catalog :=
  match h : catalog.check item with
  | .ok () => .ok (catalog.append item h)
  | .error e => .error e

/-- The catalog of the given items; the first item that cannot be added is an error. -/
def ofItems (name : String) (schema : Schema) (items : List Item) : Except Error Catalog :=
  items.foldlM add (empty name schema)

/-- Adds the items that can be added, and lists the others. -/
def addAll (catalog : Catalog) : List Item → Catalog × List Rejection
  | [] => (catalog, [])
  | item :: rest =>
    match catalog.add item with
    | .ok catalog => catalog.addAll rest
    | .error e =>
      let (catalog, rejections) := catalog.addAll rest
      (catalog, ⟨item.id, e⟩ :: rejections)

/-- The catalog of the items that can be added, with the others. -/
def ofItemsPartial (name : String) (schema : Schema) (items : List Item) :
    Catalog × List Rejection :=
  (empty name schema).addAll items

end Catalog

end Ensemble
