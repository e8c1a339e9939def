/-!
# Dictionaries ordered by key

A dictionary binds strings to values.  Its entries are kept in ascending key order with every key at
most once, so two dictionaries with the same bindings are equal, and listings come out in one order.
Keys compare by code point, which is also the order of their UTF-8 bytes.

The functions on plain entry lists (`Entries.get?`, `Entries.insert`, `Entries.erase`) are shared
with the map values and the document objects, whose constructors hold such a list.
-/

namespace Ensemble

/-- Key and value pairs.  Every list built by this library is in ascending key order. -/
abbrev Entries (α : Type u) := List (String × α)

namespace Entries

variable {α : Type u}

/-- Every key is below all later ones. -/
def Ascending (es : Entries α) : Prop := es.Pairwise fun x y => x.1 < y.1

/-- The value bound to a key. -/
def get? (es : Entries α) (key : String) : Option α :=
  match es with
  | [] => none
  | (k, v) :: rest => if k = key then some v else get? rest key

/-- Binds a key, replacing an earlier binding. -/
def insert (es : Entries α) (key : String) (value : α) : Entries α :=
  match es with
  | [] => [(key, value)]
  | (k, v) :: rest =>
    if key < k then (key, value) :: (k, v) :: rest
    else if k = key then (key, value) :: rest
    else (k, v) :: insert rest key value

/-- Drops the binding of a key. -/
def erase (es : Entries α) (key : String) : Entries α := es.filter fun e => e.1 ≠ key

/-- The entries of a list of bindings: a later binding of a key wins. -/
def ofList (bindings : List (String × α)) : Entries α :=
  bindings.foldl (fun es b => es.insert b.1 b.2) []

theorem get?_insert (es : Entries α) (key k : String) (value : α) :
    (es.insert key value).get? k = if key = k then some value else es.get? k := by
  induction es with
  | nil => simp [insert, get?]
  | cons e rest ih =>
    obtain ⟨l, w⟩ := e
    rw [insert]
    split
    · rw [get?]
    · split
      · rename_i heq
        subst heq
        rw [get?, get?]
        split <;> rfl
      · rename_i hne
        rw [get?, get?, ih]
        split
        · rename_i heq
          rw [if_neg fun h => hne (heq.trans h.symm)]
        · rfl

/-! ## Order -/

theorem mem_insert {es : Entries α} {key : String} {value : α} {e : String × α}
    (h : e ∈ es.insert key value) : e = (key, value) ∨ e ∈ es := by
  induction es with
  | nil => simpa [insert] using h
  | cons x rest ih =>
    rw [insert] at h
    split at h
    · simpa using h
    · split at h
      · rcases List.mem_cons.1 h with h | h
        · exact Or.inl h
        · exact Or.inr (List.mem_cons_of_mem _ h)
      · rcases List.mem_cons.1 h with h | h
        · exact Or.inr (h ▸ List.mem_cons_self)
        · exact (ih h).imp id (List.mem_cons_of_mem _)

theorem Ascending.insert {es : Entries α} (h : es.Ascending) (key : String) (value : α) :
    (es.insert key value).Ascending := by
  induction es with
  | nil => exact List.pairwise_singleton ..
  | cons x rest ih =>
    obtain ⟨hx, hrest⟩ := List.pairwise_cons.1 h
    rw [Entries.insert]
    split
    · rename_i hlt
      refine List.pairwise_cons.2 ⟨fun y hy => ?_, h⟩
      rcases List.mem_cons.1 hy with rfl | hy
      · exact hlt
      · exact String.lt_trans hlt (hx y hy)
    · rename_i hge
      split
      · rename_i heq
        exact List.pairwise_cons.2 ⟨fun y hy => heq ▸ hx y hy, hrest⟩
      · rename_i hne
        refine List.pairwise_cons.2 ⟨fun y hy => ?_, ih hrest⟩
        rcases mem_insert hy with rfl | hy
        · exact Std.lt_of_le_of_ne (String.not_lt.1 hge) hne
        · exact hx y hy

theorem Ascending.erase {es : Entries α} (h : es.Ascending) (key : String) :
    (es.erase key).Ascending := List.Pairwise.filter _ h

theorem ascending_ofList (bindings : List (String × α)) : (ofList bindings).Ascending := by
  have key : ∀ (bs : List (String × α)) (es : Entries α), es.Ascending →
      Ascending (bs.foldl (fun es b => es.insert b.1 b.2) es) := by
    intro bs
    induction bs with
    | nil => exact fun _ h => h
    | cons b bs ih => exact fun es h => ih _ (h.insert _ _)
  exact key bindings [] List.Pairwise.nil

end Entries

/-- Bindings of strings to values, in ascending key order. -/
@[ext]
structure Dictionary (α : Type u) where
  /-- The bindings. -/
  entries : Entries α
  /-- Keys ascend, so none occurs twice. -/
  ascending : entries.Ascending

namespace Dictionary

variable {α : Type u}

instance [DecidableEq α] : DecidableEq (Dictionary α) := fun a b =>
  decidable_of_iff (a.entries = b.entries) Dictionary.ext_iff.symm

/-- No bindings. -/
def empty : Dictionary α := ⟨[], List.Pairwise.nil⟩

instance : Inhabited (Dictionary α) := ⟨empty⟩

/-- The bindings of a list: a later binding of a key wins. -/
def ofList (bindings : List (String × α)) : Dictionary α :=
  ⟨Entries.ofList bindings, Entries.ascending_ofList bindings⟩

/-- The value bound to a key. -/
def get? (d : Dictionary α) (key : String) : Option α := d.entries.get? key

/-- Whether a key is bound. -/
def contains (d : Dictionary α) (key : String) : Bool := (d.get? key).isSome

/-- A copy that binds a key, replacing an earlier binding. -/
def insert (d : Dictionary α) (key : String) (value : α) : Dictionary α :=
  ⟨d.entries.insert key value, d.ascending.insert key value⟩

theorem get?_insert (d : Dictionary α) (key k : String) (value : α) :
    (d.insert key value).get? k = if key = k then some value else d.get? k :=
  Entries.get?_insert ..

/-- A copy without the binding of a key. -/
def erase (d : Dictionary α) (key : String) : Dictionary α :=
  ⟨d.entries.erase key, d.ascending.erase key⟩

/-- The keys, ascending. -/
def keys (d : Dictionary α) : List String := d.entries.map (·.1)

/-- The values, in key order. -/
def values (d : Dictionary α) : List α := d.entries.map (·.2)

/-- The number of bindings. -/
def size (d : Dictionary α) : Nat := d.entries.length

/-- Whether nothing is bound. -/
def isEmpty (d : Dictionary α) : Bool := d.entries.isEmpty

/-- The dictionary with each value replaced. -/
def mapValues {β : Type v} (f : α → β) (d : Dictionary α) : Dictionary β :=
  ⟨d.entries.map fun e => (e.1, f e.2), by
    unfold Entries.Ascending
    rw [List.pairwise_map]
    exact d.ascending⟩

end Dictionary

end Ensemble
