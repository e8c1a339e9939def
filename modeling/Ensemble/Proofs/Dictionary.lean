import Ensemble.Dictionary
import Mathlib.Data.List.Sort

/-!
# Looking up keys

An entry of a list in ascending key order is what a look-up of its key finds.  So the bindings of
distinct keys are found again in the dictionary that is made of them, and dictionaries in which the
same is found are equal.
-/

namespace Ensemble

namespace Entries

variable {α : Type u}

theorem mem_of_get? {es : Entries α} {key : String} {v : α} (h : es.get? key = some v) :
    (key, v) ∈ es := by
  induction es with
  | nil => cases h
  | cons e rest ih =>
    rw [get?] at h
    split at h
    · rename_i hk
      obtain rfl := Option.some.inj h
      exact hk ▸ List.mem_cons_self
    · exact List.mem_cons_of_mem _ (ih h)

theorem Ascending.get?_eq_some_iff {es : Entries α} (hes : es.Ascending) {key : String} {v : α} :
    es.get? key = some v ↔ (key, v) ∈ es := by
  refine ⟨mem_of_get?, fun h => ?_⟩
  induction es with
  | nil => cases h
  | cons e rest ih =>
    obtain ⟨he, hrest⟩ := List.pairwise_cons.1 hes
    rw [get?]
    rcases List.mem_cons.1 h with rfl | h
    · exact if_pos rfl
    · have hlt : e.1 < key := he _ h
      rw [if_neg, ih hrest h]
      rintro rfl
      exact String.lt_irrefl _ hlt

theorem Ascending.eq_of_mem_iff {es fs : Entries α} (hes : es.Ascending) (hfs : fs.Ascending)
    (h : ∀ e, e ∈ es ↔ e ∈ fs) : es = fs := by
  have : Std.Irrefl fun x y : String × α => x.1 < y.1 := ⟨fun x => String.lt_irrefl x.1⟩
  have : Std.Antisymm fun x y : String × α => x.1 < y.1 :=
    ⟨fun x y hxy hyx => absurd (String.lt_trans hxy hyx) (String.lt_irrefl x.1)⟩
  exact List.Pairwise.eq_of_mem_iff hes hfs h

theorem Ascending.nodup_keys {es : Entries α} (hes : es.Ascending) : (es.map (·.1)).Nodup := by
  rw [List.nodup_iff_pairwise_ne, List.pairwise_map]
  refine List.Pairwise.imp (fun {x y} hlt heq => ?_) hes
  rw [heq] at hlt
  exact String.lt_irrefl _ hlt

theorem get?_erase (es : Entries α) (key k : String) :
    (es.erase key).get? k = if key = k then none else es.get? k := by
  induction es with
  | nil => simp [erase, get?]
  | cons e rest ih =>
    obtain ⟨l, w⟩ := e
    unfold erase at ih ⊢
    by_cases hl : l = key
    · rw [List.filter_cons_of_neg (by simp [hl]), ih, get?, hl]
      split <;> rfl
    · rw [List.filter_cons_of_pos (by simp [hl]), get?, get?, ih]
      by_cases hk : key = k
      · simp [hk ▸ hl, hk]
      · simp [hk]

theorem isSome_get?_iff {es : Entries α} {key : String} :
    (es.get? key).isSome = true ↔ key ∈ es.map (·.1) := by
  induction es with
  | nil => simp [get?]
  | cons e rest ih =>
    obtain ⟨l, w⟩ := e
    rw [get?, List.map_cons, List.mem_cons, ← ih]
    by_cases hl : l = key
    · simp [hl]
    · simp [hl, Ne.symm hl]

theorem mem_keys_insert {es : Entries α} {key k : String} {v : α} :
    k ∈ (es.insert key v).map (·.1) ↔ k = key ∨ k ∈ es.map (·.1) := by
  induction es with
  | nil => simp [insert]
  | cons e rest ih =>
    obtain ⟨l, w⟩ := e
    rw [insert]
    split
    · simp
    · split
      · rename_i heq
        simp [heq]
      · rw [List.map_cons, List.mem_cons, ih, List.map_cons, List.mem_cons, or_left_comm]

theorem mem_keys_ofList {bindings : List (String × α)} {k : String} :
    k ∈ (ofList bindings).map (·.1) ↔ k ∈ bindings.map (·.1) := by
  have key : ∀ (bs : List (String × α)) (es : Entries α),
      k ∈ (bs.foldl (fun es b => es.insert b.1 b.2) es).map (·.1) ↔
        k ∈ bs.map (·.1) ∨ k ∈ es.map (·.1) := by
    intro bs
    induction bs with
    | nil => simp
    | cons b bs ih =>
      intro es
      rw [List.foldl_cons, ih, mem_keys_insert, List.map_cons, List.mem_cons, or_assoc,
        or_left_comm]
  rw [ofList, key]
  simp

/-- The bindings of distinct keys are the ones that are found. -/
theorem get?_ofList_eq_some_iff {bindings : List (String × α)}
    (hkeys : (bindings.map (·.1)).Nodup) {key : String} {v : α} :
    (ofList bindings).get? key = some v ↔ (key, v) ∈ bindings := by
  have hfold : ∀ (bs : List (String × α)) (es : Entries α), (bs.map (·.1)).Nodup →
      ((bs.foldl (fun es b => es.insert b.1 b.2) es).get? key = some v ↔
        (key, v) ∈ bs ∨ key ∉ bs.map (·.1) ∧ es.get? key = some v) := by
    intro bs
    induction bs with
    | nil => simp
    | cons b bs ih =>
      intro es hnodup
      obtain ⟨hb, hbs⟩ := List.nodup_cons.1 hnodup
      have hmem : (key, v) ∈ bs → key ∈ bs.map (·.1) := fun h => List.mem_map.2 ⟨_, h, rfl⟩
      rw [List.foldl_cons, ih _ hbs, get?_insert, List.mem_cons, List.map_cons, List.mem_cons]
      obtain ⟨k, w⟩ := b
      grind
  rw [ofList, hfold bindings [] hkeys]
  simp [get?]

/-- Of bindings with distinct keys none is lost. -/
theorem mem_ofList {bindings : List (String × α)} (hkeys : (bindings.map (·.1)).Nodup)
    {e : String × α} : e ∈ ofList bindings ↔ e ∈ bindings := by
  obtain ⟨key, v⟩ := e
  rw [← (ascending_ofList bindings).get?_eq_some_iff, get?_ofList_eq_some_iff hkeys]

theorem Ascending.ofList_eq {es : Entries α} (hes : es.Ascending) : ofList es = es :=
  (ascending_ofList es).eq_of_mem_iff hes fun _ => mem_ofList hes.nodup_keys

/-! ## Tables -/

/-- The bindings of the keys that have a value. -/
def present (table : List (String × Option α)) : List (String × α) :=
  table.filterMap fun row => row.2.map (row.1, ·)

theorem present_nil : present ([] : List (String × Option α)) = [] := rfl

theorem present_cons (key : String) (v? : Option α) (table : List (String × Option α)) :
    present ((key, v?) :: table) = v?.toList.map (key, ·) ++ present table := by
  cases v? <;> rfl

theorem mem_present {table : List (String × Option α)} {key : String} {v : α} :
    (key, v) ∈ present table ↔ (key, some v) ∈ table := by
  simp [present]

theorem keys_present_sublist (table : List (String × Option α)) :
    ((present table).map (·.1)).Sublist (table.map (·.1)) := by
  induction table with
  | nil => exact .slnil
  | cons row table ih =>
    obtain ⟨key, v?⟩ := row
    cases v? with
    | none => exact ih.cons _
    | some v => exact ih.cons_cons _

theorem mem_ofList_present {table : List (String × Option α)} (hkeys : (table.map (·.1)).Nodup)
    {key : String} {v : α} : (key, v) ∈ ofList (present table) ↔ (key, some v) ∈ table := by
  rw [mem_ofList (hkeys.sublist (keys_present_sublist table)), mem_present]

/-- In a table with distinct keys the value of a key is found again. -/
theorem get?_present {table : List (String × Option α)} (hkeys : (table.map (·.1)).Nodup)
    {key : String} {v? : Option α} (h : (key, v?) ∈ table) :
    (ofList (present table)).get? key = v? := by
  have huniq : ∀ w?, (key, w?) ∈ table → w? = v? := fun w? hw => by
    have hinj := List.inj_on_of_nodup_map hkeys hw h rfl
    exact congrArg Prod.snd hinj
  refine Option.ext fun v => ?_
  rw [(ascending_ofList _).get?_eq_some_iff, mem_ofList_present hkeys]
  exact ⟨fun hv => (huniq _ hv).symm, fun hv => hv ▸ h⟩

end Entries

theorem Dictionary.mem_keys_ofList {α : Type u} {bindings : List (String × α)} {key : String} :
    key ∈ (ofList bindings).keys ↔ key ∈ bindings.map (·.1) :=
  Entries.mem_keys_ofList

theorem Dictionary.get?_eq_some_iff {α : Type u} {d : Dictionary α} {key : String} {v : α} :
    d.get? key = some v ↔ (key, v) ∈ d.entries :=
  d.ascending.get?_eq_some_iff

theorem Dictionary.get?_erase {α : Type u} (d : Dictionary α) (key k : String) :
    (d.erase key).get? k = if key = k then none else d.get? k :=
  Entries.get?_erase ..

theorem Dictionary.mem_keys_iff {α : Type u} {d : Dictionary α} {key : String} :
    key ∈ d.keys ↔ (d.get? key).isSome = true :=
  Entries.isSome_get?_iff.symm

theorem Dictionary.ascending_keys {α : Type u} (d : Dictionary α) : d.keys.Pairwise (· < ·) :=
  List.pairwise_map.2 d.ascending

/-- Texts in ascending order are told apart by their members. -/
theorem eq_of_ascending {as bs : List String} (has : as.Pairwise (· < ·))
    (hbs : bs.Pairwise (· < ·)) (h : ∀ key, key ∈ as ↔ key ∈ bs) : as = bs := by
  have : Std.Irrefl fun x y : String => x < y := ⟨String.lt_irrefl⟩
  have : Std.Antisymm fun x y : String => x < y :=
    ⟨fun x y hxy hyx => absurd (String.lt_trans hxy hyx) (String.lt_irrefl x)⟩
  exact List.Pairwise.eq_of_mem_iff has hbs h

/-- Dictionaries in which the same is found are equal. -/
theorem Dictionary.eq_of_get?_eq {α : Type u} {d d' : Dictionary α}
    (h : ∀ key, d.get? key = d'.get? key) : d = d' := by
  refine Dictionary.ext (d.ascending.eq_of_mem_iff d'.ascending fun ⟨key, v⟩ => ?_)
  rw [← get?_eq_some_iff, ← get?_eq_some_iff, h]

end Ensemble
