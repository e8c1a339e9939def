/-!
# Sets of indices

A set of indices is an ascending list.  The capacity says for which indices a set is meant; it is
carried along and takes no part in comparisons.
-/

namespace Ensemble

/-- A finite set of indices. -/
@[ext]
structure IndexSet where
  members : List Nat
  /-- The members ascend, so none occurs twice. -/
  ascending : members.Pairwise (· < ·)
  /-- The indices below it are the ones that the set is meant for. -/
  capacity : Nat

namespace IndexSet

/-! ## Ascending lists -/

/-- Adds an index to an ascending list. -/
def insertInto (i : Nat) : List Nat → List Nat
  | [] => [i]
  | j :: rest =>
    if i < j then i :: j :: rest
    else if i = j then j :: rest
    else j :: insertInto i rest

@[simp] theorem mem_insertInto {i k : Nat} {xs : List Nat} :
    k ∈ insertInto i xs ↔ k = i ∨ k ∈ xs := by
  induction xs with
  | nil => simp [insertInto]
  | cons j rest ih =>
    rw [insertInto]
    split
    · simp
    · split
      · rename_i h
        simp [h]
      · simp only [List.mem_cons, ih, or_left_comm]

theorem pairwise_insertInto {i : Nat} {xs : List Nat} (h : xs.Pairwise (· < ·)) :
    (insertInto i xs).Pairwise (· < ·) := by
  induction xs with
  | nil => exact List.pairwise_singleton ..
  | cons j rest ih =>
    obtain ⟨hj, hrest⟩ := List.pairwise_cons.1 h
    rw [insertInto]
    split
    · rename_i hlt
      refine List.pairwise_cons.2 ⟨fun k hk => ?_, h⟩
      rcases List.mem_cons.1 hk with rfl | hk
      · exact hlt
      · exact Nat.lt_trans hlt (hj k hk)
    · split
      · exact h
      · refine List.pairwise_cons.2 ⟨fun k hk => ?_, ih hrest⟩
        rcases mem_insertInto.1 hk with rfl | hk
        · omega
        · exact hj k hk

/-! ## Operations -/

/-- The set without members. -/
def empty (capacity : Nat) : IndexSet := ⟨[], .nil, capacity⟩

/-- A copy with one more member. -/
def insert (s : IndexSet) (i : Nat) : IndexSet :=
  { s with members := insertInto i s.members, ascending := pairwise_insertInto s.ascending }

/-- The set of the indices of a list. -/
def ofList (capacity : Nat) (indices : List Nat) : IndexSet :=
  indices.foldl insert (empty capacity)

/-- A copy that keeps the members with a property. -/
def filter (s : IndexSet) (p : Nat → Bool) : IndexSet :=
  { s with members := s.members.filter p, ascending := s.ascending.filter p }

/-- Whether an index is a member. -/
def contains (s : IndexSet) (i : Nat) : Bool := s.members.contains i

/-- The number of members. -/
def size (s : IndexSet) : Nat := s.members.length

/-- Whether there are no members. -/
def isEmpty (s : IndexSet) : Bool := s.members.isEmpty

/-- A copy without an index. -/
def remove (s : IndexSet) (i : Nat) : IndexSet := s.filter (· != i)

/-- The members above an index. -/
def above (s : IndexSet) (i : Nat) : IndexSet := s.filter (i < ·)

/-- The members that are also in another set. -/
def inter (s t : IndexSet) : IndexSet := s.filter t.contains

/-- The members that are not in another set. -/
def diff (s t : IndexSet) : IndexSet := s.filter (!t.contains ·)

/-- The members of either set. -/
def union (s t : IndexSet) : IndexSet := t.members.foldl insert s

/-- Whether every member is in another set. -/
def isSubset (s t : IndexSet) : Bool := s.members.all t.contains

/-- Sets are compared by their members. -/
instance : BEq IndexSet := ⟨fun s t => s.members == t.members⟩

/-- The members between braces. -/
def describe (s : IndexSet) : String :=
  "\x7b" ++ ", ".intercalate (s.members.map toString) ++ "\x7d"

/-! ## Members -/

@[simp] theorem contains_iff {s : IndexSet} {i : Nat} : s.contains i = true ↔ i ∈ s.members := by
  simp [contains]

@[simp] theorem members_filter {s : IndexSet} {p : Nat → Bool} :
    (s.filter p).members = s.members.filter p := rfl

@[simp] theorem mem_insert {s : IndexSet} {i k : Nat} :
    k ∈ (s.insert i).members ↔ k = i ∨ k ∈ s.members := mem_insertInto

@[simp] theorem mem_remove {s : IndexSet} {i k : Nat} :
    k ∈ (s.remove i).members ↔ k ∈ s.members ∧ k ≠ i := by
  simp [remove]

@[simp] theorem mem_inter {s t : IndexSet} {k : Nat} :
    k ∈ (s.inter t).members ↔ k ∈ s.members ∧ k ∈ t.members := by
  simp [inter]

@[simp] theorem mem_diff {s t : IndexSet} {k : Nat} :
    k ∈ (s.diff t).members ↔ k ∈ s.members ∧ k ∉ t.members := by
  simp [diff, contains]

theorem mem_foldl_insert {indices : List Nat} {s : IndexSet} {k : Nat} :
    k ∈ (indices.foldl insert s).members ↔ k ∈ s.members ∨ k ∈ indices := by
  induction indices generalizing s with
  | nil => simp
  | cons i rest ih => simp [ih, or_left_comm, or_assoc]

@[simp] theorem mem_union {s t : IndexSet} {k : Nat} :
    k ∈ (s.union t).members ↔ k ∈ s.members ∨ k ∈ t.members := mem_foldl_insert

@[simp] theorem mem_ofList {capacity k : Nat} {indices : List Nat} :
    k ∈ (ofList capacity indices).members ↔ k ∈ indices := by
  simp [ofList, mem_foldl_insert, empty]

end IndexSet

end Ensemble
