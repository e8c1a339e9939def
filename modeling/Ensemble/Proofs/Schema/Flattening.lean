import Ensemble.Proofs.Dictionary
import Ensemble.Proofs.Schema.Coverage

/-!
# Flattening a coverage

A flattened coverage has a layer for each part that some entry names, the highest one of these
entries.  So it depends on nothing but which parts are named at which layers: not on the order of
the entries, on how the parts are spread over entries of one layer, or on repetitions.
-/

namespace Ensemble

namespace Coverage

variable {coverage other : Coverage} {part : String} {x y : Float} {xs ys : List Float}

/-! ## The highest of several layers -/

/-- The highest of the given layers, taken one after the other. -/
def highest? : List Float → Option Float
  | [] => none
  | x :: xs => some (xs.foldl greaterFloat x)

/-- A layer of a list that is not below another one. -/
def Highest (xs : List Float) (x : Float) : Prop := x ∈ xs ∧ ∀ y ∈ xs, y ≤ x

theorem highest_of_highest? (hxs : ∀ z ∈ xs, IsHeight z) (h : highest? xs = some x) :
    Highest xs x := by
  cases xs with
  | nil => cases h
  | cons first rest =>
    obtain rfl := Option.some.inj h
    obtain ⟨hmem, hleast⟩ : IsExtreme (OrderDual.toDual ∘ rank) (first :: rest) _ :=
      isExtreme_foldl isExtreme_greaterFloat
    refine ⟨hmem, fun z hz => ?_⟩
    have hnum := (hxs z hz).not_nan
    rw [float_le_iff_rank hnum (hxs _ hmem).not_nan]
    exact (hleast z hz hnum).2

/-- Of heights there is only one highest. -/
theorem highest?_eq_some_iff (hxs : ∀ z ∈ xs, IsHeight z) :
    highest? xs = some x ↔ Highest xs x := by
  refine ⟨highest_of_highest? hxs, fun h => ?_⟩
  cases hhighest : highest? xs with
  | none =>
    cases xs with
    | nil => cases h.1
    | cons first rest => cases hhighest
  | some y =>
    obtain ⟨hmem, hle⟩ := highest_of_highest? hxs hhighest
    exact congrArg some ((hxs y hmem).eq_of_le_of_le (hxs x h.1) (h.2 y hmem) (hle x h.1))

theorem highest?_eq_none_iff : highest? xs = none ↔ xs = [] := by
  cases xs <;> simp [highest?]

theorem highest?_append (hxs : ∀ z ∈ xs, IsHeight z) (hys : ∀ z ∈ ys, IsHeight z) :
    highest? (xs ++ ys) = Option.merge max (highest? xs) (highest? ys) := by
  cases hx : highest? xs with
  | none =>
    rw [highest?_eq_none_iff.1 hx, List.nil_append]
    cases highest? ys <;> rfl
  | some x =>
    cases hy : highest? ys with
    | none =>
      rw [highest?_eq_none_iff.1 hy, List.append_nil, hx]
      rfl
    | some y =>
      have hall : ∀ z ∈ xs ++ ys, IsHeight z := fun z hz =>
        (List.mem_append.1 hz).elim (hxs z) (hys z)
      obtain ⟨hxmem, hxle⟩ := (highest?_eq_some_iff hxs).1 hx
      obtain ⟨hymem, hyle⟩ := (highest?_eq_some_iff hys).1 hy
      refine (highest?_eq_some_iff hall).2 ?_
      show Highest (xs ++ ys) (if x ≤ y then y else x)
      by_cases hle : x ≤ y
      · rw [if_pos hle]
        refine ⟨List.mem_append_right xs hymem, fun z hz => ?_⟩
        rcases List.mem_append.1 hz with hz | hz
        · exact float_le_trans (hxle z hz) hle
        · exact hyle z hz
      · rw [if_neg hle]
        refine ⟨List.mem_append_left ys hxmem, fun z hz => ?_⟩
        rcases List.mem_append.1 hz with hz | hz
        · exact hxle z hz
        · have hyx := ((hxs x hxmem).le_total (hys y hymem)).resolve_left hle
          exact float_le_trans (hyle z hz) hyx

/-! ## Parts and their layers -/

/-- Some entry names a part, and has a layer. -/
def Covers (coverage : Coverage) (part : String) (x : Float) : Prop :=
  ∃ entry ∈ coverage, part ∈ entry.parts ∧ entry.layer = x

/-- The highest layer of the entries that name a part. -/
def IsTop (coverage : Coverage) (part : String) (x : Float) : Prop :=
  coverage.Covers part x ∧ ∀ y, coverage.Covers part y → y ≤ x

/-- All layers at which parts are named are heights. -/
def HasHeights (coverage : Coverage) : Prop :=
  ∀ part x, coverage.Covers part x → IsHeight x

/-- The layers of a part, in the order in which entries name it. -/
def layers (assignments : List (String × Float)) (part : String) : List Float :=
  (assignments.filter fun a => a.1 = part).map (·.2)

theorem mem_layers_iff : x ∈ layers coverage.assignments part ↔ coverage.Covers part x := by
  simp only [layers, assignments, Covers, List.mem_map, List.mem_filter, List.mem_flatMap]
  constructor
  · rintro ⟨⟨p, y⟩, ⟨⟨entry, hentry, q, hq, ha⟩, hp⟩, rfl⟩
    obtain ⟨rfl, rfl⟩ := Prod.mk.inj ha
    obtain rfl := of_decide_eq_true hp
    exact ⟨entry, hentry, hq, rfl⟩
  · rintro ⟨entry, hentry, hpart, rfl⟩
    exact ⟨(part, entry.layer), ⟨⟨entry, hentry, part, hpart, rfl⟩, decide_eq_true rfl⟩, rfl⟩

theorem covers_append : (coverage ++ other).Covers part x ↔
    coverage.Covers part x ∨ other.Covers part x := by
  simp only [Covers, List.mem_append]
  grind

/-- Assigning layers one after the other leaves every part at the highest one. -/
theorem get?_foldl_insert (assignments : List (String × Float)) (d : Dictionary Float) :
    (assignments.foldl
        (fun layers (part, layer) =>
          layers.insert part (match layers.get? part with
            | some highest => greaterFloat highest layer
            | none => layer)) d).get? part
      = highest? ((d.get? part).toList ++ layers assignments part) := by
  induction assignments generalizing d with
  | nil =>
    rw [List.foldl_nil]
    cases d.get? part <;> rfl
  | cons a rest ih =>
    obtain ⟨p, x⟩ := a
    rw [List.foldl_cons, ih, Dictionary.get?_insert]
    by_cases hp : p = part
    · -- The layer so far and the new one are merged, which is the first step of the fold of all.
      subst hp
      have hlayers : layers ((p, x) :: rest) p = x :: layers rest p := by simp [layers]
      rw [if_pos rfl, hlayers]
      cases d.get? p <;> rfl
    · have hlayers : layers ((p, x) :: rest) part = layers rest part := by simp [layers, hp]
      rw [if_neg hp, hlayers]

theorem get?_flatten (coverage : Coverage) (part : String) :
    coverage.flatten.get? part = highest? (layers coverage.assignments part) :=
  get?_foldl_insert coverage.assignments .empty

theorem HasHeights.layers (h : coverage.HasHeights) :
    ∀ z ∈ layers coverage.assignments part, IsHeight z :=
  fun z hz => h part z (mem_layers_iff.1 hz)

/-- A part is found at its highest layer. -/
theorem get?_flatten_eq_some_iff (h : coverage.HasHeights) :
    coverage.flatten.get? part = some x ↔ coverage.IsTop part x := by
  rw [get?_flatten, highest?_eq_some_iff h.layers]
  simp only [Highest, IsTop, mem_layers_iff]

/-- A part is found if and only if some entry names it. -/
theorem mem_keys_flatten_iff :
    part ∈ coverage.flatten.keys ↔ ∃ entry ∈ coverage, part ∈ entry.parts := by
  rw [Dictionary.mem_keys_iff, get?_flatten, Option.isSome_iff_ne_none, Ne, highest?_eq_none_iff,
    List.eq_nil_iff_forall_not_mem, not_forall_not]
  simp [mem_layers_iff, Covers]

/-- Only the layers matter at which parts are named. -/
theorem flatten_congr (h : coverage.HasHeights)
    (hcovers : ∀ part x, other.Covers part x ↔ coverage.Covers part x) :
    other.flatten = coverage.flatten := by
  have hother : other.HasHeights := fun part x hx => h part x ((hcovers part x).1 hx)
  refine Dictionary.eq_of_get?_eq fun part => Option.ext fun x => ?_
  rw [get?_flatten_eq_some_iff h, get?_flatten_eq_some_iff hother]
  simp only [IsTop, hcovers]

theorem get?_flatten_append (h : coverage.HasHeights) (hother : other.HasHeights) :
    (coverage ++ other).flatten.get? part
      = Option.merge max (coverage.flatten.get? part) (other.flatten.get? part) := by
  have happend : layers (coverage ++ other).assignments part
      = layers coverage.assignments part ++ layers other.assignments part := by
    simp [layers, assignments]
  rw [get?_flatten, get?_flatten, get?_flatten, happend, highest?_append h.layers hother.layers]

theorem hasHeights_of_parse {v : Value} (h : parse v = .ok coverage) : coverage.HasHeights := by
  rintro part _ ⟨entry, hentry, -, rfl⟩
  exact (normal_of_parse h entry hentry).height

/-! ## Rearranging entries -/

/-- Several entries of one layer that name the same parts together as one entry does. -/
structure Splits (entry : CoverageLayer) (pieces : Coverage) : Prop where
  layer : ∀ piece ∈ pieces, piece.layer = entry.layer
  parts : ∀ part, part ∈ entry.parts ↔ ∃ piece ∈ pieces, part ∈ piece.parts

theorem Splits.covers_iff {entry : CoverageLayer} {pieces : Coverage} (h : Splits entry pieces) :
    pieces.Covers part x ↔ Covers [entry] part x := by
  constructor
  · rintro ⟨piece, hpiece, hpart, rfl⟩
    exact ⟨entry, List.mem_singleton.2 rfl, (h.parts part).2 ⟨piece, hpiece, hpart⟩,
      (h.layer piece hpiece).symm⟩
  · rintro ⟨_, hentry, hpart, rfl⟩
    obtain rfl := List.mem_singleton.1 hentry
    obtain ⟨piece, hpiece, hpart⟩ := (h.parts part).1 hpart
    exact ⟨piece, hpiece, hpart, h.layer piece hpiece⟩

theorem flatten_splits {before after pieces : Coverage} {entry : CoverageLayer}
    (h : (before ++ entry :: after).HasHeights) (hsplits : Splits entry pieces) :
    (before ++ pieces ++ after).flatten = (before ++ entry :: after).flatten := by
  refine flatten_congr h fun part x => ?_
  rw [← List.singleton_append, covers_append, covers_append, covers_append, covers_append,
    hsplits.covers_iff, or_assoc]

theorem flatten_of_mem_iff (h : coverage.HasHeights)
    (hmem : ∀ entry, entry ∈ other ↔ entry ∈ coverage) : other.flatten = coverage.flatten :=
  flatten_congr h fun part x => by simp only [Covers, hmem]

/-- A flattened coverage that was read has exactly the parts that entries name, each at the highest
layer of these entries.  It stays the same when entries are permuted or repeated, when the parts of
an entry are repeated, and when an entry is split.  Two coverages together give each part the
higher one of its layers. -/
theorem flatten_canonical {v : Value} {coverage : Coverage} (h : parse v = .ok coverage) :
    (∀ part, part ∈ coverage.flatten.keys ↔ ∃ entry ∈ coverage, part ∈ entry.parts)
      ∧ (∀ part x, coverage.flatten.get? part = some x ↔ coverage.IsTop part x)
      ∧ (∀ other : Coverage, other.Perm coverage → other.flatten = coverage.flatten)
      ∧ (∀ before entry after pieces, coverage = before ++ entry :: after →
        Splits entry pieces → flatten (before ++ pieces ++ after) = coverage.flatten)
      ∧ (∀ before entry after parts, coverage = before ++ entry :: after →
        (∀ part, part ∈ parts ↔ part ∈ entry.parts) →
        flatten (before ++ ⟨parts, entry.layer⟩ :: after) = coverage.flatten)
      ∧ (∀ other : Coverage, (∀ entry, entry ∈ other ↔ entry ∈ coverage) →
        other.flatten = coverage.flatten)
      ∧ ∀ w other, parse w = .ok other → ∀ part,
        (flatten (coverage ++ other)).get? part
          = Option.merge max (coverage.flatten.get? part) (other.flatten.get? part) := by
  have hheights := hasHeights_of_parse h
  refine ⟨fun part => mem_keys_flatten_iff,
    fun part x => get?_flatten_eq_some_iff hheights, ?_, ?_, ?_, ?_, ?_⟩
  · exact fun other hperm => flatten_of_mem_iff hheights fun entry => hperm.mem_iff
  · rintro before entry after pieces rfl hsplits
    exact flatten_splits hheights hsplits
  · rintro before entry after parts rfl hparts
    have hsplits : Splits entry [⟨parts, entry.layer⟩] :=
      ⟨by simp, fun part => by simp [hparts]⟩
    have hflatten := flatten_splits hheights hsplits
    rwa [List.append_assoc, List.singleton_append] at hflatten
  · exact fun other hmem => flatten_of_mem_iff hheights hmem
  · exact fun w other hother part => get?_flatten_append hheights (hasHeights_of_parse hother)

/-- The body of a coat, and sleeves that are worn below it. -/
def coat : Coverage := [⟨["torso", "arms"], 3⟩, ⟨["arms", "hands"], 2⟩]

/-- The sleeves of the coat in two pieces. -/
def coatInPieces : Coverage := [⟨["torso", "arms"], 3⟩, ⟨["hands"], 2⟩, ⟨["arms", "hands"], 2⟩]

theorem flatten_canonical_coat :
    parse coat.toValue = .ok coat ∧ coat.flatten.get? "arms" = some 3
      ∧ coat.IsTop "arms" 3
      ∧ Splits ⟨["arms", "hands"], 2⟩ [⟨["hands"], 2⟩, ⟨["arms", "hands"], 2⟩]
      ∧ coatInPieces.flatten = coat.flatten
      ∧ flatten coat.reverse = coat.flatten
      ∧ (flatten (coat ++ coat)).get? "hands" = some 2 := by
  have hread : parse coat.toValue = .ok coat := by
    apply parse_toValue_of_normal
    simp only [coat, List.forall_mem_cons]
    refine ⟨⟨nofun, ⟨?_, ?_, ?_⟩⟩, ⟨nofun, ⟨?_, ?_, ?_⟩⟩, nofun⟩
    all_goals decide +kernel
  have harms : coat.flatten.get? "arms" = some 3 := by decide +kernel
  have hhands : coat.flatten.get? "hands" = some 2 := by decide +kernel
  have hsplits : Splits ⟨["arms", "hands"], 2⟩ [⟨["hands"], 2⟩, ⟨["arms", "hands"], 2⟩] :=
    ⟨by simp, fun part => by simpa using Or.inr⟩
  obtain ⟨-, htop, hperm, hpieces, -, -, htwice⟩ := flatten_canonical hread
  refine ⟨hread, harms, (htop "arms" 3).1 harms, hsplits, ?_, hperm _ coat.reverse_perm, ?_⟩
  · exact hpieces [⟨["torso", "arms"], 3⟩] _ [] _ rfl hsplits
  · rw [htwice _ coat hread "hands", hhands]
    decide +kernel

end Coverage

end Ensemble
