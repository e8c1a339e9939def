import Ensemble.Proofs.Condition.Soundness
import Ensemble.Proofs.Condition.Symmetry
import Ensemble.Proofs.Schema.Flattening

/-!
# Conflicts of layers

The verdict on two maps of layers says which parts decide it, and all of them.  It is found by
sorting the parts that both maps have into three lists, of parts on one layer, of parts where the
first is the outer, and of parts where it is the inner.  Between numbers the three cases exclude
each other, so the verdict on swapped maps is the swapped verdict.

Two items go together if one is above the other wherever both cover a part, each at its highest
layer there.
-/

namespace Ensemble

variable {a b : Dictionary Float} {part : String} {x : Float}

/-! ## Parts and lists of them -/

/-- The texts with a property, in ascending order. -/
structure Lists (parts : List String) (p : String → Prop) : Prop where
  ascending : parts.Pairwise (· < ·)
  mem_iff : ∀ part, part ∈ parts ↔ p part

namespace Lists

variable {parts parts' : List String} {p q : String → Prop}

theorem unique (h : Lists parts p) (h' : Lists parts' p) : parts = parts' :=
  eq_of_ascending h.ascending h'.ascending fun part => (h.mem_iff part).trans (h'.mem_iff part).symm

theorem congr (h : Lists parts p) (hpq : ∀ part, p part ↔ q part) : Lists parts q :=
  ⟨h.ascending, fun part => (h.mem_iff part).trans (hpq part)⟩

theorem not_isEmpty_iff (h : Lists parts p) : (!parts.isEmpty) = true ↔ ∃ part, p part := by
  rw [Bool.not_eq_true', ← Bool.not_eq_true, List.isEmpty_iff, List.eq_nil_iff_forall_not_mem,
    not_forall_not]
  exact exists_congr h.mem_iff

end Lists

/-- No value is NaN. -/
def Dictionary.Numeric (d : Dictionary Float) : Prop := ∀ x ∈ d.values, x.isNaN = false

instance (d : Dictionary Float) : Decidable d.Numeric :=
  inferInstanceAs (Decidable (∀ x ∈ d.values, x.isNaN = false))

theorem Dictionary.Numeric.not_nan (ha : a.Numeric) (h : a.get? part = some x) :
    x.isNaN = false :=
  ha x (List.mem_map.2 ⟨(part, x), Dictionary.get?_eq_some_iff.1 h, rfl⟩)

namespace LayerVerdict

/-! ## Shared parts -/

/-- Both maps have the part, at layers in a relation. -/
def SharedBy (r : Float → Float → Prop) (a b : Dictionary Float) (part : String) : Prop :=
  ∃ x y, a.get? part = some x ∧ b.get? part = some y ∧ r x y

/-- The part is on one layer in both maps. -/
abbrev Level (a b : Dictionary Float) : String → Prop := SharedBy (fun x y => (x == y) = true) a b

/-- The first map has the part on the higher layer. -/
abbrev Outer (a b : Dictionary Float) : String → Prop := SharedBy (fun x y => y < x) a b

/-- The first map has the part on the lower layer. -/
abbrev Inner (a b : Dictionary Float) : String → Prop := SharedBy (fun x y => x < y) a b

/-- Both maps have the part. -/
abbrev Shared (a b : Dictionary Float) : String → Prop := SharedBy (fun _ _ => True) a b

variable {r r' : Float → Float → Prop}

theorem sharedBy_swap (r : Float → Float → Prop) (a b : Dictionary Float) :
    SharedBy r a b = SharedBy (fun x y => r y x) b a :=
  funext fun _ => propext
    ⟨fun ⟨x, y, hx, hy, h⟩ => ⟨y, x, hy, hx, h⟩, fun ⟨y, x, hy, hx, h⟩ => ⟨x, y, hx, hy, h⟩⟩

theorem level_swap (a b : Dictionary Float) : Level a b = Level b a := by
  simp only [Level, sharedBy_swap _ a b, float_beq_comm]

theorem outer_swap (a b : Dictionary Float) : Outer a b = Inner b a := sharedBy_swap ..

theorem inner_swap (a b : Dictionary Float) : Inner a b = Outer b a := sharedBy_swap ..

theorem shared_swap (a b : Dictionary Float) : Shared a b = Shared b a := sharedBy_swap ..

theorem exists_shared (h : ∃ part, SharedBy r a b part) : ∃ part, Shared a b part :=
  let ⟨part, x, y, hx, hy, _⟩ := h
  ⟨part, x, y, hx, hy, trivial⟩

theorem sharedBy_congr (ha : a.Numeric) (hb : b.Numeric)
    (h : ∀ x y, x.isNaN = false → y.isNaN = false → (r x y ↔ r' x y)) (part : String) :
    SharedBy r a b part ↔ SharedBy r' a b part := by
  refine exists_congr fun x => exists_congr fun y => and_congr_right fun hx => ?_
  exact and_congr_right fun hy => h x y (ha.not_nan hx) (hb.not_nan hy)

/-- A shared part is in one of three cases. -/
theorem shared_cases (ha : a.Numeric) (hb : b.Numeric) (h : Shared a b part) :
    Level a b part ∨ Outer a b part ∨ Inner a b part := by
  obtain ⟨x, y, hx, hy, -⟩ := h
  by_cases houter : y < x
  · exact .inr (.inl ⟨x, y, hx, hy, houter⟩)
  · by_cases hinner : x < y
    · exact .inr (.inr ⟨x, y, hx, hy, hinner⟩)
    · have hequal := (float_beq_iff_not_lt (ha.not_nan hx) (hb.not_nan hy)).2 ⟨houter, hinner⟩
      exact .inl ⟨x, y, hx, hy, hequal⟩

/-! ## The verdict on two maps -/

/-- What a verdict says about two maps. -/
inductive Fits (a b : Dictionary Float) : LayerVerdict → Prop
  | sameLayer {parts : List String} (hlevel : ∃ part, Level a b part)
      (hparts : Lists parts (Level a b)) : Fits a b (.sameLayer parts)
  | phasing {outer inner : List String} (hlevel : ¬ ∃ part, Level a b part)
      (hboth : (∃ part, Outer a b part) ∧ ∃ part, Inner a b part)
      (houter : Lists outer (Outer a b)) (hinner : Lists inner (Inner a b)) :
      Fits a b (.phasing outer inner)
  | disjoint (hshared : ¬ ∃ part, Shared a b part) : Fits a b .disjoint
  | ordered {shared : List String} {firstOuter : Bool} (hlevel : ¬ ∃ part, Level a b part)
      (hboth : ¬ ((∃ part, Outer a b part) ∧ ∃ part, Inner a b part))
      (hshared : ∃ part, Shared a b part) (hparts : Lists shared (Shared a b))
      (houter : firstOuter = true ↔ ∃ part, Outer a b part) :
      Fits a b (.ordered shared firstOuter)

/-- No two verdicts say the same. -/
theorem Fits.unique {v w : LayerVerdict} (hv : Fits a b v) (hw : Fits a b w) : v = w := by
  cases hv with
  | sameLayer hlevel hparts =>
    cases hw with
    | sameLayer _ hparts' => rw [hparts.unique hparts']
    | phasing hlevel' => exact absurd hlevel hlevel'
    | disjoint hshared => exact absurd (exists_shared hlevel) hshared
    | ordered hlevel' => exact absurd hlevel hlevel'
  | phasing hlevel hboth houter hinner =>
    cases hw with
    | sameLayer hlevel' => exact absurd hlevel' hlevel
    | phasing _ _ houter' hinner' => rw [houter.unique houter', hinner.unique hinner']
    | disjoint hshared => exact absurd (exists_shared hboth.1) hshared
    | ordered _ hboth' => exact absurd hboth hboth'
  | disjoint hshared =>
    cases hw with
    | sameLayer hlevel => exact absurd (exists_shared hlevel) hshared
    | phasing _ hboth => exact absurd (exists_shared hboth.1) hshared
    | disjoint => rfl
    | ordered _ _ hshared' => exact absurd hshared' hshared
  | ordered hlevel hboth hshared hparts houter =>
    cases hw with
    | sameLayer hlevel' => exact absurd hlevel' hlevel
    | phasing _ hboth' => exact absurd hboth' hboth
    | disjoint hshared' => exact absurd hshared hshared'
    | ordered _ _ _ hparts' houter' =>
      rw [hparts.unique hparts', Bool.eq_iff_iff.2 (houter.trans houter'.symm)]

theorem ascending_sharedParts (a b : Dictionary Float) :
    (sharedParts a b).Pairwise fun s t => s.1 < t.1 := by
  refine List.pairwise_filterMap.2 (a.ascending.imp fun {s t} hlt s' hs t' ht => ?_)
  obtain ⟨_, -, rfl⟩ := Option.map_eq_some_iff.1 hs
  obtain ⟨_, -, rfl⟩ := Option.map_eq_some_iff.1 ht
  exact hlt

/-- Every list of the verdict has the shared parts that its test selects. -/
theorem lists_select (a b : Dictionary Float) (decides : Float → Float → Bool) :
    Lists (((sharedParts a b).filter fun (_, x, y) => decides x y).map (·.1))
      (SharedBy (fun x y => decides x y = true) a b) where
  ascending := List.pairwise_map.2 ((ascending_sharedParts a b).filter _)
  mem_iff part := by
    simp only [List.mem_map, List.mem_filter, Prod.exists, mem_sharedParts, SharedBy]
    grind

theorem lists_shared (a b : Dictionary Float) :
    Lists ((sharedParts a b).map (·.1)) (Shared a b) := by
  have hall := lists_select a b fun _ _ => true
  rw [List.filter_true] at hall
  exact hall.congr fun part => by simp [SharedBy]

/-- The first of the lists that is not empty decides. -/
theorem fits_of_lists {same outer inner : List String} {shared : List (String × Float × Float)}
    (hsame : Lists same (Level a b)) (houter : Lists outer (Outer a b))
    (hinner : Lists inner (Inner a b)) (hshared : Lists (shared.map (·.1)) (Shared a b)) :
    Fits a b
      (if !same.isEmpty then .sameLayer same
      else if !outer.isEmpty && !inner.isEmpty then .phasing outer inner
      else if shared.isEmpty then .disjoint
      else .ordered (shared.map (·.1)) (!outer.isEmpty)) := by
  have hphasing : (!outer.isEmpty && !inner.isEmpty) = true ↔
      (∃ part, Outer a b part) ∧ ∃ part, Inner a b part := by
    rw [Bool.and_eq_true, houter.not_isEmpty_iff, hinner.not_isEmpty_iff]
  have hdisjoint : shared.isEmpty = true ↔ ¬ ∃ part, Shared a b part := by
    rw [← hshared.not_isEmpty_iff, List.isEmpty_map, Bool.not_eq_true', Bool.not_eq_false]
  split
  case isTrue hlevel => exact .sameLayer (hsame.not_isEmpty_iff.1 hlevel) hsame
  case isFalse h =>
    have hlevel := mt hsame.not_isEmpty_iff.2 h
    split
    case isTrue hboth => exact .phasing hlevel (hphasing.1 hboth) houter hinner
    case isFalse h =>
      have hboth := mt hphasing.2 h
      split
      case isTrue hnone => exact .disjoint (hdisjoint.1 hnone)
      case isFalse h =>
        have hsome := not_not.1 (mt hdisjoint.2 h)
        exact .ordered hlevel hboth hsome hshared houter.not_isEmpty_iff

theorem fits_ofLayers (ha : a.Numeric) (hb : b.Numeric) : Fits a b (ofLayers a b) := by
  refine fits_of_lists ?_ ?_ ?_ (lists_shared a b)
  · refine (lists_select a b fun x y => !(x > y) && !(x < y)).congr (sharedBy_congr ha hb ?_)
    intro x y hx hy
    simp only [float_beq_iff_not_lt hx hy, Bool.and_eq_true, Bool.not_eq_true',
      decide_eq_false_iff_not, gt_iff_lt]
  · exact (lists_select a b fun x y => x > y).congr fun part => by
      simp only [decide_eq_true_eq, gt_iff_lt]
  · exact (lists_select a b fun x y => x < y).congr fun part => by simp only [decide_eq_true_eq]

/-- The verdict of the swapped maps. -/
def swap : LayerVerdict → LayerVerdict
  | .disjoint => .disjoint
  | .ordered shared firstOuter => .ordered shared !firstOuter
  | .sameLayer parts => .sameLayer parts
  | .phasing firstOuter firstInner => .phasing firstInner firstOuter

theorem Fits.swap (ha : a.Numeric) (hb : b.Numeric) {v : LayerVerdict} (h : Fits a b v) :
    Fits b a v.swap := by
  cases h with
  | sameLayer hlevel hparts =>
    rw [level_swap a b] at hlevel hparts
    exact .sameLayer hlevel hparts
  | phasing hlevel hboth houter hinner =>
    rw [level_swap a b] at hlevel
    rw [outer_swap a b, inner_swap a b] at hboth
    rw [outer_swap a b] at houter
    rw [inner_swap a b] at hinner
    exact .phasing hlevel hboth.symm hinner houter
  | disjoint hshared =>
    rw [shared_swap a b] at hshared
    exact .disjoint hshared
  | @ordered shared firstOuter hlevel hboth hshared hparts houter =>
    -- Neither a level part nor parts of both other cases, so all parts are of one of these.
    have hinner : (!firstOuter) = true ↔ ∃ part, Inner a b part := by
      rw [Bool.not_eq_true', ← Bool.not_eq_true, houter]
      refine ⟨fun hnone => ?_, fun hsome hother => hboth ⟨hother, hsome⟩⟩
      obtain ⟨part, hpart⟩ := hshared
      rcases shared_cases ha hb hpart with h | h | h
      · exact absurd ⟨part, h⟩ hlevel
      · exact absurd ⟨part, h⟩ hnone
      · exact ⟨part, h⟩
    rw [level_swap a b] at hlevel
    rw [outer_swap a b, inner_swap a b] at hboth
    rw [shared_swap a b] at hshared hparts
    rw [inner_swap a b] at hinner
    exact .ordered hlevel (mt And.symm hboth) hshared hparts hinner

/-- A verdict is the one on two maps if it fits them. -/
theorem ofLayers_eq_iff (ha : a.Numeric) (hb : b.Numeric) {v : LayerVerdict} :
    ofLayers a b = v ↔ Fits a b v :=
  ⟨fun h => h ▸ fits_ofLayers ha hb, (fits_ofLayers ha hb).unique⟩

theorem ofLayers_swap (ha : a.Numeric) (hb : b.Numeric) :
    ofLayers b a = (ofLayers a b).swap :=
  (ofLayers_eq_iff hb ha).2 ((fits_ofLayers ha hb).swap ha hb)

/-- Two maps go together if one of them has the higher layer at all parts that they share. -/
theorem isCompatible_iff_forall :
    (ofLayers a b).isCompatible = true ↔
      (∀ part x y, a.get? part = some x → b.get? part = some y → y < x) ∨
        ∀ part x y, a.get? part = some x → b.get? part = some y → x < y := by
  rw [isCompatible_ofLayers]
  constructor
  · rintro ⟨hlevel, hboth⟩
    by_cases hinner : Shares (fun x y => x < y) a b
    · refine .inr fun part x y hx hy => ?_
      by_contra hnot
      exact hlevel ⟨part, x, y, hx, hy, fun h => hboth ⟨⟨part, x, y, hx, hy, h⟩, hinner⟩, hnot⟩
    · refine .inl fun part x y hx hy => ?_
      by_contra hnot
      exact hlevel ⟨part, x, y, hx, hy, hnot, fun h => hinner ⟨part, x, y, hx, hy, h⟩⟩
  · rintro (h | h)
    · refine ⟨?_, ?_⟩
      · rintro ⟨part, x, y, hx, hy, houter, -⟩
        exact houter (h part x y hx hy)
      · rintro ⟨-, part, x, y, hx, hy, hinner⟩
        exact float_lt_asymm hinner (h part x y hx hy)
    · refine ⟨?_, ?_⟩
      · rintro ⟨part, x, y, hx, hy, -, hinner⟩
        exact hinner (h part x y hx hy)
      · rintro ⟨⟨part, x, y, hx, hy, houter⟩, -⟩
        exact float_lt_asymm houter (h part x y hx hy)

end LayerVerdict

/-! ## Coverages -/

namespace Coverage

variable {upper lower : Coverage}

/-- At every part that both coverages name, the first one has the higher layer. -/
def Above (upper lower : Coverage) : Prop :=
  ∀ part, (∃ entry ∈ upper, part ∈ entry.parts) → (∃ entry ∈ lower, part ∈ entry.parts) →
    ∃ x y, upper.IsTop part x ∧ lower.IsTop part y ∧ y < x

theorem above_iff (hupper : upper.HasHeights) (hlower : lower.HasHeights) :
    upper.Above lower ↔ ∀ part x y, upper.flatten.get? part = some x →
      lower.flatten.get? part = some y → y < x := by
  simp only [Above, ← mem_keys_flatten_iff, Dictionary.mem_keys_iff, Option.isSome_iff_exists,
    ← get?_flatten_eq_some_iff hupper, ← get?_flatten_eq_some_iff hlower]
  refine forall_congr' fun part => ⟨fun h x y hx hy => ?_, ?_⟩
  · obtain ⟨x', y', hx', hy', hlt⟩ := h ⟨x, hx⟩ ⟨y, hy⟩
    obtain rfl := Option.some.inj (hx.symm.trans hx')
    obtain rfl := Option.some.inj (hy.symm.trans hy')
    exact hlt
  · rintro h ⟨x, hx⟩ ⟨y, hy⟩
    exact ⟨x, y, hx, hy, h x y hx hy⟩

theorem isCompatible_flatten_iff (hupper : upper.HasHeights) (hlower : lower.HasHeights) :
    (LayerVerdict.ofLayers upper.flatten lower.flatten).isCompatible = true ↔
      upper.Above lower ∨ lower.Above upper := by
  rw [LayerVerdict.isCompatible_iff_forall, above_iff hupper hlower, above_iff hlower hupper]
  refine or_congr_right (forall_congr' fun part => ⟨fun h x y hx hy => ?_, fun h x y hx hy => ?_⟩)
  all_goals exact h y x hy hx

end Coverage

/-! ## Items -/

/-- The coverage that an item has under an attribute: none if the attribute is missing. -/
def Item.HasCoverage (item : Item) (field : String) (coverage : Coverage) : Prop :=
  match item.attribute? field with
  | none => coverage = []
  | some v => Coverage.parse v = .ok coverage

variable {item : Item} {field : String} {coverage : Coverage}

theorem Operator.coverage_eq_ok_iff :
    Operator.coverage item field = .ok coverage ↔ item.HasCoverage field coverage := by
  unfold Operator.coverage Item.HasCoverage
  cases item.attribute? field with
  | none => simp [eq_comm]
  | some v => exact mapError_eq_ok_iff

theorem Item.HasCoverage.hasHeights (h : item.HasCoverage field coverage) :
    coverage.HasHeights := by
  unfold Item.HasCoverage at h
  cases hv : item.attribute? field with
  | none =>
    rw [hv] at h
    subst h
    rintro part x ⟨entry, hentry, -⟩
    cases hentry
  | some v =>
    rw [hv] at h
    exact Coverage.hasHeights_of_parse h

/-- On items of a schema the operator passes if one item is above the other. -/
theorem PairOperator.exists_layerCompatible {schema : Schema} {d : Dimension}
    {vocabulary : Option Vocabulary} {first second : Item}
    (hd : schema.dimension? field = some d) (hkind : d.kind = .coverageLayers vocabulary)
    (hfirst : schema.validate first = .ok ()) (hsecond : schema.validate second = .ok ()) :
    ∃ x y outcome, first.HasCoverage field x ∧ second.HasCoverage field y ∧
      (layerCompatible field).evaluate ⟨first, second⟩ = .ok outcome ∧
      (outcome.passed = true ↔ x.Above y ∨ y.Above x) := by
  obtain ⟨x, hx⟩ := Operator.exists_coverage hd hkind hfirst
  obtain ⟨y, hy⟩ := Operator.exists_coverage hd hkind hsecond
  have hupper : first.HasCoverage field x := Operator.coverage_eq_ok_iff.1 hx
  have hlower : second.HasCoverage field y := Operator.coverage_eq_ok_iff.1 hy
  let verdict := LayerVerdict.ofLayers x.flatten y.flatten
  refine ⟨x, y, ⟨verdict.isCompatible, field ++ ": " ++ verdict.reason⟩, hupper, hlower, ?_, ?_⟩
  · simp only [evaluate, hx, hy, ok_bind]
    rfl
  · exact Coverage.isCompatible_flatten_iff hupper.hasHeights hlower.hasHeights

/-- Items of a schema with a dimension of coverages have layers that go together if one of the items
is above the other at all parts that both cover.  The verdict on two maps of numbers is the one that
fits, with all parts that decide it, and the swapped maps have the swapped verdict. -/
theorem LayerVerdict.layering_exact :
    (∀ (schema : Schema) (field : String) (d : Dimension) (vocabulary : Option Vocabulary)
        (first second : Item),
      schema.dimension? field = some d → d.kind = .coverageLayers vocabulary →
      schema.validate first = .ok () → schema.validate second = .ok () →
      ∃ x y outcome, first.HasCoverage field x ∧ second.HasCoverage field y ∧
        (PairOperator.layerCompatible field).evaluate ⟨first, second⟩ = .ok outcome ∧
        (outcome.passed = true ↔ x.Above y ∨ y.Above x)) ∧
    ∀ a b : Dictionary Float, a.Numeric → b.Numeric →
      (∀ v, ofLayers a b = v ↔ Fits a b v) ∧ ofLayers b a = (ofLayers a b).swap := by
  refine ⟨?_, fun a b ha hb => ⟨fun v => ofLayers_eq_iff ha hb, ofLayers_swap ha hb⟩⟩
  intro schema field d vocabulary first second hd hkind hfirst hsecond
  exact PairOperator.exists_layerCompatible hd hkind hfirst hsecond

/-- Clothes by what they cover. -/
def clothes : Schema where
  name := "clothes"
  version := "1"
  dimensions := [⟨"covers", .coverageLayers none, false⟩]
  undeclared := .reject
  distinct := by decide

/-- An item that covers parts. -/
def garment (id : String) (coverage : Coverage) : Item :=
  ({ id := ⟨id⟩, name := id } : Item).withAttribute "covers" coverage.toValue

/-- Gloves that are worn below the arms of the coat, and above its hands. -/
def gloves : Coverage := [⟨["hands", "arms"], 2.5⟩]

theorem LayerVerdict.layering_exact_clothes :
    clothes.validate (garment "coat" Coverage.coat) = .ok ()
      ∧ clothes.validate (garment "gloves" gloves) = .ok ()
      ∧ (∃ x y, (garment "coat" Coverage.coat).HasCoverage "covers" x
        ∧ (garment "gloves" gloves).HasCoverage "covers" y ∧ ¬ (x.Above y ∨ y.Above x))
      ∧ Coverage.coat.flatten.Numeric ∧ gloves.flatten.Numeric
      ∧ Fits Coverage.coat.flatten gloves.flatten (.phasing ["arms"] ["hands"])
      ∧ ofLayers gloves.flatten Coverage.coat.flatten = .phasing ["hands"] ["arms"] := by
  have hcoat : clothes.validate (garment "coat" Coverage.coat) = .ok () := by rfl
  have hgloves : clothes.validate (garment "gloves" gloves) = .ok () := by rfl
  have hcoatNumeric : Coverage.coat.flatten.Numeric := by decide +kernel
  have hglovesNumeric : gloves.flatten.Numeric := by decide +kernel
  have hphasing : ofLayers Coverage.coat.flatten gloves.flatten = .phasing ["arms"] ["hands"] := by
    decide +kernel
  have hverdict : verdict ((PairOperator.layerCompatible "covers").evaluate
      ⟨garment "coat" Coverage.coat, garment "gloves" gloves⟩) = some false := by decide +kernel
  obtain ⟨hitems, hmaps⟩ := layering_exact
  obtain ⟨x, y, outcome, hx, hy, houtcome, hpassed⟩ :=
    hitems clothes "covers" ⟨"covers", .coverageLayers none, false⟩ none _ _ rfl rfl hcoat hgloves
  rw [houtcome, verdict_ok, Option.some.injEq] at hverdict
  obtain ⟨hfits, hswap⟩ := hmaps _ _ hcoatNumeric hglovesNumeric
  refine ⟨hcoat, hgloves, ⟨x, y, hx, hy, ?_⟩, hcoatNumeric, hglovesNumeric, ?_, ?_⟩
  · rw [← hpassed, hverdict]
    exact Bool.false_ne_true
  · exact (hfits _).1 hphasing
  · rw [hswap, hphasing]
    rfl

end Ensemble
