import Ensemble.Proofs.Condition.Leaves
import Ensemble.Proofs.Condition.Soundness
import Ensemble.Proofs.Dictionary
import Mathlib.Data.List.Forall2

/-!
# What conditions read

A condition reads the ids of the items that it is about and the attributes that its leaves name.
Items that agree on these have the same outcome, reason and error included.  The names of a
condition that is bound to a schema are declared there, so bound rules read neither undeclared
attributes nor names and metadata.
-/

namespace Ensemble

/-- Two items have the same id and the same values under some names.  Nil counts as absent. -/
structure Item.AgreesOn (fields : List String) (a b : Item) : Prop where
  id : a.id = b.id
  attribute? : ∀ f ∈ fields, a.attribute? f = b.attribute? f

/-- Two pairs agree item by item. -/
structure Pair.AgreesOn (fields : List String) (p q : Pair) : Prop where
  first : p.first.AgreesOn fields q.first
  second : p.second.AgreesOn fields q.second

theorem Pair.AgreesOn.items {fields : List String} {p q : Pair} (h : p.AgreesOn fields q) :
    List.Forall₂ (Item.AgreesOn fields) p.items q.items :=
  .cons h.first (.cons h.second .nil)

/-! ## Lists that agree -/

section

variable {α β : Type} {R : α → α → Prop} {test : α → Bool} {key : α → β} {xs ys : List α}

theorem map_filter_congr (h : List.Forall₂ R xs ys) (htest : ∀ x y, R x y → test x = test y)
    (hkey : ∀ x y, R x y → key x = key y) :
    (xs.filter test).map key = (ys.filter test).map key := by
  induction h with
  | nil => rfl
  | @cons x y xs ys hxy _ ih =>
    rw [List.filter_cons, List.filter_cons, htest x y hxy]
    by_cases hy : test y = true
    · rw [if_pos hy, if_pos hy, List.map_cons, List.map_cons, hkey x y hxy, ih]
    · rw [if_neg hy, if_neg hy, ih]

/-- The same test finds related elements in both lists, or none in either. -/
theorem find?_congr (h : List.Forall₂ R xs ys) (htest : ∀ x y, R x y → test x = test y) :
    (xs.find? test = none ∧ ys.find? test = none) ∨
      ∃ x y, xs.find? test = some x ∧ ys.find? test = some y ∧ R x y := by
  induction h with
  | nil => exact .inl ⟨rfl, rfl⟩
  | @cons x y xs ys hxy _ ih =>
    have hxyTest := htest x y hxy
    cases hy : test y with
    | true =>
      have hfound : (y :: ys).find? test = some y := List.find?_cons_of_pos hy
      exact .inr ⟨x, y, List.find?_cons_of_pos (hxyTest.trans hy), hfound, hxy⟩
    | false => simpa only [List.find?_cons, hxyTest, hy] using ih

end

variable {fields : List String} {field : String} {schema : Schema} {a b : Item} {p q : Pair}
  {items items' : List Item}

/-! ## Reading attributes -/

namespace Operator

theorem number?_congr (h : a.AgreesOn fields b) (hf : field ∈ fields) :
    number? a field = number? b field := by
  unfold number? typeMismatch
  rw [h.attribute? field hf, h.id]

theorem list?_congr (h : a.AgreesOn fields b) (hf : field ∈ fields) :
    list? a field = list? b field := by
  unfold list? typeMismatch
  rw [h.attribute? field hf, h.id]

theorem coverage_congr (h : a.AgreesOn fields b) (hf : field ∈ fields) :
    coverage a field = coverage b field := by
  unfold coverage typeMismatch
  rw [h.attribute? field hf, h.id]

/-- Items with the same id are the first to carry a value, or no item carries it. -/
theorem find?_carries_congr (wanted : Value)
    (h : List.Forall₂ (Item.AgreesOn fields) items items') (hf : field ∈ fields) :
    ((items.find? fun item => carries item field wanted) = none ∧
        (items'.find? fun item => carries item field wanted) = none) ∨
      ∃ a b, (items.find? fun item => carries item field wanted) = some a ∧
        (items'.find? fun item => carries item field wanted) = some b ∧ a.AgreesOn fields b := by
  refine find?_congr h fun a b hab => ?_
  unfold carries
  rw [hab.attribute? field hf]

theorem declares_of_dimension {operator : String} {d : Dimension}
    (h : dimension operator field schema = .ok d) : schema.declares field = true := by
  unfold Schema.declares
  rw [dimension_eq_ok_iff.1 h, Option.isSome_some]

end Operator

/-! ## Operators over two items -/

namespace PairOperator

theorem missing_congr (h : p.AgreesOn fields q) (hf : field ∈ fields) :
    p.missing field = q.missing field := by
  unfold Pair.missing
  refine congrArg
    (fun texts => Outcome.fail (field ++ ": missing on " ++ ", ".intercalate texts)) ?_
  refine map_filter_congr h.items (fun a b hab => ?_) fun a b hab => ?_
  · rw [hab.attribute? field hf]
  · rw [hab.id]

theorem compareValues_congr (same : Bool) (h : p.AgreesOn fields q) (hf : field ∈ fields) :
    compareValues field same p = compareValues field same q := by
  unfold compareValues
  rw [h.first.attribute? field hf, h.second.attribute? field hf, missing_congr h hf]

theorem compareNumbers_congr (judge : Float → Float → Outcome) (h : p.AgreesOn fields q)
    (hf : field ∈ fields) : compareNumbers field judge p = compareNumbers field judge q := by
  unfold compareNumbers
  rw [Operator.number?_congr h.first hf, Operator.number?_congr h.second hf, missing_congr h hf]

/-- An operator reads one attribute of either item. -/
theorem evaluate_congr {op : PairOperator} (h : p.AgreesOn fields q) (hf : op.field ∈ fields) :
    op.evaluate p = op.evaluate q := by
  cases op with
  | equals field => exact congrArg pure (compareValues_congr true h hf)
  | hasDifferent field => exact congrArg pure (compareValues_congr false h hf)
  | absDiff field comparison value => exact compareNumbers_congr _ h hf
  | hasValue field value =>
    have hf : field ∈ fields := hf
    unfold evaluate
    dsimp only
    rcases Operator.find?_carries_congr value h.items hf with ⟨hp, hq⟩ | ⟨a, b, hp, hq, hab⟩
    · rw [hp, hq]
    -- The reason names the carrier by its id, whatever its other attributes are.
    · rw [hp, hq]
      dsimp only
      rw [hab.id]
  | sameListItem field =>
    have hf : field ∈ fields := hf
    unfold evaluate
    dsimp only
    rw [Operator.list?_congr h.first hf, Operator.list?_congr h.second hf, missing_congr h hf]
  | formalityCompatible field threshold => exact compareNumbers_congr _ h hf
  | layerCompatible field =>
    have hf : field ∈ fields := hf
    unfold evaluate
    dsimp only
    rw [Operator.coverage_congr h.first hf, Operator.coverage_congr h.second hf]

theorem declares_of_checkSchema {op : PairOperator} (h : op.checkSchema schema = .ok ()) :
    schema.declares op.field = true := by
  obtain ⟨d, hdim, -⟩ := bind_eq_ok_iff.1 h
  exact Operator.declares_of_dimension hdim

end PairOperator

/-! ## Operators over a set of items -/

namespace SetOperator

/-- Two items with the same id carry the same value. -/
def SameCarrier (x y : Value × Item) : Prop := x.1 = y.1 ∧ x.2.id = y.2.id

theorem carriers_congr (h : List.Forall₂ (Item.AgreesOn fields) items items')
    (hf : field ∈ fields) :
    List.Forall₂ SameCarrier (carriers field items) (carriers field items') := by
  unfold carriers
  induction h with
  | nil => exact .nil
  | @cons a b items items' hab _ ih =>
    rw [List.filterMap_cons, List.filterMap_cons, hab.attribute? field hf]
    cases b.attribute? field with
    | none => exact ih
    | some v => exact .cons ⟨rfl, hab.id⟩ ih

theorem map_fst_carriers_congr (h : List.Forall₂ (Item.AgreesOn fields) items items')
    (hf : field ∈ fields) :
    (carriers field items).map (·.1) = (carriers field items').map (·.1) := by
  rw [← List.forall₂_eq_eq_eq, List.forall₂_map_left_iff, List.forall₂_map_right_iff]
  exact (carriers_congr h hf).imp fun _ _ hxy => hxy.1

/-- The same value is the first to be repeated, on the same two items, or no value is. -/
theorem repeat?_congr {seen seen' xs ys : List (Value × Item)}
    (hseen : List.Forall₂ SameCarrier seen seen') (h : List.Forall₂ SameCarrier xs ys) :
    (repeat? seen xs = none ∧ repeat? seen' ys = none) ∨
      ∃ v a b a' b', repeat? seen xs = some (v, a, b) ∧ repeat? seen' ys = some (v, a', b') ∧
        a.id = a'.id ∧ b.id = b'.id := by
  induction h generalizing seen seen' with
  | nil => exact .inl ⟨rfl, rfl⟩
  | @cons x y xs ys hxy _ ih =>
    obtain ⟨v, b⟩ := x
    obtain ⟨w, b'⟩ := y
    obtain ⟨rfl, hid⟩ : v = w ∧ b.id = b'.id := hxy
    have htest (x y : Value × Item) (hxy : SameCarrier x y) : x.1.sameAs v = y.1.sameAs v := by
      rw [hxy.1]
    rw [repeat?, repeat?]
    rcases find?_congr hseen htest with ⟨hx, hy⟩ | ⟨a, a', hx, hy, haa⟩
    · rw [hx, hy]
      have hcarrier : SameCarrier (v, b) (v, b') := ⟨rfl, hid⟩
      exact ih (List.rel_append hseen (.cons hcarrier .nil))
    · rw [hx, hy]
      exact .inr ⟨v, a.2, b, a'.2, b', rfl, rfl, haa.2, hid⟩

theorem numbers_congr (h : List.Forall₂ (Item.AgreesOn fields) items items')
    (hf : field ∈ fields) : numbers field items = numbers field items' := by
  induction h with
  | nil => rfl
  | cons hab _ ih => rw [numbers, numbers, Operator.number?_congr hab hf, ih]

theorem requireMembers_congr {op : SetOperator}
    (h : List.Forall₂ (Item.AgreesOn fields) items items') :
    op.requireMembers items = op.requireMembers items' := by
  cases h <;> rfl

/-- An operator reads at most one attribute of the members, and how many there are. -/
theorem evaluate_congr {op : SetOperator} (h : List.Forall₂ (Item.AgreesOn fields) items items')
    (hf : ∀ field, op.field? = some field → field ∈ fields) :
    op.evaluate items = op.evaluate items' := by
  have hlength := h.length_eq
  unfold evaluate
  rw [hlength]
  cases op with
  | minClusterSize value => rfl
  | maxClusterSize value => rfl
  | uniqueValues field =>
    have hf := hf field rfl
    have hcarriers := carriers_congr h hf
    dsimp only
    rw [requireMembers_congr h]
    rcases repeat?_congr .nil hcarriers with ⟨hs, hs'⟩ | ⟨v, a, b, a', b', hs, hs', ha, hb⟩
    · rw [hs, hs', hcarriers.length_eq]
    · rw [hs, hs']
      dsimp only
      rw [ha, hb]
  | hasItemWith field value =>
    have hf := hf field rfl
    dsimp only
    rw [requireMembers_congr h]
    rcases Operator.find?_carries_congr value h hf with ⟨hs, hs'⟩ | ⟨a, b, hs, hs', hab⟩
    · rw [hs, hs']
    · rw [hs, hs']
      dsimp only
      rw [hab.id]
  | countByField field comparison value =>
    have hf := hf field rfl
    dsimp only
    unfold distinctValues
    rw [requireMembers_congr h, map_fst_carriers_congr h hf]
  | formalityRange field maxRange =>
    have hf := hf field rfl
    dsimp only
    rw [requireMembers_congr h, numbers_congr h hf]

theorem declares_of_checkSchema {op : SetOperator} (h : op.checkSchema schema = .ok ())
    (hf : op.field? = some field) : schema.declares field = true := by
  unfold checkSchema at h
  rw [hf] at h
  obtain ⟨d, hdim, -⟩ := bind_eq_ok_iff.1 h
  exact Operator.declares_of_dimension hdim

end SetOperator

/-! ## Families -/

/-- A family whose operators read the ids of what they bind and the attribute that they name. -/
class Operator.Confined (Op : Type) {Binding : outParam Type} [Operator Op Binding] where
  /-- Two bindings have the same shape and agree item by item. -/
  AgreesOn : List String → Binding → Binding → Prop
  evaluate_congr : ∀ {op : Op} {fields : List String} {x y : Binding}, AgreesOn fields x y →
    (∀ field, Operator.field? op = some field → field ∈ fields) →
      Operator.evaluate op x = Operator.evaluate op y
  declares_of_checkSchema : ∀ {op : Op} {schema : Schema} {field : String},
    Operator.checkSchema op schema = .ok () → Operator.field? op = some field →
      schema.declares field = true

instance : Operator.Confined PairOperator where
  AgreesOn := Pair.AgreesOn
  evaluate_congr h hf := PairOperator.evaluate_congr h (hf _ rfl)
  declares_of_checkSchema h hf := Option.some.inj hf ▸ PairOperator.declares_of_checkSchema h

instance : Operator.Confined SetOperator where
  AgreesOn fields := List.Forall₂ (Item.AgreesOn fields)
  evaluate_congr := SetOperator.evaluate_congr
  declares_of_checkSchema := SetOperator.declares_of_checkSchema

/-! ## Conditions -/

section

variable {Op Binding : Type} [Operator Op Binding] {x y : Binding}

namespace Condition

mutual

/-- Where the leaves cannot tell two bindings apart, neither can the condition. -/
theorem evaluate_congr : (c : Condition Op) →
    (∀ op ∈ c.operators, Operator.evaluate op x = Operator.evaluate op y) →
    c.evaluate x = c.evaluate y
  | .leaf op, h => by
    rw [evaluate, evaluate, h op (by simp [operators])]
  | .all children, h => by
    rw [evaluate, evaluate, evaluateUntil_congr false children (by simpa [operators] using h)]
  | .any children, h => by
    rw [evaluate, evaluate, evaluateUntil_congr true children (by simpa [operators] using h)]
  | .not child, h => by
    rw [evaluate, evaluate, evaluate_congr child (by simpa [operators] using h)]

theorem evaluateUntil_congr (v : Bool) : (cs : List (Condition Op)) →
    (∀ op ∈ operatorsOf cs, Operator.evaluate op x = Operator.evaluate op y) →
    evaluateUntil x v cs = evaluateUntil y v cs
  | [], _ => by rw [evaluateUntil, evaluateUntil]
  | c :: cs, h => by
    have hc := evaluate_congr c fun op hop => h op (by simp [operatorsOf, hop])
    have hcs := evaluateUntil_congr v cs fun op hop => h op (by simp [operatorsOf, hop])
    rw [evaluateUntil, evaluateUntil, hc, hcs]

end

theorem mem_fields {c : Condition Op} :
    field ∈ c.fields ↔ ∃ op ∈ c.operators, Operator.field? op = some field := by
  unfold fields
  rw [Dictionary.mem_keys_ofList]
  simp

variable [Operator.Confined Op] {c : Condition Op}

/-- A condition reads no attributes but its fields. -/
theorem evaluate_eq_of_agreesOn (h : Operator.Confined.AgreesOn Op c.fields x y) :
    c.evaluate x = c.evaluate y :=
  c.evaluate_congr fun op hop =>
    Operator.Confined.evaluate_congr h fun _ hf => mem_fields.2 ⟨op, hop, hf⟩

/-- Binding looks at every leaf, so it finds every field declared. -/
theorem declares_of_checkSchema (h : c.checkSchema schema = .ok ()) (hf : field ∈ c.fields) :
    schema.declares field = true := by
  obtain ⟨op, hop, hfield⟩ := mem_fields.1 hf
  have hcheck : Operator.checkSchema op schema = .ok () := checkSchema_eq_ok_iff.1 h op hop
  exact Operator.Confined.declares_of_checkSchema hcheck hfield

end Condition

/-! ## Rules -/

theorem Rule.evaluate_congr {rule : Rule Op}
    (h : rule.condition.evaluate x = rule.condition.evaluate y) :
    rule.evaluate x = rule.evaluate y := by
  unfold Rule.evaluate
  rw [h]

namespace RuleSet

theorem passesAll_eq {rules : List (Rule Op)}
    (h : ∀ rule ∈ rules, rule.evaluate x = rule.evaluate y) :
    passesAll x rules = passesAll y rules := by
  induction rules with
  | nil => rfl
  | cons rule rules ih =>
    obtain ⟨hrule, hrules⟩ := List.forall_mem_cons.1 h
    rw [passesAll, passesAll, hrule, ih hrules]

variable [Operator.Confined Op] {set : RuleSet Op}

/-- Rules that are bound to a schema read no attributes but the declared ones. -/
theorem evaluate_rule_eq (hbind : set.bind schema = .ok ())
    (h : Operator.Confined.AgreesOn Op (schema.dimensions.map (·.name)) x y) :
    ∀ rule ∈ set.rules, rule.evaluate x = rule.evaluate y := by
  intro rule hrule
  refine Rule.evaluate_congr (rule.condition.evaluate_congr fun op hop => ?_)
  have hcheck := bind_eq_ok_iff_operators.1 hbind op (mem_operators.2 ⟨rule, hrule, hop⟩)
  refine Operator.Confined.evaluate_congr h fun field hfield => ?_
  exact Schema.declares_iff.1 (Operator.Confined.declares_of_checkSchema hcheck hfield)

theorem evaluate_eq_of_bind (hbind : set.bind schema = .ok ())
    (h : Operator.Confined.AgreesOn Op (schema.dimensions.map (·.name)) x y) :
    set.evaluate x = set.evaluate y ∧ set.passes x = set.passes y :=
  ⟨mapM_congr (evaluate_rule_eq hbind h), passesAll_eq (evaluate_rule_eq hbind h)⟩

end RuleSet

end

/-- The fields of a condition are all that it reads of the items, next to their ids: items that
agree on the fields have the same outcome or the same error.  A condition that can read a schema
has declared fields only, so rules that are bound to the schema see neither undeclared attributes
nor names and metadata. -/
theorem evaluation_footprint :
    (∀ (c : Condition PairOperator) (p q : Pair),
      p.AgreesOn c.fields q → c.evaluate p = c.evaluate q) ∧
    (∀ (c : Condition SetOperator) (items items' : List Item),
      List.Forall₂ (Item.AgreesOn c.fields) items items' → c.evaluate items = c.evaluate items') ∧
    (∀ (c : Condition PairOperator) (schema : Schema),
      c.checkSchema schema = .ok () → ∀ field ∈ c.fields, schema.declares field = true) ∧
    (∀ (c : Condition SetOperator) (schema : Schema),
      c.checkSchema schema = .ok () → ∀ field ∈ c.fields, schema.declares field = true) ∧
    (∀ (rules : PairRules) (schema : Schema) (p q : Pair), rules.bind schema = .ok () →
      p.AgreesOn (schema.dimensions.map (·.name)) q →
        rules.evaluate p = rules.evaluate q ∧ rules.passes p = rules.passes q) ∧
    ∀ (rules : ClusterRules) (schema : Schema) (items items' : List Item),
      rules.bind schema = .ok () →
      List.Forall₂ (Item.AgreesOn (schema.dimensions.map (·.name))) items items' →
        rules.evaluate items = rules.evaluate items' ∧
          rules.passes items = rules.passes items' := by
  refine ⟨fun c p q h => ?_, fun c items items' h => ?_, fun c schema h field hf => ?_,
    fun c schema h field hf => ?_, fun rules schema p q hbind h => ?_,
    fun rules schema items items' hbind h => ?_⟩
  · exact Condition.evaluate_eq_of_agreesOn h
  · exact Condition.evaluate_eq_of_agreesOn h
  · exact Condition.declares_of_checkSchema h hf
  · exact Condition.declares_of_checkSchema h hf
  · exact RuleSet.evaluate_eq_of_bind hbind h
  · obtain ⟨-, -, hbind⟩ := bind_eq_ok_iff.1 hbind
    exact RuleSet.evaluate_eq_of_bind hbind h

/-- A swatch of cloth, with a note under a name of its own. -/
def swatch (id shade note : String) : Item where
  id := ⟨id⟩
  name := note
  attributes := .ofList [("shade", .string shade), (note, .bool true)]

/-- Swatches have a shade; their notes are not declared. -/
def swatches : Schema := ⟨"swatches", "1", [⟨"shade", .string, true⟩], .allow, by decide⟩

/-- Two swatches have one shade. -/
def matching : Condition PairOperator := .not (.leaf (.hasDifferent "shade"))

/-- Several swatches have as many shades. -/
def assorted : Condition SetOperator :=
  .all [.leaf (.minClusterSize 2), .leaf (.uniqueValues "shade")]

/-- The rule for two swatches. -/
def matchingRules : PairRules := ⟨"matching", [⟨"one", none, matching⟩], by decide⟩

/-- The rule for several swatches. -/
def assortedRules : ClusterRules :=
  ⟨⟨"assorted", [⟨"several", none, assorted⟩], by decide⟩, none, none⟩

/-- Two swatches of navy, and the same two with other notes. -/
theorem evaluation_footprint_swatches :
    ∃ a b a' b', [a, b] = [swatch "denim" "navy" "washed", swatch "serge" "navy" "raw"] ∧
      [a', b'] = [swatch "denim" "navy" "faded", swatch "serge" "navy" "torn"] ∧
      matching.evaluate ⟨a, b⟩ = matching.evaluate ⟨a', b'⟩ ∧
      assorted.evaluate [a, b] = assorted.evaluate [a', b'] ∧
      (∀ field ∈ matching.fields, swatches.declares field = true) ∧
      (∀ field ∈ assorted.fields, swatches.declares field = true) ∧
      matchingRules.passes (⟨a, b⟩ : Pair) = matchingRules.passes (⟨a', b'⟩ : Pair) ∧
      assortedRules.passes [a, b] = assortedRules.passes [a', b'] := by
  have hdenim : (swatch "denim" "navy" "washed").AgreesOn ["shade"]
      (swatch "denim" "navy" "faded") := ⟨rfl, by decide⟩
  have hserge : (swatch "serge" "navy" "raw").AgreesOn ["shade"]
      (swatch "serge" "navy" "torn") := ⟨rfl, by decide⟩
  have hpair : Pair.AgreesOn ["shade"]
      ⟨swatch "denim" "navy" "washed", swatch "serge" "navy" "raw"⟩
      ⟨swatch "denim" "navy" "faded", swatch "serge" "navy" "torn"⟩ := ⟨hdenim, hserge⟩
  have hset := List.Forall₂.cons hdenim (.cons hserge .nil)
  have hmatching : matching.fields = ["shade"] := by decide +kernel
  have hassorted : assorted.fields = ["shade"] := by decide +kernel
  obtain ⟨hpairs, hsets, hpairNames, hsetNames, hpairRules, hsetRules⟩ := evaluation_footprint
  refine ⟨_, _, _, _, rfl, rfl, ?_, ?_, ?_, ?_, ?_, ?_⟩
  · exact hpairs matching _ _ (hmatching ▸ hpair)
  · exact hsets assorted _ _ (hassorted ▸ hset)
  · exact hpairNames matching swatches (by decide +kernel)
  · exact hsetNames assorted swatches (by decide +kernel)
  · exact (hpairRules matchingRules swatches _ _ (by decide +kernel) hpair).2
  · exact (hsetRules assortedRules swatches _ _ (by decide +kernel) hset).2

end Ensemble
