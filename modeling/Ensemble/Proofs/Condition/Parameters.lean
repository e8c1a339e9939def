import Ensemble.Condition.PairOperator
import Ensemble.Condition.SetOperator
import Ensemble.Proofs.Dictionary
import Ensemble.Proofs.Except
import Ensemble.Proofs.Value.Float

/-!
# Parameters of operators

Every operator has a table of the parameters that it takes.  A use of an operator is resolved if and
only if it keeps to the table: it has no other parameters, and each is of the kind that the table
asks for.  The resolved operator then has the values of the parameters.
-/

namespace Ensemble

/-! ## Kinds of parameters -/

namespace Comparison

/-- The ways to write a comparison: its symbols and its words. -/
def spellings : Comparison → List String
  | .lt => ["<", "lt"]
  | .le => ["<=", "lte", "le"]
  | .gt => [">", "gt"]
  | .ge => [">=", "gte", "ge"]
  | .eq => ["==", "=", "eq"]
  | .ne => ["!=", "ne"]

theorem ofText?_eq_some_iff {s : String} {c : Comparison} :
    ofText? s = some c ↔ s ∈ c.spellings := by
  constructor
  · intro h
    unfold ofText? at h
    split at h
    all_goals cases h
    all_goals decide
  · intro h
    cases c <;> simp only [spellings, List.mem_cons, List.not_mem_nil, or_false] at h
    all_goals
      obtain rfl | rfl | rfl := h <;> rfl

end Comparison

/-- What an operator asks of a parameter. -/
inductive ParameterKind where
  /-- The name of an attribute: a text that is not empty. -/
  | field
  | comparison
  /-- A finite number. -/
  | number
  /-- A finite number that is not negative. -/
  | nonNegative
  /-- A finite number that is not negative, or a default where it is absent or null. -/
  | nonNegativeOr (default : Float)
  /-- A whole number that is not negative. -/
  | count
  /-- Anything but null. -/
  | value

/-- The value of a parameter. -/
inductive Argument where
  | text (s : String)
  | comparison (c : Comparison)
  | number (x : Float)
  | count (n : Nat)
  | value (v : Value)

/-- A parameter of a kind, if it is there, has a value. -/
inductive ParameterKind.Reads : ParameterKind → Option Document → Argument → Prop where
  | field {s : String} (h : s ≠ "") : Reads .field (some (.text s)) (.text s)
  | comparison {s : String} {c : Comparison} (h : s ∈ c.spellings) :
    Reads .comparison (some (.text s)) (.comparison c)
  | number {d : Document} {x : Float} (h : d.number? = some x) (hfinite : x.isFinite = true) :
    Reads .number (some d) (.number x)
  | nonNegative {d : Document} {x : Float} (h : d.number? = some x) (hfinite : x.isFinite = true)
    (hsign : 0 ≤ x) : Reads .nonNegative (some d) (.number x)
  | given {default : Float} {d : Document} {x : Float} (h : d.number? = some x)
    (hfinite : x.isFinite = true) (hsign : 0 ≤ x) :
    Reads (.nonNegativeOr default) (some d) (.number x)
  | absent {default : Float} : Reads (.nonNegativeOr default) none (.number default)
  | null {default : Float} : Reads (.nonNegativeOr default) (some .null) (.number default)
  | count {n : Nat} : Reads .count (some (.whole n)) (.count n)
  | value {d : Document} (h : d ≠ .null) : Reads .value (some d) (.value (.ofDocument d))

theorem ParameterKind.Reads.exists_argument {kind : ParameterKind} {d? : Option Document}
    {a : Argument} (h : kind.Reads d? a) :
    match kind with
    | .field => ∃ s, a = .text s
    | .comparison => ∃ c, a = .comparison c
    | .number | .nonNegative | .nonNegativeOr _ => ∃ x, a = .number x
    | .count => ∃ n, a = .count n
    | .value => ∃ v, a = .value v := by
  cases h <;> exact ⟨_, rfl⟩

namespace Params

variable {params : Params} {key s : String} {d : Document} {c : Comparison} {x : Float} {n : Nat}
  {v : Value}

@[simp] theorem expectOnly_eq_ok_iff {allowed : List String} {u : Unit} :
    params.expectOnly allowed = .ok u ↔ ∀ e ∈ params.fields, e.1 ∈ allowed := by
  unfold expectOnly
  split
  · rename_i hnone
    rw [List.find?_eq_none] at hnone
    simpa using hnone
  · rename_i key d hsome
    have hkey : key ∉ allowed := by simpa using List.find?_some hsome
    simp only [reduceCtorEq, false_iff]
    exact fun h => hkey (h _ (List.mem_of_find?_eq_some hsome))

theorem get?_eq_some_iff :
    params.get? key = some d ↔ params.fields.get? key = some d ∧ d ≠ .null := by
  unfold get?
  rcases params.fields.get? key with _ | d'
  · simp
  · cases d'
    case null => simp +contextual [eq_comm]
    all_goals
      simp only [Option.some.injEq]
      exact ⟨fun h => ⟨h, by rintro rfl; cases h⟩, And.left⟩

theorem get?_eq_none_iff :
    params.get? key = none ↔
      params.fields.get? key = none ∨ params.fields.get? key = some .null := by
  unfold get?
  rcases params.fields.get? key with _ | d
  · simp
  · cases d <;> simp

/-- A required parameter is read if it is there and not null. -/
theorem require_bind_eq_ok_iff {α : Type} {read : Document → Except Error α} {a : α} :
    params.require key >>= read = .ok a ↔
      ∃ d, params.fields.get? key = some d ∧ d ≠ .null ∧ read d = .ok a := by
  have hrequire : ∀ d, params.require key = .ok d ↔ params.get? key = some d := by
    intro d
    unfold require
    cases params.get? key <;> simp
  simp only [bind_eq_ok_iff, hrequire, get?_eq_some_iff, and_assoc]

@[simp] theorem field_eq_ok_iff :
    params.field = .ok s ↔ ParameterKind.field.Reads (params.fields.get? "field") (.text s) := by
  unfold field
  rw [require_bind_eq_ok_iff]
  generalize params.fields.get? "field" = d?
  constructor
  · rintro ⟨d, rfl, -, h⟩
    split at h
    · split at h
      · cases h
      · rename_i hne
        obtain rfl := Except.ok.inj h
        exact .field hne
    · cases h
  · intro h
    cases h with
    | field hne => exact ⟨_, rfl, by simp, if_neg hne⟩

@[simp] theorem comparison_eq_ok_iff :
    params.comparison key = .ok c ↔
      ParameterKind.comparison.Reads (params.fields.get? key) (.comparison c) := by
  unfold comparison
  rw [require_bind_eq_ok_iff]
  generalize params.fields.get? key = d?
  have hparse : ∀ s, (Comparison.parse s).mapError (params.invalid key) = .ok c ↔
      s ∈ c.spellings := by
    intro s
    rw [mapError_eq_ok_iff, Comparison.parse, ← Comparison.ofText?_eq_some_iff]
    cases Comparison.ofText? s <;> simp
  constructor
  · rintro ⟨d, rfl, -, h⟩
    split at h
    · exact .comparison ((hparse _).1 h)
    · cases h
  · intro h
    cases h with
    | comparison hmem => exact ⟨_, rfl, by simp, (hparse _).2 hmem⟩

@[simp] theorem number_eq_ok_iff :
    params.number key = .ok x ↔
      ParameterKind.number.Reads (params.fields.get? key) (.number x) := by
  unfold number
  rw [require_bind_eq_ok_iff]
  generalize params.fields.get? key = d?
  constructor
  · rintro ⟨d, rfl, -, h⟩
    split at h
    · split at h
      · obtain rfl := Except.ok.inj h
        exact .number ‹_› ‹_›
      · cases h
    · cases h
  · intro h
    cases h with
    | number hnumber hfinite =>
      refine ⟨_, rfl, ?_, ?_⟩
      · rintro rfl
        cases hnumber
      · rw [hnumber]
        exact if_pos hfinite

/-- A finite number is not negative if it is not below zero. -/
theorem unless_negative_eq_ok_iff {e : Error} {y : Float} (hfinite : y.isFinite = true) :
    (do
      if y < 0 then throw e
      return y : Except Error Float) = .ok x ↔ y = x ∧ 0 ≤ x := by
  have hsign : 0 ≤ y ↔ ¬ y < 0 := float_le_iff_not_lt (by decide) hfinite
  by_cases hneg : y < 0
  · rw [if_pos hneg]
    constructor
    · intro h
      cases h
    · rintro ⟨rfl, h⟩
      exact absurd hneg (hsign.1 h)
  · rw [if_neg hneg]
    constructor
    · intro h
      obtain rfl := Except.ok.inj h
      exact ⟨rfl, hsign.2 hneg⟩
    · rintro ⟨rfl, -⟩
      rfl

@[simp] theorem nonNegative_eq_ok_iff :
    params.nonNegative key = .ok x ↔
      ParameterKind.nonNegative.Reads (params.fields.get? key) (.number x) := by
  unfold nonNegative
  rw [bind_eq_ok_iff]
  simp only [number_eq_ok_iff]
  generalize params.fields.get? key = d?
  constructor
  · rintro ⟨y, hy, h⟩
    cases hy with
    | number hnumber hfinite =>
      obtain ⟨rfl, hsign⟩ := (unless_negative_eq_ok_iff hfinite).1 h
      exact .nonNegative hnumber hfinite hsign
  · intro h
    cases h with
    | nonNegative hnumber hfinite hsign =>
      exact ⟨x, .number hnumber hfinite, (unless_negative_eq_ok_iff hfinite).2 ⟨rfl, hsign⟩⟩

@[simp] theorem count_eq_ok_iff :
    params.count key = .ok n ↔ ParameterKind.count.Reads (params.fields.get? key) (.count n) := by
  unfold count
  rw [require_bind_eq_ok_iff]
  generalize params.fields.get? key = d?
  constructor
  · rintro ⟨d, rfl, -, h⟩
    split at h
    · rename_i hcount
      obtain rfl := Except.ok.inj h
      unfold Document.count? at hcount
      split at hcount
      · obtain rfl := Option.some.inj hcount
        exact .count
      · cases hcount
    · cases h
  · rintro ⟨⟩
    exact ⟨_, rfl, by simp, rfl⟩

@[simp] theorem value_eq_ok_iff :
    params.value key = .ok v ↔ ParameterKind.value.Reads (params.fields.get? key) (.value v) := by
  unfold value
  rw [require_bind_eq_ok_iff]
  generalize params.fields.get? key = d?
  constructor
  · rintro ⟨d, rfl, hne, h⟩
    obtain rfl := Except.ok.inj h
    exact .value hne
  · intro h
    cases h with
    | value hne => exact ⟨_, rfl, hne, rfl⟩

end Params

@[simp] theorem PairOperator.threshold_eq_ok_iff {params : Params} {x : Float} :
    threshold params = .ok x ↔
      (ParameterKind.nonNegativeOr 1).Reads (params.fields.get? "threshold") (.number x) := by
  have hdefault : params.get? "threshold" = none → (threshold params = .ok x ↔ 1 = x) := by
    intro h
    unfold threshold Params.numberOr
    rw [h, ok_bind, Params.unless_negative_eq_ok_iff (by decide)]
    constructor
    · rintro ⟨rfl, -⟩
      rfl
    · rintro rfl
      exact ⟨rfl, by decide⟩
  have hgiven : ∀ d, params.get? "threshold" = some d →
      (threshold params = .ok x ↔ params.nonNegative "threshold" = .ok x) := by
    intro d h
    unfold threshold Params.numberOr Params.nonNegative
    rw [h]
  simp only [Params.get?_eq_none_iff, Params.get?_eq_some_iff, Params.nonNegative_eq_ok_iff]
    at hdefault hgiven
  generalize params.fields.get? "threshold" = d? at hdefault hgiven ⊢
  constructor
  · intro h
    rcases d? with _ | d
    · obtain rfl := (hdefault (.inl rfl)).1 h
      exact .absent
    · by_cases hnull : d = .null
      · subst hnull
        obtain rfl := (hdefault (.inr rfl)).1 h
        exact .null
      · cases (hgiven d ⟨rfl, hnull⟩).1 h with
        | nonNegative hnumber hfinite hsign => exact .given hnumber hfinite hsign
  · intro h
    cases h with
    | absent => exact (hdefault (.inl rfl)).2 rfl
    | null => exact (hdefault (.inr rfl)).2 rfl
    | given hnumber hfinite hsign =>
      refine (hgiven _ ⟨rfl, ?_⟩).2 (.nonNegative hnumber hfinite hsign)
      rintro rfl
      cases hnumber

/-! ## Tables -/

namespace Operator

/-- The parameters that the operator with a name takes. -/
def parameters : String → List (String × ParameterKind)
  | "equals" | "has_different" | "same_list_item" | "layer_compatible" | "unique_values" =>
    [("field", .field)]
  | "abs_diff" => [("field", .field), ("operator", .comparison), ("value", .number)]
  | "has_value" | "has_item_with" => [("field", .field), ("value", .value)]
  | "formality_compatible" => [("field", .field), ("threshold", .nonNegativeOr 1)]
  | "min_cluster_size" | "max_cluster_size" => [("value", .count)]
  | "count_by_field" => [("field", .field), ("operator", .comparison), ("value", .nonNegative)]
  | "formality_range" => [("field", .field), ("max_range", .nonNegative)]
  | _ => []

/-- A use of an operator keeps to the table: it has no other parameters, and those of the table have
the given values. -/
structure Keeps (name : String) (fields : Entries Document) (arguments : List Argument) : Prop where
  keys : ∀ e ∈ fields, e.1 ∈ (parameters name).map (·.1)
  reads : List.Forall₂ (fun p a => p.2.Reads (fields.get? p.1) a) (parameters name) arguments

theorem keeps_iff {name : String} {fields : Entries Document} {arguments : List Argument} :
    Keeps name fields arguments ↔ (∀ e ∈ fields, e.1 ∈ (parameters name).map (·.1)) ∧
      List.Forall₂ (fun p a => p.2.Reads (fields.get? p.1) a) (parameters name) arguments :=
  ⟨fun h => ⟨h.keys, h.reads⟩, fun h => ⟨h.1, h.2⟩⟩

/-- An operator that takes an attribute only has the name of the attribute as its argument. -/
theorem exists_text_of_reads {fields : Entries Document} {arguments : List Argument}
    (h : List.Forall₂ (fun p a => ParameterKind.Reads p.2 (fields.get? p.1) a)
      [("field", .field)] arguments) :
    ∃ s, arguments = [.text s] := by
  obtain _ | ⟨hfield, _ | _⟩ := h
  obtain ⟨s, rfl⟩ := hfield.exists_argument
  exact ⟨s, rfl⟩

/-- An operator that takes an attribute and another parameter has the name of the attribute and the
value of the other parameter as its arguments. -/
theorem exists_text_of_reads_pair {fields : Entries Document} {arguments : List Argument}
    {key : String} {kind : ParameterKind}
    (h : List.Forall₂ (fun p a => ParameterKind.Reads p.2 (fields.get? p.1) a)
      [("field", .field), (key, kind)] arguments) :
    ∃ s a, arguments = [.text s, a] ∧ kind.Reads (fields.get? key) a := by
  obtain _ | ⟨hfield, _ | ⟨hother, _ | _⟩⟩ := h
  obtain ⟨s, rfl⟩ := hfield.exists_argument
  exact ⟨s, _, rfl, hother⟩

end Operator

namespace PairOperator

/-- The values of the parameters, in the order of the table. -/
def arguments : PairOperator → List Argument
  | .equals field | .hasDifferent field | .sameListItem field | .layerCompatible field =>
    [.text field]
  | .absDiff field comparison value => [.text field, .comparison comparison, .number value]
  | .hasValue field value => [.text field, .value value]
  | .formalityCompatible field threshold => [.text field, .number threshold]

theorem name_mem (op : PairOperator) : op.name ∈ Family.pairwise.operatorNames := by
  cases op <;> simp [name, Family.operatorNames]

theorem name_of_resolve {params : Params} {op : PairOperator} (h : resolve params = .ok op) :
    op.name = params.operator := by
  unfold resolve at h
  split at h
  all_goals
    simp only [bind_eq_ok_iff, pure_eq_ok, throw_eq_error, Except.ok.injEq, reduceCtorEq] at h
  all_goals
    rename_i hname
    rw [hname]
    grind [name]

theorem resolve_eq_ok_iff {params : Params} {op : PairOperator} :
    resolve params = .ok op ↔
      op.name = params.operator ∧ Operator.Keeps params.operator params.fields op.arguments := by
  by_cases hname : op.name = params.operator
  · obtain ⟨operator, fields⟩ := params
    dsimp only at hname
    subst hname
    cases op
    case formalityCompatible =>
      -- The threshold is read before the field.
      simp [name, resolve, arguments, Operator.keeps_iff, Operator.parameters, bind_eq_ok_iff,
        pure_eq_ok, and_comm]
    all_goals
      simp [name, resolve, arguments, Operator.keeps_iff, Operator.parameters, bind_eq_ok_iff,
        pure_eq_ok]
  · constructor
    · intro h
      exact absurd (name_of_resolve h) hname
    · rintro ⟨h, -⟩
      exact absurd h hname

theorem field_of_keeps {fields : Entries Document} {op : PairOperator}
    (h : Operator.Keeps op.name fields op.arguments) :
    fields.get? "field" = some (.text op.field) := by
  have hreads := h.reads
  cases op
  all_goals
    obtain _ | ⟨hfield, -⟩ := hreads
    generalize fields.get? "field" = d? at hfield
    cases hfield
    rfl

/-- There is an operator for every use that keeps to the table. -/
theorem exists_of_keeps {name : String} {fields : Entries Document} {arguments : List Argument}
    (hname : name ∈ Family.pairwise.operatorNames)
    (h : Operator.Keeps name fields arguments) :
    ∃ op : PairOperator, op.name = name ∧ op.arguments = arguments := by
  have hreads := h.reads
  simp only [Family.operatorNames, List.mem_cons, List.not_mem_nil, or_false] at hname
  obtain rfl | rfl | rfl | rfl | rfl | rfl | rfl := hname
  · obtain ⟨s, rfl⟩ := Operator.exists_text_of_reads hreads
    exact ⟨.equals s, rfl, rfl⟩
  · obtain ⟨s, rfl⟩ := Operator.exists_text_of_reads hreads
    exact ⟨.hasDifferent s, rfl, rfl⟩
  · obtain _ | ⟨hfield, _ | ⟨hcomparison, _ | ⟨hvalue, _ | _⟩⟩⟩ := hreads
    obtain ⟨s, rfl⟩ := hfield.exists_argument
    obtain ⟨c, rfl⟩ := hcomparison.exists_argument
    obtain ⟨x, rfl⟩ := hvalue.exists_argument
    exact ⟨.absDiff s c x, rfl, rfl⟩
  · obtain ⟨s, _, rfl, hvalue⟩ := Operator.exists_text_of_reads_pair hreads
    obtain ⟨v, rfl⟩ := hvalue.exists_argument
    exact ⟨.hasValue s v, rfl, rfl⟩
  · obtain ⟨s, rfl⟩ := Operator.exists_text_of_reads hreads
    exact ⟨.sameListItem s, rfl, rfl⟩
  · obtain ⟨s, _, rfl, hthreshold⟩ := Operator.exists_text_of_reads_pair hreads
    obtain ⟨x, rfl⟩ := hthreshold.exists_argument
    exact ⟨.formalityCompatible s x, rfl, rfl⟩
  · obtain ⟨s, rfl⟩ := Operator.exists_text_of_reads hreads
    exact ⟨.layerCompatible s, rfl, rfl⟩

end PairOperator

namespace SetOperator

/-- The values of the parameters, in the order of the table. -/
def arguments : SetOperator → List Argument
  | .minClusterSize value | .maxClusterSize value => [.count value]
  | .uniqueValues field => [.text field]
  | .hasItemWith field value => [.text field, .value value]
  | .countByField field comparison value => [.text field, .comparison comparison, .number value]
  | .formalityRange field maxRange => [.text field, .number maxRange]

theorem name_mem (op : SetOperator) : op.name ∈ Family.cluster.operatorNames := by
  cases op <;> simp [name, Family.operatorNames]

theorem name_of_resolve {params : Params} {op : SetOperator} (h : resolve params = .ok op) :
    op.name = params.operator := by
  unfold resolve at h
  split at h
  all_goals
    simp only [bind_eq_ok_iff, pure_eq_ok, throw_eq_error, Except.ok.injEq, reduceCtorEq] at h
  all_goals
    rename_i hname
    rw [hname]
    grind [name]

theorem resolve_eq_ok_iff {params : Params} {op : SetOperator} :
    resolve params = .ok op ↔
      op.name = params.operator ∧ Operator.Keeps params.operator params.fields op.arguments := by
  by_cases hname : op.name = params.operator
  · obtain ⟨operator, fields⟩ := params
    dsimp only at hname
    subst hname
    cases op
    all_goals
      simp [name, resolve, arguments, Operator.keeps_iff, Operator.parameters, bind_eq_ok_iff,
        pure_eq_ok]
  · constructor
    · intro h
      exact absurd (name_of_resolve h) hname
    · rintro ⟨h, -⟩
      exact absurd h hname

theorem field_of_keeps {fields : Entries Document} {op : SetOperator}
    (h : Operator.Keeps op.name fields op.arguments) :
    fields.get? "field" = op.field?.map .text := by
  have hreads := h.reads
  cases op
  case minClusterSize | maxClusterSize =>
    -- The table has no attribute, so there is none.
    cases hget : fields.get? "field" with
    | none => rfl
    | some d =>
      have hkey := h.keys _ (Entries.mem_of_get? hget)
      simp [name, Operator.parameters] at hkey
  all_goals
    obtain _ | ⟨hfield, -⟩ := hreads
    generalize fields.get? "field" = d? at hfield
    cases hfield
    rfl

/-- There is an operator for every use that keeps to the table. -/
theorem exists_of_keeps {name : String} {fields : Entries Document} {arguments : List Argument}
    (hname : name ∈ Family.cluster.operatorNames)
    (h : Operator.Keeps name fields arguments) :
    ∃ op : SetOperator, op.name = name ∧ op.arguments = arguments := by
  have hreads := h.reads
  simp only [Family.operatorNames, List.mem_cons, List.not_mem_nil, or_false] at hname
  obtain rfl | rfl | rfl | rfl | rfl | rfl := hname
  · obtain _ | ⟨hcount, _ | _⟩ := hreads
    obtain ⟨n, rfl⟩ := hcount.exists_argument
    exact ⟨.minClusterSize n, rfl, rfl⟩
  · obtain _ | ⟨hcount, _ | _⟩ := hreads
    obtain ⟨n, rfl⟩ := hcount.exists_argument
    exact ⟨.maxClusterSize n, rfl, rfl⟩
  · obtain ⟨s, rfl⟩ := Operator.exists_text_of_reads hreads
    exact ⟨.uniqueValues s, rfl, rfl⟩
  · obtain ⟨s, _, rfl, hvalue⟩ := Operator.exists_text_of_reads_pair hreads
    obtain ⟨v, rfl⟩ := hvalue.exists_argument
    exact ⟨.hasItemWith s v, rfl, rfl⟩
  · obtain _ | ⟨hfield, _ | ⟨hcomparison, _ | ⟨hvalue, _ | _⟩⟩⟩ := hreads
    obtain ⟨s, rfl⟩ := hfield.exists_argument
    obtain ⟨c, rfl⟩ := hcomparison.exists_argument
    obtain ⟨x, rfl⟩ := hvalue.exists_argument
    exact ⟨.countByField s c x, rfl, rfl⟩
  · obtain ⟨s, _, rfl, hrange⟩ := Operator.exists_text_of_reads_pair hreads
    obtain ⟨x, rfl⟩ := hrange.exists_argument
    exact ⟨.formalityRange s x, rfl, rfl⟩

end SetOperator

/-! ## Families -/

/-- A family whose operators are resolved by the table. -/
class Operator.Tabled (Op : Type) {Binding : outParam Type} [Operator Op Binding] where
  /-- The values of the parameters, in the order of the table. -/
  arguments : Op → List Argument
  name_mem : ∀ op : Op, Operator.name op ∈ (Operator.family Op).operatorNames
  resolve_eq_ok_iff : ∀ {params : Params} {op : Op}, Operator.resolve params = .ok op ↔
    Operator.name op = params.operator ∧
      Operator.Keeps params.operator params.fields (arguments op)
  field_of_keeps : ∀ {fields : Entries Document} {op : Op},
    Operator.Keeps (Operator.name op) fields (arguments op) →
      fields.get? "field" = (Operator.field? op).map .text
  exists_of_keeps : ∀ {name : String} {fields : Entries Document} {values : List Argument},
    name ∈ (Operator.family Op).operatorNames → Operator.Keeps name fields values →
      ∃ op : Op, Operator.name op = name ∧ arguments op = values

instance : Operator.Tabled PairOperator where
  arguments := PairOperator.arguments
  name_mem := PairOperator.name_mem
  resolve_eq_ok_iff := PairOperator.resolve_eq_ok_iff
  field_of_keeps := PairOperator.field_of_keeps
  exists_of_keeps := PairOperator.exists_of_keeps

instance : Operator.Tabled SetOperator where
  arguments := SetOperator.arguments
  name_mem := SetOperator.name_mem
  resolve_eq_ok_iff := SetOperator.resolve_eq_ok_iff
  field_of_keeps := SetOperator.field_of_keeps
  exists_of_keeps := SetOperator.exists_of_keeps

theorem Family.ofOperator?_eq_some_iff {name : String} {family : Family} :
    ofOperator? name = some family ↔ name ∈ family.operatorNames := by
  have hdisjoint : ∀ n ∈ cluster.operatorNames, n ∉ pairwise.operatorNames := by decide
  unfold ofOperator?
  by_cases hpair : name ∈ pairwise.operatorNames
  · rw [if_pos hpair]
    cases family with
    | pairwise => simp [hpair]
    | cluster => simpa using fun hset => hdisjoint name hset hpair
  · rw [if_neg hpair]
    cases family <;> simp [hpair]

theorem Operator.ofParams_eq_ok_iff {Op Binding : Type} [Operator Op Binding] [Tabled Op]
    {params : Params} {op : Op} :
    ofParams Op params = .ok op ↔
      name op = params.operator ∧ Keeps params.operator params.fields (Tabled.arguments op) := by
  rw [← Tabled.resolve_eq_ok_iff]
  unfold ofParams
  constructor
  · intro h
    split at h
    · cases h
    · split at h
      · exact h
      · cases h
  · intro h
    have hname : params.operator ∈ (family Op).operatorNames := by
      rw [← (Tabled.resolve_eq_ok_iff.1 h).1]
      exact Tabled.name_mem op
    rw [Family.ofOperator?_eq_some_iff.2 hname]
    exact (if_pos rfl).trans h

end Ensemble
