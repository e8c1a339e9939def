import Ensemble.Proofs.Condition.Location
import Ensemble.Rules.Document

/-!
# Compiling rule sets

Compiling forms looks for repeated names while it reads the conditions, adding rules to a set looks
for them once more.  Both keep the order of the rules and succeed only without a repetition, so they
lead to the same sets.  Where compiling fails, the first form that repeats a name or cannot be read
is to blame.
-/

namespace Ensemble

/-! ## Adding rules -/

namespace RuleSet

variable {Op : Type} {set set' : RuleSet Op} {rule : Rule Op} {rules : List (Rule Op)}

theorem eq_iff : set = set' ↔ set.name = set'.name ∧ set.rules = set'.rules := by
  cases set
  cases set'
  simp

/-- A rule can be added where the result is a rule set. -/
theorem add_eq_ok_iff :
    set.add rule = .ok set' ↔ set'.name = set.name ∧ set'.rules = set.rules ++ [rule] := by
  unfold add
  constructor
  · intro h
    split at h
    · cases h
    · obtain rfl := Except.ok.inj h
      exact ⟨rfl, rfl⟩
  · rintro ⟨hname, hrules⟩
    have hdistinct := set'.distinct
    rw [hrules, List.map_append] at hdistinct
    have hnew : ¬ set.hasRule rule.name = true := fun h =>
      (List.nodup_append.1 hdistinct).2.2 _ (hasRule_iff.1 h) _ (List.mem_singleton_self _) rfl
    rw [dif_neg hnew, Except.ok.injEq, eq_iff]
    exact ⟨hname.symm, hrules.symm⟩

theorem foldlM_add_eq_ok_iff :
    rules.foldlM add set = .ok set' ↔ set'.name = set.name ∧ set'.rules = set.rules ++ rules := by
  induction rules generalizing set with
  | nil =>
    rw [List.foldlM_nil, pure_eq_ok, Except.ok.injEq, eq_iff, List.append_nil]
    exact and_congr eq_comm eq_comm
  | cons rule rules ih =>
    rw [List.foldlM_cons, bind_eq_ok_iff]
    simp only [ih, add_eq_ok_iff]
    constructor
    · rintro ⟨middle, ⟨hname, hrules⟩, hname', hrules'⟩
      exact ⟨hname'.trans hname, by rw [hrules', hrules, List.append_assoc, List.singleton_append]⟩
    · rintro ⟨hname, hrules⟩
      -- The first rules of a rule set are a rule set.
      have hsplit : set'.rules = (set.rules ++ [rule]) ++ rules := by simp [hrules]
      have hdistinct := set'.distinct
      rw [hsplit, List.map_append] at hdistinct
      have hfirst := (List.nodup_append.1 hdistinct).1
      exact ⟨⟨set.name, set.rules ++ [rule], hfirst⟩, ⟨rfl, rfl⟩, hname, hsplit⟩

end RuleSet

namespace ClusterRules

variable {set set' : ClusterRules} {rules : List (Rule SetOperator)}

/-- Adding rules leaves the sizes alone. -/
theorem foldlM_add :
    rules.foldlM add set = (rules.foldlM RuleSet.add set.toRuleSet).map
      fun rules => { set with toRuleSet := rules } := by
  induction rules generalizing set with
  | nil => rfl
  | cons rule rules ih =>
    rw [List.foldlM_cons, List.foldlM_cons, add]
    cases set.toRuleSet.add rule with
    | error e => rfl
    | ok middle => exact ih

end ClusterRules

/-! ## Compiling forms -/

namespace RuleForm

variable {Op Binding : Type} [Operator Op Binding] {name : String} {taken : List String}
  {form : RuleForm} {forms : List RuleForm} {rules : List (Rule Op)} {set : RuleSet Op} {e : Error}

theorem compile_eq_error_iff :
    (form.compile : Except Error (Rule Op)) = .error e ↔
      ∃ own, (Condition.ofDocument form.condition : Except Error (Condition Op)) = .error own ∧
        e = own.withRule form.name := by
  unfold compile
  cases (Condition.ofDocument form.condition : Except Error (Condition Op)) <;> simp [eq_comm]

theorem exists_compile_iff :
    (∃ rule : Rule Op, form.compile = .ok rule) ↔
      ∃ c : Condition Op, Condition.ofDocument form.condition = .ok c := by
  unfold compile
  cases (Condition.ofDocument form.condition : Except Error (Condition Op)) <;> simp

/-- Forms are compiled one by one, but for the names that are taken. -/
theorem compileAll_eq_ok_iff :
    compileAll taken forms = .ok rules ↔
      forms.mapM compile = .ok rules ∧ (forms.map (·.name)).Nodup ∧
        ∀ form ∈ forms, form.name ∉ taken := by
  constructor
  · intro h
    refine ⟨?_, (names_of_compileAll h).2⟩
    induction forms generalizing taken rules with
    | nil => exact h
    | cons form forms ih =>
      obtain ⟨-, rule, rest, hrule, hrest, rfl⟩ := compileAll_cons_eq_ok_iff.1 h
      rw [List.mapM_cons, hrule, ok_bind, ih hrest, ok_bind, pure_eq_ok]
  · rintro ⟨hcompile, hdistinct, hfresh⟩
    induction forms generalizing taken rules with
    | nil => exact hcompile
    | cons form forms ih =>
      rw [List.mapM_cons] at hcompile
      obtain ⟨rule, hrule, hcompile⟩ := bind_eq_ok_iff.1 hcompile
      obtain ⟨rest, hrest, hcompile⟩ := bind_eq_ok_iff.1 hcompile
      obtain rfl : rule :: rest = rules := Except.ok.inj hcompile
      obtain ⟨hname, hdistinct⟩ := List.nodup_cons.1 hdistinct
      obtain ⟨hform, hforms⟩ := List.forall_mem_cons.1 hfresh
      refine compileAll_cons_eq_ok_iff.2 ⟨hform, rule, rest, hrule, ih hrest hdistinct ?_, rfl⟩
      intro other hother hmem
      rcases List.mem_cons.1 hmem with heq | hmem
      · exact hname (List.mem_map.2 ⟨other, hother, heq⟩)
      · exact hforms other hother hmem

theorem compileSet_eq_ok_iff :
    compileSet name forms = .ok set ↔ set.name = name ∧ compileAll [] forms = .ok set.rules := by
  unfold compileSet
  split
  · rename_i rules h
    simp only [h, Except.ok.injEq, RuleSet.eq_iff]
    exact and_congr_left fun _ => eq_comm
  · rename_i e h
    simp [h]

/-- Compiling forms is compiling each of them and adding the rules to the empty set. -/
theorem compileSet_eq_ok_iff_foldlM :
    compileSet name forms = .ok set ↔
      ∃ rules, forms.mapM compile = .ok rules ∧
        rules.foldlM RuleSet.add (.empty name) = .ok set := by
  simp only [compileSet_eq_ok_iff, RuleSet.foldlM_add_eq_ok_iff, compileAll_eq_ok_iff]
  constructor
  · rintro ⟨hname, hcompile, -⟩
    exact ⟨set.rules, hcompile, hname, rfl⟩
  · rintro ⟨rules, hcompile, hname, hrules⟩
    obtain rfl : set.rules = rules := hrules
    have hnames := map_of_mapM hcompile fun _ _ => name_of_compile
    exact ⟨hname, hcompile, hnames ▸ set.distinct, fun _ _ => List.not_mem_nil⟩

theorem names_of_compileSet (h : compileSet name forms = .ok set) :
    set.rules.map (·.name) = forms.map (·.name) :=
  (names_of_compileAll (compileSet_eq_ok_iff.1 h).2).1

/-! ## First faults -/

/-- The error of a form that comes after rules with some names: its name is one of those, or its
condition cannot be read.  A repeated name is reported whatever the condition is. -/
inductive Raises (Op : Type) {Binding : Type} [Operator Op Binding] (earlier : List String)
    (form : RuleForm) : Error → Prop where
  | repeated (h : form.name ∈ earlier) : Raises Op earlier form (Cause.duplicateRule form.name)
  | unreadable {own : Error} (hname : form.name ∉ earlier)
    (h : (Condition.ofDocument form.condition : Except Error (Condition Op)) = .error own) :
    Raises Op earlier form (own.withRule form.name)

/-- An error is the one of the first form that repeats the name of an earlier one or whose condition
cannot be read.  An error of a condition has the name of the form recorded. -/
def FirstFault (Op : Type) {Binding : Type} [Operator Op Binding] (forms : List RuleForm)
    (e : Error) : Prop :=
  ∃ before form after, forms = before ++ form :: after ∧ (before.map (·.name)).Nodup ∧
    (∀ other ∈ before, ∃ c : Condition Op, Condition.ofDocument other.condition = .ok c) ∧
    Raises Op (before.map (·.name)) form e ∧
    (e = Cause.duplicateRule form.name ∨ e.rule? = some form.name)

theorem compileAll_cons_eq_error_iff :
    (compileAll taken (form :: forms) : Except Error (List (Rule Op))) = .error e ↔
      Raises Op taken form e ∨ form.name ∉ taken ∧ (∃ rule : Rule Op, form.compile = .ok rule) ∧
        (compileAll (form.name :: taken) forms : Except Error (List (Rule Op))) = .error e := by
  rw [compileAll]
  by_cases hname : form.name ∈ taken
  · rw [if_pos hname, throw_eq_error, error_bind, Except.error.injEq]
    constructor
    · rintro rfl
      exact .inl (.repeated hname)
    · rintro (h | ⟨h, -⟩)
      · cases h with
        | repeated => rfl
        | unreadable h => exact absurd hname h
      · exact absurd hname h
  · rw [if_neg hname]
    show (form.compile >>= _) = .error e ↔ _
    rw [bind_eq_error_iff, compile_eq_error_iff]
    constructor
    · rintro (⟨own, hown, rfl⟩ | ⟨rule, hrule, h⟩)
      · exact .inl (.unreadable hname hown)
      · rcases bind_eq_error_iff.1 h with h | ⟨rest, -, h⟩
        · exact .inr ⟨hname, ⟨rule, hrule⟩, h⟩
        · cases h
    · rintro (h | ⟨-, ⟨rule, hrule⟩, h⟩)
      · cases h with
        | repeated h => exact absurd h hname
        | unreadable _ h => exact .inl ⟨_, h, rfl⟩
      · exact .inr ⟨rule, hrule, by rw [h, error_bind]⟩

theorem Raises.congr {earlier earlier' : List String} (h : Raises Op earlier form e)
    (hmem : form.name ∈ earlier' ↔ form.name ∈ earlier) : Raises Op earlier' form e := by
  cases h with
  | repeated h => exact .repeated (hmem.2 h)
  | unreadable hname h => exact .unreadable (hmem.not.2 hname) h

/-- Compiling fails at the first form that cannot follow the ones before it. -/
theorem compileAll_eq_error_iff :
    (compileAll taken forms : Except Error (List (Rule Op))) = .error e ↔
      ∃ before form after, forms = before ++ form :: after ∧
        (∃ rules : List (Rule Op), compileAll taken before = .ok rules) ∧
        Raises Op (before.map (·.name) ++ taken) form e := by
  constructor
  · intro h
    induction forms generalizing taken with
    | nil => cases h
    | cons form forms ih =>
      rcases compileAll_cons_eq_error_iff.1 h with h | ⟨hname, ⟨rule, hrule⟩, h⟩
      · exact ⟨[], form, forms, rfl, ⟨[], rfl⟩, h⟩
      · obtain ⟨before, first, after, rfl, ⟨rest, hrest⟩, hraises⟩ := ih h
        refine ⟨form :: before, first, after, rfl, ⟨rule :: rest, ?_⟩, ?_⟩
        · exact compileAll_cons_eq_ok_iff.2 ⟨hname, rule, rest, hrule, hrest, rfl⟩
        · exact hraises.congr (by simp [or_left_comm])
  · rintro ⟨before, form, after, rfl, ⟨rules, hbefore⟩, hraises⟩
    induction before generalizing taken rules with
    | nil => exact compileAll_cons_eq_error_iff.2 (.inl hraises)
    | cons other before ih =>
      obtain ⟨hname, rule, rest, hrule, hrest, -⟩ := compileAll_cons_eq_ok_iff.1 hbefore
      refine compileAll_cons_eq_error_iff.2 (.inr ⟨hname, ⟨rule, hrule⟩, ?_⟩)
      exact ih (hraises.congr (by simp [or_left_comm])) rest hrest

theorem Raises.tells [Operator.Unplacing Op] (h : Raises Op taken form e) :
    e = Cause.duplicateRule form.name ∨ e.rule? = some form.name := by
  cases h with
  | repeated => exact .inl rfl
  | unreadable _ h => exact .inr (Error.rule?_withRule _ (Condition.rule?_eq_none_of_ofDocument h))

theorem compileSet_eq_error_iff [Operator.Unplacing Op] (name : String) :
    (compileSet name forms : Except Error (RuleSet Op)) = .error e ↔ FirstFault Op forms e := by
  have hset : (compileSet name forms : Except Error (RuleSet Op)) = .error e ↔
      (compileAll [] forms : Except Error (List (Rule Op))) = .error e := by
    unfold compileSet
    split
    · rename_i rules h
      simp [h]
    · rename_i e h
      simp [h]
  rw [hset, compileAll_eq_error_iff]
  refine exists_congr fun before => exists_congr fun form => exists_congr fun after =>
    and_congr_right fun _ => ?_
  rw [List.append_nil]
  constructor
  · rintro ⟨⟨rules, hrules⟩, hraises⟩
    obtain ⟨hcompile, hdistinct, -⟩ := compileAll_eq_ok_iff.1 hrules
    refine ⟨hdistinct, fun other hother => exists_compile_iff.1 ?_, hraises, hraises.tells⟩
    exact (exists_mem_of_mapM hcompile hother).imp fun rule h => h.2
  · rintro ⟨hdistinct, hread, hraises, -⟩
    obtain ⟨rules, hrules⟩ := exists_mapM fun other hother =>
      exists_compile_iff.2 (hread other hother)
    have hfresh : ∀ other ∈ before, other.name ∉ [] := fun _ _ => List.not_mem_nil
    exact ⟨⟨rules, compileAll_eq_ok_iff.2 ⟨hrules, hdistinct, hfresh⟩⟩, hraises⟩

end RuleForm

/-! ## Rule sets and how they come about -/

/-- The rule sets that compiling and adding rules lead to, with the names in the order in which they
were declared. -/
inductive PairRules.Declared : List String → PairRules → Prop where
  | empty (name : String) : Declared [] (.empty name)
  | compiled {form : PairRulesForm} {set : PairRules} (h : form.compile = .ok set) :
    Declared (form.rules.map (·.name)) set
  | added {names : List String} {set set' : PairRules} {rule : Rule PairOperator}
    (h : Declared names set) (hadd : set.add rule = .ok set') :
    Declared (names ++ [rule.name]) set'

/-- The cluster rules that compiling, adding rules and setting sizes lead to, with the names in the
order in which they were declared. -/
inductive ClusterRules.Declared : List String → ClusterRules → Prop where
  | empty (name : String) : Declared [] (.empty name)
  | compiled {form : ClusterRulesForm} {set : ClusterRules} (h : form.compile = .ok set) :
    Declared (form.rules.map (·.name)) set
  | added {names : List String} {set set' : ClusterRules} {rule : Rule SetOperator}
    (h : Declared names set) (hadd : set.add rule = .ok set') :
    Declared (names ++ [rule.name]) set'
  | resized {names : List String} {set : ClusterRules} (h : Declared names set)
    (min? max? : Option Nat) : Declared names { set with minSize := min?, maxSize := max? }

theorem RuleSet.names_of_add {Op : Type} {set set' : RuleSet Op} {rule : Rule Op}
    (h : set.add rule = .ok set') :
    set'.rules.map (·.name) = set.rules.map (·.name) ++ [rule.name] := by
  rw [(add_eq_ok_iff.1 h).2, List.map_append, List.map_singleton]

theorem PairRules.Declared.names {names : List String} {set : PairRules} (h : Declared names set) :
    set.rules.map (·.name) = names := by
  induction h with
  | empty => rfl
  | compiled h => exact RuleForm.names_of_compileSet h
  | added _ hadd ih => rw [RuleSet.names_of_add hadd, ih]

/-- What leads to cluster rules leads to their names, sizes aside. -/
theorem ClusterRules.Declared.names {names : List String} {set : ClusterRules}
    (h : Declared names set) : set.rules.map (·.name) = names := by
  induction h with
  | empty => rfl
  | compiled h =>
    obtain ⟨-, -, h⟩ := bind_eq_ok_iff.1 h
    obtain ⟨rules, hrules, h⟩ := bind_eq_ok_iff.1 h
    obtain rfl := Except.ok.inj h
    exact RuleForm.names_of_compileSet hrules
  | added _ hadd ih =>
    obtain ⟨rules, hrules, rfl⟩ := map_eq_ok_iff.1 hadd
    rw [RuleSet.names_of_add hrules, ih]
  | resized _ _ _ ih => exact ih

/-! ## Compiling and adding -/

theorem checkSizes_eq_ok_iff {min? max? : Option Nat} :
    checkSizes min? max? = .ok () ↔ ∀ min ∈ min?, ∀ max ∈ max?, min ≤ max := by
  unfold checkSizes
  split
  · rename_i min max
    by_cases hmin : max < min
    · simp [hmin]
    · simp [hmin, Nat.le_of_not_lt hmin]
  · rename_i hsizes
    refine ⟨fun _ min hmin max hmax => ?_, fun _ => rfl⟩
    exact absurd hmax (hsizes min max hmin)

theorem checkSizes_eq_error_iff {min? max? : Option Nat} {e : Error} :
    checkSizes min? max? = .error e ↔ ∃ min ∈ min?, ∃ max ∈ max?,
      max < min ∧ e = Cause.invalidClusterBounds min max := by
  unfold checkSizes
  split
  · rename_i min max
    by_cases hmin : max < min <;> simp [hmin, eq_comm]
  · rename_i hsizes
    refine ⟨nofun, ?_⟩
    rintro ⟨min, hmin, max, hmax, -⟩
    exact absurd hmax (hsizes min max hmin)

namespace ClusterRulesForm

variable {form : ClusterRulesForm} {set : ClusterRules} {e : Error}

/-- The least size is not above the greatest. -/
def Ordered (form : ClusterRulesForm) : Prop :=
  ∀ min ∈ form.minSize, ∀ max ∈ form.maxSize, min ≤ max

theorem compile_eq_ok_iff :
    form.compile = .ok set ↔ form.Ordered ∧ ∃ rules,
      form.rules.mapM RuleForm.compile = .ok rules ∧ rules.foldlM ClusterRules.add
        { ClusterRules.empty form.name with minSize := form.minSize, maxSize := form.maxSize }
          = .ok set := by
  simp only [ClusterRules.foldlM_add, map_eq_ok_iff]
  constructor
  · intro h
    obtain ⟨⟨⟩, hsizes, h⟩ := bind_eq_ok_iff.1 h
    obtain ⟨rules, hrules, h⟩ := bind_eq_ok_iff.1 h
    obtain ⟨compiled, hcompiled, hadd⟩ := RuleForm.compileSet_eq_ok_iff_foldlM.1 hrules
    exact ⟨checkSizes_eq_ok_iff.1 hsizes, compiled, hcompiled, rules, hadd, Except.ok.inj h⟩
  · rintro ⟨hsizes, compiled, hcompiled, rules, hadd, rfl⟩
    have hrules := RuleForm.compileSet_eq_ok_iff_foldlM.2 ⟨compiled, hcompiled, hadd⟩
    rw [compile, checkSizes_eq_ok_iff.2 hsizes, ok_bind, hrules, ok_bind, pure_eq_ok]

theorem compile_eq_error_iff :
    form.compile = .error e ↔
      (∃ min ∈ form.minSize, ∃ max ∈ form.maxSize,
        max < min ∧ e = Cause.invalidClusterBounds min max) ∨
      form.Ordered ∧ RuleForm.FirstFault SetOperator form.rules e := by
  rw [compile, bind_eq_error_iff, checkSizes_eq_error_iff,
    ← RuleForm.compileSet_eq_error_iff form.name]
  refine or_congr_right ?_
  constructor
  · rintro ⟨⟨⟩, hsizes, h⟩
    refine ⟨checkSizes_eq_ok_iff.1 hsizes, ?_⟩
    rcases bind_eq_error_iff.1 h with h | ⟨rules, -, h⟩
    · exact h
    · cases h
  · rintro ⟨hsizes, h⟩
    exact ⟨(), checkSizes_eq_ok_iff.2 hsizes, by rw [h, error_bind]⟩

end ClusterRulesForm

/-- Compiling the forms of a rule set and adding the compiled rules one at a time agree, in both
families; the rules of a set have different names, in the order in which they were declared; and
compiling fails because the sizes are out of order, or at the first form that repeats a name or
cannot be read. -/
theorem compile_agrees_with_add :
    (∀ (form : PairRulesForm) (set : PairRules), form.compile = .ok set ↔
      ∃ rules, form.rules.mapM RuleForm.compile = .ok rules ∧
        rules.foldlM RuleSet.add (.empty form.name) = .ok set) ∧
    (∀ (form : ClusterRulesForm) (set : ClusterRules), form.compile = .ok set ↔
      form.Ordered ∧ ∃ rules, form.rules.mapM RuleForm.compile = .ok rules ∧
        rules.foldlM ClusterRules.add
          { ClusterRules.empty form.name with minSize := form.minSize, maxSize := form.maxSize }
            = .ok set) ∧
    (∀ (names : List String) (set : PairRules), PairRules.Declared names set →
      set.rules.map (·.name) = names ∧ names.Nodup) ∧
    (∀ (names : List String) (set : ClusterRules), ClusterRules.Declared names set →
      set.rules.map (·.name) = names ∧ names.Nodup) ∧
    (∀ (form : PairRulesForm) (e : Error), form.compile = .error e ↔
      RuleForm.FirstFault PairOperator form.rules e) ∧
    (∀ (form : ClusterRulesForm) (e : Error), form.compile = .error e ↔
      (∃ min ∈ form.minSize, ∃ max ∈ form.maxSize,
        max < min ∧ e = Cause.invalidClusterBounds min max) ∨
      form.Ordered ∧ RuleForm.FirstFault SetOperator form.rules e) :=
  ⟨fun _ _ => RuleForm.compileSet_eq_ok_iff_foldlM, fun _ _ => ClusterRulesForm.compile_eq_ok_iff,
    fun _ set h => ⟨h.names, h.names ▸ set.distinct⟩,
    fun _ set h => ⟨h.names, h.names ▸ set.distinct⟩,
    fun form _ => RuleForm.compileSet_eq_error_iff form.name,
    fun _ _ => ClusterRulesForm.compile_eq_error_iff⟩

/-- Two rules, compiled together and added to no rules; and a third one that repeats the first name
over a condition that cannot be read. -/
theorem compile_agrees_with_add_shades :
    ∃ shades shapes again : RuleForm,
      (∃ set, PairRulesForm.compile ⟨"outfit", [shades, shapes]⟩ = .ok set ∧
        PairRules.Declared ["shades", "shapes"] set ∧
        set.rules.map (·.name) = ["shades", "shapes"] ∧ ∃ rules,
          [shades, shapes].mapM RuleForm.compile = .ok rules ∧
          rules.foldlM RuleSet.add (.empty "outfit") = .ok set) ∧
      ∃ e, PairRulesForm.compile ⟨"outfit", [shades, shapes, again]⟩ = .error e ∧
        RuleForm.FirstFault PairOperator [shades, shapes, again] e := by
  let shades : RuleForm :=
    ⟨"shades", none, .object [("has_different", .object [("field", .text "shade")])]⟩
  let shapes : RuleForm :=
    ⟨"shapes", none, .object [("equals", .object [("field", .text "shape")])]⟩
  obtain ⟨set, hset⟩ : ∃ set, PairRulesForm.compile ⟨"outfit", [shades, shapes]⟩ = .ok set := by
    have hsome : (PairRulesForm.compile ⟨"outfit", [shades, shapes]⟩).toOption.isSome = true := by
      decide +kernel
    exact (Option.isSome_iff_exists.1 hsome).imp fun set => toOption_eq_some_iff.1
  obtain ⟨e, he⟩ : ∃ e, PairRulesForm.compile
      ⟨"outfit", [shades, shapes, ⟨"shades", none, .text "plain"⟩]⟩ = .error e :=
    exists_error_iff.2 (by decide +kernel)
  have hdeclared : PairRules.Declared ["shades", "shapes"] set := .compiled hset
  obtain ⟨hadd, -, hnames, -, hfault, -⟩ := compile_agrees_with_add
  exact ⟨shades, shapes, ⟨"shades", none, .text "plain"⟩,
    ⟨set, hset, hdeclared, (hnames _ _ hdeclared).1, (hadd _ _).1 hset⟩, e, he, (hfault _ _).1 he⟩

end Ensemble
