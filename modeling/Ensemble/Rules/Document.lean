import Ensemble.Condition.Reader
import Ensemble.Rules.Basic

/-!
# Rule documents

A form is a rule or a rule set as written, its conditions not yet read.  Compiling a form reads
them; an error names the rule that it is about.
-/

namespace Ensemble

/-! ## Rules -/

/-- A rule as written. -/
structure RuleForm where
  name : String
  description : Option String
  /-- Any document; compiling decides whether it is a condition. -/
  condition : Document

namespace RuleForm

namespace Field

/-- The name. -/
def name : Field String := .required "name" Document.toText

/-- The description. -/
def description : Field (Option String) := .optional "description" Document.toText

/-- The condition. -/
def condition : Field Document := .required "condition" .ok

end Field

/-- The form that a document holds. -/
def ofDocument (d : Document) : Except Fault RuleForm := do
  let fields ← Record.read .refused
    [Field.name.check, Field.description.check, Field.condition.check] d
  return ⟨← Field.name.of fields, ← Field.description.of fields, ← Field.condition.of fields⟩

/-- The document of a form. -/
def toDocument (form : RuleForm) : Document :=
  Document.ofFields
    ([("name", .text form.name), ("condition", form.condition)]
      ++ form.description.toList.map fun text => ("description", .text text))

variable {Op Binding : Type} [Operator Op Binding]

/-- The rule that a form describes. -/
def compile (form : RuleForm) : Except Error (Rule Op) :=
  match Condition.ofDocument form.condition with
  | .ok condition => .ok ⟨form.name, form.description, condition⟩
  | .error e => .error (e.withRule form.name)

/-- The rules that forms describe, under names that are not taken.  A name that is taken is reported
before the condition is read. -/
def compileAll (taken : List String) : List RuleForm → Except Error (List (Rule Op))
  | [] => .ok []
  | form :: forms => do
    if form.name ∈ taken then throw (Cause.duplicateRule form.name : Error)
    let rule ← form.compile
    let rules ← compileAll (form.name :: taken) forms
    return rule :: rules

section

variable {taken : List String} {form : RuleForm} {forms : List RuleForm} {rule : Rule Op}
  {rules : List (Rule Op)}

theorem name_of_compile (h : form.compile = .ok rule) : rule.name = form.name := by
  unfold compile at h
  split at h
  · obtain rfl := Except.ok.inj h
    rfl
  · cases h

theorem compileAll_cons_eq_ok_iff :
    compileAll taken (form :: forms) = .ok rules ↔
      form.name ∉ taken ∧ ∃ (rule : Rule Op) (rest : List (Rule Op)), form.compile = .ok rule ∧
        compileAll (form.name :: taken) forms = .ok rest ∧ rules = rule :: rest := by
  rw [compileAll]
  by_cases hname : form.name ∈ taken
  · simp [hname, throw, throwThe, MonadExceptOf.throw, bind, Except.bind]
  · cases (form.compile : Except Error (Rule Op)) with
    | error e => simp [hname, bind, Except.bind]
    | ok rule =>
      cases (compileAll (form.name :: taken) forms : Except Error (List (Rule Op))) with
      | error e => simp [hname, bind, Except.bind]
      | ok rest => simp [hname, bind, Except.bind, pure, Except.pure, eq_comm]

/-- The names of the rules are those of the forms; they are distinct, and none is taken. -/
theorem names_of_compileAll (h : compileAll taken forms = .ok rules) :
    rules.map (·.name) = forms.map (·.name) ∧ (forms.map (·.name)).Nodup ∧
      ∀ form ∈ forms, form.name ∉ taken := by
  induction forms generalizing taken rules with
  | nil =>
    obtain rfl := Except.ok.inj h
    exact ⟨rfl, List.nodup_nil, nofun⟩
  | cons form forms ih =>
    obtain ⟨hname, rule, rest, hrule, hrest, rfl⟩ := compileAll_cons_eq_ok_iff.1 h
    obtain ⟨hnames, hdistinct, hfresh⟩ := ih hrest
    refine ⟨by rw [List.map_cons, List.map_cons, name_of_compile hrule, hnames], ?_, ?_⟩
    · refine List.nodup_cons.2 ⟨fun hmem => ?_, hdistinct⟩
      obtain ⟨other, hother, heq⟩ := List.mem_map.1 hmem
      exact hfresh other hother (heq ▸ List.mem_cons_self)
    · refine List.forall_mem_cons.2 ⟨hname, fun other hother hmem => ?_⟩
      exact hfresh other hother (List.mem_cons_of_mem _ hmem)

end

/-- The rule set that forms describe. -/
def compileSet (name : String) (forms : List RuleForm) : Except Error (RuleSet Op) :=
  match h : compileAll [] forms with
  | .ok rules => .ok {
      name, rules
      distinct := by
        obtain ⟨hnames, hdistinct, -⟩ := names_of_compileAll h
        exact hnames ▸ hdistinct }
  | .error e => .error e

end RuleForm

/-! ## Rule sets -/

/-- A rule set about two items, as written. -/
structure PairRulesForm where
  name : String
  rules : List RuleForm

namespace PairRulesForm

namespace Field

/-- The name. -/
def name : Field String := .required "name" Document.toText

/-- The rules. -/
def rules : Field (List RuleForm) :=
  .defaulted "rules" [] (Document.toList RuleForm.ofDocument)

end Field

/-- The form that a document holds. -/
def ofDocument (d : Document) : Except Fault PairRulesForm := do
  let fields ← Record.read .refused [Field.name.check, Field.rules.check] d
  return ⟨← Field.name.of fields, ← Field.rules.of fields⟩

/-- The document of a form. -/
def toDocument (form : PairRulesForm) : Document :=
  Document.ofFields
    [("name", .text form.name), ("rules", .array (form.rules.map RuleForm.toDocument))]

/-- The rule set that a form describes. -/
def compile (form : PairRulesForm) : Except Error PairRules :=
  RuleForm.compileSet form.name form.rules

end PairRulesForm

/-- The rule set that a document describes. -/
def PairRules.ofDocument (d : Document) : Except Error PairRules :=
  match PairRulesForm.ofDocument d with
  | .ok form => form.compile
  | .error fault =>
    .error (Cause.malformedCondition ("invalid rule set document: " ++ fault.message))

/-! ## Cluster rules -/

/-- Rules about sets of items, as written. -/
structure ClusterRulesForm where
  name : String
  minSize : Option Nat
  maxSize : Option Nat
  rules : List RuleForm

namespace ClusterRulesForm

namespace Field

/-- The name. -/
def name : Field String := .required "name" Document.toText

/-- The least size. -/
def minSize : Field (Option Nat) := .optional "min_cluster_size" Document.toCount

/-- The greatest size. -/
def maxSize : Field (Option Nat) := .optional "max_cluster_size" Document.toCount

/-- The rules. -/
def rules : Field (List RuleForm) :=
  .defaulted "rules" [] (Document.toList RuleForm.ofDocument)

end Field

/-- The form that a document holds. -/
def ofDocument (d : Document) : Except Fault ClusterRulesForm := do
  let fields ← Record.read .refused
    [Field.name.check, Field.minSize.check, Field.maxSize.check, Field.rules.check] d
  return {
    name := ← Field.name.of fields
    minSize := ← Field.minSize.of fields
    maxSize := ← Field.maxSize.of fields
    rules := ← Field.rules.of fields }

/-- The document of a form. -/
def toDocument (form : ClusterRulesForm) : Document :=
  Document.ofFields
    ([("name", .text form.name), ("rules", .array (form.rules.map RuleForm.toDocument))]
      ++ form.minSize.toList.map (fun n => ("min_cluster_size", .ofNat n))
      ++ form.maxSize.toList.map (fun n => ("max_cluster_size", .ofNat n)))

/-- The rules that a form describes.  Its sizes are checked before its rules are read. -/
def compile (form : ClusterRulesForm) : Except Error ClusterRules := do
  checkSizes form.minSize form.maxSize
  let set ← RuleForm.compileSet form.name form.rules
  return ⟨set, form.minSize, form.maxSize⟩

end ClusterRulesForm

/-- The rules that a document describes. -/
def ClusterRules.ofDocument (d : Document) : Except Error ClusterRules :=
  match ClusterRulesForm.ofDocument d with
  | .ok form => form.compile
  | .error fault =>
    .error (Cause.malformedCondition ("invalid cluster rule set document: " ++ fault.message))

end Ensemble
