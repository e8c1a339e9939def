import Ensemble.Document.Record

/-!
# Rule evaluations

What one rule says about a pair or a set of items.
-/

namespace Ensemble

/-- The verdict of a rule, with the reason. -/
structure RuleEvaluation where
  ruleName : String
  passed : Bool
  reason : String
  deriving DecidableEq, Repr

namespace RuleEvaluation

/-- Whether every evaluation is passed. -/
def allPassed (evaluations : List RuleEvaluation) : Bool := evaluations.all (·.passed)

/-- The evaluations that are not passed. -/
def failures (evaluations : List RuleEvaluation) : List RuleEvaluation :=
  evaluations.filter fun e => !e.passed

/-! ## Documents -/

/-- The document of an evaluation. -/
def toDocument (e : RuleEvaluation) : Document :=
  Document.ofFields
    [("rule_name", .text e.ruleName), ("passed", .bool e.passed), ("reason", .text e.reason)]

namespace Field

/-- The name of the rule. -/
def ruleName : Field String := .required "rule_name" Document.toText

/-- The verdict. -/
def passed : Field Bool := .required "passed" Document.toBool

/-- The reason. -/
def reason : Field String := .required "reason" Document.toText

end Field

/-- The evaluation that a document holds. -/
def ofDocument (d : Document) : Except Fault RuleEvaluation := do
  let fields ← Record.read .ignored
    [Field.ruleName.check, Field.passed.check, Field.reason.check] d
  return ⟨← Field.ruleName.of fields, ← Field.passed.of fields, ← Field.reason.of fields⟩

end RuleEvaluation

end Ensemble
