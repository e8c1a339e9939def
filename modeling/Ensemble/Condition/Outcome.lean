import Ensemble.Document.Record

/-!
# Outcomes

The result of an operator or a condition: whether it holds, and why.
-/

namespace Ensemble

/-- Whether a condition holds, with the reason. -/
structure Outcome where
  passed : Bool
  reason : String
  deriving DecidableEq, Repr

namespace Outcome

/-- The outcome of a condition that holds. -/
def pass (reason : String) : Outcome := ⟨true, reason⟩

/-- The outcome of a condition that does not hold. -/
def fail (reason : String) : Outcome := ⟨false, reason⟩

/-- The document of an outcome. -/
def toDocument (outcome : Outcome) : Document :=
  Document.ofFields [("passed", .bool outcome.passed), ("reason", .text outcome.reason)]

namespace Field

/-- Whether it holds. -/
def passed : Field Bool := .required "passed" Document.toBool

/-- Why. -/
def reason : Field String := .required "reason" Document.toText

end Field

/-- The outcome that a document holds. -/
def ofDocument (d : Document) : Except Fault Outcome := do
  let fields ← Record.read .ignored [Field.passed.check, Field.reason.check] d
  return ⟨← Field.passed.of fields, ← Field.reason.of fields⟩

end Outcome

end Ensemble
