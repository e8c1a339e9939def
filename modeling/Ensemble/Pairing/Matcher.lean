import Ensemble.Catalog.Basic
import Ensemble.Pairing.Matrix
import Ensemble.Pairing.Pairs
import Ensemble.Rules.Basic

/-!
# Matchers

A matcher compares items under a rule set that is bound to a schema.  Single pairs are validated
before they are compared.  For a whole catalog each item is validated once, and not at all if the
catalog already guarantees the schema.

Each comparison that succeeds reads the time once.  What the readings show is not known, so a source
of times may show anything at each of them.
-/

namespace Ensemble

/-- Where times come from: what each reading shows, counted from the start of a computation. -/
structure TimeSource where
  /-- In milliseconds. -/
  reading : Nat → UInt64
  /-- The source under inspection. -/
  description : String

/-- A clock that stands still. -/
structure Clock where
  millis : UInt64
  deriving DecidableEq, Repr

namespace Clock

/-- The clock under inspection. -/
def describe (clock : Clock) : String := "FixedClock(" ++ toString clock.millis.toNat ++ ")"

/-- The clock as a source of times. -/
def source (clock : Clock) : TimeSource := ⟨fun _ => clock.millis, clock.describe⟩

end Clock

/-- A rule set that is bound to a schema. -/
structure Matcher where
  rules : PairRules
  schema : Schema
  /-- Where the times of results come from. -/
  clock : TimeSource
  /-- Every rule can read the schema. -/
  bound : rules.bind schema = .ok ()

namespace Matcher

/-- Binds a rule set to a schema, with a clock that stands still. -/
def bind (rules : PairRules) (schema : Schema) (clock : Clock) : Except Error Matcher :=
  match h : rules.bind schema with
  | .ok () => .ok ⟨rules, schema, clock.source, h⟩
  | .error e => .error e

/-- The matcher with another source of times. -/
def withClock (matcher : Matcher) (clock : TimeSource) : Matcher := { matcher with clock := clock }

/-- The matcher under inspection. -/
def describe (matcher : Matcher) : String :=
  "PairwiseEngine \x7b ruleset: " ++ Text.quote matcher.rules.name ++ ", schema: "
    ++ Text.quote matcher.schema.name ++ ", clock: " ++ matcher.clock.description ++ " \x7d"

/-! ## Pairs -/

/-- Compares two items that satisfy the schema, after so many readings of the time. -/
def compare (matcher : Matcher) (readings : Nat) (a b : Item) : Except Error PairResult :=
  match matcher.rules.evaluate ⟨a, b⟩ with
  | .ok evaluations =>
    .ok {
      first := a.id
      second := b.id
      compatible := RuleEvaluation.allPassed evaluations
      evaluations
      timestamp := matcher.clock.reading readings }
  | .error e => .error (e.withPair a.id.text b.id.text)

/-- Whether two items that satisfy the schema pass every rule. -/
def passes (matcher : Matcher) (a b : Item) : Except Error Bool :=
  (matcher.rules.passes (⟨a, b⟩ : Pair)).mapError (·.withPair a.id.text b.id.text)

/-- That both items satisfy the schema. -/
def validatePair (matcher : Matcher) (a b : Item) : Except Error Unit := do
  matcher.schema.validate a
  matcher.schema.validate b

/-- Compares two items. -/
def evaluatePair (matcher : Matcher) (a b : Item) : Except Error PairResult := do
  matcher.validatePair a b
  matcher.compare 0 a b

/-- Whether two items pass every rule. -/
def isCompatible (matcher : Matcher) (a b : Item) : Except Error Bool := do
  matcher.validatePair a b
  matcher.passes a b

/-! ## Catalogs -/

/-- What is wrong with an item under the schema. -/
def fault? (matcher : Matcher) (item : Item) : Option Error :=
  match matcher.schema.validate item with
  | .ok () => none
  | .error e => some e

/-- The items of a catalog with what is wrong with each. -/
def validateCatalog (matcher : Matcher) (catalog : Catalog) : List (Item × Option Error) :=
  if catalog.schema == matcher.schema then catalog.items.map (·, none)
  else catalog.items.map fun item => (item, matcher.fault? item)

/-- Compares all pairs of items of a catalog.  An item that does not satisfy the schema is an
error. -/
def matrix (matcher : Matcher) (catalog : Catalog) : Except Error Matrix :=
  match (matcher.validateCatalog catalog).findSome? (·.2) with
  | some e => .error e
  | none => do
    -- The comparisons before the first error all succeed, so a pair's position counts the readings.
    let results ← (pairsOf catalog.items).zipIdx.mapM fun ((a, b), readings) =>
      matcher.compare readings a b
    return .ofResults catalog.name matcher.rules.name results

/-- Compares two items, unless something is wrong with one of them. -/
def compareChecked (matcher : Matcher) (readings : Nat) (a b : Item × Option Error) :
    PairFailure ⊕ PairResult :=
  let outcome : Except Error PairResult := match a.2, b.2 with
    | some e, _ => .error e
    | none, some e => .error e
    | none, none => matcher.compare readings a.1 b.1
  match outcome with
  | .ok result => .inr result
  | .error e => .inl ⟨a.1.id, b.1.id, e⟩

/-- Compares the pairs of a list one after the other.  A failure reads no time. -/
def compareEach (matcher : Matcher) (readings : Nat) :
    List ((Item × Option Error) × (Item × Option Error)) → List (PairFailure ⊕ PairResult)
  | [] => []
  | (a, b) :: rest =>
    match matcher.compareChecked readings a b with
    | .inr result => .inr result :: matcher.compareEach (readings + 1) rest
    | .inl failure => .inl failure :: matcher.compareEach readings rest

/-- Compares all pairs of items of a catalog, as far as possible. -/
def partialMatrix (matcher : Matcher) (catalog : Catalog) : PartialMatrix :=
  let outcomes := matcher.compareEach 0 (pairsOf (matcher.validateCatalog catalog))
  { matrix := .ofResults catalog.name matcher.rules.name (outcomes.filterMap (·.getRight?))
    failures := outcomes.filterMap (·.getLeft?) }

end Matcher

end Ensemble
