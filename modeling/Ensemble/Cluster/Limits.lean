import Ensemble.Rules.Basic

/-!
# Limits of a search

How many clusters a search reports, how large they may be, and when it is to stop.
-/

namespace Ensemble

/-- What a search is asked for; what is not given is taken from the rules. -/
structure SearchConfig where
  maxClusters : Option Nat := none
  minSize : Option Nat := none
  maxSize : Option Nat := none
  deriving DecidableEq, Repr, Inhabited

namespace SearchConfig

/-- The least size of a cluster where nothing else is asked for. -/
def defaultMinSize : Nat := 2

/-- The least and the greatest size for a catalog with `n` items: as asked for, else as the rules
say, else from two items to all. -/
def sizeBounds (config : SearchConfig) (rules : ClusterRules) (n : Nat) :
    Except Error (Nat × Nat) := do
  let min? := config.minSize <|> rules.minSize
  let max? := config.maxSize <|> rules.maxSize
  checkSizes min? max?
  return (max (min?.getD defaultMinSize) 1, max?.getD n)

end SearchConfig

/-- When a search is to stop: the answer to each poll, counted from zero. -/
structure Cancellation where
  answer : Nat → Bool

namespace Cancellation

/-- Never stops. -/
def never : Cancellation := ⟨fun _ => false⟩

/-- Stops at once. -/
def always : Cancellation := ⟨fun _ => true⟩

/-- Stops after so many polls. -/
def after (polls : Nat) : Cancellation := ⟨fun k => polls ≤ k⟩

end Cancellation

end Ensemble
