import Ensemble.Dictionary

/-!
# Layer conflicts

Two items that cover the same parts conflict when they would have to pass through each other: when
they are on one layer over some part, or when one is above the other on some parts and below it on
others.
-/

namespace Ensemble

/-- How the layers of two items relate. -/
inductive LayerVerdict where
  /-- No part is covered by both. -/
  | disjoint
  /-- One item is above the other on all shared parts. -/
  | ordered (shared : List String) (firstOuter : Bool)
  /-- Some shared parts are on one layer in both. -/
  | sameLayer (parts : List String)
  /-- Each item is above the other on some shared parts. -/
  | phasing (firstOuter firstInner : List String)
  deriving DecidableEq, Repr

namespace LayerVerdict

/-- Whether the items go together. -/
def isCompatible : LayerVerdict → Bool
  | .disjoint | .ordered .. => true
  | .sameLayer _ | .phasing .. => false

/-- The verdict in words, with the parts that decide it. -/
def reason : LayerVerdict → String
  | .disjoint => "no shared coverage"
  | .ordered shared firstOuter =>
    (if firstOuter then "first item is the outer" else "second item is the outer")
      ++ " layer consistently over " ++ ", ".intercalate shared
  | .sameLayer parts => "same-layer stacking on " ++ ", ".intercalate parts
  | .phasing firstOuter firstInner =>
    "phasing violation: first item is outer on " ++ ", ".intercalate firstOuter
      ++ " but inner on " ++ ", ".intercalate firstInner

/-- The parts that both cover, with the layers of the first and the second, in ascending order. -/
def sharedParts (a b : Dictionary Float) : List (String × Float × Float) :=
  a.entries.filterMap fun (part, x) => (b.get? part).map fun y => (part, x, y)

/-- The verdict on the layers of two items.  Layers that do not compare count as the same. -/
def ofLayers (a b : Dictionary Float) : LayerVerdict :=
  let shared := sharedParts a b
  let select (decides : Float → Float → Bool) : List String :=
    (shared.filter fun (_, x, y) => decides x y).map (·.1)
  let same := select fun x y => !(x > y) && !(x < y)
  let outer := select fun x y => x > y
  let inner := select fun x y => x < y
  if !same.isEmpty then .sameLayer same
  else if !outer.isEmpty && !inner.isEmpty then .phasing outer inner
  else if shared.isEmpty then .disjoint
  else .ordered (shared.map (·.1)) (!outer.isEmpty)

end LayerVerdict

end Ensemble
