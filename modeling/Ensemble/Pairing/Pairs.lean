/-!
# Pairs of elements
-/

namespace Ensemble

/-- The pairs of elements of a list, the earlier element first, in lexicographic order of the
positions. -/
def pairsOf {α : Type} : List α → List (α × α)
  | [] => []
  | x :: xs => xs.map (x, ·) ++ pairsOf xs

@[simp] theorem pairsOf_nil {α : Type} : pairsOf ([] : List α) = [] := rfl

@[simp] theorem pairsOf_cons {α : Type} {x : α} {xs : List α} :
    pairsOf (x :: xs) = xs.map (x, ·) ++ pairsOf xs := rfl

end Ensemble
