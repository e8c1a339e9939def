/-!
# The greater and the lesser of two floats

A float that is not a number gives way to the other one, and of two floats that compare equal, such
as the two zeros, the second is taken.
-/

namespace Ensemble

/-- The greater of two floats. -/
def greaterFloat (x y : Float) : Float := if y.isNaN || y < x then x else y

/-- The lesser of two floats. -/
def lesserFloat (x y : Float) : Float := if y.isNaN || x < y then x else y

end Ensemble
