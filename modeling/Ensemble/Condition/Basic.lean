import Ensemble.Condition.Operator

/-!
# Conditions

A condition is a tree whose leaves are operators of one family.  `all` and `any` stop at the child
that decides them and take its outcome; a tree without such a child gives the reasons of all its
children.  An error in a leaf is the error of the tree, unless an earlier child has decided.
-/

namespace Ensemble

/-- A condition over operators of one family. -/
inductive Condition (Op : Type) where
  | leaf (op : Op)
  /-- Every child holds. -/
  | all (children : List (Condition Op))
  /-- Some child holds. -/
  | any (children : List (Condition Op))
  | not (child : Condition Op)

namespace Condition

variable {Op : Type}

/-! ## Equality -/

mutual

/-- Whether two trees have the same shape and the same operators. -/
def beq [BEq Op] : Condition Op → Condition Op → Bool
  | .leaf a, .leaf b => a == b
  | .all as, .all bs | .any as, .any bs => beqAll as bs
  | .not a, .not b => a.beq b
  | _, _ => false

/-- Whether the trees of two lists are the same. -/
def beqAll [BEq Op] : List (Condition Op) → List (Condition Op) → Bool
  | [], [] => true
  | a :: as, b :: bs => a.beq b && beqAll as bs
  | _, _ => false

end

instance [BEq Op] : BEq (Condition Op) := ⟨beq⟩

/-! ## The shape of a tree -/

mutual

/-- The operators at the leaves, from left to right. -/
def operators : Condition Op → List Op
  | .leaf op => [op]
  | .all children | .any children => operatorsOf children
  | .not child => child.operators

/-- The operators at the leaves of several trees. -/
def operatorsOf : List (Condition Op) → List Op
  | [] => []
  | c :: cs => c.operators ++ operatorsOf cs

end

mutual

/-- The number of leaves. -/
def leafCount : Condition Op → Nat
  | .leaf _ => 1
  | .all children | .any children => leafCountOf children
  | .not child => child.leafCount

/-- The number of leaves of several trees. -/
def leafCountOf : List (Condition Op) → Nat
  | [] => 0
  | c :: cs => c.leafCount + leafCountOf cs

end

mutual

/-- The number of nodes on the longest path from the root. -/
def depth : Condition Op → Nat
  | .leaf _ => 1
  | .all children | .any children => depthOf children + 1
  | .not child => child.depth + 1

/-- The greatest depth of several trees. -/
def depthOf : List (Condition Op) → Nat
  | [] => 0
  | c :: cs => max c.depth (depthOf cs)

end

/-! ## Operators at work -/

section

variable {Binding : Type} [Operator Op Binding]

/-- The attributes that the leaves read, in ascending order. -/
def fields (c : Condition Op) : List String :=
  (Dictionary.ofList ((c.operators.filterMap Operator.field?).map (·, ()))).keys

/-- That every leaf can read the schema. -/
def checkSchema (c : Condition Op) (schema : Schema) : Except Error Unit :=
  c.operators.forM (Operator.checkSchema · schema)

mutual

/-- The tree in words. -/
def display : Condition Op → String
  | .leaf op => Operator.display op
  | .all children => "all(" ++ ", ".intercalate (displayAll children) ++ ")"
  | .any children => "any(" ++ ", ".intercalate (displayAll children) ++ ")"
  | .not child => "not(" ++ child.display ++ ")"

/-- Several trees in words. -/
def displayAll : List (Condition Op) → List String
  | [] => []
  | c :: cs => c.display :: displayAll cs

end

/-- The joined reasons of children, or the reason for their absence. -/
def joinReasons (absence : String) (reasons : List String) : String :=
  if reasons.isEmpty then absence else "; ".intercalate reasons

mutual

/-- Evaluates a condition. -/
def evaluate (binding : Binding) : Condition Op → Except Error Outcome
  | .leaf op => (Operator.evaluate op binding).mapError (·.withOperator (Operator.name op))
  | .all children => do
    match ← evaluateUntil binding false children with
    | .inl decisive => return decisive
    | .inr reasons => return .pass (joinReasons "no conditions" reasons)
  | .any children => do
    match ← evaluateUntil binding true children with
    | .inl decisive => return decisive
    | .inr reasons => return .fail (joinReasons "no alternatives" reasons)
  | .not child => do
    let outcome ← evaluate binding child
    return ⟨!outcome.passed, "not (" ++ outcome.reason ++ ")"⟩

/-- The first outcome with a verdict; the reasons of all of them if there is none. -/
def evaluateUntil (binding : Binding) (verdict : Bool) :
    List (Condition Op) → Except Error (Outcome ⊕ List String)
  | [] => .ok (.inr [])
  | c :: cs => do
    let outcome ← evaluate binding c
    if outcome.passed = verdict then return .inl outcome
    match ← evaluateUntil binding verdict cs with
    | .inl decisive => return .inl decisive
    | .inr reasons => return .inr (outcome.reason :: reasons)

end

end

end Condition

end Ensemble
