import Ensemble.Condition.Basic

/-!
# Reading conditions

A condition is written as an object with one key: `all` or `any` with an array of conditions, `not`
with a condition, or the name of an operator with its parameters.  An error carries the path of the
nodes that lead to the faulty one.
-/

namespace Ensemble.Condition

variable {Op Binding : Type} [Operator Op Binding]

/-- The leaf that an operator name and its parameters describe. -/
def leafOfDocument (name : String) (body : Document) : Except Error (Condition Op) :=
  match Params.ofDocument name body >>= Operator.ofParams Op with
  | .ok op => .ok (.leaf op)
  | .error e => .error (e.withOperator name)

/-- The error for a body that is not an array of conditions. -/
def notChildren (key : String) (body : Document) : Error :=
  Cause.malformedCondition ("`" ++ key ++ "` takes an array of conditions, got " ++ body.compact)

mutual

/-- The condition that a document describes. -/
def ofDocument : Document → Except Error (Condition Op)
  | .object [("all", .array bodies)] => return .all (← ofDocuments "all" 0 bodies)
  | .object [("any", .array bodies)] => return .any (← ofDocuments "any" 0 bodies)
  | .object [("all", body)] => .error (notChildren "all" body)
  | .object [("any", body)] => .error (notChildren "any" body)
  | .object [("not", body)] =>
    match ofDocument body with
    | .ok child => .ok (.not child)
    | .error e => .error (e.inFrame "not")
  | .object [(name, body)] => leafOfDocument name body
  | .object fields =>
    .error (Cause.malformedCondition
      ("a condition must have exactly one key, got " ++ toString fields.length))
  | d =>
    .error (Cause.malformedCondition ("a condition must be an object, got " ++ d.compact))

/-- The children of a node, counted from an index on. -/
def ofDocuments (key : String) (index : Nat) : List Document → Except Error (List (Condition Op))
  | [] => .ok []
  | body :: bodies =>
    match ofDocument body with
    | .ok child => return child :: (← ofDocuments key (index + 1) bodies)
    | .error e => .error (e.inFrame (key ++ "[" ++ toString index ++ "]"))

end

end Ensemble.Condition
