import Ensemble.Document.Basic

/-!
# Nodes of condition documents

The nodes of a condition document are reached by steps: to a child of `all` or `any`, or to the body
of `not`.  The parameters of operators are not nodes.  Each step has a frame in the path of an error,
and different steps have different frames.
-/

namespace Ensemble

/-- A step from a node of a condition document to one of its children. -/
inductive Step where
  | all (index : Nat)
  | any (index : Nat)
  | not
  deriving DecidableEq

namespace Step

/-- The frame that stands for a step. -/
def frame : Step → String
  | .all index => "all" ++ "[" ++ toString index ++ "]"
  | .any index => "any" ++ "[" ++ toString index ++ "]"
  | .not => "not"

theorem toDigits_injective : Function.Injective (Nat.toDigits 10) := by
  intro m n h
  have hvalues := congrArg (Nat.ofDigitChars 10 · 0) h
  simpa only [Nat.ofDigitChars_toDigits (by decide : 1 < 10) (Nat.le_refl 10)] using hvalues

theorem frame_injective : Function.Injective frame := by
  intro s t h
  have hchars := congrArg String.toList h
  cases s <;> cases t <;> simp [frame] at hchars ⊢
  · exact toDigits_injective hchars
  · exact toDigits_injective hchars

/-- A node that is reached after one step more. -/
def before (step : Step) (node : List Step × Document) : List Step × Document :=
  (step :: node.1, node.2)

end Step

/-! ## Nodes in pre-order -/

namespace Document

mutual

/-- The nodes below a node, in pre-order, each with the steps that lead to it. -/
def inner : Document → List (List Step × Document)
  | .object [("all", .array bodies)] => innerOf .all 0 bodies
  | .object [("any", .array bodies)] => innerOf .any 0 bodies
  | .object [("not", body)] => (([], body) :: body.inner).map (Step.before .not)
  | _ => []

/-- The children of a node, counted from an index on, and the nodes below them. -/
def innerOf (step : Nat → Step) (index : Nat) : List Document → List (List Step × Document)
  | [] => []
  | body :: bodies =>
    (([], body) :: body.inner).map (Step.before (step index)) ++ innerOf step (index + 1) bodies

end

/-- The nodes of a condition document, in pre-order, each with the steps that lead to it. -/
def nodes (d : Document) : List (List Step × Document) := ([], d) :: d.inner

/-! ## Following steps -/

/-- The child to which a step leads. -/
def child? : Document → Step → Option Document
  | .object [("all", .array bodies)], .all index => bodies[index]?
  | .object [("any", .array bodies)], .any index => bodies[index]?
  | .object [("not", body)], .not => some body
  | _, _ => none

/-- The node to which steps lead. -/
def at? (d : Document) : List Step → Option Document
  | [] => some d
  | step :: steps => (d.child? step).bind (at? · steps)

/-- An operator node with the name of the operator. -/
def IsUseOf (d : Document) (name : String) : Prop :=
  ∃ body, d = .object [(name, body)] ∧ name ≠ "all" ∧ name ≠ "any" ∧ name ≠ "not"

theorem inner_use {name : String} {body : Document} (hall : name ≠ "all") (hany : name ≠ "any")
    (hnot : name ≠ "not") : (object [(name, body)]).inner = [] := by
  rw [inner]
  · rintro _ ⟨⟩
    exact hall rfl
  · rintro _ ⟨⟩
    exact hany rfl
  · rintro _ ⟨⟩
    exact hnot rfl

/-- Children whose steps lead to them have below them the nodes to which the further steps lead. -/
theorem at?_of_mem_innerOf {d : Document} {step : Nat → Step} {bodies : List Document} {index : Nat}
    (hstep : ∀ i, d.child? (step (index + i)) = bodies[i]?)
    (hbodies : ∀ body ∈ bodies, ∀ node ∈ body.nodes, body.at? node.1 = some node.2)
    {node : List Step × Document} (h : node ∈ innerOf step index bodies) :
    d.at? node.1 = some node.2 := by
  induction bodies generalizing index with
  | nil =>
    rw [innerOf] at h
    cases h
  | cons body bodies ih =>
    obtain ⟨hbody, hbodies⟩ := List.forall_mem_cons.1 hbodies
    rw [innerOf, List.mem_append, List.mem_map] at h
    rcases h with ⟨⟨steps, found⟩, hmem, rfl⟩ | h
    · have hchild : d.child? (step index) = some body := hstep 0
      rw [Step.before, at?, hchild]
      exact hbody _ hmem
    · refine ih (fun i => ?_) hbodies h
      rw [Nat.add_right_comm, Nat.add_assoc]
      exact hstep (i + 1)

/-- The nodes of a document are listed with the steps that lead to them, by induction on how they are
listed. -/
theorem at?_of_mem_nodes_all :
    (∀ d : Document, ∀ node ∈ d.nodes, d.at? node.1 = some node.2) ∧
    ∀ (_ : Nat → Step) (_ : Nat) (bodies : List Document),
      ∀ body ∈ bodies, ∀ node ∈ body.nodes, body.at? node.1 = some node.2 := by
  apply inner.mutual_induct
    (fun d => ∀ node ∈ d.nodes, d.at? node.1 = some node.2)
    (fun _ _ bodies => ∀ body ∈ bodies, ∀ node ∈ body.nodes, body.at? node.1 = some node.2)
  case case1 =>
    intro bodies ih
    refine List.forall_mem_cons.2 ⟨rfl, fun node h => ?_⟩
    rw [inner] at h
    exact at?_of_mem_innerOf (fun i => by rw [Nat.zero_add, child?]) ih h
  case case2 =>
    intro bodies ih
    refine List.forall_mem_cons.2 ⟨rfl, fun node h => ?_⟩
    rw [inner] at h
    exact at?_of_mem_innerOf (fun i => by rw [Nat.zero_add, child?]) ih h
  case case3 =>
    intro body ih
    refine List.forall_mem_cons.2 ⟨rfl, fun node h => ?_⟩
    rw [inner, List.mem_map] at h
    obtain ⟨found, hmem, rfl⟩ := h
    rw [Step.before, at?, child?]
    exact ih found hmem
  case case4 =>
    intro d hall hany hnot
    refine List.forall_mem_cons.2 ⟨rfl, fun node h => ?_⟩
    rw [inner] at h
    · cases h
    all_goals assumption
  case case5 =>
    intro _ _ body hbody
    cases hbody
  case case6 =>
    intro _ _ body bodies ih ihs
    exact List.forall_mem_cons.2 ⟨ih, ihs⟩

theorem at?_of_mem_nodes {d : Document} {node : List Step × Document} (h : node ∈ d.nodes) :
    d.at? node.1 = some node.2 := at?_of_mem_nodes_all.1 d node h

end Document

end Ensemble
