import Ensemble.Condition.Reader
import Ensemble.Proofs.Condition.Nodes
import Ensemble.Proofs.Condition.Resolving

/-!
# Where a condition is malformed

Reading a condition stops at the first node, in pre-order, that is malformed for itself.  The error
is the one that this node raises when it is read alone; on its way out it only collects one frame
for each node that it passes.  As different steps have different frames, the frames of an error
lead back to the node.
-/

namespace Ensemble

/-! ## Frames -/

namespace Error

/-- The frames of the path, if there is a place. -/
def frames (e : Error) : List String := (e.place.map (·.path)).getD []

/-- The operator of the place, if there is one. -/
def operator? (e : Error) : Option String := e.place.bind (·.operator)

/-- The rule of the place, if there is one. -/
def rule? (e : Error) : Option String := e.place.bind (·.rule)

/-- Puts several frames in front of the path. -/
def inFrames (e : Error) (frames : List String) : Error := frames.foldr (fun f e => e.inFrame f) e

variable (e : Error)

theorem frames_inFrame (f : String) : (e.inFrame f).frames = f :: e.frames := by
  obtain ⟨_, _ | place⟩ := e <;> rfl

theorem operator?_inFrame (f : String) : (e.inFrame f).operator? = e.operator? := by
  obtain ⟨_, _ | place⟩ := e <;> rfl

theorem rule?_inFrame (f : String) : (e.inFrame f).rule? = e.rule? := by
  obtain ⟨_, _ | place⟩ := e <;> rfl

/-- A rule is recorded where none is. -/
theorem rule?_withRule {rule : String} (h : e.rule? = none) :
    (e.withRule rule).rule? = some rule := by
  obtain ⟨_, _ | place⟩ := e
  · rfl
  · have hnone : place.rule = none := h
    simp [withRule, atPlace, rule?, hnone]

variable (fs : List String)

theorem cause_inFrames : (e.inFrames fs).cause = e.cause := by
  induction fs with
  | nil => rfl
  | cons f fs ih => exact ih

theorem frames_inFrames : (e.inFrames fs).frames = fs ++ e.frames := by
  induction fs with
  | nil => rfl
  | cons f fs ih => rw [List.cons_append, ← ih, ← frames_inFrame, inFrames, inFrames, List.foldr_cons]

theorem operator?_inFrames : (e.inFrames fs).operator? = e.operator? := by
  induction fs with
  | nil => rfl
  | cons f fs ih => rw [← ih, inFrames, inFrames, List.foldr_cons, operator?_inFrame]

theorem rule?_inFrames : (e.inFrames fs).rule? = e.rule? := by
  induction fs with
  | nil => rfl
  | cons f fs ih => rw [← ih, inFrames, inFrames, List.foldr_cons, rule?_inFrame]

end Error

namespace Condition

variable {Op Binding : Type} [Operator Op Binding]

/-! ## Malformed nodes -/

/-- The errors that a node raises on its own, whatever its children are. -/
inductive Raises (Op : Type) {Binding : Type} [Operator Op Binding] : Document → Error → Prop where
  | notObject {d : Document} (h : ∀ fields, d ≠ .object fields) :
    Raises Op d (Cause.malformedCondition ("a condition must be an object, got " ++ d.compact))
  | keys {fields : Entries Document} (h : fields.length ≠ 1) :
    Raises Op (.object fields) (Cause.malformedCondition
      ("a condition must have exactly one key, got " ++ toString fields.length))
  | group {key : String} {body : Document} (hkey : key = "all" ∨ key = "any")
    (h : ∀ bodies, body ≠ .array bodies) : Raises Op (.object [(key, body)]) (notChildren key body)
  | use {name : String} {body : Document} {e : Error}
    (hname : name ≠ "all" ∧ name ≠ "any" ∧ name ≠ "not")
    (h : Params.ofDocument name body >>= Operator.ofParams Op = .error e) :
    Raises Op (.object [(name, body)]) (e.withOperator name)

/-- A node is malformed for itself. -/
def Malformed (Op : Type) {Binding : Type} [Operator Op Binding] (d : Document) : Prop :=
  ∃ e, Raises Op d e

/-- An error is the one of the first malformed node of a list, with the frames of the steps to this
node in front. -/
def FirstFault (Op : Type) {Binding : Type} [Operator Op Binding]
    (nodes : List (List Step × Document)) (e : Error) : Prop :=
  ∃ before path node after own, nodes = before ++ (path, node) :: after ∧
    (∀ p ∈ before, ¬ Malformed Op p.2) ∧ Raises Op node own ∧
    e = own.inFrames (path.map Step.frame)

/-- The outcome of reading some nodes: the error of the first malformed one, or there is none. -/
def Explains {α : Type} (Op : Type) {Binding : Type} [Operator Op Binding]
    (nodes : List (List Step × Document)) : Except Error α → Prop
  | .ok _ => ∀ p ∈ nodes, ¬ Malformed Op p.2
  | .error e => FirstFault Op nodes e

section

variable {d body : Document} {bodies : List Document} {name : String} {e : Error} {step : Step}
  {nodes rest : List (List Step × Document)} {α β : Type} {x : Except Error α}

theorem ofDocument_of_raises (h : Raises Op d e) :
    (ofDocument d : Except Error (Condition Op)) = .error e := by
  cases h with
  | notObject h =>
    rw [ofDocument]
    all_goals
      intros
      exact h _ ‹_›
  | keys h =>
    rw [ofDocument]
    all_goals
      intros
      subst_vars
      exact h rfl
  | group hkey h =>
    rcases hkey with rfl | rfl
    all_goals
      rw [ofDocument]
      exact h
  | use hname h =>
    rw [ofDocument, leafOfDocument, h]
    all_goals
      intros
      simp_all

theorem malformed_object_iff {key : String} :
    Malformed Op (.object [(key, body)]) ↔
      (key = "all" ∨ key = "any") ∧ (∀ bodies, body ≠ .array bodies) ∨
      (key ≠ "all" ∧ key ≠ "any" ∧ key ≠ "not") ∧
        ∃ e, Params.ofDocument key body >>= Operator.ofParams Op = .error e := by
  constructor
  · rintro ⟨_, h⟩
    cases h with
    | notObject h => exact absurd rfl (h _)
    | keys h => exact absurd rfl h
    | group hkey h => exact .inl ⟨hkey, h⟩
    | use hname h => exact .inr ⟨hname, _, h⟩
  · rintro (⟨hkey, h⟩ | ⟨hname, e, h⟩)
    · exact ⟨_, .group hkey h⟩
    · exact ⟨_, .use hname h⟩

theorem not_malformed_all : ¬ Malformed Op (.object [("all", .array bodies)]) := by
  simp [malformed_object_iff]

theorem not_malformed_any : ¬ Malformed Op (.object [("any", .array bodies)]) := by
  simp [malformed_object_iff]

theorem not_malformed_not : ¬ Malformed Op (.object [("not", body)]) := by
  simp [malformed_object_iff]

theorem not_malformed_use {op : Op} (hall : name ≠ "all") (hany : name ≠ "any")
    (h : Params.ofDocument name body >>= Operator.ofParams Op = .ok op) :
    ¬ Malformed Op (.object [(name, body)]) := by
  simp [malformed_object_iff, hall, hany, h]

/-! ## First faults -/

theorem Raises.firstFault (h : Raises Op d e) : FirstFault Op (([], d) :: rest) e :=
  ⟨[], [], d, rest, e, rfl, by simp, h, rfl⟩

theorem FirstFault.append_left {front : List (List Step × Document)}
    (hfront : ∀ p ∈ front, ¬ Malformed Op p.2) (h : FirstFault Op nodes e) :
    FirstFault Op (front ++ nodes) e := by
  obtain ⟨before, path, node, after, own, rfl, hbefore, hraises, he⟩ := h
  refine ⟨front ++ before, path, node, after, own, by simp, ?_, hraises, he⟩
  exact List.forall_mem_append.2 ⟨hfront, hbefore⟩

theorem FirstFault.append_right (h : FirstFault Op nodes e) :
    FirstFault Op (nodes ++ rest) e := by
  obtain ⟨before, path, node, after, own, rfl, hfirst⟩ := h
  exact ⟨before, path, node, after ++ rest, own, by simp, hfirst⟩

theorem FirstFault.before (h : FirstFault Op nodes e) (step : Step) :
    FirstFault Op (nodes.map step.before) (e.inFrame step.frame) := by
  obtain ⟨before, path, node, after, own, rfl, hbefore, hraises, rfl⟩ := h
  refine ⟨before.map step.before, step :: path, node, after.map step.before, own, ?_, ?_, hraises,
    rfl⟩
  · simp [Step.before]
  · exact List.forall_mem_map.2 hbefore

theorem Explains.bind_pure (h : Explains Op nodes x) (f : α → β) :
    Explains Op nodes (x >>= fun a => pure (f a)) := by
  cases x with
  | error e => exact h
  | ok a => exact h

theorem Explains.before (h : Explains Op nodes x) (step : Step) :
    Explains Op (nodes.map step.before) (x.mapError (·.inFrame step.frame)) := by
  cases x with
  | error e => exact FirstFault.before h step
  | ok a => exact List.forall_mem_map.2 h

theorem Explains.append (h : Explains Op rest x) (hfront : ∀ p ∈ nodes, ¬ Malformed Op p.2) :
    Explains Op (nodes ++ rest) x := by
  cases x with
  | error e => exact FirstFault.append_left hfront h
  | ok a => exact List.forall_mem_append.2 ⟨hfront, h⟩

theorem Explains.below (hd : ¬ Malformed Op d) (h : Explains Op nodes x) :
    Explains Op (([], d) :: nodes) x := by
  have hfront : ∀ p ∈ [(([] : List Step), d)], ¬ Malformed Op p.2 := by simpa using hd
  exact h.append hfront

/-- The outcome of reading a document explains its nodes.  Steps of any kind may lead to the children
of a node, as long as their frames are the ones that reading puts in front. -/
theorem explains_of_ofDocument_all :
    (∀ d : Document, Explains Op d.nodes (ofDocument d : Except Error (Condition Op))) ∧
    ∀ (key : String) (index : Nat) (bodies : List Document) (step : Nat → Step),
      (∀ i, (step i).frame = key ++ "[" ++ toString i ++ "]") →
      Explains Op (Document.innerOf step index bodies)
        (ofDocuments key index bodies : Except Error (List (Condition Op))) := by
  apply @ofDocument.mutual_induct Op Binding _
    (fun d => Explains Op d.nodes (ofDocument d : Except Error (Condition Op)))
    (fun key index bodies => ∀ step : Nat → Step,
      (∀ i, (step i).frame = key ++ "[" ++ toString i ++ "]") →
      Explains Op (Document.innerOf step index bodies)
        (ofDocuments key index bodies : Except Error (List (Condition Op))))
  case case1 =>
    intro bodies ih
    rw [Document.nodes, Document.inner, ofDocument]
    exact ((ih .all fun _ => rfl).bind_pure Condition.all).below not_malformed_all
  case case2 =>
    intro bodies ih
    rw [Document.nodes, Document.inner, ofDocument]
    exact ((ih .any fun _ => rfl).bind_pure Condition.any).below not_malformed_any
  case case3 =>
    intro body hbody
    rw [ofDocument]
    · exact (Raises.group (.inl rfl) hbody).firstFault
    · exact hbody
  case case4 =>
    intro body hbody
    rw [ofDocument]
    · exact (Raises.group (.inr rfl) hbody).firstFault
    · exact hbody
  case case5 =>
    intro body child hchild ih
    rw [Document.nodes, Document.inner, ofDocument]
    rw [hchild] at ih ⊢
    exact (ih.before .not).below not_malformed_not
  case case6 =>
    intro body e he ih
    rw [Document.nodes, Document.inner, ofDocument]
    rw [he] at ih ⊢
    exact (ih.before .not).below not_malformed_not
  case case7 =>
    intro name body hallArray hanyArray hall hany hnot
    rw [ofDocument, leafOfDocument]
    · split
      · rename_i op hop
        rw [Document.nodes, Document.inner_use hall hany hnot]
        simpa [Explains] using not_malformed_use hall hany hop
      · rename_i e he
        exact (Raises.use ⟨hall, hany, hnot⟩ he).firstFault
    all_goals assumption
  case case8 =>
    intro fields hallArray hanyArray hall hany hnot hkey
    rw [ofDocument]
    · refine (Raises.keys fun hlength => ?_).firstFault
      obtain ⟨⟨key, body⟩, rfl⟩ := List.length_eq_one_iff.1 hlength
      exact hkey key body rfl
    all_goals assumption
  case case9 =>
    intro d hallArray hanyArray hall hany hnot hkey hobject
    rw [ofDocument]
    · exact (Raises.notObject hobject).firstFault
    all_goals assumption
  case case10 =>
    intro key index step _
    rw [Document.innerOf, ofDocuments]
    simp [Explains]
  case case11 =>
    -- No node of this child is malformed, so a fault of a later child is the first one.
    intro key index body bodies child hchild ih ihs step hstep
    rw [Document.innerOf, ofDocuments]
    rw [hchild] at ih ⊢
    exact ((ihs step hstep).bind_pure (child :: ·)).append (ih.before (step index))
  case case12 =>
    -- The later children are not read; their nodes come after the fault.
    intro key index body bodies e he ih step hstep
    rw [Document.innerOf, ofDocuments]
    rw [he] at ih ⊢
    rw [← hstep]
    exact (ih.before (step index)).append_right

theorem explains_of_ofDocument (d : Document) :
    Explains Op d.nodes (ofDocument d : Except Error (Condition Op)) :=
  explains_of_ofDocument_all.1 d

end

/-! ## Faults -/

variable {d : Document} {e own : Error}

/-- The error that a node raises has no frames, and an operator if the node uses one. -/
theorem Raises.place [Operator.Unplacing Op] (h : Raises Op d own) :
    own.frames = [] ∧ ∀ name, own.operator? = some name ↔ d.IsUseOf name := by
  cases h with
  | notObject h =>
    refine ⟨rfl, fun name => ⟨nofun, ?_⟩⟩
    rintro ⟨body, hd, -⟩
    exact absurd hd (h _)
  | keys h =>
    refine ⟨rfl, fun name => ⟨nofun, ?_⟩⟩
    rintro ⟨body, hd, -⟩
    exact absurd (congrArg List.length (Document.object.inj hd)) h
  | group hkey h =>
    refine ⟨rfl, fun name => ⟨nofun, ?_⟩⟩
    rintro ⟨body, hd, hall, hany, -⟩
    obtain ⟨rfl, -⟩ := by simpa using hd
    exact absurd hkey (by simp [hall, hany])
  | use hname h =>
    -- The error comes without a place, so nothing keeps the name from being recorded.
    rename_i name body e
    obtain ⟨cause, place⟩ := e
    obtain rfl : place = none := Operator.unplaced_ofParams name body _ h
    refine ⟨rfl, fun name' => ⟨fun heq => ?_, ?_⟩⟩
    · obtain rfl := Option.some.inj heq
      exact ⟨body, rfl, hname⟩
    · rintro ⟨body', hd, -⟩
      obtain ⟨rfl, -⟩ := by simpa using hd
      rfl

/-- A node knows nothing of the rule that it belongs to. -/
theorem Raises.rule?_eq_none [Operator.Unplacing Op] (h : Raises Op d own) : own.rule? = none := by
  cases h with
  | notObject => rfl
  | keys => rfl
  | group => rfl
  | use hname h =>
    rename_i name body e
    obtain ⟨cause, place⟩ := e
    obtain rfl : place = none := Operator.unplaced_ofParams name body _ h
    rfl

/-- The error of reading a condition names no rule yet. -/
theorem rule?_eq_none_of_ofDocument [Operator.Unplacing Op]
    (h : (ofDocument d : Except Error (Condition Op)) = .error e) : e.rule? = none := by
  have hexplains : Explains Op d.nodes (ofDocument d) := explains_of_ofDocument d
  rw [h] at hexplains
  obtain ⟨before, path, node, after, own, -, -, hraises, rfl⟩ := hexplains
  rw [Error.rule?_inFrames, hraises.rule?_eq_none]

/-- The node that makes an error of a document: the frames of the error lead to it and to no other
node, it is malformed but none before it is, and it raises the error when it is read alone, with the
name of the operator if it uses one. -/
structure Fault (Op : Type) {Binding : Type} [Operator Op Binding] (d : Document) (e : Error) where
  path : List Step
  node : Document
  before : List (List Step × Document)
  after : List (List Step × Document)
  nodes : d.nodes = before ++ (path, node) :: after
  leads : d.at? path = some node
  frames : ∀ steps : List Step, steps.map Step.frame = e.frames ↔ steps = path
  malformed : Malformed Op node
  first : ∀ p ∈ before, ¬ Malformed Op p.2
  cause : ∃ own, (ofDocument node : Except Error (Condition Op)) = .error own ∧
    own.cause = e.cause
  operator : ∀ name, e.operator? = some name ↔ node.IsUseOf name

theorem nonempty_fault [Operator.Unplacing Op]
    (h : (ofDocument d : Except Error (Condition Op)) = .error e) : Nonempty (Fault Op d e) := by
  have hexplains : Explains Op d.nodes (ofDocument d) := explains_of_ofDocument d
  rw [h] at hexplains
  obtain ⟨before, path, node, after, own, hnodes, hbefore, hraises, rfl⟩ := hexplains
  obtain ⟨hframes, hoperator⟩ := hraises.place
  have hmem : (path, node) ∈ d.nodes := by simp [hnodes]
  exact ⟨{
    path, node, before, after
    nodes := hnodes
    leads := Document.at?_of_mem_nodes hmem
    frames := fun steps => by
      rw [Error.frames_inFrames, hframes, List.append_nil]
      exact (List.map_injective_iff.2 Step.frame_injective).eq_iff
    malformed := ⟨own, hraises⟩
    first := hbefore
    cause := ⟨own, ofDocument_of_raises hraises, (own.cause_inFrames _).symm⟩
    operator := fun name => by rw [Error.operator?_inFrames, hoperator] }⟩

/-- In either family, an error of reading a condition comes from the first malformed node of the
document, and its frames lead to this node. -/
theorem ofDocument_locates (d : Document) (e : Error) :
    ((ofDocument d : Except Error (Condition PairOperator)) = .error e →
      Nonempty (Fault PairOperator d e)) ∧
    ((ofDocument d : Except Error (Condition SetOperator)) = .error e →
      Nonempty (Fault SetOperator d e)) :=
  ⟨nonempty_fault, nonempty_fault⟩

/-- An unknown operator below a negation, after a node without a fault. -/
theorem ofDocument_locates_teleport :
    ∃ e d, d = Document.object [("all", .array [
        .object [("equals", .object [("field", .text "category")])],
        .object [("not", .object [("any", .array [.object [("teleport", .object [])]])])]])] ∧
      (ofDocument d : Except Error (Condition PairOperator)) = .error e ∧
      Nonempty (Fault PairOperator d e) := by
  obtain ⟨e, he⟩ : ∃ e, (ofDocument (.object [("all", .array [
        .object [("equals", .object [("field", .text "category")])],
        .object [("not", .object [("any", .array [.object [("teleport", .object [])]])])]])])
      : Except Error (Condition PairOperator)) = .error e := exists_error_iff.2 (by decide +kernel)
  exact ⟨e, _, rfl, he, (ofDocument_locates _ e).1 he⟩

end Condition

end Ensemble
