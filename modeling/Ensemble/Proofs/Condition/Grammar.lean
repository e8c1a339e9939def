import Ensemble.Condition.Reader
import Ensemble.Proofs.Condition.Parameters

/-!
# The grammar of conditions

A document is a condition of a family if it is an object with one key: `all` or `any` with an array
of conditions, `not` with a condition, or an operator of the family with an object that keeps to the
table of its parameters.  Exactly these documents are read, and the tree that is read mirrors the
document node for node.
-/

namespace Ensemble

/-- A document that the grammar of a family allows. -/
inductive Grammatical (family : Family) : Document → Prop where
  | all {bodies : List Document} (h : ∀ d ∈ bodies, Grammatical family d) :
    Grammatical family (.object [("all", .array bodies)])
  | any {bodies : List Document} (h : ∀ d ∈ bodies, Grammatical family d) :
    Grammatical family (.object [("any", .array bodies)])
  | not {body : Document} (h : Grammatical family body) :
    Grammatical family (.object [("not", body)])
  | leaf {name : String} {fields : Entries Document} {arguments : List Argument}
    (hname : name ∈ family.operatorNames) (h : Operator.Keeps name fields arguments) :
    Grammatical family (.object [(name, .object fields)])

namespace Document

mutual

/-- The uses of operators in a condition document, in the order in which they are written. -/
def leaves : Document → List (String × Entries Document)
  | .object [("all", .array bodies)] | .object [("any", .array bodies)] => leavesOf bodies
  | .object [("not", body)] => body.leaves
  | .object [(name, .object fields)] => [(name, fields)]
  | _ => []

/-- The uses of operators in several condition documents. -/
def leavesOf : List Document → List (String × Entries Document)
  | [] => []
  | d :: ds => d.leaves ++ leavesOf ds

end

end Document

namespace Condition

variable {Op Binding : Type} [Operator Op Binding] [Operator.Tabled Op]

mutual

/-- A tree has the nodes of a document, with an operator for each use of one. -/
def Mirrors : Condition Op → Document → Prop
  | .leaf op, d => ∃ name fields, d = .object [(name, .object fields)] ∧ Operator.name op = name ∧
      Operator.Keeps name fields (Operator.Tabled.arguments op)
  | .all children, d => ∃ bodies, d = .object [("all", .array bodies)] ∧ MirrorsAll children bodies
  | .any children, d => ∃ bodies, d = .object [("any", .array bodies)] ∧ MirrorsAll children bodies
  | .not child, d => ∃ body, d = .object [("not", body)] ∧ child.Mirrors body

/-- The trees of a list have the nodes of the documents of another, one by one. -/
def MirrorsAll : List (Condition Op) → List Document → Prop
  | [], [] => True
  | c :: cs, d :: ds => c.Mirrors d ∧ MirrorsAll cs ds
  | _, _ => False

end

variable {c : Condition Op} {name : String} {d body : Document} {bodies : List Document}

/-! ## Trees that mirror a document -/

/-- The names of operators are none of the words for the other nodes. -/
theorem name_ne_word (op : Op) :
    Operator.name op ≠ "all" ∧ Operator.name op ≠ "any" ∧ Operator.name op ≠ "not" := by
  have hmem := Operator.Tabled.name_mem op
  refine ⟨?_, ?_, ?_⟩
  all_goals
    intro hword
    rw [hword] at hmem
    cases hfamily : Operator.family Op <;> simp [hfamily, Family.operatorNames] at hmem

theorem mirrors_all_iff :
    c.Mirrors (.object [("all", body)]) ↔
      ∃ bodies cs, body = .array bodies ∧ c = .all cs ∧ MirrorsAll cs bodies := by
  cases c with
  | leaf op => simp [Mirrors, (name_ne_word op).1.symm]
  | all children => simp [Mirrors]
  | any children => simp [Mirrors]
  | not child => simp [Mirrors]

theorem mirrors_any_iff :
    c.Mirrors (.object [("any", body)]) ↔
      ∃ bodies cs, body = .array bodies ∧ c = .any cs ∧ MirrorsAll cs bodies := by
  cases c with
  | leaf op => simp [Mirrors, (name_ne_word op).2.1.symm]
  | all children => simp [Mirrors]
  | any children => simp [Mirrors]
  | not child => simp [Mirrors]

theorem mirrors_not_iff :
    c.Mirrors (.object [("not", body)]) ↔ ∃ child, c = .not child ∧ child.Mirrors body := by
  cases c with
  | leaf op => simp [Mirrors, (name_ne_word op).2.2.symm]
  | all children => simp [Mirrors]
  | any children => simp [Mirrors]
  | not child => simp [Mirrors]

theorem mirrors_leaf_iff (hall : name ≠ "all") (hany : name ≠ "any") (hnot : name ≠ "not") :
    c.Mirrors (.object [(name, body)]) ↔
      ∃ op fields, c = .leaf op ∧ body = .object fields ∧ Operator.name op = name ∧
        Operator.Keeps name fields (Operator.Tabled.arguments op) := by
  cases c with
  | leaf op =>
    simp only [Mirrors, Document.object.injEq, List.cons.injEq, Prod.mk.injEq, and_true, leaf.injEq,
      exists_and_left, exists_eq_left', and_assoc]
  | all children => simp [Mirrors, hall]
  | any children => simp [Mirrors, hany]
  | not child => simp [Mirrors, hnot]

theorem exists_key_of_mirrors (h : c.Mirrors d) : ∃ key body, d = .object [(key, body)] := by
  cases c with
  | leaf op =>
    obtain ⟨name, fields, rfl, -⟩ := h
    exact ⟨name, .object fields, rfl⟩
  | all children =>
    obtain ⟨bodies, rfl, -⟩ := h
    exact ⟨"all", .array bodies, rfl⟩
  | any children =>
    obtain ⟨bodies, rfl, -⟩ := h
    exact ⟨"any", .array bodies, rfl⟩
  | not child =>
    obtain ⟨body, rfl, -⟩ := h
    exact ⟨"not", body, rfl⟩

/-! ## Reading -/

theorem leafOfDocument_eq_ok_iff :
    leafOfDocument name body = .ok c ↔
      ∃ op fields, c = .leaf op ∧ body = .object fields ∧ Operator.name op = name ∧
        Operator.Keeps name fields (Operator.Tabled.arguments op) := by
  have hparams : ∀ op : Op, Params.ofDocument name body >>= Operator.ofParams Op = .ok op ↔
      ∃ fields, body = .object fields ∧ Operator.name op = name ∧
        Operator.Keeps name fields (Operator.Tabled.arguments op) := by
    intro op
    unfold Params.ofDocument
    split
    · rw [ok_bind, Operator.ofParams_eq_ok_iff]
      simp
    · rename_i hobject
      simp only [error_bind, reduceCtorEq, false_iff]
      rintro ⟨fields, rfl, -⟩
      exact hobject fields rfl
  simp only [exists_and_left, ← hparams]
  unfold leafOfDocument
  split
  · rename_i op hop
    simp [hop, eq_comm]
  · rename_i e he
    simp [he]

/-- A document is read as a tree if and only if the tree mirrors it. -/
theorem ofDocument_eq_ok_iff_all :
    (∀ (d : Document) (c : Condition Op), ofDocument d = .ok c ↔ c.Mirrors d) ∧
    ∀ (key : String) (index : Nat) (ds : List Document) (cs : List (Condition Op)),
      ofDocuments key index ds = .ok cs ↔ MirrorsAll cs ds := by
  apply @ofDocument.mutual_induct Op Binding _
    (fun d => ∀ c, ofDocument d = .ok c ↔ Mirrors c d)
    (fun key index ds => ∀ cs, ofDocuments key index ds = .ok cs ↔ MirrorsAll cs ds)
  case case1 =>
    intro bodies ih c
    rw [ofDocument, mirrors_all_iff]
    simp [bind_eq_ok_iff, ih, pure_eq_ok, eq_comm (b := c), and_comm]
  case case2 =>
    intro bodies ih c
    rw [ofDocument, mirrors_any_iff]
    simp [bind_eq_ok_iff, ih, pure_eq_ok, eq_comm (b := c), and_comm]
  case case3 =>
    intro body hbody c
    rw [ofDocument, mirrors_all_iff]
    · simp only [reduceCtorEq, false_iff]
      rintro ⟨bodies, cs, rfl, -⟩
      exact hbody bodies rfl
    · exact hbody
  case case4 =>
    intro body hbody c
    rw [ofDocument, mirrors_any_iff]
    · simp only [reduceCtorEq, false_iff]
      rintro ⟨bodies, cs, rfl, -⟩
      exact hbody bodies rfl
    · exact hbody
  case case5 =>
    intro body child hchild ih c
    rw [ofDocument, mirrors_not_iff, hchild]
    simp [← ih, hchild, eq_comm (b := c)]
  case case6 =>
    intro body e he ih c
    rw [ofDocument, mirrors_not_iff, he]
    simp [← ih, he]
  case case7 =>
    intro name body hallArray hanyArray hall hany hnot c
    rw [ofDocument, leafOfDocument_eq_ok_iff, mirrors_leaf_iff hall hany hnot]
    all_goals assumption
  case case8 =>
    intro fields hallArray hanyArray hall hany hnot hkey c
    rw [ofDocument]
    · simp only [reduceCtorEq, false_iff]
      intro h
      obtain ⟨key, body, hd⟩ := exists_key_of_mirrors h
      exact hkey key body (Document.object.inj hd)
    all_goals assumption
  case case9 =>
    intro d hallArray hanyArray hall hany hnot hkey hobject c
    rw [ofDocument]
    · simp only [reduceCtorEq, false_iff]
      intro h
      obtain ⟨key, body, hd⟩ := exists_key_of_mirrors h
      exact hkey key body hd
    all_goals assumption
  case case10 =>
    intro key index cs
    rw [ofDocuments]
    cases cs <;> simp [MirrorsAll]
  case case11 =>
    intro key index body bodies child hchild ih ihs cs
    rw [ofDocuments, hchild]
    cases cs <;> simp [MirrorsAll, bind_eq_ok_iff, pure_eq_ok, ← ih, ← ihs, hchild, and_comm]
  case case12 =>
    intro key index body bodies e he ih cs
    rw [ofDocuments, he]
    cases cs <;> simp [MirrorsAll, ← ih, he]

theorem ofDocument_eq_ok_iff : ofDocument d = .ok c ↔ c.Mirrors d := ofDocument_eq_ok_iff_all.1 d c

/-! ## The documents that are read -/

mutual

theorem Mirrors.grammatical : (c : Condition Op) → {d : Document} → c.Mirrors d →
    Grammatical (Operator.family Op) d
  | .leaf op, d, h => by
    obtain ⟨name, fields, rfl, rfl, hkeeps⟩ := h
    exact .leaf (Operator.Tabled.name_mem op) hkeeps
  | .all children, d, h => by
    obtain ⟨bodies, rfl, hall⟩ := h
    exact .all (MirrorsAll.grammatical children hall)
  | .any children, d, h => by
    obtain ⟨bodies, rfl, hall⟩ := h
    exact .any (MirrorsAll.grammatical children hall)
  | .not child, d, h => by
    obtain ⟨body, rfl, hbody⟩ := h
    exact .not (Mirrors.grammatical child hbody)

theorem MirrorsAll.grammatical : (cs : List (Condition Op)) → {ds : List Document} →
    MirrorsAll cs ds → ∀ d ∈ ds, Grammatical (Operator.family Op) d
  | [], [], _ => by simp
  | c :: cs, d :: ds, h => by
    rw [MirrorsAll] at h
    exact List.forall_mem_cons.2
      ⟨Mirrors.grammatical c h.1, MirrorsAll.grammatical cs h.2⟩

end

theorem exists_mirrorsAll {ds : List Document} (h : ∀ d ∈ ds, ∃ c : Condition Op, c.Mirrors d) :
    ∃ cs : List (Condition Op), MirrorsAll cs ds := by
  induction ds with
  | nil => exact ⟨[], trivial⟩
  | cons d ds ih =>
    obtain ⟨⟨c, hc⟩, hds⟩ := List.forall_mem_cons.1 h
    obtain ⟨cs, hcs⟩ := ih hds
    exact ⟨c :: cs, by rw [MirrorsAll]; exact ⟨hc, hcs⟩⟩

theorem exists_mirrors (h : Grammatical (Operator.family Op) d) :
    ∃ c : Condition Op, c.Mirrors d := by
  induction h with
  | all _ ih =>
    obtain ⟨cs, hcs⟩ := exists_mirrorsAll ih
    exact ⟨.all cs, mirrors_all_iff.2 ⟨_, cs, rfl, rfl, hcs⟩⟩
  | any _ ih =>
    obtain ⟨cs, hcs⟩ := exists_mirrorsAll ih
    exact ⟨.any cs, mirrors_any_iff.2 ⟨_, cs, rfl, rfl, hcs⟩⟩
  | not _ ih =>
    obtain ⟨child, hchild⟩ := ih
    exact ⟨.not child, mirrors_not_iff.2 ⟨child, rfl, hchild⟩⟩
  | leaf hname hkeeps =>
    obtain ⟨op, rfl, rfl⟩ := Operator.Tabled.exists_of_keeps hname hkeeps
    exact ⟨.leaf op, _, _, rfl, rfl, hkeeps⟩

/-! ## Leaves -/

mutual

theorem leafCount_eq : (c : Condition Op) → c.leafCount = c.operators.length
  | .leaf _ => rfl
  | .all children => leafCountOf_eq children
  | .any children => leafCountOf_eq children
  | .not child => leafCount_eq child

theorem leafCountOf_eq : (cs : List (Condition Op)) → leafCountOf cs = (operatorsOf cs).length
  | [] => rfl
  | c :: cs => by
    rw [leafCountOf, operatorsOf, List.length_append, leafCount_eq, leafCountOf_eq]

end

/-- An operator is the one that a use of an operator asks for. -/
structure Uses (op : Op) (use : String × Entries Document) : Prop where
  name : Operator.name op = use.1
  field : (Operator.field? op).map Document.text = use.2.get? "field"
  keeps : Operator.Keeps use.1 use.2 (Operator.Tabled.arguments op)

mutual

theorem Mirrors.operators : (c : Condition Op) → {d : Document} → c.Mirrors d →
    List.Forall₂ Uses c.operators d.leaves
  | .leaf op, d, h => by
    obtain ⟨name, fields, rfl, rfl, hkeeps⟩ := h
    obtain ⟨hall, hany, hnot⟩ := name_ne_word op
    rw [Condition.operators, Document.leaves]
    · exact .cons ⟨rfl, (Operator.Tabled.field_of_keeps hkeeps).symm, hkeeps⟩ .nil
    all_goals simp [*]
  | .all children, d, h => by
    obtain ⟨bodies, rfl, hall⟩ := h
    rw [Condition.operators, Document.leaves]
    exact MirrorsAll.operators children hall
  | .any children, d, h => by
    obtain ⟨bodies, rfl, hall⟩ := h
    rw [Condition.operators, Document.leaves]
    exact MirrorsAll.operators children hall
  | .not child, d, h => by
    obtain ⟨body, rfl, hbody⟩ := h
    rw [Condition.operators, Document.leaves]
    exact Mirrors.operators child hbody

theorem MirrorsAll.operators : (cs : List (Condition Op)) → {ds : List Document} →
    MirrorsAll cs ds → List.Forall₂ Uses (operatorsOf cs) (Document.leavesOf ds)
  | [], [], _ => .nil
  | c :: cs, d :: ds, h => by
    rw [MirrorsAll] at h
    rw [operatorsOf, Document.leavesOf]
    exact List.rel_append (Mirrors.operators c h.1) (MirrorsAll.operators cs h.2)

end

/-! ## Conditions of both families -/

/-- A tree is what there is to read from a document: its nodes, and the operators that it uses, in
the order in which they are written. -/
structure Represents (c : Condition Op) (d : Document) : Prop where
  mirrors : c.Mirrors d
  operators : List.Forall₂ Uses c.operators d.leaves
  leafCount : c.leafCount = c.operators.length

theorem exists_ofDocument_iff :
    (∃ c : Condition Op, ofDocument d = .ok c) ↔ Grammatical (Operator.family Op) d := by
  simp only [ofDocument_eq_ok_iff]
  constructor
  · rintro ⟨c, hc⟩
    exact Mirrors.grammatical c hc
  · intro h
    exact exists_mirrors h

theorem represents_of_ofDocument (h : ofDocument d = .ok c) : c.Represents d where
  mirrors := ofDocument_eq_ok_iff.1 h
  operators := Mirrors.operators c (ofDocument_eq_ok_iff.1 h)
  leafCount := leafCount_eq c

/-- Exactly the documents that the grammar of a family allows are read as conditions of the family,
and what is read represents the document. -/
theorem ofDocument_iff_grammatical (d : Document) :
    ((∃ c : Condition PairOperator, ofDocument d = .ok c) ↔ Grammatical .pairwise d) ∧
    (∀ c : Condition PairOperator, ofDocument d = .ok c → c.Represents d) ∧
    ((∃ c : Condition SetOperator, ofDocument d = .ok c) ↔ Grammatical .cluster d) ∧
    ∀ c : Condition SetOperator, ofDocument d = .ok c → c.Represents d := by
  refine ⟨exists_ofDocument_iff, ?_, exists_ofDocument_iff, ?_⟩
  · intro c hc
    exact represents_of_ofDocument hc
  · intro c hc
    exact represents_of_ofDocument hc

/-- A threshold that is null is the default. -/
example : ((ofDocument (.object [("not", .object [("formality_compatible",
      .object [("field", .text "formality"), ("threshold", .null)])])])).toOption.map
    (· == Condition.not (.leaf (PairOperator.formalityCompatible "formality" 1)))) = some true := by
  decide +kernel

end Condition

end Ensemble
