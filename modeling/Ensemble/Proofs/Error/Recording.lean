import Ensemble.Error.Basic
import Mathlib.Data.List.Basic

/-!
# Recording where an error arose

An error that travels outwards has its place recorded mark by mark.  The first mark about a part of
the place is the innermost one, and it stays; frames are put in front, so the last one comes first.
A mark changes one part only.  So marks about different parts may be exchanged, and what is recorded
of a part is known from the marks about it.
-/

namespace Ensemble

/-! ## Marks -/

/-- What is recorded about an error on its way outwards. -/
inductive Mark where
  | item (id : String)
  | pair (first second : String)
  | rule (name : String)
  | operator (name : String)
  | frame (text : String)
  deriving DecidableEq, Repr

/-- The parts of a place that are recorded apart from each other. -/
inductive PlacePart where
  /-- One item, or the two of a pair. -/
  | items
  | rule
  | operator
  | path
  deriving DecidableEq, Repr

namespace Mark

/-- The part that a mark is about. -/
def part : Mark → PlacePart
  | .item _ | .pair .. => .items
  | .rule _ => .rule
  | .operator _ => .operator
  | .frame _ => .path

/-- The items of a mark, with a second one for a pair. -/
def items? : Mark → Option (String × Option String)
  | .item id => some (id, none)
  | .pair first second => some (first, some second)
  | _ => none

/-- The rule of a mark. -/
def rule? : Mark → Option String
  | .rule name => some name
  | _ => none

/-- The operator of a mark. -/
def operator? : Mark → Option String
  | .operator name => some name
  | _ => none

/-- The frame of a mark. -/
def frame? : Mark → Option String
  | .frame text => some text
  | _ => none

variable {m : Mark}

theorem items?_eq_none (h : m.part ≠ .items) : m.items? = none := by
  cases m with
  | item | pair => exact absurd rfl h
  | _ => rfl

theorem rule?_eq_none (h : m.part ≠ .rule) : m.rule? = none := by
  cases m with
  | rule => exact absurd rfl h
  | _ => rfl

theorem operator?_eq_none (h : m.part ≠ .operator) : m.operator? = none := by
  cases m with
  | operator => exact absurd rfl h
  | _ => rfl

theorem frame?_eq_none (h : m.part ≠ .path) : m.frame? = none := by
  cases m with
  | frame => exact absurd rfl h
  | _ => rfl

end Mark

/-- There are no marks if there are none about any part. -/
theorem eq_nil_iff_parts {marks : List Mark} :
    marks = [] ↔ ∀ part, marks.filter (·.part = part) = [] := by
  constructor
  · rintro rfl part
    rfl
  · intro h
    refine List.eq_nil_iff_forall_not_mem.2 fun m hm => ?_
    exact List.filter_eq_nil_iff.1 (h m.part) m hm (decide_eq_true rfl)

/-! ## Places -/

namespace Place

/-- The place with a mark recorded. -/
def record (place : Place) : Mark → Place
  | .item id => if place.item.isNone then { place with item := some id } else place
  | .pair first second =>
    if place.item.isNone then { place with item := some first, otherItem := some second } else place
  | .rule name => if place.rule.isNone then { place with rule := some name } else place
  | .operator name =>
    if place.operator.isNone then { place with operator := some name } else place
  | .frame text => { place with path := text :: place.path }

/-- The place with several marks recorded, the innermost one first. -/
def recordAll (place : Place) (marks : List Mark) : Place := marks.foldl record place

/-- The place that marks describe, the innermost one first: the items, the rule and the operator of
the first mark about them, and all frames from the last one to the first. -/
def ofMarks (marks : List Mark) : Place where
  item := (marks.findSome? Mark.items?).map (·.1)
  otherItem := (marks.findSome? Mark.items?).bind (·.2)
  rule := marks.findSome? Mark.rule?
  operator := marks.findSome? Mark.operator?
  path := (marks.filterMap Mark.frame?).reverse

variable (place : Place) (marks : List Mark)

/-- A mark adds to a place what is not there yet. -/
theorem record_eq (m : Mark) : place.record m = {
    item := place.item.or (m.items?.map (·.1))
    otherItem :=
      if place.item.isSome then place.otherItem else (m.items?.bind (·.2)).or place.otherItem
    rule := place.rule.or m.rule?
    operator := place.operator.or m.operator?
    path := m.frame?.toList ++ place.path } := by
  obtain ⟨item, other, rule, op, path⟩ := place
  cases m <;> cases item <;> cases rule <;> cases op <;> rfl

/-- Marks about different parts may be exchanged. -/
theorem record_comm {m n : Mark} (h : m.part ≠ n.part) :
    (place.record m).record n = (place.record n).record m := by
  have apart : ∀ part, m.part ≠ part ∨ n.part ≠ part := fun part =>
    not_and_or.1 fun ⟨hm, hn⟩ => h (hm.trans hn.symm)
  have hitems := (apart .items).imp Mark.items?_eq_none Mark.items?_eq_none
  have hrule := (apart .rule).imp Mark.rule?_eq_none Mark.rule?_eq_none
  have hoperator := (apart .operator).imp Mark.operator?_eq_none Mark.operator?_eq_none
  have hframe := (apart .path).imp Mark.frame?_eq_none Mark.frame?_eq_none
  rw [record_eq, record_eq place, record_eq _ m, record_eq place, mk.injEq]
  refine ⟨?_, ?_, ?_, ?_, ?_⟩
  · rcases hitems with h | h <;> simp [h]
  · rcases hitems with h | h <;> simp [h]
  · rcases hrule with h | h <;> simp [h]
  · rcases hoperator with h | h <;> simp [h]
  · rcases hframe with h | h <;> simp [h]

/-- Marks add to a place what is not there yet. -/
theorem recordAll_eq : place.recordAll marks = {
    item := place.item.or (ofMarks marks).item
    otherItem :=
      if place.item.isSome then place.otherItem else (ofMarks marks).otherItem.or place.otherItem
    rule := place.rule.or (ofMarks marks).rule
    operator := place.operator.or (ofMarks marks).operator
    path := (ofMarks marks).path ++ place.path } := by
  induction marks generalizing place with
  | nil => simp [recordAll, ofMarks]
  | cons m marks ih =>
    have first {β : Type} (f : Mark → Option β) :
        (m :: marks).findSome? f = (f m).or (marks.findSome? f) := by
      rw [List.findSome?_cons]
      cases f m <;> rfl
    rw [recordAll, List.foldl_cons, ← recordAll, ih, record_eq, mk.injEq]
    simp only [ofMarks, first]
    refine ⟨?_, ?_, ?_, ?_, ?_⟩
    · cases m.items? <;> simp
    · cases m.items? <;> cases place.item <;> simp
    · rw [Option.or_assoc]
    · rw [Option.or_assoc]
    · cases h : m.frame? <;> simp [h]

/-- A place is described by the marks about each part, whatever order the parts are in. -/
theorem ofMarks_congr {marks others : List Mark}
    (h : ∀ part, marks.filter (·.part = part) = others.filter (·.part = part)) :
    ofMarks marks = ofMarks others := by
  have about {β : Type} (f : Mark → Option β) (part : PlacePart)
      (hf : ∀ m : Mark, m.part ≠ part → f m = none) : marks.filterMap f = others.filterMap f := by
    have hfilter : ∀ ms : List Mark, (ms.filter (·.part = part)).filterMap f = ms.filterMap f := by
      intro ms
      rw [List.filterMap_filter]
      refine List.filterMap_congr fun m _ => ?_
      by_cases hm : m.part = part
      · simp [hm]
      · simp [hm, hf m hm]
    rw [← hfilter marks, h part, hfilter others]
  unfold ofMarks
  simp only [← List.head?_filterMap]
  rw [about _ .items fun _ => Mark.items?_eq_none, about _ .rule fun _ => Mark.rule?_eq_none,
    about _ .operator fun _ => Mark.operator?_eq_none, about _ .path fun _ => Mark.frame?_eq_none]

end Place

/-! ## Errors -/

namespace Error

/-- Records a mark. -/
def record (e : Error) : Mark → Error
  | .item id => e.withItem id
  | .pair first second => e.withPair first second
  | .rule name => e.withRule name
  | .operator name => e.withOperator name
  | .frame text => e.inFrame text

/-- Records several marks, the innermost one first. -/
def recordAll (e : Error) (marks : List Mark) : Error := marks.foldl record e

variable (e : Error) (marks : List Mark)

theorem record_eq (m : Mark) : e.record m = e.atPlace (·.record m) := by cases m <;> rfl

/-- Recording keeps the cause, and makes a place as soon as there is a mark. -/
theorem recordAll_eq : e.recordAll marks = {
    cause := e.cause
    place := if marks = [] then e.place else some ((e.place.getD {}).recordAll marks) } := by
  induction marks generalizing e with
  | nil => rfl
  | cons m marks ih =>
    rw [recordAll, List.foldl_cons, ← recordAll, ih, record_eq, if_neg (List.cons_ne_nil m marks)]
    split
    · rename_i hnil
      subst hnil
      rfl
    · rfl

/-- Without a place at first, an error ends up with the place that its marks describe.  Marks about
different parts may be exchanged, so only the order of the marks about each part matters. -/
theorem recordAll_exact :
    (∀ (cause : Cause) (marks : List Mark), recordAll cause marks
        = ⟨cause, if marks = [] then none else some (.ofMarks marks)⟩)
      ∧ (∀ (e : Error) (m n : Mark), m.part ≠ n.part →
        (e.record m).record n = (e.record n).record m)
      ∧ ∀ (e : Error) (marks others : List Mark),
        (∀ part, marks.filter (·.part = part) = others.filter (·.part = part)) →
        e.recordAll marks = e.recordAll others := by
  refine ⟨fun cause marks => ?_, fun e m n h => ?_, fun e marks others h => ?_⟩
  · have hplace : Place.recordAll {} marks = .ofMarks marks := by
      rw [Place.recordAll_eq]
      simp
    rw [recordAll_eq]
    exact congrArg (fun place => Error.mk cause (if marks = [] then none else some place)) hplace
  · simp only [record_eq, atPlace, Option.getD_some]
    rw [Place.record_comm _ h]
  · have hempty : marks = [] ↔ others = [] := by
      rw [eq_nil_iff_parts, eq_nil_iff_parts]
      simp only [h]
    rw [recordAll_eq, recordAll_eq, Place.recordAll_eq, Place.recordAll_eq, Place.ofMarks_congr h]
    simp only [hempty]

/-- What is recorded of a comparison below a negation: a second item and a second rule come too
late. -/
def comparisonMarks : List Mark :=
  [.operator "equals", .frame "all[0]", .pair "shirt" "tie", .frame "not", .rule "colours",
   .item "coat", .rule "outfit"]

/-- The same marks, part by part. -/
def sortedMarks : List Mark :=
  [.pair "shirt" "tie", .item "coat", .rule "colours", .rule "outfit", .operator "equals",
   .frame "all[0]", .frame "not"]

theorem recordAll_exact_comparison :
    let cause := Cause.missingField "colour"
    let place : Place :=
      ⟨some "shirt", some "tie", some "colours", some "equals", ["not", "all[0]"]⟩
    recordAll cause comparisonMarks = ⟨cause, some place⟩
      ∧ (Mark.rule "colours").part ≠ (Mark.item "coat").part
      ∧ (record cause (.rule "colours")).record (.item "coat")
        = (record cause (.item "coat")).record (.rule "colours")
      ∧ (∀ part, comparisonMarks.filter (·.part = part) = sortedMarks.filter (·.part = part))
      ∧ recordAll cause comparisonMarks = recordAll cause sortedMarks := by
  intro cause place
  obtain ⟨hplace, hcomm, hcongr⟩ := recordAll_exact
  have hapart : (Mark.rule "colours").part ≠ (Mark.item "coat").part := by decide
  have hparts : ∀ part,
      comparisonMarks.filter (·.part = part) = sortedMarks.filter (·.part = part) := by
    intro part
    cases part <;> rfl
  exact ⟨hplace cause comparisonMarks, hapart, hcomm cause _ _ hapart, hparts,
    hcongr cause _ _ hparts⟩

end Error

end Ensemble
