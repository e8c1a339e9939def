import Ensemble.Proofs.Dictionary
import Ensemble.Proofs.Schema.Coverage
import Ensemble.Schema.Dimension

/-!
# Advisory and enforced vocabularies

The parts outside a vocabulary are reported under one policy and refused under the other.  Both
policies find the same parts: an enforced vocabulary accepts what an advisory one accepts without
anything to report, and otherwise it names the first part of that report.
-/

namespace Ensemble

/-! ## First occurrences -/

section FirstOccurrences

variable {α : Type} [BEq α] [LawfulBEq α] {xs : List α} {a b : α}

/-- Leaving out other elements does not change which of two comes first. -/
theorem idxOf_lt_of_filter {p : α → Bool} (ha : p a = true) (hb : p b = true)
    (h : (xs.filter p).idxOf a < (xs.filter p).idxOf b) : xs.idxOf a < xs.idxOf b := by
  induction xs with
  | nil => exact h
  | cons x rest ih =>
    by_cases hx : p x = true
    · rw [List.filter_cons_of_pos hx, List.idxOf_cons, List.idxOf_cons] at h
      rw [List.idxOf_cons, List.idxOf_cons]
      cases hxa : x == a <;> cases hxb : x == b <;> simp_all
    · have hne : ∀ {c}, p c = true → x ≠ c := fun hc e => hx (e ▸ hc)
      rw [List.filter_cons_of_neg hx] at h
      rw [List.idxOf_cons_ne _ (hne ha), List.idxOf_cons_ne _ (hne hb)]
      exact Nat.succ_lt_succ (ih h)

/-- Without its repetitions a list is in the order of first occurrences. -/
theorem pairwise_idxOf_eraseDups :
    (xs : List α) → xs.eraseDups.Pairwise (xs.idxOf · < xs.idxOf ·)
  | [] => .nil
  | x :: rest => by
    have hother : ∀ {b}, b ∈ (rest.filter fun c => !c == x).eraseDups → b ≠ x := fun hb => by
      simpa using (List.mem_filter.1 (List.mem_eraseDups.1 hb)).2
    rw [List.eraseDups_cons]
    refine List.pairwise_cons.2 ⟨fun b hb => ?_, ?_⟩
    · rw [List.idxOf_cons_self, List.idxOf_cons_ne _ (hother hb).symm]
      exact Nat.succ_pos _
    · refine (pairwise_idxOf_eraseDups _).imp_of_mem fun {a b} ha hb hab => ?_
      rw [List.idxOf_cons_ne _ (hother ha).symm, List.idxOf_cons_ne _ (hother hb).symm]
      exact Nat.succ_lt_succ
        (idxOf_lt_of_filter (by simpa using hother ha) (by simpa using hother hb) hab)
termination_by xs => xs.length
decreasing_by exact Nat.lt_succ_of_le (List.length_filter_le ..)

end FirstOccurrences

/-! ## Unknown parts -/

namespace Coverage

/-- The parts that a value names as a coverage, in order and with repetitions.  A value that is no
coverage names none. -/
def namedBy (v : Value) : List String :=
  match parse v with
  | .ok coverage => coverage.flatMap (·.parts)
  | .error _ => []

end Coverage

namespace Vocabulary

variable {parts : List String} {policy : VocabularyPolicy} {part : String}

/-- A list of the named parts that are not known, each once, in the order in which they are first
named. -/
structure ListsUnknown (known named unknown : List String) : Prop where
  mem_iff : ∀ part, part ∈ unknown ↔ part ∈ named ∧ part ∉ known
  nodup : unknown.Nodup
  ordered : unknown.Pairwise (named.idxOf · < named.idxOf ·)

theorem contains_known_iff : (ofParts parts policy).known.contains part = true ↔ part ∈ parts := by
  rw [Dictionary.contains, ← Dictionary.mem_keys_iff, ofParts, Dictionary.mem_keys_ofList,
    List.map_map]
  simp

theorem listsUnknown_unknownParts (parts : List String) (policy : VocabularyPolicy)
    (coverage : Coverage) :
    ListsUnknown parts (coverage.flatMap (·.parts))
      ((ofParts parts policy).unknownParts coverage) := by
  have hordered := (pairwise_idxOf_eraseDups (coverage.flatMap (·.parts))).filter
    fun part => !(ofParts parts policy).known.contains part
  refine ⟨fun part => ?_, hordered.imp fun {a b} hlt hab => ?_, hordered⟩
  · rw [unknownParts, Coverage.parts, List.mem_filter, List.mem_eraseDups, Bool.not_eq_true',
      ← Bool.not_eq_true, contains_known_iff]
  · exact Nat.ne_of_lt hlt (by rw [hab])

end Vocabulary

theorem Coverage.parse_ne_unknownPart {v : Value} {part : String} :
    parse v ≠ .error (.unknownPart part) := by
  unfold parse
  cases v with
  | list items =>
    intro h
    obtain ⟨_, _, _, _, -, -, -, hshape⟩ := parseFrom_eq_error_iff.1 h
    cases hshape
  | _ => exact nofun

/-! ## The two policies -/

namespace Dimension

variable {d advisory enforced : Dimension} {v : Value} {parts : List String}
  {vocabulary : Vocabulary} {coverage : Coverage} {violation : Violation}

section Checks

variable (hkind : d.kind = .coverageLayers (some vocabulary))
include hkind

theorem check_coverage :
    d.check v = Coverage.parse v >>= checkParts (some vocabulary) := by
  unfold check
  rw [hkind]

/-- A value that is no coverage fails its check as it fails to be read. -/
theorem check_of_parse_error (hparse : Coverage.parse v = .error violation) :
    d.check v = .error violation := by
  rw [check_coverage hkind, hparse, error_bind]

theorem check_advisory (hpolicy : vocabulary.policy = .advisory)
    (hparse : Coverage.parse v = .ok coverage) : d.check v = .ok () := by
  rw [check_coverage hkind, hparse, ok_bind]
  simp [checkParts, Vocabulary.isEnforced, hpolicy]

theorem check_enforced (hpolicy : vocabulary.policy = .enforced)
    (hparse : Coverage.parse v = .ok coverage) :
    d.check v = match vocabulary.unknownParts coverage with
      | [] => .ok ()
      | part :: _ => .error (.unknownPart part) := by
  rw [check_coverage hkind, hparse, ok_bind]
  simp only [checkParts, Vocabulary.isEnforced, hpolicy]
  cases vocabulary.unknownParts coverage <;> rfl

theorem advisoryMisses_advisory (hpolicy : vocabulary.policy = .advisory)
    (hparse : Coverage.parse v = .ok coverage) :
    d.advisoryMisses v = vocabulary.unknownParts coverage := by
  unfold advisoryMisses
  simp [hkind, Vocabulary.isEnforced, hpolicy, hparse]

theorem advisoryMisses_of_parse_error (hparse : Coverage.parse v = .error violation) :
    d.advisoryMisses v = [] := by
  unfold advisoryMisses
  simp [hkind, hparse]

theorem advisoryMisses_enforced (hpolicy : vocabulary.policy = .enforced) :
    d.advisoryMisses v = [] := by
  unfold advisoryMisses
  simp [hkind, Vocabulary.isEnforced, hpolicy]

end Checks

/-- The two policies report the same.  An advisory vocabulary accepts every coverage, and lists the
parts that are not known.  An enforced one accepts a coverage if this list is empty, and otherwise
refuses it for the first part of the list; values that are no coverages are refused alike. -/
theorem policies_agree
    (hadvisory : advisory.kind = .coverageLayers (some (.ofParts parts .advisory)))
    (henforced : enforced.kind = .coverageLayers (some (.ofParts parts .enforced))) (v : Value) :
    (advisory.check v = .ok () ↔ ∃ coverage, Coverage.parse v = .ok coverage)
      ∧ (enforced.check v = .ok () ↔ advisory.check v = .ok () ∧ advisory.advisoryMisses v = [])
      ∧ (∀ part, enforced.check v = .error (.unknownPart part) ↔
          advisory.check v = .ok () ∧ (advisory.advisoryMisses v).head? = some part)
      ∧ (enforced.check v ≠ .ok () → (∀ part, enforced.check v ≠ .error (.unknownPart part)) →
          ∃ violation, enforced.check v = .error violation ∧ advisory.check v = .error violation)
      ∧ Vocabulary.ListsUnknown parts (Coverage.namedBy v) (advisory.advisoryMisses v)
      ∧ enforced.advisoryMisses v = [] := by
  have hnone := advisoryMisses_enforced (v := v) henforced rfl
  cases hparse : Coverage.parse v with
  | error violation =>
    have hunknown : ∀ part, violation ≠ .unknownPart part := by
      rintro part rfl
      exact Coverage.parse_ne_unknownPart hparse
    rw [check_of_parse_error hadvisory hparse, check_of_parse_error henforced hparse,
      advisoryMisses_of_parse_error hadvisory hparse, Coverage.namedBy, hparse]
    refine ⟨by simp, by simp, by simpa using hunknown, fun _ _ => ⟨_, rfl, rfl⟩, ?_, hnone⟩
    exact ⟨by simp, .nil, .nil⟩
  | ok coverage =>
    rw [check_advisory hadvisory rfl hparse, check_enforced henforced rfl hparse,
      advisoryMisses_advisory hadvisory rfl hparse, Coverage.namedBy, hparse]
    have hlists := Vocabulary.listsUnknown_unknownParts parts .advisory coverage
    have hsame : (Vocabulary.ofParts parts .enforced).unknownParts coverage
        = (Vocabulary.ofParts parts .advisory).unknownParts coverage := rfl
    rw [hsame]
    refine ⟨by simp, ?_, ?_, ?_, hlists, hnone⟩
    all_goals cases (Vocabulary.ofParts parts .advisory).unknownParts coverage <;> simp

/-- What a garment covers, by the parts that tailors know. -/
def garment (policy : VocabularyPolicy) : Dimension :=
  ⟨"coverage", .coverageLayers (some (.ofParts ["chest", "back"] policy)), false⟩

/-- A tailcoat, with two parts that are not known, one of them in two entries. -/
def tailcoat : Value :=
  .list [.map [("layer", .int 1), ("parts", .list [.string "tail", .string "chest"])],
    .map [("layer", .int 2), ("parts", .list [.string "lapel", .string "tail"])]]

theorem policies_agree_tailcoat :
    (garment .advisory).kind = .coverageLayers (some (.ofParts ["chest", "back"] .advisory))
      ∧ (garment .enforced).kind = .coverageLayers (some (.ofParts ["chest", "back"] .enforced))
      ∧ (garment .advisory).check tailcoat = .ok ()
      ∧ (garment .advisory).advisoryMisses tailcoat = ["tail", "lapel"]
      ∧ (garment .enforced).check tailcoat = .error (.unknownPart "tail") := by
  have hadvisory : (garment .advisory).kind
      = .coverageLayers (some (.ofParts ["chest", "back"] .advisory)) := rfl
  have henforced : (garment .enforced).kind
      = .coverageLayers (some (.ofParts ["chest", "back"] .enforced)) := rfl
  obtain ⟨-, -, hrefuses, -, -, -⟩ := policies_agree hadvisory henforced tailcoat
  have haccepts : (garment .advisory).check tailcoat = .ok () := by decide +kernel
  have hmisses : (garment .advisory).advisoryMisses tailcoat = ["tail", "lapel"] := by
    decide +kernel
  exact ⟨hadvisory, henforced, haccepts, hmisses,
    (hrefuses "tail").2 ⟨haccepts, by rw [hmisses]; rfl⟩⟩

end Dimension

end Ensemble
