import Ensemble.Proofs.Except
import Ensemble.Proofs.Value.Heights
import Ensemble.Schema.Coverage

/-!
# Reading and writing coverage values

An entry is read from a map that holds a list of parts and a layer, whatever else it holds.  What is
read is in a normal form, which is written and read again without a change: layers are heights, so a
negative zero is read as zero.  Of several malformed entries the first one is reported.
-/

namespace Ensemble

/-! ## Entries -/

namespace CoverageLayer

variable {entries : Entries Value} {v : Value} {parts : List String} {x : Float}
  {entry : CoverageLayer}

/-- A value with the parts and the layer of an entry. -/
inductive Describes : Value → List String → Float → Prop
  | map {entries : Entries Value} {parts : List String} {x : Float} :
    entries.get? "parts" = some (.list (parts.map .string)) → parts ≠ [] →
    (entries.get? "layer").bind Value.number? = some x → x.isFinite = true → 0 ≤ x →
    Describes (.map entries) parts x

/-- A value that describes an entry. -/
def WellFormed (v : Value) : Prop := ∃ parts x, Describes v parts x

theorem texts_eq_ok_iff {vs : List Value} : texts vs = .ok parts ↔ vs = parts.map .string := by
  induction vs generalizing parts with
  | nil => cases parts <;> simp [texts]
  | cons v rest ih =>
    cases v with
    | string s =>
      rw [texts, map_eq_ok_iff]
      constructor
      · rintro ⟨ss, hrest, rfl⟩
        rw [ih.1 hrest, List.map_cons]
      · intro h
        cases parts with
        | nil => cases h
        | cons p ps =>
          obtain ⟨hs, hrest⟩ := List.cons.inj h
          obtain rfl := Value.string.inj hs
          exact ⟨ps, ih.2 hrest, rfl⟩
    | _ => cases parts <;> simp [texts]

theorem parseParts_eq_ok_iff :
    parseParts entries = .ok parts ↔
      entries.get? "parts" = some (.list (parts.map .string)) ∧ parts ≠ [] := by
  unfold parseParts
  cases entries.get? "parts" with
  | none => simp
  | some v =>
    cases v with
    | list items =>
      cases items with
      | nil => cases parts <;> simp
      | cons w ws =>
        simp only [mapError_eq_ok_iff, texts_eq_ok_iff, Option.some.injEq, Value.list.injEq]
        refine ⟨fun h => ⟨h, ?_⟩, And.left⟩
        rintro rfl
        cases h
    | _ => simp

theorem parseLayer_eq_ok_iff {y : Float} :
    parseLayer entries = .ok y ↔
      ∃ x, (entries.get? "layer").bind Value.number? = some x ∧ x.isFinite = true ∧ 0 ≤ x
        ∧ y = x + 0 := by
  unfold parseLayer
  cases entries.get? "layer" with
  | none => simp
  | some v =>
    simp only [Option.bind_some]
    cases v.number? with
    | none => simp
    | some x =>
      by_cases hfinite : x.isFinite = true
      · have hnonneg : 0 ≤ x ↔ ¬ x < 0 := float_le_iff_not_lt (by decide +kernel) hfinite
        by_cases hlt : x < 0 <;> simp [hlt, hnonneg, hfinite, eq_comm (a := y)]
      · simp [hfinite]

/-- What is read is what the value describes, with a height for a layer. -/
theorem parse_eq_ok_iff :
    parse v = .ok entry ↔ ∃ x, Describes v entry.parts x ∧ entry.layer = x + 0 := by
  constructor
  · intro h
    unfold parse at h
    split at h
    · obtain ⟨parts, hparts, h⟩ := bind_eq_ok_iff.1 h
      obtain ⟨layer, hlayer, h⟩ := bind_eq_ok_iff.1 h
      obtain rfl := Except.ok.inj h
      obtain ⟨hget, hne⟩ := parseParts_eq_ok_iff.1 hparts
      obtain ⟨x, hx, hfinite, hnonneg, rfl⟩ := parseLayer_eq_ok_iff.1 hlayer
      exact ⟨x, .map hget hne hx hfinite hnonneg, rfl⟩
    · cases h
  · rintro ⟨x, h, hlayer⟩
    cases h with
    | map hget hne hx hfinite hnonneg =>
      have hparts := parseParts_eq_ok_iff.2 ⟨hget, hne⟩
      have hheight := parseLayer_eq_ok_iff.2 ⟨x, hx, hfinite, hnonneg, hlayer⟩
      unfold parse
      dsimp only
      rw [hparts, ok_bind, hheight, ok_bind]
      rfl

theorem exists_parse_iff : (∃ entry, parse v = .ok entry) ↔ WellFormed v := by
  constructor
  · rintro ⟨entry, h⟩
    obtain ⟨x, hdescribes, -⟩ := parse_eq_ok_iff.1 h
    exact ⟨entry.parts, x, hdescribes⟩
  · rintro ⟨parts, x, h⟩
    exact ⟨⟨parts, x + 0⟩, parse_eq_ok_iff.2 ⟨x, h, rfl⟩⟩

/-- The parts and the layer of an entry that can be written. -/
structure Writable (entry : CoverageLayer) : Prop where
  parts_ne_nil : entry.parts ≠ []
  finite : entry.layer.isFinite = true
  nonneg : 0 ≤ entry.layer

/-- Zero in place of a negative zero. -/
def normalize (entry : CoverageLayer) : CoverageLayer := ⟨entry.parts, entry.layer + 0⟩

/-- What is written describes the entry. -/
theorem Writable.parse_toValue (h : entry.Writable) :
    parse entry.toValue = .ok entry.normalize :=
  parse_eq_ok_iff.2 ⟨entry.layer,
    .map rfl h.parts_ne_nil rfl h.finite h.nonneg, rfl⟩

/-- An entry in normal form: it has parts, and its layer is a height. -/
structure Normal (entry : CoverageLayer) : Prop where
  parts_ne_nil : entry.parts ≠ []
  height : IsHeight entry.layer

theorem Normal.writable (h : entry.Normal) : entry.Writable :=
  ⟨h.parts_ne_nil, h.height.finite, h.height.nonneg⟩

theorem Normal.normalize_eq (h : entry.Normal) : entry.normalize = entry := by
  unfold normalize
  rw [float_add_zero h.height.ne_neg_zero]

theorem normal_of_parse (h : parse v = .ok entry) : entry.Normal := by
  obtain ⟨x, hdescribes, hlayer⟩ := parse_eq_ok_iff.1 h
  cases hdescribes with
  | map hget hne hx hfinite hnonneg => exact ⟨hne, hlayer ▸ IsHeight.add_zero hfinite hnonneg⟩

theorem Writable.normalize_beq (h : entry.Writable) : (entry.normalize == entry) = true := by
  show (entry.parts == entry.parts && entry.layer + 0 == entry.layer) = true
  rw [beq_self_eq_true, float_add_zero_beq (isNaN_of_isFinite h.finite)]
  rfl

end CoverageLayer

/-! ## Lists of entries -/

namespace Coverage

variable {v : Value} {items : List Value} {coverage : Coverage} {i : Nat} {violation : Violation}

theorem parseFrom_eq_ok_iff :
    parseFrom i items = .ok coverage ↔
      List.Forall₂ (fun w entry => CoverageLayer.parse w = .ok entry) items coverage := by
  induction items generalizing i coverage with
  | nil => cases coverage <;> simp [parseFrom]
  | cons w rest ih =>
    rw [parseFrom, List.forall₂_cons_left_iff]
    cases hw : CoverageLayer.parse w with
    | error message => simp
    | ok entry =>
      simp only [map_eq_ok_iff, ih, Except.ok.injEq]
      constructor
      · rintro ⟨others, hrest, rfl⟩
        exact ⟨entry, others, rfl, hrest, rfl⟩
      · rintro ⟨_, others, rfl, hrest, rfl⟩
        exact ⟨others, hrest, rfl⟩

/-- Reading stops at the first entry that is malformed. -/
theorem parseFrom_eq_error_iff :
    parseFrom i items = .error violation ↔
      ∃ before w after message, items = before ++ w :: after
        ∧ (∀ u ∈ before, CoverageLayer.WellFormed u) ∧ CoverageLayer.parse w = .error message
        ∧ violation = .coverageShape (i + before.length) message := by
  induction items generalizing i with
  | nil => simp [parseFrom]
  | cons w rest ih =>
    rw [parseFrom]
    cases hw : CoverageLayer.parse w with
    | error message =>
      constructor
      · intro h
        exact ⟨[], w, rest, message, rfl, nofun, hw, (Except.error.inj h).symm⟩
      · rintro ⟨before, u, after, found, hitems, hbefore, hu, rfl⟩
        cases before with
        | nil =>
          obtain ⟨rfl, rfl⟩ := List.cons.inj hitems
          rw [Except.error.inj (hw.symm.trans hu)]
          rfl
        | cons b bs =>
          -- The first entry is malformed, but it would stand before the reported one.
          obtain ⟨rfl, -⟩ := List.cons.inj hitems
          obtain ⟨entry, hentry⟩ := CoverageLayer.exists_parse_iff.2 (hbefore w List.mem_cons_self)
          cases hw.symm.trans hentry
    | ok entry =>
      have hmap : (parseFrom (i + 1) rest).map (entry :: ·) = .error violation
          ↔ parseFrom (i + 1) rest = .error violation := by
        cases parseFrom (i + 1) rest <;> simp [Except.map]
      refine hmap.trans (ih.trans ?_)
      constructor
      · rintro ⟨before, u, after, message, rfl, hbefore, hu, rfl⟩
        have hwell : CoverageLayer.WellFormed w := CoverageLayer.exists_parse_iff.1 ⟨entry, hw⟩
        refine ⟨w :: before, u, after, message, rfl, List.forall_mem_cons.2 ⟨hwell, hbefore⟩, hu, ?_⟩
        rw [List.length_cons, Nat.add_assoc, Nat.add_comm 1]
      · rintro ⟨before, u, after, message, hitems, hbefore, hu, rfl⟩
        cases before with
        | nil =>
          obtain ⟨rfl, -⟩ := List.cons.inj hitems
          cases hw.symm.trans hu
        | cons b bs =>
          obtain ⟨rfl, rfl⟩ := List.cons.inj hitems
          refine ⟨bs, u, after, message, rfl, (List.forall_mem_cons.1 hbefore).2, hu, ?_⟩
          rw [List.length_cons, Nat.add_assoc, Nat.add_comm 1]

theorem parse_eq_ok_iff :
    parse v = .ok coverage ↔ ∃ items, v = .list items
      ∧ List.Forall₂ (fun w entry => CoverageLayer.parse w = .ok entry) items coverage := by
  unfold parse
  cases v with
  | list items => simp [parseFrom_eq_ok_iff]
  | _ => simp

theorem parse_eq_error_iff {message : String} :
    parse v = .error (.coverageShape i message) ↔
      ∃ before w after, v = .list (before ++ w :: after) ∧ before.length = i
        ∧ (∀ u ∈ before, CoverageLayer.WellFormed u) ∧ CoverageLayer.parse w = .error message := by
  unfold parse
  cases v with
  | list items =>
    simp only [parseFrom_eq_error_iff, Value.list.injEq, Violation.coverageShape.injEq, Nat.zero_add]
    constructor
    · rintro ⟨before, w, after, _, hitems, hbefore, hw, rfl, rfl⟩
      exact ⟨before, w, after, hitems, rfl, hbefore, hw⟩
    · rintro ⟨before, w, after, hitems, rfl, hbefore, hw⟩
      exact ⟨before, w, after, message, hitems, hbefore, hw, rfl, rfl⟩
  | _ => simp

theorem normal_of_parse (h : parse v = .ok coverage) : ∀ entry ∈ coverage, entry.Normal := by
  obtain ⟨items, -, hitems⟩ := parse_eq_ok_iff.1 h
  clear h
  induction hitems with
  | nil => exact nofun
  | cons hw _ ih => exact List.forall_mem_cons.2 ⟨CoverageLayer.normal_of_parse hw, ih⟩

theorem parse_toValue (h : ∀ entry ∈ coverage, entry.Writable) :
    parse coverage.toValue = .ok (coverage.map CoverageLayer.normalize) := by
  refine parse_eq_ok_iff.2 ⟨_, rfl, ?_⟩
  rw [List.forall₂_map_left_iff, List.forall₂_map_right_iff, List.forall₂_same]
  exact fun entry hentry => (h entry hentry).parse_toValue

theorem parse_toValue_of_normal (h : ∀ entry ∈ coverage, entry.Normal) :
    parse coverage.toValue = .ok coverage := by
  have hself : coverage.map CoverageLayer.normalize = coverage.map id :=
    List.map_congr_left fun entry hentry => (h entry hentry).normalize_eq
  rw [parse_toValue fun entry hentry => (h entry hentry).writable, hself, List.map_id]

theorem normalize_beq (h : ∀ entry ∈ coverage, entry.Writable) :
    (coverage.map CoverageLayer.normalize == coverage) = true := by
  induction coverage with
  | nil => rfl
  | cons entry rest ih =>
    obtain ⟨hentry, hrest⟩ := List.forall_mem_cons.1 h
    rw [List.map_cons, List.cons_beq_cons, hentry.normalize_beq, ih hrest]
    rfl

/-- What is read is in normal form, and read again as it was when it is written.  Entries with parts
and finite layers that are not negative are read again as equal ones.  If an entry is malformed, the
first such entry is reported. -/
theorem parse_roundTrip :
    (∀ v coverage, parse v = .ok coverage →
        (∀ entry ∈ coverage, entry.parts ≠ [] ∧ entry.layer.isFinite = true ∧ 0 ≤ entry.layer
          ∧ entry.layer ≠ -0)
          ∧ parse coverage.toValue = .ok coverage)
      ∧ (∀ coverage : Coverage,
        (∀ entry ∈ coverage, entry.parts ≠ [] ∧ entry.layer.isFinite = true ∧ 0 ≤ entry.layer) →
        ∃ again, parse coverage.toValue = .ok again ∧ (again == coverage) = true)
      ∧ ∀ v i message, parse v = .error (.coverageShape i message) ↔
        ∃ before w after, v = .list (before ++ w :: after) ∧ before.length = i
          ∧ (∀ u ∈ before, CoverageLayer.WellFormed u) ∧ ¬ CoverageLayer.WellFormed w
          ∧ CoverageLayer.parse w = .error message := by
  refine ⟨fun v coverage h => ⟨fun entry hentry => ?_, ?_⟩, fun coverage h => ?_, ?_⟩
  · obtain ⟨hne, hfinite, hnonneg, hzero⟩ := normal_of_parse h entry hentry
    exact ⟨hne, hfinite, hnonneg, hzero⟩
  · exact parse_toValue_of_normal (normal_of_parse h)
  · have hwritable : ∀ entry ∈ coverage, entry.Writable := by
      intro entry hentry
      obtain ⟨hne, hfinite, hnonneg⟩ := h entry hentry
      exact ⟨hne, hfinite, hnonneg⟩
    exact ⟨_, parse_toValue hwritable, normalize_beq hwritable⟩
  · intro v i message
    rw [parse_eq_error_iff]
    have hmalformed : ∀ w, CoverageLayer.parse w = .error message →
        ¬ CoverageLayer.WellFormed w := by
      intro w hw hwell
      obtain ⟨entry, hentry⟩ := CoverageLayer.exists_parse_iff.2 hwell
      cases hw.symm.trans hentry
    constructor
    · rintro ⟨before, w, after, hv, hi, hbefore, hw⟩
      exact ⟨before, w, after, hv, hi, hbefore, hmalformed w hw, hw⟩
    · rintro ⟨before, w, after, hv, hi, hbefore, -, hw⟩
      exact ⟨before, w, after, hv, hi, hbefore, hw⟩

/-- A shirt that is worn below everything else, at a layer that is written as a negative zero. -/
def shirt : Coverage := [⟨["torso", "arms"], -0⟩, ⟨["collar"], 1.5⟩]

theorem parse_roundTrip_shirt :
    (∀ entry ∈ shirt, entry.parts ≠ [] ∧ entry.layer.isFinite = true ∧ 0 ≤ entry.layer)
      ∧ (∃ again, parse shirt.toValue = .ok again ∧ (again == shirt) = true
        ∧ (∀ entry ∈ again, entry.layer ≠ -0) ∧ parse again.toValue = .ok again)
      ∧ parse (.list [.map [("layer", .int 1), ("parts", .list [.string "hem"])], .map []])
        = .error (.coverageShape 1 "missing `parts`")
      ∧ ¬ CoverageLayer.WellFormed (.map []) := by
  have hwritable : ∀ entry ∈ shirt, entry.parts ≠ [] ∧ entry.layer.isFinite = true
      ∧ 0 ≤ entry.layer := by
    simp only [shirt, List.forall_mem_cons]
    refine ⟨⟨nofun, ?_, ?_⟩, ⟨nofun, ?_, ?_⟩, nofun⟩
    all_goals decide +kernel
  obtain ⟨hread, hwrite, hfault⟩ := parse_roundTrip
  obtain ⟨again, hagain, hbeq⟩ := hwrite shirt hwritable
  obtain ⟨hnormal, hstable⟩ := hread _ again hagain
  have herror : parse (.list [.map [("layer", .int 1), ("parts", .list [.string "hem"])], .map []])
      = .error (.coverageShape 1 "missing `parts`") := by rfl
  obtain ⟨before, w, after, hv, hlength, -, hmalformed, -⟩ := (hfault _ _ _).1 herror
  have hw : w = .map [] := by
    have hget := congrArg (·[1]?) (Value.list.inj hv)
    rw [List.getElem?_append_right (by omega), hlength] at hget
    exact (Option.some.inj hget).symm
  exact ⟨hwritable, ⟨again, hagain, hbeq, fun entry hentry => (hnormal entry hentry).2.2.2, hstable⟩,
    herror, hw ▸ hmalformed⟩

end Coverage

end Ensemble
