import Ensemble.Proofs.Dictionary
import Ensemble.Proofs.Schema.Acceptance

/-!
# Reports of violations

A report lists the faults of attributes under a schema, each in one entry that names the attribute:
first the declared ones in the order of declaration, then the undeclared ones in key order.  An
entry depends on nothing but the attribute that it names, so a change to one attribute leaves the
entries about all others as they are.
-/

namespace Ensemble

/-- The attribute that an error is about, if it is a violation of a schema. -/
def Error.blamed? (e : Error) : Option String :=
  match e.cause with
  | .schemaViolation name _ => some name
  | _ => none

namespace Schema

variable {schema : Schema} {attributes a b : Attributes} {d : Dimension} {e : Error}

/-! ## Entries -/

/-- The value under a name; nil counts as absent. -/
def present? (attributes : Attributes) (name : String) : Option Value :=
  (attributes.get? name).filter fun v => !v.isNil

theorem blamed?_violationError (name : String) (violation : Violation) :
    (violationError name violation).blamed? = some name := rfl

theorem blamed?_of_dimensionViolation? (h : dimensionViolation? attributes d = some e) :
    e.blamed? = some d.name := by
  unfold dimensionViolation? at h
  split at h
  · split at h
    · exact Option.some.inj h ▸ blamed?_violationError ..
    · cases h
  · split at h
    · cases h
    · exact Option.some.inj h ▸ blamed?_violationError ..

theorem dimensionViolation?_eq_of_present? (h : present? a d.name = present? b d.name) :
    dimensionViolation? a d = dimensionViolation? b d := by
  unfold present? at h
  unfold dimensionViolation?
  rw [h]

theorem dimensionViolation?_eq_some_iff :
    dimensionViolation? attributes d = some e ↔
      (d.required = true ∧ present? attributes d.name = none
          ∧ e = violationError d.name .missing)
        ∨ ∃ v violation, present? attributes d.name = some v ∧ d.check v = .error violation
          ∧ e = violationError d.name violation := by
  unfold dimensionViolation? present?
  cases (attributes.get? d.name).filter fun v => !v.isNil with
  | none => by_cases hrequired : d.required = true <;> simp [hrequired, eq_comm (a := e)]
  | some v => cases hcheck : d.check v <;> simp [hcheck, eq_comm (a := e)]

theorem undeclaredViolations_eq :
    schema.undeclaredViolations attributes =
      if schema.undeclared = .reject then
        (attributes.keys.filter fun key => !schema.declares key).map
          (violationError · .undeclaredAttribute)
      else [] := by
  unfold undeclaredViolations
  cases schema.undeclared <;> rfl

/-! ## Faults -/

/-- What is wrong with the attribute under a name. -/
inductive Faulty (schema : Schema) (attributes : Attributes) : String → Violation → Prop
  /-- It is required, and there is none. -/
  | missing {d : Dimension} : d ∈ schema.dimensions → d.required = true →
    present? attributes d.name = none → Faulty schema attributes d.name .missing
  /-- Its dimension refuses the value. -/
  | refused {d : Dimension} {v : Value} {violation : Violation} : d ∈ schema.dimensions →
    present? attributes d.name = some v → d.check v = .error violation →
    Faulty schema attributes d.name violation
  /-- It is not declared, and such attributes are rejected. -/
  | undeclared {key : String} : schema.undeclared = .reject → schema.declares key = false →
    key ∈ attributes.keys → Faulty schema attributes key .undeclaredAttribute

theorem mem_undeclaredViolations_iff :
    e ∈ schema.undeclaredViolations attributes ↔
      schema.undeclared = .reject ∧ ∃ key, schema.declares key = false ∧ key ∈ attributes.keys
        ∧ e = violationError key .undeclaredAttribute := by
  rw [undeclaredViolations_eq]
  by_cases hpolicy : schema.undeclared = .reject
  · rw [if_pos hpolicy, List.mem_map]
    simp only [List.mem_filter, Bool.not_eq_true', hpolicy, true_and]
    apply exists_congr
    intro key
    rw [and_comm (a := key ∈ attributes.keys), and_assoc, eq_comm (a := e)]
  · simp [hpolicy]

/-- A report has an entry for each fault, and no others. -/
theorem mem_violations_iff :
    e ∈ schema.violations attributes ↔
      ∃ name violation, e = violationError name violation
        ∧ schema.Faulty attributes name violation := by
  rw [violations, List.mem_append, List.mem_filterMap, mem_undeclaredViolations_iff]
  constructor
  · rintro (⟨d, hd, h⟩ | ⟨hpolicy, key, hdeclares, hkey, rfl⟩)
    · obtain ⟨hrequired, hnone, rfl⟩ | ⟨v, violation, hv, hcheck, rfl⟩ :=
        dimensionViolation?_eq_some_iff.1 h
      · exact ⟨_, _, rfl, .missing hd hrequired hnone⟩
      · exact ⟨_, _, rfl, .refused hd hv hcheck⟩
    · exact ⟨_, _, rfl, .undeclared hpolicy hdeclares hkey⟩
  · rintro ⟨name, violation, rfl, h⟩
    cases h with
    | missing hd hrequired hnone =>
      exact .inl ⟨_, hd, dimensionViolation?_eq_some_iff.2 (.inl ⟨hrequired, hnone, rfl⟩)⟩
    | refused hd hv hcheck =>
      exact .inl ⟨_, hd, dimensionViolation?_eq_some_iff.2 (.inr ⟨_, _, hv, hcheck, rfl⟩)⟩
    | undeclared hpolicy hdeclares hkey => exact .inr ⟨hpolicy, _, hdeclares, hkey, rfl⟩

theorem validateAttributes_eq_ok_iff :
    schema.validateAttributes attributes = .ok () ↔ schema.violations attributes = [] := by
  unfold validateAttributes
  cases schema.violations attributes <;> simp

theorem validateAttributes_eq_error_iff :
    schema.validateAttributes attributes = .error e ↔
      (schema.violations attributes).head? = some e := by
  unfold validateAttributes
  cases schema.violations attributes <;> simp

/-! ## Order -/

/-- The declared names in a report, in the order of its entries. -/
def blamedDimensions (schema : Schema) (attributes : Attributes) : List String :=
  (schema.dimensions.filter fun d => (dimensionViolation? attributes d).isSome).map (·.name)

/-- The undeclared names in a report, in the order of its entries. -/
def blamedStrangers (schema : Schema) (attributes : Attributes) : List String :=
  if schema.undeclared = .reject then attributes.keys.filter fun key => !schema.declares key else []

theorem map_blamed?_violations :
    (schema.violations attributes).map Error.blamed? =
      (schema.blamedDimensions attributes ++ schema.blamedStrangers attributes).map some := by
  have hdimensions : (schema.dimensions.filterMap (dimensionViolation? attributes)).map Error.blamed?
      = (schema.blamedDimensions attributes).map some := by
    unfold blamedDimensions
    induction schema.dimensions with
    | nil => rfl
    | cons d ds ih =>
      cases hd : dimensionViolation? attributes d with
      | none => simp [hd, ih]
      | some e => simp [hd, ih, blamed?_of_dimensionViolation? hd]
  have hstrangers : (schema.undeclaredViolations attributes).map Error.blamed?
      = (schema.blamedStrangers attributes).map some := by
    rw [undeclaredViolations_eq, blamedStrangers]
    split
    · rw [List.map_map]
      rfl
    · rfl
  rw [violations, List.map_append, hdimensions, hstrangers, List.map_append]

theorem blamedDimensions_sublist :
    (schema.blamedDimensions attributes).Sublist (schema.dimensions.map (·.name)) :=
  List.filter_sublist.map _

theorem ascending_blamedStrangers : (schema.blamedStrangers attributes).Pairwise (· < ·) := by
  unfold blamedStrangers
  split
  · exact attributes.ascending_keys.filter _
  · exact List.Pairwise.nil

theorem not_declares_of_blamedStrangers {name : String}
    (h : name ∈ schema.blamedStrangers attributes) : schema.declares name = false := by
  unfold blamedStrangers at h
  split at h
  · simpa using (List.mem_filter.1 h).2
  · cases h

/-- No name is reported twice. -/
theorem nodup_blamed :
    (schema.blamedDimensions attributes ++ schema.blamedStrangers attributes).Nodup := by
  refine List.nodup_append.2 ⟨blamedDimensions_sublist.nodup schema.distinct, ?_, ?_⟩
  · apply List.nodup_iff_pairwise_ne.2
    apply ascending_blamedStrangers.imp
    rintro name _ hlt rfl
    exact String.lt_irrefl name hlt
  · rintro name hname _ hstranger rfl
    have hdeclares := declares_iff.2 (blamedDimensions_sublist.subset hname)
    rw [not_declares_of_blamedStrangers hstranger] at hdeclares
    cases hdeclares

/-! ## Changes -/

/-- Entries about declared attributes are kept with their dimensions. -/
theorem filter_dimensionViolations (kept : Option String → Bool) (ds : List Dimension) :
    (ds.filterMap (dimensionViolation? attributes)).filter (fun e => kept e.blamed?)
      = (ds.filter fun d => kept (some d.name)).filterMap (dimensionViolation? attributes) := by
  rw [List.filter_filterMap, List.filterMap_filter]
  refine List.filterMap_congr fun d _ => ?_
  cases hd : dimensionViolation? attributes d with
  | none => simp
  | some e => simp [Option.filter, blamed?_of_dimensionViolation? hd]

/-- Entries about undeclared attributes are kept with their keys. -/
theorem filter_undeclaredViolations (kept : Option String → Bool) :
    (schema.undeclaredViolations attributes).filter (fun e => kept e.blamed?) =
      if schema.undeclared = .reject then
        (attributes.keys.filter fun key => kept (some key) && !schema.declares key).map
          (violationError · .undeclaredAttribute)
      else [] := by
  rw [undeclaredViolations_eq]
  split
  · rw [List.filter_map, List.filter_filter]
    rfl
  · rfl

/-- The entries that are kept are the same when the attributes that they name are. -/
theorem filter_violations_congr (kept : Option String → Bool)
    (hvalues : ∀ d ∈ schema.dimensions, kept (some d.name) = true →
      present? a d.name = present? b d.name)
    (hkeys : ∀ key, kept (some key) = true → schema.declares key = false →
      (key ∈ a.keys ↔ key ∈ b.keys)) :
    (schema.violations a).filter (fun e => kept e.blamed?)
      = (schema.violations b).filter fun e => kept e.blamed? := by
  have hdimensions : (schema.dimensions.filter fun d => kept (some d.name)).filterMap
        (dimensionViolation? a)
      = (schema.dimensions.filter fun d => kept (some d.name)).filterMap
        (dimensionViolation? b) := by
    refine List.filterMap_congr fun d hd => dimensionViolation?_eq_of_present? ?_
    obtain ⟨hmem, hkept⟩ := List.mem_filter.1 hd
    exact hvalues d hmem hkept
  have hstrangers : (a.keys.filter fun key => kept (some key) && !schema.declares key)
      = b.keys.filter fun key => kept (some key) && !schema.declares key := by
    -- The keys of both are in one order, so their members decide.
    refine eq_of_ascending (a.ascending_keys.filter _) (b.ascending_keys.filter _) fun key => ?_
    rw [List.mem_filter, List.mem_filter]
    refine and_congr_left fun h => ?_
    rw [Bool.and_eq_true, Bool.not_eq_true'] at h
    exact hkeys key h.1 h.2
  rw [violations, violations, List.filter_append, List.filter_append, filter_dimensionViolations,
    filter_dimensionViolations, filter_undeclaredViolations, filter_undeclaredViolations,
    hdimensions, hstrangers]

/-- The report without the entries that name a key. -/
def violationsBut (schema : Schema) (key : String) (attributes : Attributes) : List Error :=
  (schema.violations attributes).filter fun e => e.blamed? ≠ some key

/-- Attributes that differ under one key only have the same report about all others. -/
theorem violationsBut_congr {key : String} (h : ∀ k, k ≠ key → a.get? k = b.get? k) :
    schema.violationsBut key a = schema.violationsBut key b := by
  apply filter_violations_congr fun name => decide (name ≠ some key)
  · intro d _ hd
    unfold present?
    rw [h d.name (by simpa using hd)]
  · intro k hk _
    rw [Dictionary.mem_keys_iff, Dictionary.mem_keys_iff, h k (by simpa using hk)]

/-- An attribute that is declared may as well be nil as absent. -/
theorem violations_insert_nil {name : String} (hname : schema.declares name = true) :
    schema.violations (attributes.insert name .nil) = schema.violations (attributes.erase name) := by
  have hcongr : (schema.violations (attributes.insert name .nil)).filter (fun _ => true)
      = (schema.violations (attributes.erase name)).filter fun _ => true := by
    apply filter_violations_congr fun _ => true
    · intro d _ _
      unfold present?
      rw [Dictionary.get?_insert, Dictionary.get?_erase]
      by_cases hd : name = d.name
      · rw [if_pos hd, if_pos hd]
        rfl
      · rw [if_neg hd, if_neg hd]
    · intro key _ hkey
      have hne : ¬ name = key := by
        rintro rfl
        rw [hkey] at hname
        cases hname
      rw [Dictionary.mem_keys_iff, Dictionary.mem_keys_iff, Dictionary.get?_insert,
        Dictionary.get?_erase, if_neg hne, if_neg hne]
  simpa using hcongr

/-- Attributes are accepted if and only if nothing is reported, and otherwise the first entry is the
error.  A report has one entry for each fault and names no attribute twice, declared ones in their
order before undeclared ones in key order.  Setting or removing an attribute changes no entry about
another one, and setting a declared one to nil is the same as removing it. -/
theorem violations_report (schema : Schema) (attributes : Attributes) :
    (schema.validateAttributes attributes = .ok () ↔ schema.violations attributes = [])
      ∧ (∀ e, schema.validateAttributes attributes = .error e ↔
        (schema.violations attributes).head? = some e)
      ∧ (∀ e, e ∈ schema.violations attributes ↔
        ∃ name violation, e = violationError name violation
          ∧ schema.Faulty attributes name violation)
      ∧ (∃ declared undeclared : List String,
        (schema.violations attributes).map Error.blamed? = (declared ++ undeclared).map some
          ∧ (declared ++ undeclared).Nodup
          ∧ declared.Sublist (schema.dimensions.map (·.name))
          ∧ undeclared.Pairwise (· < ·)
          ∧ ∀ name ∈ undeclared, schema.declares name = false)
      ∧ (∀ key v, schema.violationsBut key (attributes.insert key v)
        = schema.violationsBut key attributes)
      ∧ (∀ key, schema.violationsBut key (attributes.erase key)
        = schema.violationsBut key attributes)
      ∧ ∀ name, schema.declares name = true →
        schema.violations (attributes.insert name .nil)
          = schema.violations (attributes.erase name) := by
  refine ⟨validateAttributes_eq_ok_iff, fun e => validateAttributes_eq_error_iff,
    fun e => mem_violations_iff, ?_, ?_, ?_, fun name => violations_insert_nil⟩
  · exact ⟨_, _, map_blamed?_violations, nodup_blamed, blamedDimensions_sublist,
      ascending_blamedStrangers, fun name => not_declares_of_blamedStrangers⟩
  · intro key v
    apply violationsBut_congr
    intro k hk
    rw [Dictionary.get?_insert, if_neg (Ne.symm hk)]
  · intro key
    apply violationsBut_congr
    intro k hk
    rw [Dictionary.get?_erase, if_neg (Ne.symm hk)]

/-- Tents that sleep up to eight, for some season. -/
def tents : Schema where
  name := "tents"
  version := "1"
  dimensions :=
    [⟨"sleeps", .integer (some 1) (some 8), true⟩, ⟨"season", .choice ["summer", "winter"], false⟩,
     ⟨"poles", .integer none none, true⟩]
  undeclared := .reject
  distinct := by decide

/-- A tent for nine, without poles and with two attributes that are not declared. -/
def marquee : Attributes :=
  .ofList [("sleeps", .int 9), ("season", .string "summer"), ("rent", .int 30), ("brand", .nil)]

theorem violations_report_marquee :
    (tents.violations marquee).map Error.blamed?
        = [some "sleeps", some "poles", some "brand", some "rent"]
      ∧ tents.Faulty marquee "poles" .missing
      ∧ tents.validateAttributes marquee ≠ .ok ()
      ∧ tents.violationsBut "rent" (marquee.erase "rent") = tents.violationsBut "rent" marquee
      ∧ tents.declares "season" = true
      ∧ tents.violations (marquee.insert "season" .nil)
        = tents.violations (marquee.erase "season") := by
  have hblamed : (tents.violations marquee).map Error.blamed?
      = [some "sleeps", some "poles", some "brand", some "rent"] := by decide +kernel
  have hfaulty : tents.Faulty marquee "poles" .missing :=
    .missing (d := ⟨"poles", .integer none none, true⟩) (by simp [tents]) rfl (by decide +kernel)
  have hdeclares : tents.declares "season" = true := by decide +kernel
  obtain ⟨hok, -, -, -, -, herase, hnil⟩ := violations_report tents marquee
  refine ⟨hblamed, hfaulty, fun h => ?_, herase "rent", hdeclares, hnil "season" hdeclares⟩
  rw [hok.1 h] at hblamed
  cases hblamed

end Schema

end Ensemble
