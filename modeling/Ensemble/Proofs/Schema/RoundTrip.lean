import Ensemble.Proofs.Schema.DimensionForm
import Ensemble.Schema.Document

/-!
# Schemas in documents

A schema with finite bounds is printed as a document that is read as the same schema again.  Every
schema that is read from a document has finite bounds, and its dimensions are the ones that the
document lists, in the same order and under distinct names.
-/

namespace Ensemble

/-! ## Forms -/

theorem UndeclaredPolicy.ofName?_name (policy : UndeclaredPolicy) :
    ofName? policy.name = some policy := by
  cases policy <;> rfl

namespace SchemaForm

variable {form : SchemaForm}

/-- The names of the fields. -/
def fieldNames : List String := ["name", "version", "dimensions", "unknown_attributes"]

/-- The checks of the fields. -/
def checks : List FieldCheck :=
  [Field.name.check, Field.version.check, Field.dimensions.check, Field.undeclared.check]

theorem ofDocument_eq_ok_iff {d : Document} :
    ofDocument d = .ok form ↔ ∃ fields, Record.read .refused checks d = .ok fields
      ∧ Field.name.of fields = .ok form.name ∧ Field.version.of fields = .ok form.version
      ∧ Field.dimensions.of fields = .ok form.dimensions
      ∧ Field.undeclared.of fields = .ok form.undeclared := by
  constructor
  · intro h
    obtain ⟨fields, hread, h⟩ := bind_eq_ok_iff.1 h
    obtain ⟨_, hname, h⟩ := bind_eq_ok_iff.1 h
    obtain ⟨_, hversion, h⟩ := bind_eq_ok_iff.1 h
    obtain ⟨_, hdimensions, h⟩ := bind_eq_ok_iff.1 h
    obtain ⟨_, hundeclared, h⟩ := bind_eq_ok_iff.1 h
    obtain rfl := Except.ok.inj h
    exact ⟨fields, hread, hname, hversion, hdimensions, hundeclared⟩
  · rintro ⟨fields, hread, hname, hversion, hdimensions, hundeclared⟩
    rw [checks] at hread
    simp only [ofDocument, hread, hname, hversion, hdimensions, hundeclared, ok_bind, pure_eq_ok]

/-- The dimensions of a form that is read are listed in the document. -/
theorem exists_elements {d : Document} (h : ofDocument d = .ok form) :
    ∃ elements, d.member? fieldNames "dimensions" = some (.array elements)
      ∧ elements.mapM Dimension.ofDocument = .ok form.dimensions := by
  obtain ⟨fields, hread, -, -, hdimensions, -⟩ := ofDocument_eq_ok_iff.1 h
  rw [show fieldNames = checks.map (·.name) from rfl, ← Record.get?_of_read hread]
  obtain ⟨d, hd, hdimensions⟩ := Field.exists_of_required hdimensions
  obtain ⟨elements, rfl, hdimensions⟩ := Document.toList_eq_ok_iff.1 hdimensions
  exact ⟨elements, hd, hdimensions⟩

/-- The fields that a form is printed with. -/
def table (form : SchemaForm) : List (String × Option Document) :=
  [("name", some (.text form.name)), ("version", some (.text form.version)),
   ("dimensions", some (.array (form.dimensions.map Dimension.toDocument))),
   ("unknown_attributes", some (.text form.undeclared.name))]

theorem nodup_keys_table (form : SchemaForm) : (form.table.map (·.1)).Nodup :=
  show fieldNames.Nodup by decide

theorem wellFormed_table (h : ∀ dimension ∈ form.dimensions, dimension.kind.HasFiniteBounds) :
    (Document.ofFields (Entries.present form.table)).WellFormed := by
  refine Document.wellFormed_ofFields_present form.nodup_keys_table ?_
  simp only [table, List.forall_mem_cons, Option.mem_some, forall_eq']
  refine ⟨.text _, .text _, .array ?_, .text _, nofun⟩
  rw [List.forall_mem_map]
  exact fun dimension hdimension => dimension.wellFormed_toDocument (h dimension hdimension)

theorem ofDocument_table (h : ∀ dimension ∈ form.dimensions, dimension.kind.HasFiniteBounds) :
    ofDocument (Document.ofFields (Entries.present form.table)) = .ok form := by
  have hkeys := form.nodup_keys_table
  have hname := Field.of_present (f := Field.name) hkeys (List.mem_of_getElem? (i := 0) rfl)
    (Document.toText_eq_ok_iff.2 rfl)
  have hversion := Field.of_present (f := Field.version) hkeys (List.mem_of_getElem? (i := 1) rfl)
    (Document.toText_eq_ok_iff.2 rfl)
  have hdimensions := Field.of_present (f := Field.dimensions) hkeys
    (List.mem_of_getElem? (i := 2) rfl)
    (Document.toList_map fun dimension hdimension =>
      dimension.ofDocument_toDocument (h dimension hdimension))
  have hundeclared := Field.of_present (f := Field.undeclared) hkeys
    (List.mem_of_getElem? (i := 3) rfl)
    (Document.toVariant_text form.undeclared.ofName?_name)
  have hread : Record.read .refused checks (Document.ofFields (Entries.present form.table))
      = .ok (Entries.ofList (Entries.present form.table)) := by
    refine Record.read_present hkeys rfl ?_
    have hes := Entries.ascending_ofList (Entries.present form.table)
    simp only [checks, List.forall_mem_cons]
    exact ⟨Field.run_check hes hname, Field.run_check hes hversion, Field.run_check hes hdimensions,
      Field.run_check hes hundeclared, nofun⟩
  exact ofDocument_eq_ok_iff.2 ⟨_, hread, hname, hversion, hdimensions, hundeclared⟩

end SchemaForm

namespace Schema

variable {schema s : Schema} {d : Document} {name version : String} {dimension : Dimension}
  {dimensions : List Dimension}

/-! ## Building -/

/-- The schemas that are made of dimensions and a policy. -/
inductive Built : Schema → Prop
  | empty (name version : String) : Built (empty name version)
  | add {schema s : Schema} {dimension : Dimension} :
    Built schema → schema.add dimension = .ok s → Built s
  | ofDimensions {name version : String} {dimensions : List Dimension} {s : Schema} :
    ofDimensions name version dimensions = .ok s → Built s
  | withUndeclared {schema : Schema} (policy : UndeclaredPolicy) :
    Built schema → Built (schema.withUndeclared policy)

theorem eq_of_parts {schema s : Schema} (hname : schema.name = s.name)
    (hversion : schema.version = s.version) (hdimensions : schema.dimensions = s.dimensions)
    (hundeclared : schema.undeclared = s.undeclared) : schema = s := by
  cases schema
  cases s
  cases hname
  cases hversion
  cases hdimensions
  cases hundeclared
  rfl

/-- A schema with more dimensions at the end. -/
structure Extends (schema : Schema) (more : List Dimension) (s : Schema) : Prop where
  name : s.name = schema.name
  version : s.version = schema.version
  undeclared : s.undeclared = schema.undeclared
  dimensions : s.dimensions = schema.dimensions ++ more

theorem extends_of_add (h : schema.add dimension = .ok s) : schema.Extends [dimension] s := by
  unfold add at h
  split at h
  · cases h
  · obtain rfl := Except.ok.inj h
    exact ⟨rfl, rfl, rfl, rfl⟩

theorem Extends.not_declares (h : schema.Extends (dimension :: dimensions) s) :
    ¬ schema.declares dimension.name = true := fun hdeclares => by
  have hdistinct := s.distinct
  rw [h.dimensions, List.map_append] at hdistinct
  exact (List.nodup_append.1 hdistinct).2.2 _ (declares_iff.1 hdeclares) _ List.mem_cons_self rfl

/-- Adding dimensions gives the schema with these dimensions at the end, if there is one. -/
theorem foldlM_add_eq_ok_iff :
    dimensions.foldlM add schema = .ok s ↔ schema.Extends dimensions s := by
  induction dimensions generalizing schema with
  | nil =>
    rw [List.foldlM_nil, pure_eq_ok, Except.ok.injEq]
    constructor
    · rintro rfl
      exact ⟨rfl, rfl, rfl, (List.append_nil _).symm⟩
    · rintro ⟨hname, hversion, hundeclared, hdimensions⟩
      rw [List.append_nil] at hdimensions
      exact (eq_of_parts hname hversion hdimensions hundeclared).symm
  | cons dimension rest ih =>
    rw [List.foldlM_cons, bind_eq_ok_iff]
    constructor
    · rintro ⟨next, hadd, h⟩
      have hnext := extends_of_add hadd
      have hrest := ih.1 h
      refine ⟨hrest.name.trans hnext.name, hrest.version.trans hnext.version,
        hrest.undeclared.trans hnext.undeclared, ?_⟩
      rw [hrest.dimensions, hnext.dimensions, List.append_assoc, List.singleton_append]
    · intro h
      refine ⟨_, dif_neg h.not_declares, ih.2 ⟨h.name, h.version, h.undeclared, ?_⟩⟩
      rw [h.dimensions, List.append_assoc, List.singleton_append]

theorem ofForm_eq_ok_iff {form : SchemaForm} :
    ofForm form = .ok s ↔ s.name = form.name ∧ s.version = form.version
      ∧ s.dimensions = form.dimensions ∧ s.undeclared = form.undeclared := by
  rw [ofForm, bind_eq_ok_iff]
  constructor
  · rintro ⟨schema, hdimensions, h⟩
    obtain rfl := Except.ok.inj h
    have hextends := foldlM_add_eq_ok_iff.1 hdimensions
    exact ⟨hextends.name, hextends.version, hextends.dimensions, rfl⟩
  · rintro ⟨hname, hversion, hdimensions, hundeclared⟩
    have hextends : (empty form.name form.version).Extends form.dimensions
        (s.withUndeclared .reject) := ⟨hname, hversion, rfl, hdimensions⟩
    refine ⟨s.withUndeclared .reject, foldlM_add_eq_ok_iff.2 hextends, ?_⟩
    exact congrArg Except.ok (eq_of_parts rfl rfl rfl hundeclared.symm)

/-- There are no other schemas than the built ones. -/
theorem built (schema : Schema) : schema.Built := by
  have hextends : (empty schema.name schema.version).Extends schema.dimensions
      (schema.withUndeclared .reject) := ⟨rfl, rfl, rfl, rfl⟩
  have hreject : (schema.withUndeclared .reject).Built :=
    .ofDimensions (foldlM_add_eq_ok_iff.2 hextends)
  exact hreject.withUndeclared schema.undeclared

/-! ## Documents -/

/-- Bounds that JSON can write. -/
def HasFiniteBounds (schema : Schema) : Prop :=
  ∀ dimension ∈ schema.dimensions, dimension.kind.HasFiniteBounds

/-- The form of a schema. -/
def toForm (schema : Schema) : SchemaForm :=
  ⟨schema.name, schema.version, schema.dimensions, schema.undeclared⟩

theorem toDocument_eq (schema : Schema) :
    schema.toDocument = Document.ofFields (Entries.present schema.toForm.table) := rfl

theorem ofDocument_eq_ok_iff :
    ofDocument d = .ok s ↔ ∃ form, SchemaForm.ofDocument d = .ok form ∧ ofForm form = .ok s := by
  unfold ofDocument
  cases SchemaForm.ofDocument d with
  | ok form => simp
  | error fault => simp

theorem ofDocument_toDocument (h : schema.HasFiniteBounds) :
    ofDocument schema.toDocument = .ok schema := by
  have hread : SchemaForm.ofDocument schema.toDocument = .ok schema.toForm := by
    rw [toDocument_eq]
    exact SchemaForm.ofDocument_table h
  exact ofDocument_eq_ok_iff.2 ⟨schema.toForm, hread, ofForm_eq_ok_iff.2 ⟨rfl, rfl, rfl, rfl⟩⟩

/-- A schema with finite bounds is read again as it was printed.  Every schema that is read from a
document has finite bounds, and the dimensions that the document lists, under distinct names and in
its order; so it is read again as well. -/
theorem document_roundTrip :
    (∀ schema : Schema, schema.Built → schema.HasFiniteBounds →
        schema.toDocument.WellFormed ∧ ofDocument schema.toDocument = .ok schema)
      ∧ ∀ (d : Document) (schema : Schema), d.WellFormed → ofDocument d = .ok schema →
        schema.Built ∧ schema.HasFiniteBounds
          ∧ (schema.dimensions.map (·.name)).Nodup
          ∧ (∃ elements, d.member? SchemaForm.fieldNames "dimensions" = some (.array elements)
            ∧ elements.map (·.member? DimensionForm.fieldNames "name")
              = schema.dimensions.map fun dimension => some (.text dimension.name))
          ∧ ofDocument schema.toDocument = .ok schema := by
  constructor
  · intro schema _ hfinite
    refine ⟨?_, ofDocument_toDocument hfinite⟩
    rw [toDocument_eq]
    exact SchemaForm.wellFormed_table hfinite
  · intro d schema hd h
    obtain ⟨form, hread, hform⟩ := ofDocument_eq_ok_iff.1 h
    obtain ⟨elements, hmember, hdimensions⟩ := SchemaForm.exists_elements hread
    rw [← (ofForm_eq_ok_iff.1 hform).2.2.1] at hdimensions
    have hfinite : schema.HasFiniteBounds := fun dimension hdimension => by
      obtain ⟨e, he, hread⟩ := (mem_of_mapM hdimensions).1 hdimension
      cases hd.of_member? hmember with
      | array helements => exact dimension.hasFiniteBounds_of_ofDocument (helements e he) hread
    have hnames := map_of_mapM hdimensions fun e dimension hread =>
      (dimension.member?_name hread).symm
    exact ⟨schema.built, hfinite, schema.distinct, ⟨elements, hmember, hnames.symm⟩,
      ofDocument_toDocument hfinite⟩

/-- Clothes, described in every kind of dimension. -/
def wardrobe : Schema where
  name := "wardrobe"
  version := "2"
  dimensions :=
    [⟨"color", .string, true⟩, ⟨"year", .integer (some 1900) none, false⟩,
     ⟨"price", .float none (some 99.5), false⟩, ⟨"washable", .boolean, false⟩,
     ⟨"season", .choice ["summer", "winter"], false⟩, ⟨"sizes", .list .integer, false⟩,
     ⟨"coverage", .coverageLayers (some (.ofParts ["torso", "arms"] .enforced)), false⟩]
  undeclared := .allow
  distinct := by decide

/-- Shirts that have a price and a color, one written as an array and one as an object. -/
def shirts : Document :=
  .object
    [("dimensions", .array
      [.array [.text "price", .text "float", .bool true, .whole 0],
       .object [("name", .text "color"), ("type", .text "string")]]),
     ("name", .text "shirts")]

theorem wellFormed_shirts : shirts.WellFormed := by
  have hprice : Document.WellFormed (.array [.text "price", .text "float", .bool true, .whole 0]) :=
    .array (by
      simp only [List.forall_mem_cons]
      exact ⟨.text _, .text _, .bool _, .whole (by decide) (by decide), nofun⟩)
  have hcolor : Document.WellFormed (.object [("name", .text "color"), ("type", .text "string")]) :=
    .object (List.pairwise_pair.2 (by decide)) (by
      simp only [List.forall_mem_cons]
      exact ⟨.text _, .text _, nofun⟩)
  refine .object (List.pairwise_pair.2 (by decide)) ?_
  simp only [List.forall_mem_cons]
  refine ⟨.array ?_, .text _, nofun⟩
  simp only [List.forall_mem_cons]
  exact ⟨hprice, hcolor, nofun⟩

theorem document_roundTrip_wardrobe :
    wardrobe.Built ∧ wardrobe.HasFiniteBounds ∧ ofDocument wardrobe.toDocument = .ok wardrobe
      ∧ shirts.WellFormed
      ∧ ∃ schema, ofDocument shirts = .ok schema ∧ ofDocument schema.toDocument = .ok schema := by
  have hfinite : wardrobe.HasFiniteBounds := by
    simp only [HasFiniteBounds, wardrobe, List.forall_mem_cons]
    exact ⟨trivial, trivial, ⟨nofun, fun x hx => Option.some.inj hx ▸ by decide +kernel⟩,
      trivial, trivial, trivial, trivial, nofun⟩
  obtain ⟨schema, hread⟩ : ∃ schema, ofDocument shirts = .ok schema := by
    have hsome : (ofDocument shirts).toOption.isSome = true := by decide +kernel
    obtain ⟨schema, hschema⟩ := Option.isSome_iff_exists.1 hsome
    exact ⟨schema, toOption_eq_some_iff.1 hschema⟩
  obtain ⟨hwrite, hreads⟩ := document_roundTrip
  obtain ⟨-, hagain⟩ := hwrite wardrobe wardrobe.built hfinite
  obtain ⟨-, -, -, -, hschema⟩ := hreads shirts schema wellFormed_shirts hread
  exact ⟨wardrobe.built, hfinite, hagain, wellFormed_shirts, schema, hread, hschema⟩

end Schema

end Ensemble
