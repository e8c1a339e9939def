import Ensemble.Proofs.Document.Record
import Ensemble.Proofs.Value.Document
import Ensemble.Proofs.Value.Rounding
import Ensemble.Schema.DimensionForm

/-!
# Dimensions in documents

A dimension with finite bounds is printed as a document that is read as the same dimension again;
JSON has no notation for other floats.  The bounds of a dimension that is read are finite, and its
name stands in the document.
-/

namespace Ensemble

/-! ## Names -/

theorem VocabularyPolicy.ofName?_name (policy : VocabularyPolicy) :
    ofName? policy.name = some policy := by
  cases policy <;> rfl

theorem ScalarKind.ofName?_name (kind : ScalarKind) : ofName? kind.name = some kind := by
  cases kind <;> rfl

theorem KindTag.ofName?_name (tag : KindTag) : ofName? tag.name = some tag := by
  cases tag <;> rfl

/-! ## Numbers -/

/-- The numbers of well-formed documents are finite. -/
theorem Document.WellFormed.isFinite_of_number? {d : Document} {x : Float} (hd : d.WellFormed)
    (h : d.number? = some x) : x.isFinite = true := by
  cases hd with
  | whole hlow hhigh =>
    obtain rfl := Option.some.inj h
    exact isFinite_ofInt (by omega)
  | real hx =>
    obtain rfl := Option.some.inj h
    exact hx
  | _ => cases h

/-! ## Vocabularies -/

namespace Vocabulary

variable (vocabulary : Vocabulary)

theorem ofParts_keys : ofParts vocabulary.known.keys vocabulary.policy = vocabulary := by
  have hbindings : vocabulary.known.keys.map (·, ()) = vocabulary.known.entries := by
    rw [Dictionary.keys, List.map_map]
    exact List.map_id _
  have hknown : Dictionary.ofList (vocabulary.known.keys.map (·, ())) = vocabulary.known := by
    rw [hbindings]
    exact Dictionary.ext vocabulary.known.ascending.ofList_eq
  rw [ofParts, hknown]

/-- The fields that a vocabulary is printed with. -/
def table : List (String × Option Document) :=
  [("parts", some (Document.ofTexts vocabulary.known.keys)),
   ("policy", some (.text vocabulary.policy.name))]

theorem nodup_keys_table : (vocabulary.table.map (·.1)).Nodup :=
  show ["parts", "policy"].Nodup by decide

theorem toDocument_eq :
    vocabulary.toDocument = Document.ofFields (Entries.present vocabulary.table) := rfl

theorem wellFormed_toDocument : vocabulary.toDocument.WellFormed := by
  rw [toDocument_eq]
  refine Document.wellFormed_ofFields_present vocabulary.nodup_keys_table ?_
  simp only [table, List.forall_mem_cons, Option.mem_some, forall_eq']
  exact ⟨Document.wellFormed_ofTexts _, .text _, nofun⟩

theorem ofDocument_toDocument : ofDocument vocabulary.toDocument = .ok vocabulary := by
  have hkeys := vocabulary.nodup_keys_table
  have hparts := Field.of_present (f := Field.parts) hkeys (List.mem_of_getElem? (i := 0) rfl)
    (Document.toList_toText_ofTexts _)
  have hpolicy := Field.of_present (f := Field.policy) hkeys (List.mem_of_getElem? (i := 1) rfl)
    (Document.toVariant_text vocabulary.policy.ofName?_name)
  have hread : Record.read .refused [Field.parts.check, Field.policy.check] vocabulary.toDocument
      = .ok (Entries.ofList (Entries.present vocabulary.table)) := by
    refine Record.read_present hkeys rfl ?_
    have hes := Entries.ascending_ofList (Entries.present vocabulary.table)
    simp only [List.forall_mem_cons]
    exact ⟨Field.run_check hes hparts, Field.run_check hes hpolicy, nofun⟩
  simp only [ofDocument, hread, hparts, hpolicy, ok_bind, ofParts_keys, pure_eq_ok]

end Vocabulary

/-! ## Bounds -/

namespace NumericBound

variable {bound : NumericBound}

/-- Whether JSON has a notation for a bound. -/
def IsFinite : NumericBound → Prop
  | .int _ => True
  | .float x => x.isFinite = true

theorem isFinite_toFloat (h : bound.IsFinite) : bound.toFloat.isFinite = true := by
  cases bound with
  | int n =>
    have hlow := n.le_toInt
    have hhigh := n.toInt_lt
    exact isFinite_ofInt (by omega)
  | float x => exact h

theorem toDocument_float {x : Float} (h : x.isFinite = true) :
    (float x).toDocument = .real x := by
  rw [toDocument, Document.ofFloat, if_pos h]

theorem wellFormed_toDocument (h : bound.IsFinite) : bound.toDocument.WellFormed := by
  cases bound with
  | int n =>
    have hhigh := n.toInt_lt
    exact .whole n.le_toInt (by omega)
  | float x =>
    rw [toDocument_float h]
    exact .real h

theorem toDocument_ne_null (h : bound.IsFinite) : bound.toDocument ≠ .null := by
  cases bound with
  | int n => exact nofun
  | float x =>
    rw [toDocument_float h]
    exact nofun

theorem ofDocument_toDocument (h : bound.IsFinite) : ofDocument bound.toDocument = .ok bound := by
  cases bound with
  | int n =>
    rw [toDocument, ofDocument, Value.firstFit?_whole, Value.ofWhole,
      Value.int64?_eq_some_iff.2 rfl]
  | float x =>
    rw [toDocument_float h]
    rfl

/-- A bound that is read is the number of the document. -/
theorem number?_eq_some_toFloat {d : Document} (h : ofDocument d = .ok bound) :
    d.number? = some bound.toFloat := by
  cases d with
  | whole n =>
    rw [ofDocument, Value.firstFit?_whole, Value.ofWhole] at h
    cases hn : Value.int64? n with
    | some i =>
      rw [hn] at h
      obtain rfl := Except.ok.inj h
      rw [toFloat, Value.int64?_eq_some_iff.1 hn]
      rfl
    | none =>
      rw [hn] at h
      obtain rfl := Except.ok.inj h
      rfl
  | real x =>
    obtain rfl := Except.ok.inj h
    rfl
  | _ => simp [ofDocument, Value.firstFit?, Value.fitInt?, Document.number?] at h

theorem isFinite_of_ofDocument {d : Document} (hd : d.WellFormed) (h : ofDocument d = .ok bound) :
    bound.IsFinite := by
  have hnumber := number?_eq_some_toFloat h
  cases bound with
  | int n => trivial
  | float x => exact hd.isFinite_of_number? hnumber

end NumericBound

/-! ## Dimensions in documents -/

namespace DimensionForm

/-- Bounds that JSON can write. -/
def HasFiniteBounds (form : DimensionForm) : Prop :=
  (∀ bound ∈ form.min, bound.IsFinite) ∧ ∀ bound ∈ form.max, bound.IsFinite

variable {form : DimensionForm}

/-- The names of the fields. -/
def fieldNames : List String :=
  ["name", "type", "required", "min", "max", "allowed", "item", "vocabulary"]

/-- The fields that a form is printed with. -/
def table (form : DimensionForm) : List (String × Option Document) :=
  [("name", some (.text form.name)), ("type", some (.text form.tag.name)),
   ("required", some (.bool form.required)), ("min", form.min.map NumericBound.toDocument),
   ("max", form.max.map NumericBound.toDocument), ("allowed", form.allowed.map Document.ofTexts),
   ("item", form.item.map fun item => .text item.name),
   ("vocabulary", form.vocabulary.map Vocabulary.toDocument)]

theorem toDocument_eq (form : DimensionForm) :
    form.toDocument = Document.ofFields (Entries.present form.table) := by
  simp only [toDocument, table, Entries.present_cons, Entries.present_nil, List.append_assoc,
    List.append_nil]
  rfl

theorem nodup_keys_table (form : DimensionForm) : (form.table.map (·.1)).Nodup :=
  show fieldNames.Nodup by decide

theorem wellFormed_toDocument (h : form.HasFiniteBounds) : form.toDocument.WellFormed := by
  rw [toDocument_eq]
  refine Document.wellFormed_ofFields_present form.nodup_keys_table ?_
  simp only [table, List.forall_mem_cons, Option.mem_some, forall_eq', Option.mem_map,
    forall_exists_index, and_imp, forall_apply_eq_imp_iff₂]
  exact ⟨.text _, .text _, .bool _, fun b hb => b.wellFormed_toDocument (h.1 b hb),
    fun b hb => b.wellFormed_toDocument (h.2 b hb), fun _ _ => Document.wellFormed_ofTexts _,
    fun _ _ => .text _, fun v _ => v.wellFormed_toDocument, nofun⟩

/-- The checks of the fields. -/
def checks : List FieldCheck :=
  [Field.name.check, Field.tag.check, Field.required.check, Field.min.check, Field.max.check,
   Field.allowed.check, Field.item.check, Field.vocabulary.check]

theorem ofDocument_eq_ok_iff {d : Document} :
    ofDocument d = .ok form ↔ ∃ fields, Record.read .refused checks d = .ok fields
      ∧ Field.name.of fields = .ok form.name ∧ Field.tag.of fields = .ok form.tag
      ∧ Field.required.of fields = .ok form.required ∧ Field.min.of fields = .ok form.min
      ∧ Field.max.of fields = .ok form.max ∧ Field.allowed.of fields = .ok form.allowed
      ∧ Field.item.of fields = .ok form.item
      ∧ Field.vocabulary.of fields = .ok form.vocabulary := by
  constructor
  · intro h
    obtain ⟨fields, hread, h⟩ := bind_eq_ok_iff.1 h
    obtain ⟨_, hname, h⟩ := bind_eq_ok_iff.1 h
    obtain ⟨_, htag, h⟩ := bind_eq_ok_iff.1 h
    obtain ⟨_, hrequired, h⟩ := bind_eq_ok_iff.1 h
    obtain ⟨_, hmin, h⟩ := bind_eq_ok_iff.1 h
    obtain ⟨_, hmax, h⟩ := bind_eq_ok_iff.1 h
    obtain ⟨_, hallowed, h⟩ := bind_eq_ok_iff.1 h
    obtain ⟨_, hitem, h⟩ := bind_eq_ok_iff.1 h
    obtain ⟨_, hvocabulary, h⟩ := bind_eq_ok_iff.1 h
    obtain rfl := Except.ok.inj h
    exact ⟨fields, hread, hname, htag, hrequired, hmin, hmax, hallowed, hitem, hvocabulary⟩
  · rintro ⟨fields, hread, hname, htag, hrequired, hmin, hmax, hallowed, hitem, hvocabulary⟩
    rw [checks] at hread
    simp only [ofDocument, hread, hname, htag, hrequired, hmin, hmax, hallowed, hitem,
      hvocabulary, ok_bind, pure_eq_ok]

/-- A form is printed as a document that is read as the same form. -/
theorem ofDocument_toDocument (h : form.HasFiniteBounds) :
    ofDocument form.toDocument = .ok form := by
  have hkeys := form.nodup_keys_table
  have hname := Field.of_present (f := Field.name) hkeys (List.mem_of_getElem? (i := 0) rfl)
    (Document.toText_eq_ok_iff.2 rfl)
  have htag := Field.of_present (f := Field.tag) hkeys (List.mem_of_getElem? (i := 1) rfl)
    (Document.toVariant_text form.tag.ofName?_name)
  have hrequired := Field.of_present (f := Field.required) hkeys
    (List.mem_of_getElem? (i := 2) rfl) (Document.toBool_bool form.required)
  have hmin := Field.optional_of_present hkeys (List.mem_of_getElem? (i := 3) rfl)
    fun b hb => ⟨b.toDocument_ne_null (h.1 b hb), b.ofDocument_toDocument (h.1 b hb)⟩
  have hmax := Field.optional_of_present hkeys (List.mem_of_getElem? (i := 4) rfl)
    fun b hb => ⟨b.toDocument_ne_null (h.2 b hb), b.ofDocument_toDocument (h.2 b hb)⟩
  have hallowed := Field.optional_of_present hkeys (List.mem_of_getElem? (i := 5) rfl)
    fun texts _ => ⟨nofun, Document.toList_toText_ofTexts texts⟩
  have hitem := Field.optional_of_present hkeys (List.mem_of_getElem? (i := 6) rfl)
    fun item _ => ⟨nofun, Document.toVariant_text item.ofName?_name⟩
  have hvocabulary := Field.optional_of_present hkeys (List.mem_of_getElem? (i := 7) rfl)
    fun vocabulary _ => ⟨nofun, vocabulary.ofDocument_toDocument⟩
  have hread : Record.read .refused checks form.toDocument
      = .ok (Entries.ofList (Entries.present form.table)) := by
    rw [toDocument_eq]
    refine Record.read_present hkeys rfl ?_
    have hes := Entries.ascending_ofList (Entries.present form.table)
    simp only [checks, List.forall_mem_cons]
    exact ⟨Field.run_check hes hname, Field.run_check hes htag, Field.run_check hes hrequired,
      Field.run_check hes hmin, Field.run_check hes hmax, Field.run_check hes hallowed,
      Field.run_check hes hitem, Field.run_check hes hvocabulary, nofun⟩
  exact ofDocument_eq_ok_iff.2
    ⟨_, hread, hname, htag, hrequired, hmin, hmax, hallowed, hitem, hvocabulary⟩

theorem isFinite_of_optional {name : String} {bound? : Option NumericBound}
    {fields : Entries Document} (hfields : ∀ {d}, fields.get? name = some d → d.WellFormed)
    (h : (Field.optional name NumericBound.ofDocument).of fields = .ok bound?) :
    ∀ bound ∈ bound?, bound.IsFinite := by
  rintro bound rfl
  obtain ⟨d, hd, hread⟩ | ⟨-, habsent⟩ := Field.exists_of_of h
  · exact NumericBound.isFinite_of_ofDocument (hfields hd) (Document.of_toOption_eq_ok_some hread)
  · cases habsent

theorem hasFiniteBounds_of_ofDocument {d : Document} (hd : d.WellFormed)
    (h : ofDocument d = .ok form) : form.HasFiniteBounds := by
  obtain ⟨fields, hread, -, -, -, hmin, hmax, -⟩ := ofDocument_eq_ok_iff.1 h
  exact ⟨isFinite_of_optional (Record.wellFormed_of_get? hd hread) hmin,
    isFinite_of_optional (Record.wellFormed_of_get? hd hread) hmax⟩

/-- The name of a form that is read stands in the document. -/
theorem member?_name {d : Document} (h : ofDocument d = .ok form) :
    d.member? fieldNames "name" = some (.text form.name) := by
  obtain ⟨fields, hread, hname, -⟩ := ofDocument_eq_ok_iff.1 h
  rw [show fieldNames = checks.map (·.name) from rfl, ← Record.get?_of_read hread]
  obtain ⟨d, hd, hname⟩ := Field.exists_of_required hname
  rw [Document.toText_eq_ok_iff.1 hname] at hd
  exact hd

end DimensionForm

/-! ## Dimensions -/

/-- Bounds that JSON can write. -/
def DimensionKind.HasFiniteBounds : DimensionKind → Prop
  | .float min max => (∀ x ∈ min, x.isFinite = true) ∧ ∀ x ∈ max, x.isFinite = true
  | _ => True

namespace Dimension

variable {dimension : Dimension} {form : DimensionForm}

theorem hasFiniteBounds_toForm (h : dimension.kind.HasFiniteBounds) :
    dimension.toForm.HasFiniteBounds := by
  obtain ⟨name, kind, required⟩ := dimension
  cases kind with
  | integer min max =>
    constructor <;>
    · intro bound hbound
      obtain ⟨n, -, rfl⟩ := Option.mem_map.1 hbound
      trivial
  | float min max =>
    constructor <;> intro bound hbound <;> obtain ⟨x, hx, rfl⟩ := Option.mem_map.1 hbound
    · exact h.1 x hx
    · exact h.2 x hx
  | _ => exact ⟨nofun, nofun⟩

theorem wellFormed_toDocument (h : dimension.kind.HasFiniteBounds) :
    dimension.toDocument.WellFormed :=
  DimensionForm.wellFormed_toDocument (hasFiniteBounds_toForm h)

/-- The form of a dimension describes the dimension. -/
theorem ofForm_toForm (dimension : Dimension) : ofForm dimension.toForm = .ok dimension := by
  obtain ⟨name, kind, required⟩ := dimension
  cases kind with
  | integer min max => cases min <;> cases max <;> rfl
  | float min max => cases min <;> cases max <;> rfl
  | coverageLayers vocabulary => cases vocabulary <;> rfl
  | _ => rfl

theorem ofForm_eq_ok (h : ofForm form = .ok dimension) :
    dimension.name = form.name ∧ kindOfForm form = .ok dimension.kind := by
  unfold ofForm at h
  split at h
  · cases h
  · obtain ⟨kind, hkind, h⟩ := bind_eq_ok_iff.1 h
    obtain rfl := Except.ok.inj h
    exact ⟨rfl, hkind⟩

theorem tag_of_kindOfForm {kind : DimensionKind} (h : kindOfForm form = .ok kind) :
    kind.tag = form.tag := by
  unfold kindOfForm at h
  cases htag : form.tag with
  | integer =>
    simp only [htag] at h
    obtain ⟨min, -, h⟩ := bind_eq_ok_iff.1 h
    obtain ⟨max, -, h⟩ := bind_eq_ok_iff.1 h
    rw [← Except.ok.inj h]
    rfl
  | choice =>
    simp only [htag] at h
    split at h
    · rw [← Except.ok.inj h]
      rfl
    · cases h
  | list =>
    simp only [htag] at h
    split at h
    · rw [← Except.ok.inj h]
      rfl
    · cases h
  | _ =>
    simp only [htag] at h
    rw [← Except.ok.inj h]
    rfl

theorem hasFiniteBounds_of_ofForm (hform : form.HasFiniteBounds) (h : ofForm form = .ok dimension) :
    dimension.kind.HasFiniteBounds := by
  obtain ⟨-, h⟩ := ofForm_eq_ok h
  cases hkind : dimension.kind with
  | float min max =>
    rw [hkind] at h
    have htag : form.tag = .float := (tag_of_kindOfForm h).symm
    simp only [kindOfForm, htag] at h
    obtain ⟨rfl, rfl⟩ := DimensionKind.float.inj (Except.ok.inj h)
    constructor <;> intro x hx <;> obtain ⟨bound, hbound, rfl⟩ := Option.mem_map.1 hx
    · exact bound.isFinite_toFloat (hform.1 bound hbound)
    · exact bound.isFinite_toFloat (hform.2 bound hbound)
  | _ => trivial

theorem ofDocument_eq_ok_iff {d : Document} :
    ofDocument d = .ok dimension ↔
      ∃ form, DimensionForm.ofDocument d = .ok form ∧ ofForm form = .ok dimension := by
  simp only [ofDocument, bind_eq_ok_iff, mapError_eq_ok_iff]

theorem ofDocument_toDocument (h : dimension.kind.HasFiniteBounds) :
    ofDocument dimension.toDocument = .ok dimension :=
  ofDocument_eq_ok_iff.2 ⟨dimension.toForm,
    DimensionForm.ofDocument_toDocument (hasFiniteBounds_toForm h), dimension.ofForm_toForm⟩

theorem hasFiniteBounds_of_ofDocument {d : Document} (hd : d.WellFormed)
    (h : ofDocument d = .ok dimension) : dimension.kind.HasFiniteBounds := by
  obtain ⟨form, hform, h⟩ := ofDocument_eq_ok_iff.1 h
  exact hasFiniteBounds_of_ofForm (DimensionForm.hasFiniteBounds_of_ofDocument hd hform) h

theorem member?_name {d : Document} (h : ofDocument d = .ok dimension) :
    d.member? DimensionForm.fieldNames "name" = some (.text dimension.name) := by
  obtain ⟨form, hform, h⟩ := ofDocument_eq_ok_iff.1 h
  rw [(ofForm_eq_ok h).1]
  exact DimensionForm.member?_name hform

end Dimension

end Ensemble
