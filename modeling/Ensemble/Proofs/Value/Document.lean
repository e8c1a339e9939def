import Ensemble.Value.Document

/-!
# Values in documents

A document is read alike by its form and by its first fit.  A value is written as a document that is
read as the same value again, unless a float in it is not finite: JSON has no notation for such
floats, and they come back as no value.
-/

namespace Ensemble

namespace Value

/-! ## Whole numbers -/

theorem int64?_eq_some_iff {n : Int} {i : Int64} : int64? n = some i ↔ i.toInt = n := by
  unfold int64?
  have hmin : Int64.minValue.toInt = -2 ^ 63 := rfl
  rw [Int64.toInt_maxValue, hmin]
  constructor
  · intro h
    split at h
    · rename_i hn
      rw [← Option.some.inj h]
      exact Int64.toInt_ofInt_of_le hn.1 (by omega)
    · cases h
  · rintro rfl
    have hlow := i.le_toInt
    have hhigh := i.toInt_lt
    rw [if_pos (by omega), Int64.ofInt_toInt]

theorem ofWhole_toInt (n : Int64) : ofWhole n.toInt = .int n := by
  rw [ofWhole, int64?_eq_some_iff.2 rfl]

/-- A whole number is read alike by its form and by its first fit. -/
theorem firstFit?_whole (n : Int) : firstFit? (.whole n) = some (ofWhole n) := by
  simp only [firstFit?, fitInt?, ofWhole, Document.number?]
  cases int64? n <;> rfl

/-! ## The two readers -/

mutual

/-- Only numbers fit two kinds of value, and integers are tried before floats. -/
theorem firstFit?_eq : (d : Document) → firstFit? d = some (ofDocument d)
  | .null => rfl
  | .bool _ => rfl
  | .whole n => firstFit?_whole n
  | .real _ => rfl
  | .text _ => rfl
  | .array elements => by
    rw [firstFit?, firstFitElements?_eq elements]
    rfl
  | .object fields => by
    rw [firstFit?, firstFitFields?_eq fields]
    rfl

theorem firstFitElements?_eq : (ds : List Document) →
    firstFitElements? ds = some (ofElements ds)
  | [] => rfl
  | d :: ds => by
    rw [firstFitElements?, firstFit?_eq d, firstFitElements?_eq ds]
    rfl

theorem firstFitFields?_eq : (fields : List (String × Document)) →
    firstFitFields? fields = some (ofFields fields)
  | [] => rfl
  | (key, d) :: fields => by
    rw [firstFitFields?, firstFit?_eq d, firstFitFields?_eq fields]
    rfl

end

/-! ## Written values -/

mutual

/-- The floats in a value, at any depth. -/
def floats : Value → List Float
  | .float x => [x]
  | .list items => floatsOfItems items
  | .map entries => floatsOfEntries entries
  | _ => []

/-- The floats in the elements of a list. -/
def floatsOfItems : List Value → List Float
  | [] => []
  | v :: vs => floats v ++ floatsOfItems vs

/-- The floats in the entries of a map. -/
def floatsOfEntries : List (String × Value) → List Float
  | [] => []
  | (_, v) :: es => floats v ++ floatsOfEntries es

end

theorem ofDocument_ofFloat_iff (x : Float) :
    ofDocument (Document.ofFloat x) = .float x ↔ x.isFinite = true := by
  unfold Document.ofFloat
  split
  · rename_i hx
    exact iff_of_true rfl hx
  · rename_i hx
    exact iff_of_false nofun hx

mutual

theorem ofDocument_toDocument_iff : (v : Value) →
    (ofDocument v.toDocument = v ↔ ∀ x ∈ v.floats, x.isFinite = true)
  | .nil => by simp [toDocument, ofDocument, floats]
  | .bool _ => by simp [toDocument, ofDocument, floats]
  | .int n => by simp [toDocument, ofDocument, floats, ofWhole_toInt]
  | .float x => by simpa [toDocument, floats] using ofDocument_ofFloat_iff x
  | .string _ => by simp [toDocument, ofDocument, floats]
  | .list items => by
    simp only [toDocument, ofDocument, floats, list.injEq]
    exact ofElements_toElements_iff items
  | .map entries => by
    simp only [toDocument, ofDocument, floats, map.injEq]
    exact ofFields_toFields_iff entries

theorem ofElements_toElements_iff : (vs : List Value) →
    (ofElements (toElements vs) = vs ↔ ∀ x ∈ floatsOfItems vs, x.isFinite = true)
  | [] => by simp [toElements, ofElements, floatsOfItems]
  | v :: vs => by
    simp only [toElements, ofElements, floatsOfItems, List.cons.injEq, List.forall_mem_append,
      ofDocument_toDocument_iff v, ofElements_toElements_iff vs]

theorem ofFields_toFields_iff : (es : List (String × Value)) →
    (ofFields (toFields es) = es ↔ ∀ x ∈ floatsOfEntries es, x.isFinite = true)
  | [] => by simp [toFields, ofFields, floatsOfEntries]
  | (key, v) :: es => by
    simp only [toFields, ofFields, floatsOfEntries, List.cons.injEq, Prod.mk.injEq, true_and,
      List.forall_mem_append, ofDocument_toDocument_iff v, ofFields_toFields_iff es]

end

/-- Every document is read, by its first fit as by its form.  Either way, exactly the values whose
floats are all finite are read again as they were written. -/
theorem readers_exact :
    (∀ d : Document, firstFit? d = some (ofDocument d)) ∧
      ∀ v : Value,
        (ofDocument v.toDocument = v ↔ ∀ x ∈ v.floats, x.isFinite = true) ∧
          (firstFit? v.toDocument = some v ↔ ∀ x ∈ v.floats, x.isFinite = true) := by
  refine ⟨firstFit?_eq, fun v => ⟨ofDocument_toDocument_iff v, ?_⟩⟩
  rw [firstFit?_eq, Option.some.injEq]
  exact ofDocument_toDocument_iff v

/-- The measures of a coat: a whole number, the float of equal magnitude, and both zeros. -/
def measures : Value :=
  .map [("layer", .int 2), ("parts", .list [.string "arms", .map [], .list []]),
    ("weights", .list [.float 2, .float 0, .float (-0), .nil])]

theorem readers_exact_measures :
    (∀ x ∈ measures.floats, x.isFinite = true) ∧ ofDocument measures.toDocument = measures ∧
      firstFit? measures.toDocument = some measures := by
  have hfinite : ∀ x ∈ measures.floats, x.isFinite = true := by decide +kernel
  obtain ⟨hform, hfit⟩ := readers_exact.2 measures
  exact ⟨hfinite, hform.2 hfinite, hfit.2 hfinite⟩

end Value

end Ensemble
