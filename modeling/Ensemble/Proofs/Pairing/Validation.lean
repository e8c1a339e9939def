import Ensemble.Proofs.Catalog.History
import Ensemble.Proofs.Pairing.Matrix

/-!
# Validating catalogs

A matcher does not validate a catalog whose schema agrees with its own.  Schemas agree if their
bounds are equal as numbers, so they may differ in the sign of a zero, and a schema with a bound
that is not a number agrees with none.  Still nothing is missed: whichever way a catalog was built,
its items satisfy its schema, and schemas that agree accept the same items.
-/

namespace Ensemble

namespace Matcher

variable {matcher : Matcher} {catalog : Catalog} {name : String} {schema : Schema}
  {offered : List Item}

/-- The items of a catalog satisfy all schemas that agree with the one it was built under. -/
theorem validate_of_built (hbuilt : Catalog.Built name schema offered catalog)
    (hschemas : (schema == matcher.schema) = true) :
    ∀ item ∈ catalog.items, matcher.schema.validate item = .ok () := by
  obtain rfl := hbuilt.holds.schema_eq
  exact fun item hitem => (Schema.validate_eq_ok_congr hschemas).1 (catalog.valid item hitem)

theorem validateCatalog_of_built (hbuilt : Catalog.Built name schema offered catalog)
    (hschemas : (schema == matcher.schema) = true) :
    matcher.validateCatalog catalog = catalog.items.map (·, none) := by
  obtain rfl := hbuilt.holds.schema_eq
  exact if_pos hschemas

/-- A catalog that was built under a schema which agrees with that of the matcher is not validated,
and all its items satisfy the schema of the matcher.  So the answer is always that of validating
each item: nothing is wrong with an item if and only if it satisfies the schema. -/
theorem validateCatalog_exact (matcher : Matcher) (catalog : Catalog) :
    (∀ name schema offered, Catalog.Built name schema offered catalog →
        (schema == matcher.schema) = true →
        matcher.validateCatalog catalog = catalog.items.map (·, none)
          ∧ ∀ item ∈ catalog.items, matcher.schema.validate item = .ok ())
      ∧ matcher.validateCatalog catalog
        = catalog.items.map (fun item => (item, matcher.fault? item))
      ∧ ∀ (i : Nat) item, catalog.items[i]? = some item →
        ∃ fault, (matcher.validateCatalog catalog)[i]? = some (item, fault)
          ∧ (fault = none ↔ matcher.schema.validate item = .ok ()) := by
  have hfull := matcher.validateCatalog_eq_map catalog
  refine ⟨fun _ _ _ hbuilt hschemas => ?_, hfull, fun i item hitem => ?_⟩
  · exact ⟨validateCatalog_of_built hbuilt hschemas, validate_of_built hbuilt hschemas⟩
  · refine ⟨matcher.fault? item, ?_, fault?_eq_none_iff⟩
    rw [hfull, List.getElem?_map, hitem, Option.map_some]

/-- The schema of drinks that are served at some number of degrees. -/
def drinks (coldest : Float) : Schema :=
  ⟨"drinks", "1", [⟨"degrees", .float (some coldest) none, true⟩], .reject, List.nodup_singleton _⟩

/-- A drink that is served at some number of degrees. -/
def drink (id : String) (degrees : Float) : Item where
  id := ⟨id⟩
  name := id
  attributes := .ofList [("degrees", .float degrees)]

/-- Drinks of which one is too cold. -/
def orders : List Item := [drink "tea" 70, drink "sorbet" (-2), drink "water" (-0)]

/-- Without rules all drinks go together. -/
def tray : Matcher := ⟨⟨"tray", [], List.nodup_nil⟩, drinks (-0), Clock.source ⟨0⟩, rfl⟩

/-- The two schemas bound the degrees by zeros of different signs. -/
theorem validateCatalog_exact_tray : ∃ catalog,
    Catalog.Built "menu" (drinks 0) orders catalog ∧ (drinks 0 == tray.schema) = true
      ∧ tray.validateCatalog catalog = [(drink "tea" 70, none), (drink "water" (-0), none)]
      ∧ tray.schema.validate (drink "water" (-0)) = .ok () := by
  have hbuilt : Catalog.Built "menu" (drinks 0) orders
      (Catalog.ofItemsPartial "menu" (drinks 0) orders).1 := .ofItemsPartial orders
  have hschemas : (drinks 0 == tray.schema) = true := by decide +kernel
  have hitems : (Catalog.ofItemsPartial "menu" (drinks 0) orders).1.items
      = [drink "tea" 70, drink "water" (-0)] := by
    decide +kernel
  obtain ⟨hshort, hvalid⟩ := (validateCatalog_exact tray _).1 _ _ _ hbuilt hschemas
  rw [hitems] at hshort hvalid
  exact ⟨_, hbuilt, hschemas, hshort, hvalid _ (by simp)⟩

end Matcher

end Ensemble
