import Ensemble.Proofs.Catalog.History
import Ensemble.Proofs.Schema.Acceptance

/-!
# Rejected items

Building a catalog from a list of items either stops at the first item that cannot be added, or
leaves such items out and lists them.  The two ways agree: the first succeeds if nothing was left
out, and otherwise fails as the first item that was.  What becomes of an item depends on the items
that were kept before it alone, so an item that does not satisfy the schema takes no id away.
-/

namespace Ensemble

/-! ## Ledgers -/

/-- Items in the order in which they were offered.  One that was rejected is entered with the
error. -/
abbrev Ledger := List (Item × Option Error)

namespace Ledger

/-- The items that were not rejected. -/
def kept (ledger : Ledger) : List Item := (ledger.filter (·.2.isNone)).map (·.1)

theorem kept_append (ledger ledger' : Ledger) :
    Ledger.kept (ledger ++ ledger') = ledger.kept ++ ledger'.kept := by
  rw [kept, List.filter_append, List.map_append]
  rfl

/-- The rejections, in order. -/
def rejections (ledger : Ledger) : List Rejection :=
  ledger.filterMap fun (item, verdict) => verdict.map (⟨item.id, ·⟩)

/-- The verdict on an item that is offered after those of a ledger. -/
structure Justified (schema : Schema) (before : Ledger) (item : Item) (verdict : Option Error) :
    Prop where
  /-- It is kept if it is the first one under its id that satisfies the schema. -/
  kept_iff : verdict = none ↔ schema.validate item = .ok () ∧
    ∀ other ∈ before.map (·.1), other.id = item.id → schema.validate other ≠ .ok ()
  /-- It is a duplicate if an item with its id was kept. -/
  duplicate_iff : ∀ e, verdict = some e →
    ((∃ id, e.cause = .duplicateItem id) ↔ item.id ∈ before.kept.map (·.id))
  /-- A duplicate is rejected as one, whatever else is wrong with it. -/
  duplicate : ∀ e, verdict = some e → item.id ∈ before.kept.map (·.id) →
    e = Cause.duplicateItem item.id.text
  /-- Any other item is rejected for what the schema finds. -/
  invalid : ∀ e, verdict = some e → item.id ∉ before.kept.map (·.id) →
    schema.validate item = .error e

end Ledger

/-- The ids that are taken are those of the items that satisfy the schema. -/
theorem Schema.mem_ids_accepted_iff {schema : Schema} {offered : List Item} {id : ItemId} :
    id ∈ (schema.accepted offered).map (·.id) ↔
      ∃ item ∈ offered, item.id = id ∧ schema.validate item = .ok () := by
  induction offered with
  | nil => simp [accepted]
  | cons first rest ih =>
    rw [accepted, List.exists_mem_cons_iff, ← ih]
    split
    · rename_i hvalid
      by_cases hid : first.id = id
      · simp [hid, hvalid]
      · have hkept : ∀ item : Item, item.id = id → item.id ≠ first.id := fun item h e =>
          hid (e.symm.trans h)
        simp only [List.map_cons, List.mem_cons, List.mem_map, List.mem_filter, decide_eq_true_iff]
        grind
    · rename_i hinvalid
      simp [hinvalid]

namespace Catalog

variable {catalog c : Catalog} {name : String} {schema : Schema} {item : Item}
  {items offered : List Item} {e : Error} {before after : Ledger} {verdict : Option Error}
  {rejections : List Rejection}

/-- What becomes of items that are offered one after the other. -/
def ledger (catalog : Catalog) : List Item → Ledger
  | [] => []
  | item :: rest =>
    match catalog.add item with
    | .ok c => (item, none) :: c.ledger rest
    | .error e => (item, some e) :: catalog.ledger rest

theorem map_fst_ledger : (catalog.ledger items).map (·.1) = items := by
  induction items generalizing catalog with
  | nil => rfl
  | cons item rest ih =>
    rw [ledger]
    split <;> rw [List.map_cons, ih]

/-- The ledger has the items that are added, and the rejections. -/
theorem addAll_eq_ledger (catalog : Catalog) (items : List Item) :
    (catalog.addAll items).1.items = catalog.items ++ (catalog.ledger items).kept
      ∧ (catalog.addAll items).2 = (catalog.ledger items).rejections := by
  induction items generalizing catalog with
  | nil => exact ⟨(List.append_nil _).symm, rfl⟩
  | cons item rest ih =>
    rw [addAll, ledger]
    cases hadd : catalog.add item with
    | ok c =>
      obtain ⟨-, -, hitems⟩ := add_eq_ok_iff.1 hadd
      obtain ⟨hkept, hrejections⟩ := ih c
      refine ⟨?_, hrejections⟩
      rw [hkept, hitems, List.append_assoc]
      rfl
    | error e =>
      obtain ⟨hkept, hrejections⟩ := ih catalog
      exact ⟨hkept, congrArg (⟨item.id, e⟩ :: ·) hrejections⟩

/-- Stopping at the first item that cannot be added gives what leaving such items out gives, or the
error of the first one that is left out. -/
theorem foldlM_add_eq :
    items.foldlM add catalog =
      match catalog.addAll items with
      | (c, []) => .ok c
      | (_, first :: _) => .error first.error := by
  induction items generalizing catalog with
  | nil => rfl
  | cons item rest ih =>
    rw [List.foldlM_cons, addAll]
    cases catalog.add item with
    | ok c => exact ih
    | error e => rfl

/-! ## Verdicts -/

theorem check_eq_error_iff :
    catalog.check item = .error e ↔
      item.id ∈ catalog.items.map (·.id) ∧ e = Cause.duplicateItem item.id.text
        ∨ item.id ∉ catalog.items.map (·.id) ∧ catalog.schema.validate item = .error e := by
  rw [← contains_iff, check]
  split <;> simp_all [eq_comm (a := e)]

/-- An item is entered with the verdict of the catalog, and the next item is offered to what the
catalog has become. -/
theorem exists_step (h : catalog.Holds name schema offered) (item : Item) (rest : List Item) :
    ∃ verdict, ∃ next : Catalog,
      catalog.ledger (item :: rest) = (item, verdict) :: next.ledger rest
        ∧ next.Holds name schema (offered ++ [item])
        ∧ next.items = catalog.items ++ Ledger.kept [(item, verdict)]
        ∧ ∀ e, verdict = some e ↔ catalog.check item = .error e := by
  rw [ledger]
  cases hadd : catalog.add item with
  | ok c =>
    refine ⟨none, c, rfl, h.add hadd, (add_eq_ok_iff.1 hadd).2.2, fun e => ?_⟩
    simp [check_of_add_eq_ok hadd]
  | error e =>
    refine ⟨some e, catalog, rfl, h.refuse hadd, (List.append_nil _).symm, fun e' => ?_⟩
    rw [check_of_add_eq_error hadd, Option.some.injEq, Except.error.injEq]

/-- Each verdict of a ledger is that of the catalog of the items that were kept before. -/
theorem exists_catalog_of_ledger (h : catalog.Holds name schema offered)
    (hledger : catalog.ledger items = before ++ (item, verdict) :: after) :
    ∃ c : Catalog, c.Holds name schema (offered ++ before.map (·.1))
      ∧ c.items = catalog.items ++ before.kept
      ∧ ∀ e, verdict = some e ↔ c.check item = .error e := by
  induction before generalizing catalog offered items with
  | nil =>
    cases items with
    | nil => cases hledger
    | cons first rest =>
      obtain ⟨_, next, hstep, -, -, hverdict⟩ := exists_step h first rest
      obtain ⟨⟨⟩, -⟩ := List.cons.inj (hstep.symm.trans hledger)
      exact ⟨catalog, by simpa using h, (List.append_nil _).symm, hverdict⟩
  | cons entry before ih =>
    cases items with
    | nil => cases hledger
    | cons first rest =>
      obtain ⟨_, next, hstep, hnext, hkept, -⟩ := exists_step h first rest
      obtain ⟨rfl, hrest⟩ := List.cons.inj (hstep.symm.trans hledger)
      obtain ⟨c, hc, hitems, hverdict⟩ := ih hnext hrest
      refine ⟨c, by simpa using hc, ?_, hverdict⟩
      rw [hitems, hkept, List.append_assoc, ← Ledger.kept_append]
      rfl

/-- That an id is taken by an item that was kept comes down to the offered items: some earlier one
has it and satisfies the schema. -/
theorem justified_of_ledger
    (hledger : (empty name schema).ledger items = before ++ (item, verdict) :: after) :
    Ledger.Justified schema before item verdict := by
  obtain ⟨c, ⟨-, rfl, haccepted⟩, hitems, hverdict⟩ := exists_catalog_of_ledger .empty hledger
  have hkept : c.items = before.kept := hitems
  have htaken : item.id ∈ before.kept.map (·.id) ↔
      ∃ other ∈ before.map (·.1), other.id = item.id ∧ c.schema.validate other = .ok () := by
    rw [← hkept, haccepted, Schema.mem_ids_accepted_iff, List.nil_append]
  have hcause : ∀ e, verdict = some e →
      item.id ∈ before.kept.map (·.id) ∧ e = Cause.duplicateItem item.id.text
        ∨ item.id ∉ before.kept.map (·.id) ∧ c.schema.validate item = .error e := by
    intro e he
    rw [← hkept]
    exact check_eq_error_iff.1 ((hverdict e).1 he)
  refine ⟨?_, fun e he => ?_, fun e he hid => ?_, fun e he hid => ?_⟩
  · have hnone : verdict = none ↔ c.check item = .ok () := by
      cases hcheck : c.check item with
      | ok u =>
        refine iff_of_true (Option.eq_none_iff_forall_ne_some.2 fun e he => ?_) rfl
        cases hcheck.symm.trans ((hverdict e).1 he)
      | error e => simp [(hverdict e).2 hcheck]
    rw [hnone, check_eq_ok_iff, hkept, htaken, and_comm]
    simp only [not_exists, not_and, ne_eq]
  · obtain ⟨hid, rfl⟩ | ⟨hid, hvalidate⟩ := hcause e he
    · exact iff_of_true ⟨_, rfl⟩ hid
    · -- What a schema finds is a violation, never a duplicate.
      obtain ⟨name, violation, hviolation⟩ := Schema.exists_violation hvalidate
      refine iff_of_false ?_ hid
      rintro ⟨id, hduplicate⟩
      cases hviolation.symm.trans hduplicate
  · exact ((hcause e he).resolve_right fun h => h.1 hid).2
  · exact ((hcause e he).resolve_left fun h => hid h.1).2

/-- Leaving out the items that cannot be added agrees with stopping at the first of them.  Every
item is entered once, in order, as kept or as rejected, and each verdict is justified by the entries
before it.  The items that were kept make the same catalog again. -/
theorem ofItemsPartial_agrees (h : ofItemsPartial name schema items = (c, rejections)) :
    (∀ c', ofItems name schema items = .ok c' ↔ rejections = [] ∧ c' = c)
      ∧ (∀ first rest, rejections = first :: rest →
          ofItems name schema items = .error first.error)
      ∧ (∃ ledger : Ledger, ledger.map (·.1) = items ∧ ledger.kept = c.items
          ∧ ledger.rejections = rejections
          ∧ ∀ before item verdict after, ledger = before ++ (item, verdict) :: after →
            Ledger.Justified schema before item verdict)
      ∧ ofItems name schema c.items = .ok c := by
  have hstrict : ofItems name schema items = match (c, rejections) with
      | (c, []) => .ok c
      | (_, first :: _) => .error first.error := by
    rw [← h]
    exact foldlM_add_eq
  obtain ⟨hkept, hrejections⟩ := addAll_eq_ledger (empty name schema) items
  have hholds : (ofItemsPartial name schema items).1.Holds name schema items :=
    Holds.empty.addAll
  rw [h] at hholds
  rw [← ofItemsPartial, h] at hkept hrejections
  refine ⟨fun c' => ?_, ?_, ⟨(empty name schema).ledger items, map_fst_ledger, hkept.symm,
    hrejections.symm, fun before item verdict after => justified_of_ledger⟩, ?_⟩
  · rw [hstrict]
    cases rejections <;> simp [eq_comm (a := c')]
  · rintro first rest rfl
    exact hstrict
  · exact ofItems_eq_ok_iff.2 ⟨hholds.name_eq, hholds.schema_eq, rfl⟩

/-- Books that are offered to a shelf: one has no title, and one has the number of another. -/
def donation : List Item := [book "1" "Emma", blank "2", book "1" "Ivanhoe", book "2" "Persuasion"]

/-- The book without a title stops the strict way, and does not reserve its number. -/
theorem ofItemsPartial_agrees_donation : ∃ c rejections,
    ofItemsPartial "shelf" library donation = (c, rejections)
      ∧ c.items = [book "1" "Emma", book "2" "Persuasion"]
      ∧ rejections.map (·.id) = [⟨"2"⟩, ⟨"1"⟩]
      ∧ ofItems "shelf" library donation
        = .error ((Schema.violationError "title" .missing).withItem "2")
      ∧ ofItems "shelf" library c.items = .ok c := by
  have hparts : ofItemsPartial "shelf" library donation = (_, _) :=
    (Prod.mk.eta (p := ofItemsPartial "shelf" library donation)).symm
  obtain ⟨-, hfails, -, hagain⟩ := ofItemsPartial_agrees hparts
  have hrejections : (ofItemsPartial "shelf" library donation).2
      = [⟨⟨"2"⟩, (Schema.violationError "title" .missing).withItem "2"⟩,
        ⟨⟨"1"⟩, Cause.duplicateItem "1"⟩] := by
    decide +kernel
  have hitems : (ofItemsPartial "shelf" library donation).1.items
      = [book "1" "Emma", book "2" "Persuasion"] := by
    decide +kernel
  exact ⟨_, _, hparts, hitems, congrArg (List.map (·.id)) hrejections, hfails _ _ hrejections,
    hagain⟩

end Catalog

end Ensemble
