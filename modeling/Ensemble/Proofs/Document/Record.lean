import Ensemble.Document.Record
import Ensemble.Proofs.Dictionary
import Ensemble.Proofs.Except
import Mathlib.Algebra.Order.Ring.Nat

/-!
# Printed records

A record is printed as the object of its fields, without those that have no value.  It is read again
if each of its fields is: the fields of an object are found by their names, and those of an array by
their places.
-/

namespace Ensemble

/-! ## Well-formed documents -/

namespace Document

/-- What can be the data of a text: whole numbers fit the signed or the unsigned words of 64 bits,
other numbers are finite, and keys ascend. -/
inductive WellFormed : Document → Prop
  | null : WellFormed .null
  | bool (b : Bool) : WellFormed (.bool b)
  | whole {n : Int} (hlow : -2 ^ 63 ≤ n) (hhigh : n < 2 ^ 64) : WellFormed (.whole n)
  | real {x : Float} (h : x.isFinite = true) : WellFormed (.real x)
  | text (s : String) : WellFormed (.text s)
  | array {elements : List Document} (h : ∀ d ∈ elements, WellFormed d) :
    WellFormed (.array elements)
  | object {fields : List (String × Document)} (hkeys : Entries.Ascending fields)
    (h : ∀ f ∈ fields, WellFormed f.2) : WellFormed (.object fields)

/-- A record is printed as a well-formed document if its fields are. -/
theorem wellFormed_ofFields_present {table : List (String × Option Document)}
    (hkeys : (table.map (·.1)).Nodup) (h : ∀ row ∈ table, ∀ d ∈ row.2, WellFormed d) :
    (ofFields (Entries.present table)).WellFormed := by
  refine .object (Entries.ascending_ofList _) fun field hfield => ?_
  exact h _ ((Entries.mem_ofList_present hkeys).1 hfield) _ rfl

theorem wellFormed_ofTexts (texts : List String) : (ofTexts texts).WellFormed :=
  .array fun d hd => by
    obtain ⟨s, -, rfl⟩ := List.mem_map.1 hd
    exact .text s

/-! ## Plain values -/

variable {α : Type} {read : Document → Except Fault α}

/-- A list is read again if its elements are. -/
theorem toList_map {write : α → Document} {xs : List α} (h : ∀ a ∈ xs, read (write a) = .ok a) :
    toList read (.array (xs.map write)) = .ok xs := by
  show (xs.map write).mapM read = .ok xs
  rw [mapM_eq_ok_iff, List.forall₂_map_left_iff, List.forall₂_same]
  exact h

theorem toList_toText_ofTexts (texts : List String) :
    toList toText (ofTexts texts) = .ok texts :=
  toList_map fun _ _ => rfl

theorem toBool_bool (b : Bool) : toBool (.bool b) = .ok b := rfl

theorem toCount_ofNat {n : Nat} (h : n < UInt64.size) : toCount (.ofNat n) = .ok n := by
  show (if n < UInt64.size then Except.ok n else .error Fault.invalid) = .ok n
  rw [if_pos h]

theorem toWord_ofNat (w : UInt64) : toWord (.ofNat w.toNat) = .ok w := by
  rw [toWord, toCount_ofNat w.toNat_lt]
  exact congrArg Except.ok (UInt64.ofNat_toNat)

theorem toNumber_ofFloat {x : Float} (h : x.isFinite = true) : toNumber (.ofFloat x) = .ok x := by
  rw [ofFloat, if_pos h]
  rfl

theorem toText_eq_ok_iff {d : Document} {s : String} : toText d = .ok s ↔ d = .text s := by
  cases d <;> simp [toText]

theorem toList_eq_ok_iff {d : Document} {xs : List α} :
    toList read d = .ok xs ↔ ∃ elements, d = .array elements ∧ elements.mapM read = .ok xs := by
  cases d <;> simp [toList]

theorem toVariant_text {variant? : String → Option α} {name : String} {a : α}
    (h : variant? name = some a) : toVariant variant? (.text name) = .ok a := by
  simp only [toVariant, toVariant.named, h]

theorem toOption_eq_ok_some {d : Document} {a : α} (hnull : d ≠ .null) (h : read d = .ok a) :
    toOption read d = .ok (some a) := by
  cases d with
  | null => exact absurd rfl hnull
  | _ => simp only [toOption, h]; rfl

theorem of_toOption_eq_ok_some {d : Document} {a : α} (h : toOption read d = .ok (some a)) :
    read d = .ok a := by
  cases d with
  | null => cases h
  | _ =>
    obtain ⟨b, hread, hb⟩ := map_eq_ok_iff.1 h
    exact Option.some.inj hb ▸ hread

end Document

/-! ## Fields -/

namespace Field

variable {α : Type} {f : Field α} {a : α} {es : Entries Document}
  {table : List (String × Option Document)}

/-- What is read of a field was written under its name, or stands for a missing one. -/
theorem exists_of_of (h : f.of es = .ok a) :
    (∃ d, es.get? f.name = some d ∧ f.read d = .ok a) ∨
      es.get? f.name = none ∧ f.absent = some a := by
  unfold Field.of at h
  cases hd : es.get? f.name with
  | some d =>
    rw [hd] at h
    exact .inl ⟨d, rfl, h⟩
  | none =>
    cases ha : f.absent with
    | none =>
      rw [hd, ha] at h
      cases h
    | some b =>
      rw [hd, ha] at h
      exact .inr ⟨rfl, congrArg some (Except.ok.inj h)⟩

theorem exists_of_required {name : String} {read : Document → Except Fault α}
    (h : (Field.required name read).of es = .ok a) :
    ∃ d, es.get? name = some d ∧ read d = .ok a := by
  obtain hd | ⟨-, habsent⟩ := exists_of_of h
  · exact hd
  · cases habsent

/-- A field that was written is read again if its value is. -/
theorem of_present {d : Document} (hkeys : (table.map (·.1)).Nodup)
    (h : (f.name, some d) ∈ table) (hread : f.read d = .ok a) :
    f.of (Entries.ofList (Entries.present table)) = .ok a := by
  unfold Field.of
  rw [Entries.get?_present hkeys h]
  exact hread

/-- An optional field is read again, whether it was written or not. -/
theorem optional_of_present {name : String} {read : Document → Except Fault α} {x : Option α}
    {write : α → Document} (hkeys : (table.map (·.1)).Nodup) (h : (name, x.map write) ∈ table)
    (hread : ∀ a ∈ x, write a ≠ .null ∧ read (write a) = .ok a) :
    (Field.optional name read).of (Entries.ofList (Entries.present table)) = .ok x := by
  unfold Field.of
  rw [show (Field.optional name read).name = name from rfl, Entries.get?_present hkeys h]
  cases x with
  | none => rfl
  | some a => exact Document.toOption_eq_ok_some (hread a rfl).1 (hread a rfl).2

/-- A field that is read passes its check. -/
theorem run_check (hes : es.Ascending) (h : f.of es = .ok a) {d : Document}
    (hd : (f.check.name, d) ∈ es) : f.check.run d = .ok () := by
  have hfound : es.get? f.name = some d := hes.get?_eq_some_iff.2 hd
  have hread : f.read d = .ok a := by
    obtain ⟨d', hd', hread⟩ | ⟨hnone, -⟩ := exists_of_of h
    · rw [hfound] at hd'
      exact Option.some.inj hd' ▸ hread
    · rw [hfound] at hnone
      cases hnone
  show (f.read d).map (fun _ => ()) = .ok ()
  rw [hread]
  rfl

end Field

/-! ## Records -/

/-- The member of a document with a name: the field of an object, or the element of an array at the
place of the name. -/
def Document.member? (names : List String) (name : String) : Document → Option Document
  | .object fields => Entries.get? fields name
  | .array elements => Entries.get? (names.zip elements) name
  | _ => none

theorem Document.WellFormed.of_member? {names : List String} {name : String} {d e : Document}
    (hd : d.WellFormed) (h : d.member? names name = some e) : e.WellFormed := by
  cases hd with
  | object _ hfields => exact hfields _ (Entries.mem_of_get? h)
  | array helements => exact helements e (List.of_mem_zip (Entries.mem_of_get? h)).2
  | _ => cases h

namespace Record

variable {extra : Extra} {checks : List FieldCheck} {d : Document} {fields : Entries Document}

theorem checkField_eq_ok {field : String × Document} {check : FieldCheck}
    (hmem : check ∈ checks) (hname : check.name = field.1)
    (hrun : ∀ check ∈ checks, check.name = field.1 → check.run field.2 = .ok ()) :
    checkField extra checks field = .ok () := by
  unfold checkField
  cases hfind : checks.find? (·.name = field.1) with
  | none =>
    have hnone := List.find?_eq_none.1 hfind check hmem
    exact absurd (decide_eq_true hname) hnone
  | some found =>
    have hnamed := List.find?_some hfind
    exact hrun found (List.mem_of_find?_eq_some hfind) (by simpa using hnamed)

/-- A printed record is read if its keys are the names of the fields, all of which pass. -/
theorem read_present {table : List (String × Option Document)}
    (hkeys : (table.map (·.1)).Nodup) (hnames : table.map (·.1) = checks.map (·.name))
    (hrun : ∀ check ∈ checks, ∀ {d},
      (check.name, d) ∈ Entries.ofList (Entries.present table) → check.run d = .ok ()) :
    read extra checks (Document.ofFields (Entries.present table))
      = .ok (Entries.ofList (Entries.present table)) := by
  have hchecked : (Entries.ofList (Entries.present table)).forM (checkField extra checks)
      = .ok () := by
    refine forM_eq_ok_iff.2 fun field hfield => ?_
    obtain ⟨check, hcheck, hname⟩ : ∃ check ∈ checks, check.name = field.1 := by
      rw [← List.mem_map, ← hnames]
      exact List.mem_map_of_mem ((Entries.mem_ofList_present hkeys).1 hfield)
    exact checkField_eq_ok hcheck hname fun c hc hcname => hrun c hc (hcname ▸ hfield)
  simp only [Document.ofFields, read, hchecked]
  rfl

/-! ## Records that are printed in full -/

/-- A field with a value, and with a document that it reads this value from. -/
structure Cell where
  {α : Type}
  field : Field α
  value : α
  document : Document
  reads : field.read document = .ok value

/-- A record is read again if it is printed with a cell for each of its fields. -/
theorem exists_read_cells (extra : Extra) (cells : List Cell)
    (hkeys : (cells.map (·.field.name)).Nodup) :
    ∃ fields, read extra (cells.map (·.field.check))
        (Document.ofFields (cells.map fun cell => (cell.field.name, cell.document))) = .ok fields ∧
      ∀ cell ∈ cells, cell.field.of fields = .ok cell.value := by
  let table := cells.map fun cell => (cell.field.name, some cell.document)
  have htable : Entries.present table = cells.map fun cell => (cell.field.name, cell.document) := by
    simp [table, Entries.present, List.filterMap_map]
  have hnames : table.map (·.1) = cells.map (·.field.name) := by
    simp [table]
  have hof : ∀ cell ∈ cells,
      cell.field.of (Entries.ofList (Entries.present table)) = .ok cell.value := by
    intro cell hcell
    have hrow : (cell.field.name, some cell.document) ∈ table := List.mem_map_of_mem hcell
    exact Field.of_present (hnames ▸ hkeys) hrow cell.reads
  have hchecks : table.map (·.1) = (cells.map (·.field.check)).map (·.name) := by
    rw [hnames, List.map_map]
    rfl
  rw [← htable]
  refine ⟨_, read_present (hnames ▸ hkeys) hchecks ?_, hof⟩
  intro check hcheck d hd
  obtain ⟨cell, hcell, rfl⟩ := List.mem_map.1 hcheck
  exact Field.run_check (Entries.ascending_ofList _) (hof cell hcell) hd

/-! ## Members -/

/-- The elements of an array are read as the fields at their places. -/
theorem readElements_eq : ∀ {checks : List FieldCheck} {ds : List Document}
    {fields : Entries Document}, readElements checks ds = .ok fields →
      fields = (checks.map (·.name)).zip ds
  | [], [], _, h => (Except.ok.inj h).symm
  | [], _ :: _, _, h => nomatch h
  | check :: checks, [], fields, h => by
    rw [readElements] at h
    split at h
    · cases h
    · rw [readElements_eq h]
      simp
  | check :: checks, d :: ds, fields, h => by
    rw [readElements] at h
    obtain ⟨-, -, h⟩ := bind_eq_ok_iff.1 h
    obtain ⟨rest, hrest, h⟩ := bind_eq_ok_iff.1 h
    rw [← Except.ok.inj h, readElements_eq hrest]
    rfl

/-- The fields that are read of a record are the members of its document. -/
theorem get?_of_read (h : read extra checks d = .ok fields) (name : String) :
    fields.get? name = d.member? (checks.map (·.name)) name := by
  cases d with
  | object es =>
    obtain ⟨-, -, h⟩ := bind_eq_ok_iff.1 h
    rw [← Except.ok.inj h]
    rfl
  | array elements =>
    rw [readElements_eq h]
    rfl
  | _ => cases h

theorem wellFormed_of_get? (hd : d.WellFormed) (h : read extra checks d = .ok fields)
    {name : String} {e : Document} (he : fields.get? name = some e) : e.WellFormed :=
  hd.of_member? (get?_of_read h name ▸ he)

end Record

end Ensemble
