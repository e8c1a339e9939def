import Ensemble.Document.Basic

/-!
# Reading records from documents

A record is written as an object with named fields, or as an array of their values in the order in
which the record declares them.  `Record.read` checks what is there and stops at the first fault:
the fields of an object in key order, the elements of an array from the front.  `Field.of` then
takes the fields one by one, in the order of declaration, and reports the ones that an object lacks.
-/

namespace Ensemble

/-- What is wrong with a document that should hold a record. -/
inductive Fault where
  /-- A value of the wrong shape. -/
  | invalid
  | unknownField (name : String)
  | unknownVariant (name : String)
  | missingField (name : String)
  /-- A value of the right shape that is refused for another reason. -/
  | refused (message : String)
  deriving DecidableEq, Repr

namespace Fault

/-- The message for a fault. -/
def message : Fault → String
  | .invalid => "invalid"
  | .unknownField name => "unknown field `" ++ name ++ "`"
  | .unknownVariant name => "unknown variant `" ++ name ++ "`"
  | .missingField name => "missing field `" ++ name ++ "`"
  | .refused message => message

end Fault

namespace Document

/-! ## Plain values -/

/-- A truth value. -/
def toBool : Document → Except Fault Bool
  | .bool b => .ok b
  | _ => .error .invalid

/-- A text. -/
def toText : Document → Except Fault String
  | .text s => .ok s
  | _ => .error .invalid

/-- A number, whole or real. -/
def toNumber (d : Document) : Except Fault Float :=
  match d.number? with
  | some x => .ok x
  | none => .error .invalid

/-- A whole number that is not negative and fits an unsigned word of 64 bits. -/
def toCount (d : Document) : Except Fault Nat :=
  match d.count? with
  | some n => if n < UInt64.size then .ok n else .error .invalid
  | none => .error .invalid

/-- A whole number that is not negative, as an unsigned word of 64 bits. -/
def toWord (d : Document) : Except Fault UInt64 := (toCount d).map UInt64.ofNat

/-- An array whose elements are all read alike. -/
def toList {α : Type} (read : Document → Except Fault α) : Document → Except Fault (List α)
  | .array elements => elements.mapM read
  | _ => .error .invalid

/-- A value or null. -/
def toOption {α : Type} (read : Document → Except Fault α) : Document → Except Fault (Option α)
  | .null => .ok none
  | d => (read d).map some

/-- One of several names.  The name may also be the key of an object whose only value is null. -/
def toVariant {α : Type} (variant? : String → Option α) : Document → Except Fault α
  | .text name => named name
  | .object [(name, body)] => do
    let variant ← named name
    match body with
    | .null => return variant
    | _ => throw .invalid
  | _ => .error .invalid
where
  /-- The variant of a name. -/
  named (name : String) : Except Fault α :=
    match variant? name with
    | some variant => .ok variant
    | none => .error (.unknownVariant name)

end Document

/-! ## Fields -/

/-- A named field of a record. -/
structure Field (α : Type) where
  name : String
  /-- Reads the value when the field is there. -/
  read : Document → Except Fault α
  /-- The value when the field is not there; a required field has none. -/
  absent : Option α

/-- What is checked of a field before a record is put together. -/
structure FieldCheck where
  name : String
  /-- Whether there is no default. -/
  isRequired : Bool
  /-- That the value can be read. -/
  run : Document → Except Fault Unit

namespace Field

variable {α : Type}

/-- A field that has to be there. -/
def required (name : String) (read : Document → Except Fault α) : Field α := ⟨name, read, none⟩

/-- A field that stands for a default when it is not there. -/
def defaulted (name : String) (absent : α) (read : Document → Except Fault α) : Field α :=
  ⟨name, read, some absent⟩

/-- A field that may be missing or null. -/
def optional (name : String) (read : Document → Except Fault α) : Field (Option α) :=
  ⟨name, Document.toOption read, some none⟩

/-- The check of a field. -/
def check (f : Field α) : FieldCheck :=
  ⟨f.name, f.absent.isNone, fun d => (f.read d).map fun _ => ()⟩

/-- The value of the field in the fields of an object. -/
def of (f : Field α) (fields : Entries Document) : Except Fault α :=
  match fields.get? f.name, f.absent with
  | some d, _ => f.read d
  | none, some absent => .ok absent
  | none, none => .error (.missingField f.name)

end Field

/-- What happens to fields that a record does not declare. -/
inductive Extra where
  | ignored
  | refused
  deriving DecidableEq, Repr

namespace Record

/-- Checks one field of an object. -/
def checkField (extra : Extra) (checks : List FieldCheck) (field : String × Document) :
    Except Fault Unit :=
  match checks.find? (·.name = field.1), extra with
  | some check, _ => check.run field.2
  | none, .ignored => .ok ()
  | none, .refused => .error (.unknownField field.1)

/-- The elements of an array under the names of the fields, one after the other.  Fields that have
defaults may be left out at the end. -/
def readElements : List FieldCheck → List Document → Except Fault (Entries Document)
  | [], [] => .ok []
  | [], _ :: _ => .error .invalid
  | check :: checks, [] => if check.isRequired then .error .invalid else readElements checks []
  | check :: checks, d :: ds => do
    check.run d
    return (check.name, d) :: (← readElements checks ds)

/-- The fields of a record, all of them readable. -/
def read (extra : Extra) (checks : List FieldCheck) : Document → Except Fault (Entries Document)
  | .object fields => do
    fields.forM (checkField extra checks)
    return fields
  | .array elements => readElements checks elements
  | _ => .error .invalid

end Record

end Ensemble
