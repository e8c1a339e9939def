import Ensemble.Dictionary

/-!
# Attribute values

A value is what an item stores under a dimension and what a rule passes to an operator.  There are
two comparisons: equality, which tells `2` and `2.0` apart and floats by their bits, and
`Value.sameAs`, which rules use and which matches an integer with a float of equal magnitude.
`Value.compare?` orders numbers across their kinds, and texts and flags among themselves.
-/

namespace Ensemble

/-! ## Types -/

/-- What kind of value something is. -/
inductive ValueType where
  | nil
  | bool
  | int
  | float
  | string
  | list
  | map
  deriving DecidableEq, Repr, Inhabited

namespace ValueType

/-- The name used in messages. -/
def name : ValueType → String
  | .nil => "nil"
  | .bool => "bool"
  | .int => "int"
  | .float => "float"
  | .string => "string"
  | .list => "list"
  | .map => "map"

/-- The type with a name. -/
def ofName? : String → Option ValueType
  | "nil" => some .nil
  | "bool" => some .bool
  | "int" => some .int
  | "float" => some .float
  | "string" => some .string
  | "list" => some .list
  | "map" => some .map
  | _ => none

/-- Whether a value of type `actual` may stand where `expected` is declared: an integer may stand
for a float, otherwise the types must agree. -/
def accepts (expected actual : ValueType) : Bool :=
  expected == actual || (expected == .float && actual == .int)

end ValueType

/-! ## Values -/

/-- An attribute value. -/
inductive Value where
  /-- No value. -/
  | nil
  | bool (flag : Bool)
  | int (n : Int64)
  | float (x : Float)
  | string (text : String)
  | list (items : List Value)
  /-- Values under keys; every map built by this library has its keys in ascending order. -/
  | map (entries : List (String × Value))
  deriving Inhabited

namespace Value

/-- The kind of a value. -/
def type : Value → ValueType
  | .nil => .nil
  | .bool _ => .bool
  | .int _ => .int
  | .float _ => .float
  | .string _ => .string
  | .list _ => .list
  | .map _ => .map

/-- Whether there is no value. -/
def isNil : Value → Bool
  | .nil => true
  | _ => false

/-- The flag of a flag. -/
def bool? : Value → Option Bool
  | .bool flag => some flag
  | _ => none

/-- The number of an integer. -/
def int? : Value → Option Int64
  | .int n => some n
  | _ => none

/-- The number of a float; integers do not count. -/
def float? : Value → Option Float
  | .float x => some x
  | _ => none

/-- The number of an integer or a float.  Integers beyond 2^53 are rounded. -/
def number? : Value → Option Float
  | .int n => some (Float.ofInt n.toInt)
  | .float x => some x
  | _ => none

/-- The text of a string. -/
def string? : Value → Option String
  | .string text => some text
  | _ => none

/-- The elements of a list. -/
def list? : Value → Option (List Value)
  | .list items => some items
  | _ => none

/-- The entries of a map. -/
def map? : Value → Option (Entries Value)
  | .map entries => some entries
  | _ => none

/-! ## Equality -/

mutual

/-- Whether two values are equal. -/
def beq : Value → Value → Bool
  | .nil, .nil => true
  | .bool a, .bool b => a == b
  | .int a, .int b => a == b
  | .float a, .float b => decide (a = b)
  | .string a, .string b => a == b
  | .list a, .list b => beqItems a b
  | .map a, .map b => beqEntries a b
  | _, _ => false

/-- Whether two lists of values are equal. -/
def beqItems : List Value → List Value → Bool
  | [], [] => true
  | a :: as, b :: bs => beq a b && beqItems as bs
  | _, _ => false

/-- Whether two lists of entries are equal. -/
def beqEntries : List (String × Value) → List (String × Value) → Bool
  | [], [] => true
  | (k, a) :: as, (l, b) :: bs => k == l && beq a b && beqEntries as bs
  | _, _ => false

end

mutual

theorem beq_iff : (a b : Value) → (beq a b = true ↔ a = b)
  | .nil, b => by cases b <;> simp [beq]
  | .bool _, b => by cases b <;> simp [beq]
  | .int _, b => by cases b <;> simp [beq]
  | .float _, b => by cases b <;> simp [beq]
  | .string _, b => by cases b <;> simp [beq]
  | .list as, b => by cases b <;> simp [beq, beqItems_iff as]
  | .map as, b => by cases b <;> simp [beq, beqEntries_iff as]

theorem beqItems_iff : (as bs : List Value) → (beqItems as bs = true ↔ as = bs)
  | [], bs => by cases bs <;> simp [beqItems]
  | a :: as, [] => by simp [beqItems]
  | a :: as, b :: bs => by simp [beqItems, beq_iff a b, beqItems_iff as bs]

theorem beqEntries_iff : (as bs : List (String × Value)) → (beqEntries as bs = true ↔ as = bs)
  | [], bs => by cases bs <;> simp [beqEntries]
  | _ :: _, [] => by simp [beqEntries]
  | (k, a) :: as, (l, b) :: bs => by
    simp [beqEntries, beq_iff a b, beqEntries_iff as bs, and_assoc]

end

instance : DecidableEq Value := fun a b => decidable_of_iff (beq a b = true) (beq_iff a b)

/-- Equality as rules see it: an integer and a float match when their magnitudes are equal, other
values when they are equal. -/
def sameAs (a b : Value) : Bool :=
  match a, b with
  | .int n, .float y => Float.ofInt n.toInt == y
  | .float x, .int m => x == Float.ofInt m.toInt
  | a, b => a == b

/-! ## Order -/

/-- The order of two floats; a number that is not one has none. -/
def compareFloats? (x y : Float) : Option Ordering :=
  if x < y then some .lt else if y < x then some .gt else if x == y then some .eq else none

/-- The order of two values.  Numbers compare across their kinds, and flags, texts and absent values
among themselves; all other values are unordered. -/
def compare? (a b : Value) : Option Ordering :=
  match a, b with
  | .nil, .nil => some .eq
  | .bool a, .bool b => some (compare a b)
  | .int a, .int b => some (compare a b)
  | .string a, .string b => some (compare a b)
  | a, b =>
    match a.number?, b.number? with
    | some x, some y => compareFloats? x y
    | _, _ => none

end Value

end Ensemble
