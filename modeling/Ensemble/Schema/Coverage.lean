import Ensemble.Value.Extremes
import Ensemble.Document.Record
import Ensemble.Error.Violation

/-!
# Coverage values

A coverage value is a list of entries, each a map with the `parts` that an item covers and the
`layer` it covers them at.  An item may have several entries, such as the body of a jacket on one
layer and its sleeves on another.  `Coverage.parse` reads such a value, `Coverage.toValue` writes
it, and `Coverage.flatten` gives the layer of each part.
-/

namespace Ensemble

/-- Parts that are covered at one height. -/
structure CoverageLayer where
  parts : List String
  layer : Float
  deriving BEq

/-- The entries of a coverage value. -/
abbrev Coverage := List CoverageLayer

namespace CoverageLayer

/-- The attribute form of an entry. -/
def toValue (entry : CoverageLayer) : Value :=
  .map [("layer", .float entry.layer), ("parts", .list (entry.parts.map .string))]

/-! ## Reading attribute values -/

/-- The texts of a list of values, or the type of the first one that is not a text. -/
def texts : List Value → Except ValueType (List String)
  | [] => .ok []
  | .string s :: rest => (texts rest).map (s :: ·)
  | v :: _ => .error v.type

/-- The parts of an entry: a list of texts that is not empty. -/
def parseParts (entries : Entries Value) : Except String (List String) :=
  match entries.get? "parts" with
  | none => .error "missing `parts`"
  | some (.list []) => .error "`parts` must not be empty"
  | some (.list items) =>
    (texts items).mapError fun type => "`parts` must hold strings, got " ++ type.name
  | some _ => .error "`parts` must be a list of strings"

/-- The layer of an entry: a finite number that is not negative.  A negative zero becomes zero. -/
def parseLayer (entries : Entries Value) : Except String Float :=
  match entries.get? "layer" with
  | none => .error "missing `layer`"
  | some v =>
    match v.number? with
    | none => .error ("`layer` must be a number, got " ++ v.type.name)
    | some x =>
      if !x.isFinite || x < 0 then
        .error ("`layer` must be a finite number >= 0, got " ++ displayFloat x)
      else .ok (x + 0)

/-- An entry of a coverage value, or what is wrong with it. -/
def parse (v : Value) : Except String CoverageLayer :=
  match v with
  | .map entries => do return ⟨← parseParts entries, ← parseLayer entries⟩
  | v => .error ("expected a map, got " ++ v.type.name)

/-! ## Documents -/

/-- The document of an entry. -/
def toDocument (entry : CoverageLayer) : Document :=
  Document.ofFields
    [("parts", Document.ofTexts entry.parts), ("layer", Document.ofFloat entry.layer)]

namespace Field

/-- The covered parts. -/
def parts : Field (List String) := .required "parts" (Document.toList Document.toText)

/-- The height. -/
def layer : Field Float := .required "layer" Document.toNumber

end Field

/-- The entry that a document holds.  Parts and layer are not checked further. -/
def ofDocument (d : Document) : Except Fault CoverageLayer := do
  let fields ← Record.read .ignored [Field.parts.check, Field.layer.check] d
  return ⟨← Field.parts.of fields, ← Field.layer.of fields⟩

end CoverageLayer

namespace Coverage

/-- The entries from a position on, or the first one that is malformed. -/
def parseFrom (index : Nat) : List Value → Except Violation Coverage
  | [] => .ok []
  | v :: rest =>
    match CoverageLayer.parse v with
    | .error message => .error (.coverageShape index message)
    | .ok entry => (parseFrom (index + 1) rest).map (entry :: ·)

/-- The entries of an attribute value. -/
def parse (v : Value) : Except Violation Coverage :=
  match v with
  | .list items => parseFrom 0 items
  | v => .error (.wrongType .list v.type)

/-- The attribute form of a coverage. -/
def toValue (coverage : Coverage) : Value := .list (coverage.map CoverageLayer.toValue)

/-- Every part named by an entry with that entry's layer, in order. -/
def assignments (coverage : Coverage) : List (String × Float) :=
  coverage.flatMap fun entry => entry.parts.map (·, entry.layer)

/-- The layer of each covered part: the highest one when several entries name it. -/
def flatten (coverage : Coverage) : Dictionary Float :=
  coverage.assignments.foldl
    (fun layers (part, layer) =>
      layers.insert part (match layers.get? part with
        | some highest => greaterFloat highest layer
        | none => layer))
    .empty

/-- The covered parts in the order in which they are named, each once. -/
def parts (coverage : Coverage) : List String := (coverage.flatMap (·.parts)).eraseDups

end Coverage

end Ensemble
