import Ensemble.Schema.Coverage

/-!
# Part vocabularies

A vocabulary lists the parts that a coverage value is expected to name, and says whether other
parts are violations or are only reported.
-/

namespace Ensemble

/-- What a part outside the vocabulary means. -/
inductive VocabularyPolicy where
  /-- It is reported and accepted. -/
  | advisory
  /-- It is a violation. -/
  | enforced
  deriving DecidableEq, Repr

namespace VocabularyPolicy

/-- The name used in documents. -/
def name : VocabularyPolicy → String
  | .advisory => "advisory"
  | .enforced => "enforced"

/-- The policy with a name. -/
def ofName? : String → Option VocabularyPolicy
  | "advisory" => some .advisory
  | "enforced" => some .enforced
  | _ => none

end VocabularyPolicy

/-- The known parts and how strictly they are taken. -/
structure Vocabulary where
  known : Dictionary Unit
  policy : VocabularyPolicy
  deriving DecidableEq

namespace Vocabulary

/-- The vocabulary of the given parts. -/
def ofParts (parts : List String) (policy : VocabularyPolicy) : Vocabulary :=
  ⟨Dictionary.ofList (parts.map (·, ())), policy⟩

/-- Whether parts outside the vocabulary are violations. -/
def isEnforced (vocabulary : Vocabulary) : Bool := vocabulary.policy == .enforced

/-- The parts outside the vocabulary, in the order in which they are named, each once. -/
def unknownParts (vocabulary : Vocabulary) (coverage : Coverage) : List String :=
  coverage.parts.filter fun part => !vocabulary.known.contains part

/-! ## Documents -/

/-- The document of a vocabulary. -/
def toDocument (vocabulary : Vocabulary) : Document :=
  Document.ofFields
    [("parts", Document.ofTexts vocabulary.known.keys), ("policy", .text vocabulary.policy.name)]

namespace Field

/-- The known parts. -/
def parts : Field (List String) := .required "parts" (Document.toList Document.toText)

/-- How strictly they are taken. -/
def policy : Field VocabularyPolicy :=
  .defaulted "policy" .advisory (Document.toVariant VocabularyPolicy.ofName?)

end Field

/-- The vocabulary that a document holds. -/
def ofDocument (d : Document) : Except Fault Vocabulary := do
  let fields ← Record.read .refused [Field.parts.check, Field.policy.check] d
  return ofParts (← Field.parts.of fields) (← Field.policy.of fields)

end Vocabulary

end Ensemble
