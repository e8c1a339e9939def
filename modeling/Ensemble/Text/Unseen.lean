import Ensemble.Text.Unseen.Extending
import Ensemble.Text.Unseen.Formless
import Ensemble.Text.Unseen.Ignorable

/-!
# Characters not seen for what they are

Printed as they are, such characters cannot be told apart from their neighbours, or not be seen at
all.
-/

namespace Ensemble.Text

/-- Whether a character only extends the one before it, is ignored on display or has no form of its
own. -/
def isUnseen (c : Char) : Bool :=
  extending.contains c || ignorable.contains c || formless.contains c

end Ensemble.Text
