import Netlister.Text.Pattern.Reader
import Netlister.Text.Pattern.Support

/-! # Patterns that are accepted -/

namespace Netlister.Text

/-- How deep the parts of a pattern may be nested. -/
def Pattern.depthLimit : Nat := 250

/-- Whether a text is a pattern that can be matched. -/
def isPattern (cs : List Char) : Bool :=
  (Pattern.Tree.read cs).any fun tree => tree.depth ≤ Pattern.depthLimit && tree.isSupported

end Netlister.Text
