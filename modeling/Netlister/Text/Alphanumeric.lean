import Netlister.Text.Alphabetic
import Netlister.Text.Numeric

/-! # Letters and numbers -/

namespace Netlister.Text

/-- Whether a character is a letter or a number. -/
def isAlphanumeric (c : Char) : Bool := isAlphabetic c || isNumeric c

end Netlister.Text
