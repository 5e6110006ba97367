import Netlister.Text.DefaultIgnorable
import Netlister.Text.GraphemeExtend
import Netlister.Text.Unprintable

/-! # Quoted text

  A string as it is shown inside a message: between double quotes, with

  - a backslash before a double quote and before a backslash;
  - `\0`, `\t`, `\n` and `\r` for the four control characters of these names;
  - `\u` and the code point in hexadecimal, in braces, for every other character
    that is unprintable or ignorable, or would be drawn onto the character before
    it (the halfwidth sound marks extend it, but stand beside it);
  - every other character as it is.
-/

namespace Netlister.Text

/-- Whether a character is the halfwidth mark of a voiced or semi-voiced sound. -/
def isHalfwidthSoundMark (c : Char) : Bool := c = '\uff9e' || c = '\uff9f'

/-- Whether a character is drawn onto the one before it. -/
def isOverlaid (c : Char) : Bool := isGraphemeExtend c && !isHalfwidthSoundMark c

/-- How one character is written between double quotes. -/
def quotedChar (c : Char) : List Char :=
  if c = '\x00' then ['\\', '0']
  else if c = '\t' then ['\\', 't']
  else if c = '\n' then ['\\', 'n']
  else if c = '\r' then ['\\', 'r']
  else if c = '"' then ['\\', '"']
  else if c = '\\' then ['\\', '\\']
  else if isOverlaid c || isUnprintable c || isDefaultIgnorable c then
    ['\\', 'u', '\x7b'] ++ Nat.toDigits 16 c.toNat ++ ['\x7d']
  else [c]

/-- A string between double quotes, so that every character of it can be seen. -/
def quoted (s : String) : String :=
  String.ofList ('"' :: s.toList.flatMap quotedChar ++ ['"'])

end Netlister.Text
