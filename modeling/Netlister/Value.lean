import Netlister.AttributeType
import Netlister.Text.Quoted

/-! # Values of attributes

  A value is a truth value, a signed 64-bit integer, a string or an array of
  values. The array may hold values of different kinds; then it has no type.
-/

namespace Netlister

/-- The value of an attribute. -/
inductive Value where
  /-- A truth value. -/
  | bool (b : Bool)
  /-- A signed 64-bit integer. -/
  | int (n : Int64)
  /-- A string. -/
  | string (s : String)
  /-- An array of values. -/
  | array (elements : List Value)
deriving Inhabited

namespace Value

/-! ### The type of a value -/

mutual

/-- The type of a value. An array has one only if it is not empty and all its
    elements have one and the same type. -/
def type? : Value → Option AttributeType
  | bool _ => some .bool
  | int _ => some .int
  | string _ => some .string
  | array elements => (commonType? elements).map .array

/-- The type that all values of a non-empty list have. -/
def commonType? : List Value → Option AttributeType
  | [] => none
  | [v] => v.type?
  | v :: w :: vs => if v.type? = commonType? (w :: vs) then v.type? else none

end

/-! ### The text of a value -/

mutual

/-- How a value is shown in messages: strings quoted, arrays in brackets. -/
def text : Value → String
  | bool b => if b then "true" else "false"
  | int n => toString n.toInt
  | string s => Text.quoted s
  | array elements => "[" ++ listText elements ++ "]"

/-- The texts of values, divided by commas. -/
def listText : List Value → String
  | [] => ""
  | [v] => v.text
  | v :: w :: vs => v.text ++ ", " ++ listText (w :: vs)

end

/-! ### Views -/

/-- The truth value that a value is. -/
def asBool? : Value → Option Bool
  | bool b => some b
  | _ => none

/-- The integer that a value is. -/
def asInt? : Value → Option Int64
  | int n => some n
  | _ => none

/-- The string that a value is. -/
def asString? : Value → Option String
  | string s => some s
  | _ => none

end Value

end Netlister
