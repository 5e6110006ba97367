import Netlister.Decimal.Shortest
import Netlister.NameMap

/-! # JSON values

  A number is kept as a signed 64-bit integer where it is one, else as an
  unsigned 64-bit integer, else as a float. The members of an object ascend by
  key, each key once.
-/

namespace Netlister

/-- The least number beyond the signed 64-bit integers. -/
def Json.signedLimit : Nat := 0x8000000000000000

/-- A number in a JSON text. -/
inductive Json.Number where
  /-- An integer in the signed 64-bit range. -/
  | int (n : Int64)
  /-- An integer in the unsigned 64-bit range only. -/
  | large (n : { n : UInt64 // Json.signedLimit ≤ n.toNat })
  /-- Any other number, as the float it was read as. -/
  | float (x : Float)

/-- A JSON value. -/
inductive Json where
  | null
  | bool (b : Bool)
  | number (n : Json.Number)
  | string (s : String)
  | array (elements : List Json)
  /-- The members, in ascending order of their keys. -/
  | object (members : List (String × Json))

namespace Json

/-! ### Numbers as text -/

/-- Zeros in a row. -/
def zeros (n : Nat) : List Char := List.replicate n '0'

/-- The text of the positive decimal `digits * 10 ^ k`. It is positional from
    `10 ^ -5` to below `10 ^ 16` and then always has a point; else it has one
    digit before the point and a signed exponent. -/
def decimalText (digits : Nat) (k : Int) : List Char :=
  let ds := Nat.toDigits 10 digits
  let point : Int := ds.length + k
  if 16 < point || point ≤ -5 then
    let mantissa := match ds with
      | d :: e :: rest => d :: '.' :: e :: rest
      | _ => ds
    let sign := if point ≤ 0 then '-' else '+'
    mantissa ++ 'e' :: sign :: Nat.toDigits 10 (point - 1).natAbs
  else if 0 ≤ k then ds ++ zeros k.toNat ++ ['.', '0']
  else if 0 < point then ds.take point.toNat ++ '.' :: ds.drop point.toNat
  else ['0', '.'] ++ zeros (-point).toNat ++ ds

/-- The text of a float, in the fewest digits that read back. -/
def floatText (x : Float) : String :=
  let negative := x.toBits >>> 63 = 1
  let magnitude :=
    if x == 0 then ['0', '.', '0']
    else
      let (digits, k) := (Decimal.Dyadic.ofFloat x).shortest
      decimalText digits k
  String.ofList (if negative then '-' :: magnitude else magnitude)

/-- The text of a number. -/
def Number.text : Number → String
  | int n => toString n.toInt
  | large n => toString n.val.toNat
  | float x => floatText x

/-! ### Values as text -/

/-- How a character is written inside a JSON string. -/
def escapedChar (c : Char) : List Char :=
  if c = '"' then ['\\', '"']
  else if c = '\\' then ['\\', '\\']
  else if c = '\x08' then ['\\', 'b']
  else if c = '\x0c' then ['\\', 'f']
  else if c = '\n' then ['\\', 'n']
  else if c = '\r' then ['\\', 'r']
  else if c = '\t' then ['\\', 't']
  else if c.toNat < 0x20 then
    ['\\', 'u', '0', '0', Nat.digitChar (c.toNat / 16), Nat.digitChar (c.toNat % 16)]
  else [c]

/-- A string as JSON writes it. -/
def stringText (s : String) : String :=
  String.ofList ('"' :: s.toList.flatMap escapedChar ++ ['"'])

mutual

/-- The text of a value, without any blanks. -/
def text : Json → String
  | null => "null"
  | bool b => if b then "true" else "false"
  | number n => n.text
  | string s => stringText s
  | array elements => "[" ++ elementsText elements ++ "]"
  | object members => "\x7b" ++ membersText members ++ "\x7d"

/-- The texts of elements, divided by commas. -/
def elementsText : List Json → String
  | [] => ""
  | [j] => j.text
  | j :: k :: js => j.text ++ "," ++ elementsText (k :: js)

/-- The texts of members, divided by commas. -/
def membersText : List (String × Json) → String
  | [] => ""
  | [(key, j)] => stringText key ++ ":" ++ j.text
  | (key, j) :: m :: ms => stringText key ++ ":" ++ j.text ++ "," ++ membersText (m :: ms)

end

end Json

end Netlister
