/-! # Reading a decimal as a float

  A decimal is kept as its leading digits, as many as fit in 64 bits, and a power
  of ten. The digits are rounded to a float first, which is then multiplied or
  divided by the power of ten, with one rounding for each step.
-/

namespace Netlister.Decimal

/-- The number `digits * 10 ^ exponent`. -/
structure Scaled where
  /-- The leading digits. -/
  digits : Nat
  /-- The power of ten that scales them. -/
  exponent : Int

/-- Whether digits fit in 64 bits. -/
def fits (digits : Nat) : Bool := digits < UInt64.size

/-- The value of a decimal digit. -/
def digitValue (c : Char) : Nat := c.toNat - '0'.toNat

/-- The digits of a whole number. From the first digit on that no longer fits,
    digits only count for the power of ten. -/
def Scaled.ofWhole (ds : List Char) : Scaled :=
  let rec go (x : Scaled) : List Char → Scaled
    | [] => x
    | d :: ds =>
      if x.exponent = 0 && fits (x.digits * 10 + digitValue d) then
        go ⟨x.digits * 10 + digitValue d, 0⟩ ds
      else go ⟨x.digits, x.exponent + 1⟩ ds
  go ⟨0, 0⟩ ds

/-- Adds the digits behind the point. From the first digit on that does not fit,
    digits are dropped. -/
def Scaled.withFraction (x : Scaled) : List Char → Scaled
  | [] => x
  | d :: ds =>
    if fits (x.digits * 10 + digitValue d) then
      withFraction ⟨x.digits * 10 + digitValue d, x.exponent - 1⟩ ds
    else x

/-- A power of ten that is within the range of floats. -/
def powerOfTen (k : Nat) : Float := Float.ofScientific 1 false k

/-- Divides by `10 ^ k`, in several steps if that is beyond the range of floats. -/
def divideByPower (x : Float) (k : Nat) : Float :=
  if k ≤ 308 then x / powerOfTen k
  else if x == 0 then x
  else divideByPower (x / powerOfTen 308) (k - 308)
termination_by k

/-- The float for a decimal; none if it is beyond the range of floats. -/
def Scaled.toFloat? (x : Scaled) : Option Float :=
  let digits := x.digits.toUInt64.toFloat
  if x.exponent < 0 then some (divideByPower digits (-x.exponent).toNat)
  else if 308 < x.exponent then if digits == 0 then some digits else none
  else
    let scaled := digits * powerOfTen x.exponent.toNat
    if scaled.isInf then none else some scaled

end Netlister.Decimal
