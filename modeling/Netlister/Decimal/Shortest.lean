/-! # The shortest decimal of a float

  A finite float is a whole number times a power of two. Of all decimals that
  round to it, the shortest is the one that lies on the coarsest grid of
  multiples of a power of ten; of two such neighbours the nearer is taken, and
  of two equally near the one with an even last digit. All comparisons are made
  in whole numbers.
-/

namespace Netlister.Decimal

/-- The positive number `mantissa * 2 ^ exponent`, as a float holds it. -/
structure Dyadic where
  /-- The whole number that is scaled. -/
  mantissa : Nat
  /-- The power of two that scales it. -/
  exponent : Int
  /-- Whether the float below is only half as far away as the one above. -/
  narrowBelow : Bool

/-- The number that the magnitude of a finite float is. -/
def Dyadic.ofFloat (x : Float) : Dyadic :=
  let biased := (x.toBits >>> 52 &&& 0x7ff).toNat
  let fraction := (x.toBits &&& 0xfffffffffffff).toNat
  { mantissa := if biased = 0 then fraction else fraction + 0x10000000000000
    exponent := (max biased 1 : Nat) - 1075
    narrowBelow := fraction = 0 && 1 < biased }

/-- The multiple of `10 ^ k` that rounds to the number and is nearest to it, in
    units of `10 ^ k`, if any multiple but zero rounds to it. The number and the
    ends of its interval are quarters of the mantissa's unit; the ends belong to
    the interval if the mantissa is even. -/
def Dyadic.onGrid? (x : Dyadic) (k : Int) : Option Nat :=
  let gridScale := Nat.pow 10 k.toNat * Nat.pow 2 (2 - x.exponent).toNat
  let valueScale := Nat.pow 2 (x.exponent - 2).toNat * Nat.pow 10 (-k).toNat
  let value := 4 * x.mantissa * valueScale
  let low := (4 * x.mantissa - if x.narrowBelow then 1 else 2) * valueScale
  let high := (4 * x.mantissa + 2) * valueScale
  let inside (n : Nat) : Bool :=
    if x.mantissa % 2 = 0 then low ≤ n * gridScale && n * gridScale ≤ high
    else low < n * gridScale && n * gridScale < high
  let below := value / gridScale
  let above := below + 1
  let toBelow := value - below * gridScale
  let toAbove := above * gridScale - value
  match 0 < below && inside below, inside above with
  -- Two neighbours round to the number: the nearer one, or else the even one.
  | true, true =>
    if toBelow < toAbove || (toBelow = toAbove && below % 2 = 0) then some below else some above
  | true, false => some below
  | false, true => some above
  | false, false => none

/-- The digits of the shortest decimal, and the power of ten that scales them.
    Every finite float lies on one of the grids that are tried. -/
def Dyadic.shortest (x : Dyadic) : Nat × Int :=
  ((List.range 700).findSome? fun (i : Nat) =>
    let k := 310 - (i : Int)
    (x.onGrid? k).map fun digits => (digits, k)).getD (0, 0)

end Netlister.Decimal
