import Stencil.Number.Binary64

/-!
# The fewest digits of a number

A finite number stands for the interval of reals that round to it.  The decimal chosen for it is
the nearest one among those of the fewest digits in that interval; everything is compared exactly.
-/

namespace Stencil.Number

/-- A decimal number: `digits * 10 ^ exponent`. -/
structure Decimal where
  digits : Nat
  exponent : Int
deriving DecidableEq, Repr, Inhabited

/-- Compares `a * 10 ^ i` with `b * 2 ^ j`. -/
def compareScaled (a : Nat) (i : Int) (b : Nat) (j : Int) : Ordering :=
  compare (a * tenTo i.toNat * twoTo (-j).toNat) (b * twoTo j.toNat * tenTo (-i).toNat)

/-- Whether a decimal rounds to `mantissa * 2 ^ exponent`.  The interval reaches half way to the
neighbours; the lower one is closer just above a power of two.  The ends belong to it when the
mantissa is even. -/
def Decimal.roundsTo (d : Decimal) (mantissa : Nat) (exponent : Int) : Bool :=
  let narrow := mantissa = twoTo 52 && Binary64.leastExponent < exponent
  let low := if narrow then 4 * mantissa - 1 else 4 * mantissa - 2
  let above := compareScaled d.digits d.exponent low (exponent - 2)
  let below := compareScaled d.digits d.exponent (4 * mantissa + 2) (exponent - 2)
  let closed := mantissa % 2 = 0
  (above == .gt || (closed && above == .eq)) && (below == .lt || (closed && below == .eq))

/-- The two decimals next to `mantissa * 2 ^ exponent` on the grid of a power of ten. -/
def neighbours (mantissa : Nat) (exponent grid : Int) : Decimal × Decimal :=
  let num := mantissa * twoTo exponent.toNat * tenTo (-grid).toNat
  let den := twoTo (-exponent).toNat * tenTo grid.toNat
  (⟨num / den, grid⟩, ⟨num / den + 1, grid⟩)

/-- The decimal on a grid that rounds to the number, the nearer one if both neighbours do. -/
def onGrid? (mantissa : Nat) (exponent grid : Int) : Option Decimal :=
  let (low, high) := neighbours mantissa exponent grid
  match low.roundsTo mantissa exponent, high.roundsTo mantissa exponent with
  | false, false => none
  | true, false => some low
  | false, true => some high
  | true, true =>
    match compareScaled (low.digits + high.digits) grid (2 * mantissa) exponent with
    | .gt => some low
    | .lt => some high
    | .eq => some (if low.digits % 2 = 0 then low else high)

/-- The least power of ten above a positive number, found upwards from a guess that is not too
large. -/
def scaleFrom (mantissa : Nat) (exponent : Int) : (fuel : Nat) → Int → Int
  | 0, guess => guess
  | fuel + 1, guess =>
    if compareScaled 1 guess mantissa exponent == .gt then guess
    else scaleFrom mantissa exponent fuel (guess + 1)

/-- The least power of ten above a positive number. -/
def scale (mantissa : Nat) (exponent : Int) : Int :=
  scaleFrom mantissa exponent 8 ((exponent + mantissa.log2) * 30103 / 100000 - 2)

/-- The same decimal with up to `limit` zeros at the end of its digits moved to the exponent. -/
def Decimal.stripZeros : (limit : Nat) → Decimal → Decimal
  | 0, d => d
  | limit + 1, d =>
    if d.digits % 10 = 0 then Decimal.stripZeros limit ⟨d.digits / 10, d.exponent + 1⟩ else d

/-- The decimal of the fewest digits for `mantissa * 2 ^ exponent`, which must not be zero. -/
def shortest (mantissa : Nat) (exponent : Int) : Decimal :=
  let top := scale mantissa exponent
  let found := (List.range 17).findSome? fun n => onGrid? mantissa exponent (top - (n : Nat) - 1)
  (found.getD (neighbours mantissa exponent (top - 17)).1).stripZeros 17

end Stencil.Number
