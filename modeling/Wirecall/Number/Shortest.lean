import Wirecall.Number.Binary64
import Wirecall.Number.Decimal

/-!
# The shortest decimal that reads back

Every finite number of the binary64 format owns an interval of reals, those that round to it. Among
the decimals inside that interval `shortest` takes one with the fewest digits, and among those the
nearest to the number; of two at the same distance the greater. All of it is exact arithmetic on
natural numbers: a decimal of a given number of digits inside the interval exists only if one of the
two grid points around the number lies inside.
-/

namespace Wirecall.Binary64

/-- The positive decimal `0.d₁d₂… * 10 ^ point`. Neither its first nor its last digit is zero. -/
structure ShortForm where
  digits : List Char
  point : Int
deriving DecidableEq

/-- A positive real as a fraction, together with the ends of an interval around it. The ends are
given in quarters of the least step, of which the number itself spans `quarters`. -/
structure Window where
  numerator : Nat
  denominator : Nat
  quarters : Nat
  low : Nat
  high : Nat
  /-- Whether the ends belong to the interval. -/
  closed : Bool

/-- The interval of reals that round to `significand * 2 ^ exponent`. Below a power of two the
numbers lie twice as close, except at the very bottom of the format. Ends round to even. -/
def window (significand : Nat) (exponent : Int) : Window where
  numerator := significand <<< exponent.toNat
  denominator := 1 <<< (-exponent).toNat
  quarters := 4 * significand
  low := if significand = leadingOne ∧ -1074 < exponent then 4 * significand - 1
    else 4 * significand - 2
  high := 4 * significand + 2
  closed := significand % 2 == 0

namespace Window

/-- Where the decimal point stands: the number is below `10 ^ magnitude` and not below a tenth
of it. -/
def magnitude (w : Window) : Int :=
  if w.denominator ≤ w.numerator then
    (Decimal.digits (w.numerator / w.denominator)).length
  else
    let length := (Decimal.digits (w.denominator / w.numerator)).length
    if w.denominator ≤ w.numerator * Nat.pow 10 (length - 1) then 2 - length else 1 - length

/-- The point of the grid of `count` digits that lies in the interval, nearest to the number: a
coefficient for the unit `10 ^ (magnitude - count)`. -/
def gridPoint? (w : Window) (count : Nat) : Option Nat :=
  let unit : Int := w.magnitude - count
  let numerator := w.numerator * Nat.pow 10 (-unit).toNat
  let denominator := w.denominator * Nat.pow 10 unit.toNat
  -- The two grid points around the number are `below` and `below + 1`.
  let below := numerator / denominator
  let inside (coefficient : Nat) : Bool :=
    let point := coefficient * denominator * w.quarters
    if w.closed then numerator * w.low ≤ point && point ≤ numerator * w.high
    else numerator * w.low < point && point < numerator * w.high
  match inside below, inside (below + 1) with
  | true, true =>
    -- Both read back: the nearer one, the greater one if the number lies halfway between them.
    some (if 2 * (numerator % denominator) < denominator then below else below + 1)
  | true, false => some below
  | false, true => some (below + 1)
  | false, false => none

end Window

/-- A coefficient for the unit `10 ^ unit`, with the zeros at its end dropped. -/
def ShortForm.ofCoefficient (coefficient : Nat) (unit : Int) : ShortForm where
  digits := ((Decimal.digits coefficient).reverse.dropWhile (· == '0')).reverse
  point := (Decimal.digits coefficient).length + unit

/-- The shortest decimal that rounds to `significand * 2 ^ exponent`, a number above zero. Seventeen
digits are always enough. -/
def shortest (significand : Nat) (exponent : Int) : ShortForm :=
  let w := window significand exponent
  let counts := (List.range 17).map (· + 1)
  match counts.findSome? fun count => (w.gridPoint? count).map (·, w.magnitude - count) with
  | some (coefficient, unit) => .ofCoefficient coefficient unit
  | none => .ofCoefficient 0 0

end Wirecall.Binary64
