import Wirecall.Number.Shortest

/-!
# Written forms of binary64 numbers

`FloatLayout` says how the digits of a number are set: which magnitudes are written plainly, and which
with an exponent. `FloatLayout.write` sets them. The other direction is only ever a question of
form: `isFloatText` tells which texts stand for a number at all, so it asks for no value.
-/

namespace Wirecall

/-- How numbers are set. A number `0.d₁d₂… * 10 ^ point` is written plainly, with at least one
decimal, if `plainFrom ≤ point ≤ plainTo`, and with an exponent otherwise. -/
structure FloatLayout where
  plainFrom : Int
  plainTo : Int
  exponentMark : Char
  infinite : List Char
  nan : List Char

namespace FloatLayout

/-- Plain notation, with a zero in front of the point or behind it where no digit stands. -/
def plain (digits : List Char) (point : Int) : List Char :=
  if point ≤ 0 then ['0', '.'] ++ List.replicate (-point).toNat '0' ++ digits
  else if digits.length ≤ point.toNat then
    digits ++ List.replicate (point.toNat - digits.length) '0' ++ ['.', '0']
  else digits.take point.toNat ++ ['.'] ++ digits.drop point.toNat

/-- One digit, the others behind a point if there are any, and the exponent. -/
def scientific (layout : FloatLayout) (digits : List Char) (point : Int) : List Char :=
  let decimals := if digits.length ≤ 1 then [] else '.' :: digits.drop 1
  digits.take 1 ++ decimals ++ [layout.exponentMark] ++ Decimal.ofInt (point - 1)

/-- The written form of a magnitude. -/
def magnitude (layout : FloatLayout) : Binary64.Kind → List Char
  | .nan => layout.nan
  | .infinite => layout.infinite
  | .finite 0 _ => plain ['0'] 1
  | .finite significand exponent =>
    let decimal := Binary64.shortest significand exponent
    if layout.plainFrom ≤ decimal.point ∧ decimal.point ≤ layout.plainTo then
      plain decimal.digits decimal.point
    else layout.scientific decimal.digits decimal.point

/-- The written form of a number. Every number but a NaN shows its sign. -/
def write (layout : FloatLayout) (x : Binary64) : String :=
  let sign := if x.isNegative && !x.isNaN then ['-'] else []
  String.ofList (sign ++ layout.magnitude x.kind)

end FloatLayout

/-! ### Which texts stand for a number -/

/-- A text without its leading sign, if it has one. -/
def dropSign : List Char → List Char
  | '+' :: rest => rest
  | '-' :: rest => rest
  | text => text

/-- An exponent, mark included, or nothing at all. -/
def isExponent : List Char → Bool
  | [] => true
  | mark :: rest =>
    (mark == 'e' || mark == 'E') && dropSign rest ≠ [] && (dropSign rest).all Char.isDigit

/-- Digits with at most one point among them and at least one digit, then an exponent or nothing. -/
def isDecimalText (text : List Char) : Bool :=
  let whole := text.takeWhile Char.isDigit
  match text.dropWhile Char.isDigit with
  | '.' :: rest =>
    !(whole.isEmpty && (rest.takeWhile Char.isDigit).isEmpty)
      && isExponent (rest.dropWhile Char.isDigit)
  | rest => !whole.isEmpty && isExponent rest

/-- Whether a text stands for a number: after at most one sign a decimal, or one of the words for
what is not finite, in any mixture of cases. -/
def isFloatText (text : String) : Bool :=
  let unsigned := dropSign text.toList
  let word := String.ofList (unsigned.map Char.toLower)
  word == "inf" || word == "infinity" || word == "nan" || isDecimalText unsigned

example : isFloatText "-1.e+05" = true ∧ isFloatText "." = false ∧ isFloatText "+iNf" = true
    ∧ isFloatText "1e" = false ∧ isFloatText "" = false := by decide

end Wirecall
