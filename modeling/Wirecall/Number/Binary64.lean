/-!
# Numbers of the binary64 format

A number is its 64 bits: a sign, an exponent of eleven bits and a fraction of fifty-two. `kind` reads
the bits, with the magnitude of a finite number exactly as `significand * 2 ^ exponent`. Two notions
of sameness live side by side: equality of bits, and `agrees`, the comparison of the numbers
themselves, under which a NaN agrees with nothing and the two zeros agree.
-/

namespace Wirecall

/-- A number of the binary64 format, held as its bits. -/
structure Binary64 where
  bits : UInt64
deriving DecidableEq

namespace Binary64

/-- The leading one of a significand, which is not among the bits: `2 ^ 52`. -/
def leadingOne : Nat := 0x10000000000000

/-- The sign bit. -/
def isNegative (x : Binary64) : Bool :=
  x.bits.toNat.testBit 63

/-- The eleven exponent bits. -/
def exponentBits (x : Binary64) : Nat :=
  x.bits.toNat / leadingOne % 2048

/-- The fifty-two fraction bits. -/
def fractionBits (x : Binary64) : Nat :=
  x.bits.toNat % leadingOne

/-- What the bits of a number stand for, its sign left aside. -/
inductive Kind where
  | nan
  | infinite
  /-- The magnitude is `significand * 2 ^ exponent`. -/
  | finite (significand : Nat) (exponent : Int)
deriving DecidableEq

/-- Reads the bits: all-ones exponents stand for infinities and NaNs, the zero exponent for the
numbers without a leading one. -/
def kind (x : Binary64) : Kind :=
  if x.exponentBits = 2047 then
    if x.fractionBits = 0 then .infinite else .nan
  else if x.exponentBits = 0 then .finite x.fractionBits (-1074)
  else .finite (leadingOne + x.fractionBits) (x.exponentBits - 1075)

/-- Whether the number is a NaN. -/
def isNaN (x : Binary64) : Bool :=
  x.kind == .nan

/-- Whether the number is a zero of either sign. -/
def isZero (x : Binary64) : Bool :=
  x.exponentBits == 0 && x.fractionBits == 0

/-- Whether two numbers are numerically equal: a NaN equals nothing, the zeros equal each other. All other
numbers have bits of their own, so for them it is equality of bits. -/
def agrees (x y : Binary64) : Bool :=
  !x.isNaN && !y.isNaN && (x == y || x.isZero && y.isZero)

example : agrees ⟨0x8000000000000000⟩ ⟨0⟩ = true := by decide
example : agrees ⟨0x7ff8000000000000⟩ ⟨0x7ff8000000000000⟩ = false := by decide

end Binary64
end Wirecall
