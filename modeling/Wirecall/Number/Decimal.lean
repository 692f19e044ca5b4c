/-!
# Whole numbers in decimal digits

Writing whole numbers, and reading them back from a text that holds a number and nothing else. A
reader is more lenient than the writer: it takes a leading `+` and leading zeros. Main statements:
`readNat?_digits` and `readInt?_ofInt`, reading undoes writing.
-/

namespace Wirecall.Decimal

/-- The decimal digits of a number, without leading zeros. -/
def digits (n : Nat) : List Char :=
  Nat.toDigits 10 n

/-- The decimal digits of a number, filled up with zeros on the left to at least `width` digits. -/
def padded (width n : Nat) : List Char :=
  List.replicate (width - (digits n).length) '0' ++ digits n

/-- A whole number: its digits, after a minus sign if it is below zero. -/
def ofInt (n : Int) : List Char :=
  if n < 0 then '-' :: digits n.natAbs else digits n.natAbs

/-- The number that a non-empty run of digits stands for. -/
def readNat? (text : List Char) : Option Nat :=
  if text ≠ [] ∧ text.all Char.isDigit then some (Nat.ofDigitChars 10 text 0) else none

/-- The whole number that a text stands for: digits, after at most one sign. -/
def readInt? : List Char → Option Int
  | '-' :: rest => (readNat? rest).map fun n => -(n : Int)
  | '+' :: rest => (readNat? rest).map fun n => (n : Int)
  | text => (readNat? text).map fun n => (n : Int)

/-- The whole number that a text stands for, if it lies between the two bounds. -/
def readBetween? (least greatest : Int) (text : List Char) : Option Int :=
  (readInt? text).filter fun n => least ≤ n && n ≤ greatest

theorem digits_ne_nil (n : Nat) : digits n ≠ [] := by
  simp [digits]

theorem isDigit_of_mem_digits {n : Nat} {c : Char} (h : c ∈ digits n) : c.isDigit = true :=
  Nat.isDigit_of_mem_toDigits (by decide) (by decide) h

/-- Reading undoes writing. -/
@[simp] theorem readNat?_digits (n : Nat) : readNat? (digits n) = some n := by
  have hall : (digits n).all Char.isDigit = true :=
    List.all_eq_true.2 fun _ h => isDigit_of_mem_digits h
  have hof : Nat.ofDigitChars 10 (digits n) 0 = n := Nat.ofDigitChars_toDigits (by decide) (by decide)
  simp [readNat?, digits_ne_nil, hall, hof]

/-- A text that starts with a digit has no sign. -/
theorem readInt?_cons_digit {c : Char} (rest : List Char) (h : c.isDigit = true) :
    readInt? (c :: rest) = (readNat? (c :: rest)).map fun n => (n : Int) := by
  unfold readInt?
  split
  next heq =>
    cases heq
    exact absurd h (by decide)
  next heq =>
    cases heq
    exact absurd h (by decide)
  next => rfl

/-- Reading undoes writing, signs included. -/
@[simp] theorem readInt?_ofInt (n : Int) : readInt? (ofInt n) = some n := by
  unfold ofInt
  split
  next h =>
    show (readNat? (digits n.natAbs)).map (fun m => -(m : Int)) = some n
    have negated : -(n.natAbs : Int) = n := by omega
    rw [readNat?_digits]
    exact congrArg some negated
  next h =>
    obtain ⟨c, rest, hd⟩ := List.exists_cons_of_ne_nil (digits_ne_nil n.natAbs)
    have hc : c.isDigit = true := isDigit_of_mem_digits (hd ▸ List.mem_cons_self)
    have kept : (n.natAbs : Int) = n := by omega
    rw [hd, readInt?_cons_digit rest hc, ← hd, readNat?_digits]
    exact congrArg some kept

end Wirecall.Decimal
