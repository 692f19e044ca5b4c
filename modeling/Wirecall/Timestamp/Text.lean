import Wirecall.Number.Decimal
import Wirecall.Text.Blank
import Wirecall.Timestamp.Basic

/-!
# Timestamps as text

The wire form `yyyymmddThh:mm:ss`. Writing drops the part of the second, and a leap second is written
`60`. A year outside `0` to `9999` is written with a sign. Reading skips blanks in front of each number
and takes as many digits as the number may have: four for a year without a sign, all that follow for a
year with one, and two for everything else. So a year with a sign swallows the month behind it.
-/

namespace Wirecall.Timestamp

open Text (skipBlanks)

/-- A year: four digits, or a sign and at least four digits outside `0` to `9999`. -/
def writeYear (year : Int) : List Char :=
  if 0 ≤ year ∧ year ≤ 9999 then Decimal.padded 4 year.natAbs
  else (if year < 0 then '-' else '+') :: Decimal.padded 4 year.natAbs

/-- The wire form of a moment. -/
def write (t : Timestamp) : String :=
  let second := if t.isLeapSecond then t.second + 1 else t.second
  String.ofList <|
    writeYear t.year ++ Decimal.padded 2 t.month ++ Decimal.padded 2 t.day ++ ['T']
      ++ Decimal.padded 2 t.hour ++ [':'] ++ Decimal.padded 2 t.minute ++ [':']
      ++ Decimal.padded 2 second

/-! ### Reading -/

/-- The digits that a text starts with. -/
def leadingDigits (text : List Char) : List Char :=
  text.takeWhile Char.isDigit

/-- Takes a number from the front of a text: the first of the given digits must be there. The rest of
the text comes with it. -/
def takeNumber (digits text : List Char) : Option (Nat × List Char) :=
  (Decimal.readNat? digits).map (·, text.drop digits.length)

/-- Takes a year. -/
def takeYear (text : List Char) : Option (Int × List Char) :=
  match skipBlanks text with
  | '-' :: rest => do
    let (n, rest) ← takeNumber (leadingDigits rest) rest
    return (-n, rest)
  | '+' :: rest => do
    let (n, rest) ← takeNumber (leadingDigits rest) rest
    return (n, rest)
  | rest => do
    let (n, rest) ← takeNumber ((leadingDigits rest).take 4) rest
    return (n, rest)

/-- Takes a number of at most two digits. -/
def takePair (text : List Char) : Option (Nat × List Char) :=
  let rest := skipBlanks text
  takeNumber ((leadingDigits rest).take 2) rest

/-- Takes one given character. -/
def takeChar (c : Char) : List Char → Option (List Char)
  | [] => none
  | d :: rest => if d = c then some rest else none

/-- The moment that a text stands for. The second 60 is a leap second. -/
def read? (text : String) : Option Timestamp := do
  let (year, rest) ← takeYear text.toList
  let (month, rest) ← takePair rest
  let (day, rest) ← takePair rest
  let rest ← takeChar 'T' rest
  let (hour, rest) ← takePair rest
  let rest ← takeChar ':' rest
  let (minute, rest) ← takePair rest
  let rest ← takeChar ':' rest
  let (second, rest) ← takePair rest
  guard rest.isEmpty
  if second = 60 then ofParts? year month day hour minute 59 nanosPerSecond
  else ofParts? year month day hour minute second 0

/-- Whether a text stands for a moment at all. -/
def isText (text : String) : Bool :=
  (read? text).isSome

end Wirecall.Timestamp
