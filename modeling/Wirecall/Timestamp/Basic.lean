/-!
# Timestamps

A moment of the proleptic Gregorian calendar without a time zone: a date, a time of day and a part of
a second in nanoseconds. Every value of the type is such a moment (`Timestamp.Valid` is one of its
fields). A leap second is the second 59 with a full second or more in the nanoseconds.
-/

namespace Wirecall

/-- Whether a year has a 29th of February. -/
def isLeapYear (year : Int) : Bool :=
  year % 4 == 0 && (year % 100 != 0 || year % 400 == 0)

/-- The number of days of a month; a month that does not exist has none. -/
def daysInMonth (year : Int) (month : Nat) : Nat :=
  match month with
  | 2 => if isLeapYear year then 29 else 28
  | 4 | 6 | 9 | 11 => 30
  | 1 | 3 | 5 | 7 | 8 | 10 | 12 => 31
  | _ => 0

/-- A second, in nanoseconds. -/
def nanosPerSecond : Nat := 1000000000

/-- Which parts make up a moment: the years reach from -262143 to 262142, and only the second 59 may
run over into a leap second.

A clock that counts nanoseconds beyond a full second can do so after any second. After a second other than
59 the result is no leap second, and it is left out here: it would be written as the next second is, so no
text stands for it, and nothing that is read ever comes to it. -/
def Timestamp.Valid (year : Int) (month day hour minute second nano : Nat) : Prop :=
  -262143 ≤ year ∧ year ≤ 262142 ∧ 1 ≤ month ∧ month ≤ 12 ∧ 1 ≤ day ∧ day ≤ daysInMonth year month ∧
    hour ≤ 23 ∧ minute ≤ 59 ∧ second ≤ 59 ∧ nano < 2 * nanosPerSecond ∧
    (nanosPerSecond ≤ nano → second = 59)

instance (year : Int) (month day hour minute second nano : Nat) :
    Decidable (Timestamp.Valid year month day hour minute second nano) := by
  unfold Timestamp.Valid
  infer_instance

/-- A date and a time of day. -/
structure Timestamp where
  year : Int
  month : Nat
  day : Nat
  hour : Nat
  minute : Nat
  second : Nat
  nano : Nat
  valid : Timestamp.Valid year month day hour minute second nano := by decide
deriving DecidableEq

namespace Timestamp

/-- The moment with these parts, if there is one. -/
def ofParts? (year : Int) (month day hour minute second nano : Nat) : Option Timestamp :=
  if h : Valid year month day hour minute second nano then
    some ⟨year, month, day, hour, minute, second, nano, h⟩
  else none

/-- Whether the moment lies in a leap second. -/
def isLeapSecond (t : Timestamp) : Bool :=
  nanosPerSecond ≤ t.nano

/-- Only the nanoseconds and the second decide whether a part of a second fits a moment. -/
theorem Valid.with_nano {year : Int} {month day hour minute second nano : Nat}
    (h : Valid year month day hour minute second nano) {nano' : Nat}
    (bound : nano' < 2 * nanosPerSecond) (leap : nanosPerSecond ≤ nano' → second = 59) :
    Valid year month day hour minute second nano' := by
  obtain ⟨h₁, h₂, h₃, h₄, h₅, h₆, h₇, h₈, h₉, -, -⟩ := h
  exact ⟨h₁, h₂, h₃, h₄, h₅, h₆, h₇, h₈, h₉, bound, leap⟩

/-- The nanoseconds of a moment at the start of its second. -/
def wholeNano (t : Timestamp) : Nat :=
  if t.isLeapSecond then nanosPerSecond else 0

theorem valid_wholeNano (t : Timestamp) :
    Valid t.year t.month t.day t.hour t.minute t.second t.wholeNano := by
  have leap : nanosPerSecond ≤ t.nano → t.second = 59 := t.valid.2.2.2.2.2.2.2.2.2.2
  refine t.valid.with_nano ?_ ?_ <;> unfold wholeNano isLeapSecond
  · split <;> decide
  · split
    · exact fun _ => leap (by simpa using ‹decide (nanosPerSecond ≤ t.nano) = true›)
    · exact fun h => absurd h (by decide)

/-- The moment at the start of its second. A leap second is a second of its own. -/
def wholeSecond (t : Timestamp) : Timestamp :=
  { t with nano := t.wholeNano, valid := t.valid_wholeNano }

@[simp] theorem ofParts?_self (t : Timestamp) :
    ofParts? t.year t.month t.day t.hour t.minute t.second t.nano = some t := by
  simp [ofParts?, t.valid]

end Timestamp
end Wirecall
