import Wirecall.Key
import Wirecall.Timestamp.Text

/-!
# Reading written keys and timestamps back

Keys and timestamps travel as text, and reading undoes writing: `KeyType.read?_write` for every key, and
`Timestamp.read?_write` for every moment of a year from 0 to 9999, up to the part of the second that is
not written.

Numbers in a timestamp have a fixed width (`Decimal.length_padded`) and are read with that width, so they
need nothing between them: `takePair_padded` and `takeYear_writeYear` take a number off the front of any
text whatsoever.
-/

namespace Wirecall

/-! ### Numbers of a fixed width -/

namespace Decimal

theorem isDigit_of_mem_padded {width n : Nat} {c : Char} (h : c ∈ padded width n) :
    c.isDigit = true := by
  rcases List.mem_append.1 h with h | h
  · rw [List.eq_of_mem_replicate h]
    decide
  · exact isDigit_of_mem_digits h

theorem padded_ne_nil (width n : Nat) : padded width n ≠ [] := by
  simp [padded, digits_ne_nil]

/-- A number that is not too long fills its width exactly. -/
theorem length_padded {width n : Nat} (h : (digits n).length ≤ width) :
    (padded width n).length = width := by
  rw [padded, List.length_append, List.length_replicate]
  omega

/-- Leading zeros do not change a number. -/
@[simp] theorem readNat?_padded (width n : Nat) : readNat? (padded width n) = some n := by
  have hall : (padded width n).all Char.isDigit = true :=
    List.all_eq_true.2 fun _ h => isDigit_of_mem_padded h
  -- The zeros add nothing, and the digits are those of the number.
  have hvalue : Nat.ofDigitChars 10 (padded width n) 0 = n := by
    rw [padded, Nat.ofDigitChars_append, Nat.ofDigitChars_replicate_zero, Nat.mul_zero]
    exact Nat.ofDigitChars_toDigits (by decide) (by decide)
  rw [readNat?, if_pos ⟨padded_ne_nil width n, hall⟩, hvalue]

/-- A number is read if it lies between the bounds. -/
theorem readBetween?_eq_some_iff {least greatest n : Int} {text : List Char} :
    readBetween? least greatest text = some n ↔
      readInt? text = some n ∧ least ≤ n ∧ n ≤ greatest := by
  simp only [readBetween?, Option.filter_eq_some_iff, Bool.and_eq_true, decide_eq_true_eq]

end Decimal

/-! ### Keys -/

namespace KeyType

/-- A text is read as a number exactly if it spells this number. Between the limits of the type nothing
wraps around, and beyond them there is no number. -/
theorem readInt64?_eq_some_iff {text : String} {n : Int64} :
    readInt64? text = some n ↔ Decimal.readInt? text.toList = some n.toInt := by
  simp only [readInt64?, Option.map_eq_some_iff, Decimal.readBetween?_eq_some_iff]
  constructor
  · -- What is read lies within the limits, so it is kept as it is.
    rintro ⟨i, ⟨hi, hleast, hgreatest⟩, rfl⟩
    rw [hi, Int64.toInt_ofInt_of_le hleast (Int.lt_of_le_of_lt hgreatest (by decide))]
  · intro h
    exact ⟨n.toInt, ⟨h, n.minValue_le_toInt, n.toInt_le⟩, Int64.ofInt_toInt n⟩

theorem readInt32?_eq_some_iff {text : String} {n : Int32} :
    readInt32? text = some n ↔ Decimal.readInt? text.toList = some n.toInt := by
  simp only [readInt32?, Option.map_eq_some_iff, Decimal.readBetween?_eq_some_iff]
  constructor
  · rintro ⟨i, ⟨hi, hleast, hgreatest⟩, rfl⟩
    rw [hi, Int32.toInt_ofInt_of_le hleast (Int.lt_of_le_of_lt hgreatest (by decide))]
  · intro h
    exact ⟨n.toInt, ⟨h, n.minValue_le_toInt, n.toInt_le⟩, Int32.ofInt_toInt n⟩

/-- Every key is read back from its text. -/
theorem read?_write (key : KeyType) (k : key.Carrier) : key.read? (key.write k) = some k := by
  have spelled (n : Int) : Decimal.readInt? (String.ofList (Decimal.ofInt n)).toList = some n := by
    rw [String.toList_ofList, Decimal.readInt?_ofInt]
  cases key with
  | int64 => exact readInt64?_eq_some_iff.2 (spelled _)
  | int => exact readInt64?_eq_some_iff.2 (spelled _)
  | int32 => exact readInt32?_eq_some_iff.2 (spelled _)
  | bool => cases k <;> decide
  | string => rfl
  | char => simp [write, read?]

end KeyType

/-! ### Timestamps -/

namespace Timestamp

theorem not_blank_of_isDigit {c : Char} (h : c.isDigit = true) : Text.isBlank c = false := by
  have hlow : 48 ≤ c.toNat := (Char.isDigit_iff_toNat.1 h).1
  have hhigh : c.toNat ≤ 57 := (Char.isDigit_iff_toNat.1 h).2
  simp [Text.isBlank, Text.CodePoints.has, Text.blanks]
  omega

theorem skipBlanks_append_of_digits {ds : List Char} (hne : ds ≠ [])
    (hds : ∀ c ∈ ds, c.isDigit = true) (rest : List Char) :
    Text.skipBlanks (ds ++ rest) = ds ++ rest := by
  obtain ⟨c, ds, rfl⟩ := List.exists_cons_of_ne_nil hne
  exact Text.skipBlanks_cons_of_not_blank _ (not_blank_of_isDigit (hds c List.mem_cons_self))

/-- Digits are taken off a text up to the greatest number of them. So a number that fills its width is taken off
whole, whether digits follow it or not. -/
theorem takeNumber_padded {width n : Nat} (h : (Decimal.digits n).length ≤ width)
    (rest : List Char) :
    takeNumber ((leadingDigits (Decimal.padded width n ++ rest)).take width)
      (Decimal.padded width n ++ rest) = some (n, rest) := by
  have hlength := Decimal.length_padded h
  -- More digits may follow, but the reader stops at the width.
  have hdigits : (leadingDigits (Decimal.padded width n ++ rest)).take width
      = Decimal.padded width n := by
    rw [leadingDigits, List.takeWhile_append_of_pos fun _ => Decimal.isDigit_of_mem_padded,
      List.take_left' hlength]
  rw [hdigits, takeNumber, Decimal.readNat?_padded, Option.map_some, List.drop_left]

theorem takePair_padded {n : Nat} (h : n < 100) (rest : List Char) :
    takePair (Decimal.padded 2 n ++ rest) = some (n, rest) := by
  rw [takePair, skipBlanks_append_of_digits (Decimal.padded_ne_nil 2 n)
    fun _ => Decimal.isDigit_of_mem_padded]
  have htwo : (Decimal.digits n).length ≤ 2 :=
    (Nat.length_toDigits_le_iff (by decide) (by decide)).2 h
  exact takeNumber_padded htwo rest

theorem takeYear_writeYear {year : Int} (hlow : 0 ≤ year) (hhigh : year ≤ 9999)
    (rest : List Char) : takeYear (writeYear year ++ rest) = some (year, rest) := by
  -- A year that has four digits or fewer is padded to four.
  have hfour : (Decimal.digits year.natAbs).length ≤ 4 :=
    (Nat.length_toDigits_le_iff (by decide) (by decide)).2 (by omega)
  have hnumber := takeNumber_padded hfour rest
  rw [takeYear, writeYear, if_pos ⟨hlow, hhigh⟩,
    skipBlanks_append_of_digits (Decimal.padded_ne_nil 4 _) fun _ => Decimal.isDigit_of_mem_padded]
  -- A digit is in front, so the year has no sign.
  have hdigit (c : Char) (more : List Char)
      (htext : Decimal.padded 4 year.natAbs ++ rest = c :: more) : c.isDigit = true := by
    obtain ⟨d, ds, hds⟩ := List.exists_cons_of_ne_nil (Decimal.padded_ne_nil 4 year.natAbs)
    rw [hds] at htext
    cases htext
    exact Decimal.isDigit_of_mem_padded (hds ▸ List.mem_cons_self)
  split
  next htext => exact absurd (hdigit _ _ htext) (by decide)
  next htext => exact absurd (hdigit _ _ htext) (by decide)
  next =>
    have hyear : (year.natAbs : Int) = year := by omega
    rw [hnumber, Option.bind_eq_bind, Option.bind_some]
    exact congrArg (fun y => some (y, rest)) hyear

theorem takeChar_cons (c : Char) (rest : List Char) : takeChar c (c :: rest) = some rest :=
  if_pos rfl

/-- A moment of a year from 0 to 9999 is read back at the start of its second. -/
theorem read?_write (t : Timestamp) (hlow : 0 ≤ t.year) (hhigh : t.year ≤ 9999) :
    read? t.write = some t.wholeSecond := by
  obtain ⟨-, -, -, hmonth, -, hday, hhour, hminute, hseconds, -, hleap⟩ := t.valid
  -- Two digits are enough for a day.
  have hdays : daysInMonth t.year t.month ≤ 31 := by
    unfold daysInMonth
    split <;> try split
    all_goals omega
  let second := if t.isLeapSecond then t.second + 1 else t.second
  have hsecond : second < 100 := by
    simp only [second]
    split <;> omega
  have htext : t.write.toList = writeYear t.year ++ (Decimal.padded 2 t.month ++
      (Decimal.padded 2 t.day ++ 'T' :: (Decimal.padded 2 t.hour ++ ':' ::
        (Decimal.padded 2 t.minute ++ ':' :: (Decimal.padded 2 second ++ []))))) := by
    rw [write, String.toList_ofList]
    simp only [List.append_assoc, List.cons_append, List.nil_append, List.append_nil, second]
  rw [read?, htext]
  -- Each reader takes its part off the front and leaves the rest to the next one.
  refine Option.bind_eq_some_iff.2 ⟨_, takeYear_writeYear hlow hhigh _, ?_⟩
  refine Option.bind_eq_some_iff.2 ⟨_, takePair_padded (by omega) _, ?_⟩
  refine Option.bind_eq_some_iff.2 ⟨_, takePair_padded (by omega) _, ?_⟩
  refine Option.bind_eq_some_iff.2 ⟨_, takeChar_cons 'T' _, ?_⟩
  refine Option.bind_eq_some_iff.2 ⟨_, takePair_padded (by omega) _, ?_⟩
  refine Option.bind_eq_some_iff.2 ⟨_, takeChar_cons ':' _, ?_⟩
  refine Option.bind_eq_some_iff.2 ⟨_, takePair_padded (by omega) _, ?_⟩
  refine Option.bind_eq_some_iff.2 ⟨_, takeChar_cons ':' _, ?_⟩
  refine Option.bind_eq_some_iff.2 ⟨_, takePair_padded hsecond _, ?_⟩
  refine Option.bind_eq_some_iff.2 ⟨(), rfl, ?_⟩
  have hwhole := ofParts?_self t.wholeSecond
  show (if second = 60 then ofParts? t.year t.month t.day t.hour t.minute 59 nanosPerSecond
    else ofParts? t.year t.month t.day t.hour t.minute second 0) = _
  by_cases h : t.isLeapSecond = true
  · -- A second 60 stands for the leap second after 59.
    have hlast : t.second = 59 := hleap (of_decide_eq_true h)
    have hsixty : second = 60 := by
      rw [show second = t.second + 1 from if_pos h, hlast]
    have hnano : t.wholeNano = nanosPerSecond := if_pos h
    rw [if_pos hsixty]
    simpa only [wholeSecond, hnano, hlast] using hwhole
  · -- Any other second is written as it is, without its parts.
    have hsame : second = t.second := if_neg h
    have hnano : t.wholeNano = 0 := if_neg h
    rw [if_neg (by omega), hsame]
    simpa only [wholeSecond, hnano] using hwhole

end Timestamp
end Wirecall
