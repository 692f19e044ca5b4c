import Wirecall.Proofs.RoundTrip
import Wirecall.Proofs.Termination

/-!
# Years of four digits

A timestamp is written without anything between year, month and day. That is safe as long as a year has
four digits: it is read back with just these. Any other year is written with a sign, and behind a sign the
reader takes all digits it finds, those of month and day among them. So every moment of such a year can be
written and none of them can be read back (`Timestamp.read?_write_of_far_year`).

Such moments are not out of reach for all that. The reader skips blanks in front of a number, and a text
with a blank behind the year stands for a moment of a far year, though no moment is written that way. What
a text stands for is at the start of a second (`Timestamp.wholeSecond_of_read?`), so the year alone decides
whether it is written and read back.

* `DataType.timestamp_survives_iff` is all this at the level of values, and says for every text that
  validation decides what reading does.
-/

namespace Wirecall

namespace Timestamp

/-- Whether the year of a moment is written with four digits and no sign. Smaller years than 1000 are, too, as
they are filled up with zeros. -/
def HasFourDigitYear (t : Timestamp) : Prop :=
  0 ≤ t.year ∧ t.year ≤ 9999

instance (t : Timestamp) : Decidable t.HasFourDigitYear :=
  inferInstanceAs (Decidable (0 ≤ t.year ∧ t.year ≤ 9999))

/-! ### Far years -/

/-- Behind a sign all digits belong to the year. -/
theorem takeYear_signed {sign : Char} (hsign : sign = '-' ∨ sign = '+') {ds rest : List Char}
    (hne : ds ≠ []) (hds : ∀ c ∈ ds, c.isDigit = true) (hrest : leadingDigits rest = []) :
    ∃ year, takeYear (sign :: (ds ++ rest)) = some (year, rest) := by
  -- The leading digits are the whole run of digits, since the rest starts with none.
  have hleading : leadingDigits (ds ++ rest) = ds := by
    rw [leadingDigits, List.takeWhile_append_of_pos hds]
    show ds ++ leadingDigits rest = ds
    rw [hrest, List.append_nil]
  have hread : Decimal.readNat? ds = some (Nat.ofDigitChars 10 ds 0) :=
    if_pos ⟨hne, List.all_eq_true.2 hds⟩
  have hnumber : takeNumber (leadingDigits (ds ++ rest)) (ds ++ rest) =
      some (Nat.ofDigitChars 10 ds 0, rest) := by
    rw [hleading, takeNumber, hread, Option.map_some, List.drop_left]
  have hblank : Text.isBlank sign = false := by
    rcases hsign with rfl | rfl <;> decide
  rw [takeYear, Text.skipBlanks_cons_of_not_blank _ hblank]
  rcases hsign with rfl | rfl
  · -- The sign decides about the number, and not about where it ends.
    simp only [hnumber]
    exact ⟨_, rfl⟩
  · simp only [hnumber]
    exact ⟨_, rfl⟩

/-- Where a number has to be and neither a digit nor a blank is, nothing can be taken. -/
theorem takePair_cons_of_not_digit {c : Char} (rest : List Char) (hblank : Text.isBlank c = false)
    (hdigit : c.isDigit = false) : takePair (c :: rest) = none := by
  -- No blank is skipped and no digit is found, so there is nothing to make a number of.
  have hleading : leadingDigits (c :: rest) = [] := by
    simp [leadingDigits, hdigit]
  simp only [takePair, Text.skipBlanks_cons_of_not_blank rest hblank, hleading]
  rfl

/-- No moment of a far year is read back: its year swallows month and day. -/
theorem read?_write_of_far_year (t : Timestamp) (h : ¬ t.HasFourDigitYear) :
    read? t.write = none := by
  have hyear : ¬ (0 ≤ t.year ∧ t.year ≤ 9999) := h
  let sign := if t.year < 0 then '-' else '+'
  have hsign : sign = '-' ∨ sign = '+' := by
    simp only [sign]
    split <;> simp
  -- All digits up to the letter: those of the year, of the month and of the day.
  let ds := Decimal.padded 4 t.year.natAbs ++ Decimal.padded 2 t.month ++ Decimal.padded 2 t.day
  have hne : ds ≠ [] := by
    simp [ds, Decimal.padded_ne_nil]
  have hds : ∀ c ∈ ds, c.isDigit = true := by
    intro c hc
    simp only [ds, List.mem_append] at hc
    rcases hc with (hc | hc) | hc <;> exact Decimal.isDigit_of_mem_padded hc
  -- What is written is a sign, these digits, the letter, and the time of day.
  obtain ⟨time, htext⟩ : ∃ time, t.write.toList = sign :: (ds ++ 'T' :: time) := by
    simp only [write, String.toList_ofList, writeYear, if_neg hyear, List.append_assoc,
      List.cons_append, List.nil_append, ds, sign]
    exact ⟨_, rfl⟩
  have hrest : leadingDigits ('T' :: time) = [] := rfl
  obtain ⟨year, htake⟩ := takeYear_signed hsign hne hds hrest
  -- Nothing is left to be the month.
  have hmonth : takePair ('T' :: time) = none :=
    takePair_cons_of_not_digit time (by decide) (by decide)
  rw [read?, htext, htake, Option.bind_eq_bind, Option.bind_some]
  simp only [hmonth]
  rfl

/-! ### What texts stand for -/

theorem nano_of_ofParts? {year : Int} {month day hour minute second nano : Nat} {t : Timestamp}
    (h : ofParts? year month day hour minute second nano = some t) : t.nano = nano := by
  unfold ofParts? at h
  split at h
  next => cases h; rfl
  next => cases h

/-- What a text stands for is the start of a second. -/
theorem nano_of_read? {text : String} {t : Timestamp} (h : read? text = some t) :
    t.nano = 0 ∨ t.nano = nanosPerSecond := by
  simp only [read?, Option.bind_eq_bind, Option.bind_eq_some_iff] at h
  -- All steps but the last one read numbers, and the last one makes a moment of them.
  obtain ⟨_, -, _, -, _, -, _, -, _, -, _, -, _, -, _, -, second, -, _, -, h⟩ := h
  split at h
  next => exact .inr (nano_of_ofParts? h)
  next => exact .inl (nano_of_ofParts? h)

theorem wholeSecond_of_read? {text : String} {t : Timestamp} (h : read? text = some t) :
    t.wholeSecond = t :=
  wholeSecond_eq_self_iff.2 (nano_of_read? h)

end Timestamp

/-! ### As values -/

/-- A descriptor of timestamps has no parts, so validation ends with it: it asks what the decoder asks. -/
theorem Validator.check_timestamp {c : Validator} {d : Descriptor} (hd : d.shape = .timestamp)
    (text : String) :
    c.check d (.timestamp text) = some ((Decoder.timestamp (.timestamp text)).map fun _ => ()) := by
  obtain ⟨name, description, shape⟩ := d
  cases hd
  -- One level of depth is enough, and there always is one.
  obtain ⟨room, hroom⟩ : ∃ room, c.depth (.timestamp text) = room + 1 := ⟨_, depth_eq c _⟩
  rw [check, hroom]
  show Verdict.ofBool (Timestamp.read? text).isSome
    (.mismatch "datetime (yyyymmddThh:mm:ss)" (.timestamp text)) = _
  rw [Decoder.timestamp]
  cases Timestamp.read? text with
  | some t => rfl
  | none => rfl

namespace DataType

theorem decode_timestamp_eq_ok_iff {text : String} {t : Timestamp} :
    DataType.timestamp.decode (.timestamp text) = .ok t ↔ Timestamp.read? text = some t := by
  rw [decode, Decoder.timestamp_eq_ok_iff]
  simp

theorem decode_encode_timestamp {t : Timestamp} (h : t.HasFourDigitYear) :
    DataType.timestamp.decode (DataType.timestamp.encode t) = .ok t.wholeSecond :=
  decode_timestamp_eq_ok_iff.2 (Timestamp.read?_write t h.1 h.2)

theorem decode_encode_far_timestamp {t : Timestamp} (h : ¬ t.HasFourDigitYear) :
    DataType.timestamp.decode (DataType.timestamp.encode t) =
      .error (.mismatch "datetime (yyyymmddThh:mm:ss)" (DataType.timestamp.encode t)) := by
  rw [encode, decode, Decoder.timestamp, Timestamp.read?_write_of_far_year t h]

theorem isOk_decode_encode_timestamp_iff {t : Timestamp} :
    (∃ t', DataType.timestamp.decode (DataType.timestamp.encode t) = .ok t') ↔
      t.HasFourDigitYear := by
  constructor
  · rintro ⟨t', h⟩
    -- A moment of a far year would have been refused.
    by_contra hfar
    rw [decode_encode_far_timestamp hfar] at h
    cases h
  · intro h
    exact ⟨t.wholeSecond, decode_encode_timestamp h⟩

/-- **A timestamp survives exactly if its year has four digits.** Then it is read back at the start of its
second, which for a leap second is the leap second, and otherwise what was written is no timestamp to the
reader. Texts stand for starts of seconds, so for what was read once the year decides whether it is read
again. Validation has the same opinion of every text. -/
theorem timestamp_survives_iff :
    (∀ t : Timestamp,
      (t.HasFourDigitYear →
        DataType.timestamp.decode (DataType.timestamp.encode t) = .ok t.wholeSecond ∧
          (DataType.timestamp.decode (DataType.timestamp.encode t) = .ok t ↔
            t.nano = 0 ∨ t.nano = nanosPerSecond)) ∧
      (¬ t.HasFourDigitYear →
        DataType.timestamp.decode (DataType.timestamp.encode t) =
          .error (.mismatch "datetime (yyyymmddThh:mm:ss)" (DataType.timestamp.encode t)))) ∧
    (∀ (text : String) (t : Timestamp), DataType.timestamp.decode (.timestamp text) = .ok t →
      ((∃ t', DataType.timestamp.decode (DataType.timestamp.encode t) = .ok t') ↔
        t.HasFourDigitYear) ∧
      (DataType.timestamp.decode (DataType.timestamp.encode t) = .ok t ↔ t.HasFourDigitYear)) ∧
    ∀ (c : Validator) (d : Descriptor) (text : String), d.shape = .timestamp →
      c.check d (.timestamp text) =
        some ((DataType.timestamp.decode (.timestamp text)).map fun _ => ()) := by
  refine ⟨fun t => ⟨?_, decode_encode_far_timestamp⟩, ?_, ?_⟩
  · intro h
    refine ⟨decode_encode_timestamp h, ?_⟩
    rw [decode_encode_timestamp h, Except.ok.injEq, Timestamp.wholeSecond_eq_self_iff]
  · intro text t hread
    -- What was read is the start of a second, so nothing is cut off when it is written.
    have hwhole : t.wholeSecond = t :=
      Timestamp.wholeSecond_of_read? (decode_timestamp_eq_ok_iff.1 hread)
    refine ⟨isOk_decode_encode_timestamp_iff, fun h => ?_, fun h => ?_⟩
    · exact isOk_decode_encode_timestamp_iff.1 ⟨t, h⟩
    · rw [decode_encode_timestamp h, hwhole]
  · intro c d text hd
    exact Validator.check_timestamp hd text

/-- Half a second into the leap second at the end of 2016, and the leap day of the year 10000, which a text
with a blank in it stands for. -/
theorem timestamp_survives_iff_leap :
    DataType.timestamp.decode (.timestamp "20161231T23:59:60") =
        .ok ⟨2016, 12, 31, 23, 59, 59, nanosPerSecond, by decide⟩ ∧
      DataType.timestamp.decode (.timestamp "+10000 0229T00:00:00") =
        .ok ⟨10000, 2, 29, 0, 0, 0, 0, by decide⟩ ∧
      ¬ (∃ t, DataType.timestamp.decode (.timestamp "+100000229T00:00:00") = .ok t) ∧
      Validator.empty.check DataType.timestamp.descriptor (.timestamp "+100000229T00:00:00") =
        some (.error
          (.mismatch "datetime (yyyymmddThh:mm:ss)" (.timestamp "+100000229T00:00:00"))) := by
  obtain ⟨hcross, hagain, hcheck⟩ := timestamp_survives_iff
  let leap : Timestamp := ⟨2016, 12, 31, 23, 59, 59, 1500000000, by decide⟩
  let far : Timestamp := ⟨10000, 2, 29, 0, 0, 0, 0, by decide⟩
  have hleap : DataType.timestamp.encode leap = .timestamp "20161231T23:59:60" :=
    congrArg Value.timestamp (by decide +kernel)
  have hfar : DataType.timestamp.encode far = .timestamp "+100000229T00:00:00" :=
    congrArg Value.timestamp (by decide +kernel)
  -- The blank ends the year, and the month begins behind it.
  have hread : DataType.timestamp.decode (.timestamp "+10000 0229T00:00:00") = .ok far := by rfl
  refine ⟨?_, hread, ?_, ?_⟩
  · rw [← hleap]
    exact ((hcross leap).1 (by decide)).1
  · -- The text is how that moment is written, and its year is too far away.
    rw [← hfar, (hagain _ far hread).1]
    decide
  · rw [hcheck _ _ _ rfl, ← hfar, (hcross far).2 (by decide)]
    rfl

end DataType
end Wirecall
