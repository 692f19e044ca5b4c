import Wirecall.DataType.Basic

/-!
# Sample records

Record types to try the library out on: those of a small bank, and some with awkward names.
-/

namespace Wirecall.Sample

/-- An account, with an optional field and a list. -/
def account : DataType :=
  .record "account" "A bank account"
    [⟨"Owner", "Name of the holder", .string⟩, ⟨"balance", "Balance in cents", .int64⟩,
      ⟨"nickname", "Display name, if any", .option .string⟩,
      ⟨"tags", "Free-form labels", .list .string⟩]

/-- A point, the simplest record with more than one field. -/
def point : DataType :=
  .record "point" "A point on the plane"
    [⟨"x", "Horizontal offset", .int64⟩, ⟨"y", "Vertical offset", .int64⟩]

/-- What is left of a list of numbers. -/
def summary : DataType :=
  .record "summary" "Aggregate of a list of numbers"
    [⟨"count", "Number of inputs", .int64⟩, ⟨"total", "Sum of inputs", .int64⟩,
      ⟨"mean", "Average, absent when there are no inputs", .option .float⟩]

/-- A failure with a code. -/
def fault : DataType :=
  .record "fault" "A structured failure"
    [⟨"Code", "Numeric code", .int64⟩, ⟨"message", "What happened", .string⟩,
      ⟨"detail", "More, if any", .option .string⟩]

/-- Names whose lower-case forms depend on their neighbours, grow, or stay in ASCII. -/
def greek : DataType :=
  .record "Greek" "Non-ASCII names"
    [⟨"ΣΑΣ", "", .int64⟩, ⟨"İd", "", .option .int64⟩, ⟨"STRASSE", "", .string⟩]

/-- Two fields that read the same entry. -/
def clash : DataType :=
  .record "clash" "Colliding names" [⟨"Key", "", .int64⟩, ⟨"key", "", .int64⟩]

/-- The record that every dictionary reads as. -/
def empty : DataType :=
  .record "empty" "No fields" []

/-- Records, options, maps and pairs inside a record. -/
def outer : DataType :=
  .record "outer" "A bit of everything"
    [⟨"point", "", point⟩, ⟨"maybe", "", .option point⟩, ⟨"boxed", "", .boxed (.option .int64)⟩,
      ⟨"When", "", .timestamp⟩, ⟨"scores", "", .map .byKey .int32 (.list .float)⟩,
      ⟨"nothing", "", .unit⟩, ⟨"pair", "", .pair .char .bool⟩]

end Wirecall.Sample
