import Wirecall.Sample.Records

/-!
# Sample variants

Variant types to try the library out on, with every kind of payload and with tags that meet in lower
case.
-/

namespace Wirecall.Sample

/-- The state of an account. -/
def status : DataType :=
  .variant "status" "Lifecycle of an account"
    [⟨"Active", "Open for business", none⟩,
      ⟨"Suspended", "Frozen, with a reason", some .string⟩,
      ⟨"Closed", "No longer usable", none⟩]

/-- A second type of the name `summary`. -/
def otherSummary : DataType :=
  .variant "summary" "Another thing called summary"
    [⟨"Nothing", "", none⟩, ⟨"At", "", some point⟩]

/-- What can go wrong in a calculator. -/
def calcError : DataType :=
  .variant "calc error" "Why a calculation failed"
    [⟨"DivideByZero", "The divisor was zero", none⟩,
      ⟨"Overflow", "An operation overflowed", some .string⟩,
      ⟨"Negative", "Input must not be negative", some .int64⟩]

/-- Every kind of payload. The case `dot` is behind `Dot`, so reading never reaches it. -/
def shape : DataType :=
  .variant "Shape" "Every kind of payload"
    [⟨"Dot", "", none⟩, ⟨"Unit", "", some .unit⟩, ⟨"Maybe", "", some (.option .int64)⟩,
      ⟨"Pair", "", some (.pair .int64 .string)⟩, ⟨"Lines", "", some (.list point)⟩,
      ⟨"Named", "", some account⟩, ⟨"dot", "", some .int64⟩, ⟨"ΟΔΟΣ", "", none⟩]

end Wirecall.Sample
