import Wirecall.Failure.Raised
import Wirecall.Sample.Variants

/-!
# Sample interface errors

Two types of interface errors, a variant and a record, and two bridges that are pickier than
`ErrorBridge.direct`.
-/

namespace Wirecall.Sample

/-- The errors of a calculator. -/
def calcErrors : ErrorType calcError.Carrier where
  codec := .ofType calcError
  text
    | .inl () => "division by zero"
    | .inr (.inl operation) => "overflow in " ++ operation
    | .inr (.inr (.inl n)) => "negative input " ++ String.ofList (Decimal.ofInt n.toInt)

/-- Structured failures. -/
def faults : ErrorType fault.Carrier where
  codec := .ofType fault
  text := fun (code, message, _) =>
    "fault " ++ String.ofList (Decimal.ofInt code.toInt) ++ ": " ++ message

/-- A bridge that keeps only the text of an error and recognises none. -/
def textBridge {E : Type} (type : ErrorType E) : ErrorBridge E where
  type
  raise e := { cause := .message ("refused: " ++ type.text e) }
  recognise _ := none

/-- A bridge that raises errors under a context and recognises them only without one. -/
def bareBridge {E : Type} (type : ErrorType E) : ErrorBridge E where
  type
  raise e := Raised.withContext { cause := .error e } "remote failure"
  recognise r := if (r.chain type).length = 1 then r.error? else none

end Wirecall.Sample
