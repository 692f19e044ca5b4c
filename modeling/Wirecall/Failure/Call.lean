import Wirecall.DecodeError
import Wirecall.Failure.Transport

/-!
# What a caller is told

The errors of a call from where the caller stands. Only `CallError.remote` is an error of the interface
itself; the other three say that something went wrong on the way.
-/

namespace Wirecall

/-- Why a call failed, for an interface with errors of type `E`. -/
inductive CallError (E : Type) where
  | transport (source : TransportError)
  /-- The server reported an error of the interface. -/
  | remote (error : E)
  /-- The server failed with a reason that is no error of the interface. -/
  | failed (reason : String)
  /-- The server succeeded, but its result is not of the declared type. -/
  | malformed (source : DecodeError)

namespace CallError

variable {E : Type}

/-- The text of an error, given the texts of interface errors. A transport error speaks for itself. -/
def message (text : E → String) : CallError E → String
  | .transport source => source.message
  | .remote error => "remote error: " ++ text error
  | .failed reason => "call failed: " ++ reason
  | .malformed source => "malformed result: " ++ source.message

/-- The texts of the errors behind an error, the nearest first. -/
def sources : CallError E → List String
  | .malformed source => [source.message]
  | _ => []

end CallError
end Wirecall
