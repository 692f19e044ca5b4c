import Wirecall.DecodeError

/-!
# Why a call has no result

The errors of a server that was asked to run a method. `DispatchError.payload` is what goes back over
the wire: the text of the error, or what the method itself failed with.
-/

namespace Wirecall

/-- Why a server could not produce a result. -/
inductive DispatchError where
  /-- The parameters are not exactly one dictionary. -/
  | argumentFraming
  | missingArgument (name : String)
  | invalidArgument (name : String) (source : DecodeError)
  | unknownMethod (name : String)
  /-- The method ran and failed. -/
  | implementation (method reason : String) (payload : Value)

namespace DispatchError

/-- The text of an error. -/
def message : DispatchError → String
  | .argumentFraming => "arguments must be named"
  | .missingArgument name => "missing argument '" ++ name ++ "'"
  | .invalidArgument name source => "invalid argument '" ++ name ++ "': " ++ source.message
  | .unknownMethod name => "unknown method '" ++ name ++ "'"
  | .implementation method reason _ => "'" ++ method ++ "' failed: " ++ reason

/-- The texts of the errors behind an error, the nearest first. -/
def sources : DispatchError → List String
  | .invalidArgument _ source => [source.message]
  | _ => []

/-- What a failure response carries. -/
def payload : DispatchError → Value
  | .implementation _ _ payload => payload
  | e => .string e.message

/-- The failure of a method that is reported by its reason alone. -/
def ofReason (method reason : String) : DispatchError :=
  .implementation method reason (.string reason)

end DispatchError
end Wirecall
