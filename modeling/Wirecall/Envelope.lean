import Wirecall.Param

/-!
# Envelopes

What a client hands to a transport, and what comes back. A call carries exactly one dictionary of named
arguments. A successful response carries the result, a failed one an error of the interface or a
reason.
-/

namespace Wirecall

/-- A call on its way to a server. -/
structure Call where
  /-- The name of the method on the wire. -/
  name : String
  params : List Value
  /-- Set when the caller does not wait for a response. -/
  notification : Bool := false

/-- A call with named arguments. -/
def Call.named (name : String) (args : Arguments) : Call :=
  { name, params := [.dict args] }

/-- The answer to a call. -/
structure Response where
  success : Bool
  contents : Value

/-- The response with a result. -/
def Response.ofResult (contents : Value) : Response :=
  ⟨true, contents⟩

/-- The response with a failure. -/
def Response.ofFailure (contents : Value) : Response :=
  ⟨false, contents⟩

end Wirecall
