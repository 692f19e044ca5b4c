/-!
# Why a call got no response

The errors of the exchange itself: nothing is known about whether the method ran.
-/

namespace Wirecall

/-- Why an exchange broke down. -/
inductive TransportError where
  | connectionLost (reason : String)
  | timeout
  | io (reason : String)
deriving DecidableEq

/-- The text of an error. -/
def TransportError.message : TransportError → String
  | .connectionLost reason => "connection lost: " ++ reason
  | .timeout => "request timed out"
  | .io reason => "i/o error: " ++ reason

end Wirecall
