/-!
# Why an implementation was refused
-/

namespace Wirecall

/-- Why a builder did not take an implementation. -/
inductive InstallError where
  /-- The server has been built already. -/
  | sealed (name : String)
  /-- The method has an implementation already. -/
  | duplicate (name : String)
deriving DecidableEq

/-- The text of an error. -/
def InstallError.message : InstallError → String
  | .sealed name => "server already built, cannot implement '" ++ name ++ "'"
  | .duplicate name => "'" ++ name ++ "' is already implemented"

end Wirecall
