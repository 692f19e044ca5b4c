import Wirecall.Value.Text

/-!
# Decoding errors

Every way in which a value can fail to match what it is read against. Reading stops at the first
mismatch, so there is always exactly one.
-/

namespace Wirecall

/-- Why a value could not be read. -/
inductive DecodeError where
  /-- The outermost shape of a value is not the expected one. -/
  | shapeMismatch (expected got : String)
  /-- A record lacks a field that has to be there. -/
  | missingField (owner field : String)
  /-- A tag is none of those declared. -/
  | unknownTag (variant tag : String)
deriving DecidableEq

namespace DecodeError

/-- The mismatch of a value with what was expected in its place. -/
def mismatch (expected : String) (got : Value) : DecodeError :=
  .shapeMismatch expected got.text

/-- The text of an error. -/
def message : DecodeError → String
  | .shapeMismatch expected got => "expected " ++ expected ++ ", got " ++ got
  | .missingField owner field => "missing field '" ++ field ++ "' in " ++ owner
  | .unknownTag variant tag => "unknown tag '" ++ tag ++ "' for variant " ++ variant

end DecodeError
end Wirecall
