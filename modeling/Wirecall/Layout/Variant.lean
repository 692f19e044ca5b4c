import Wirecall.DecodeError
import Wirecall.Text.LowerCase

/-!
# Variants on the wire

A case without a payload is written as its tag, a case with one as the sequence of tag and payload.
Reading also takes the tag alone in a sequence, and tags meet in lower case. A payload that is left
out reads as null, and a case without a payload puts up with an explicit null.
-/

namespace Wirecall

/-- The wire form of a case. -/
def Value.tagged (tag : String) : Option Value → Value
  | none => .string tag
  | some payload => .seq [.string tag, payload]

/-- A variant on its way in: the name it goes by in errors, its tag, and its payload if there is
one. -/
structure VariantReader where
  variant : String
  tag : String
  payload : Option Value

namespace VariantReader

/-- Reads a value as a variant: a tag, alone or in a sequence, with a payload behind it or not. -/
def ofValue (variant : String) : Value → Except DecodeError VariantReader
  | .string tag => .ok ⟨variant, tag, none⟩
  | .seq [.string tag] => .ok ⟨variant, tag, none⟩
  | .seq [.string tag, payload] => .ok ⟨variant, tag, some payload⟩
  | v => .error (.mismatch ("variant " ++ variant) v)

/-- Whether the tag is the given one, in any case. -/
def is (r : VariantReader) (tag : String) : Bool :=
  Text.lowerCase r.tag == Text.lowerCase tag

/-- Refuses a payload other than null. This is what a case without a payload does; others read null from a
payload that was left out. -/
def unit (r : VariantReader) : Except DecodeError Unit :=
  match r.payload with
  | none | some .null => .ok ()
  | some v => .error (.mismatch ("no payload for tag " ++ r.tag) v)

/-- The payload, null if there is none. -/
def payloadOrNull (r : VariantReader) : Value :=
  r.payload.getD .null

/-- The error for a tag that is none of those declared. -/
def unknown (r : VariantReader) : DecodeError :=
  .unknownTag r.variant r.tag

end VariantReader
end Wirecall
