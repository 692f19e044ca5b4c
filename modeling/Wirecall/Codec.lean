import Wirecall.Crash
import Wirecall.DataType.Wire

/-!
# Codecs

A `Codec` holds everything an interface needs to know about a native type: its descriptor, how values
are written and read, and what stands for an absent one. Every type of the type language has one
(`Codec.ofType`). A codec of one's own may also give up while writing (`encodeCrash`).
-/

namespace Wirecall

/-- How the values of a native type are described, written and read. -/
structure Codec (α : Type) where
  descriptor : Descriptor
  encode : α → Value
  decode : Decoder α
  /-- What to use when a field or argument is absent; without it, absence is an error. -/
  absent : Option α := none
  /-- How writing a value gives up, if it does. -/
  encodeCrash : α → Option Crash := fun _ => none

/-- The codec of a type of the type language. -/
def Codec.ofType (type : DataType) : Codec type.Carrier where
  descriptor := type.descriptor
  encode := type.encode
  decode := type.decode
  absent := type.absent

end Wirecall
