import Wirecall.DecodeError
import Wirecall.Descriptor.Basic
import Wirecall.Number.Decimal
import Wirecall.Number.FloatText

/-!
# Keys of dictionaries

Keys travel as text. `KeyType` lists the types that can be keys, each with its order, its written form
(`KeyType.write`) and the texts that it reads (`KeyType.read`). `Scalar.acceptsKey` is the question
whether a text is a key of a kind at all, asked where only a descriptor is known.
-/

namespace Wirecall

/-- The types of keys. -/
inductive KeyType where
  | int64
  | int
  | int32
  | bool
  | string
  | char
deriving DecidableEq

namespace KeyType

/-- The keys of a type. -/
@[reducible] def Carrier : KeyType → Type
  | .int64 | .int => Int64
  | .int32 => Int32
  | .bool => Bool
  | .string => String
  | .char => Char

/-- The kind under which a type of keys appears in descriptors. -/
def kind : KeyType → Scalar
  | .int64 => .int64
  | .int => .int
  | .int32 => .int32
  | .bool => .bool
  | .string => .string
  | .char => .char

/-- Integers are ordered as numbers, `false` comes before `true`, and texts and characters are ordered
by code points. -/
instance order : (key : KeyType) → Ord key.Carrier
  | .int64 | .int => inferInstanceAs (Ord Int64)
  | .int32 => inferInstanceAs (Ord Int32)
  | .bool => inferInstanceAs (Ord Bool)
  | .string => inferInstanceAs (Ord String)
  | .char => inferInstanceAs (Ord Char)

instance : (key : KeyType) → Std.TransOrd key.Carrier
  | .int64 | .int => inferInstanceAs (Std.TransOrd Int64)
  | .int32 => inferInstanceAs (Std.TransOrd Int32)
  | .bool => inferInstanceAs (Std.TransOrd Bool)
  | .string => inferInstanceAs (Std.TransOrd String)
  | .char => inferInstanceAs (Std.TransOrd Char)

instance : (key : KeyType) → Std.LawfulEqOrd key.Carrier
  | .int64 | .int => inferInstanceAs (Std.LawfulEqOrd Int64)
  | .int32 => inferInstanceAs (Std.LawfulEqOrd Int32)
  | .bool => inferInstanceAs (Std.LawfulEqOrd Bool)
  | .string => inferInstanceAs (Std.LawfulEqOrd String)
  | .char => inferInstanceAs (Std.LawfulEqOrd Char)

/-- The text of a key. -/
def write : (key : KeyType) → key.Carrier → String
  | .int64, n | .int, n => String.ofList (Decimal.ofInt n.toInt)
  | .int32, n => String.ofList (Decimal.ofInt n.toInt)
  | .bool, b => if b then "true" else "false"
  | .string, s => s
  | .char, c => String.ofList [c]

/-- A whole number of 64 bits. -/
def readInt64? (text : String) : Option Int64 :=
  (Decimal.readBetween? Int64.minValue.toInt Int64.maxValue.toInt text.toList).map Int64.ofInt

/-- A whole number of 32 bits. -/
def readInt32? (text : String) : Option Int32 :=
  (Decimal.readBetween? Int32.minValue.toInt Int32.maxValue.toInt text.toList).map Int32.ofInt

/-- The key that a text stands for. Numbers are read leniently, so `07`, `+7` and `7` are one key; the texts of
all others are their own. -/
def read? : (key : KeyType) → String → Option key.Carrier
  | .int64, text | .int, text => readInt64? text
  | .int32, text => readInt32? text
  | .bool, text => if text = "true" then some true else if text = "false" then some false else none
  | .string, text => some text
  | .char, text =>
    match text.toList with
    | [c] => some c
    | _ => none

/-- The key that a text stands for, or the error that it is none. -/
def read (key : KeyType) (text : String) : Except DecodeError key.Carrier :=
  match key.read? text with
  | some k => .ok k
  | none => .error (.mismatch (key.kind.name ++ " key") (.string text))

end KeyType

/-- Whether a text is a key of a kind. -/
def Scalar.acceptsKey : Scalar → String → Bool
  | .string, _ => true
  | .int64, text | .int, text => (KeyType.readInt64? text).isSome
  | .int32, text => (KeyType.readInt32? text).isSome
  | .bool, text => text == "true" || text == "false"
  | .char, text => text.length == 1
  | .float, text => isFloatText text

end Wirecall
