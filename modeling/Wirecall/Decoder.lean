import Wirecall.DecodeError
import Wirecall.Key
import Wirecall.SortedMap
import Wirecall.Timestamp.Text

/-!
# Decoders of plain values and containers

A decoder turns a value into a native one or says why it cannot. There is one for each plain type, and
one for each container over decoders of its parts. Containers read their parts in order and stop at the
first error, which they pass on unchanged.
-/

namespace Wirecall

/-- A reader of values. -/
abbrev Decoder (α : Type) := Value → Except DecodeError α

/-- The character with a code point, if there is one. -/
def charOfCode? (code : Int64) : Option Char :=
  if 0 ≤ code.toInt ∧ code.toInt.toNat.isValidChar then some (Char.ofNat code.toInt.toNat) else none

namespace Decoder

/-! ### Plain values -/

/-- Integers of 64 bits. -/
def int64 : Decoder Int64
  | .int n => .ok n
  | v => .error (.mismatch "int64" v)

/-- Integers of the native width, which is 64 bits. -/
def int : Decoder Int64
  | .int n => .ok n
  | v => .error (.mismatch "int" v)

/-- Integers of 32 bits. They are a shape of their own. -/
def int32 : Decoder Int32
  | .int32 n => .ok n
  | v => .error (.mismatch "int32" v)

/-- Truth values. -/
def bool : Decoder Bool
  | .bool b => .ok b
  | v => .error (.mismatch "bool" v)

/-- Numbers of the binary64 format, every bit of them. -/
def float : Decoder Binary64
  | .float x => .ok x
  | v => .error (.mismatch "float" v)

/-- Texts. -/
def string : Decoder String
  | .string s => .ok s
  | v => .error (.mismatch "string" v)

/-- Characters travel as their code points. -/
def char : Decoder Char
  | .int n =>
    match charOfCode? n with
    | some c => .ok c
    | none => .error (.mismatch "char" (.int n))
  | v => .error (.mismatch "char" v)

/-- The unit value travels as null. -/
def unit : Decoder Unit
  | .null => .ok ()
  | v => .error (.mismatch "unit" v)

/-- Timestamps travel as text. A text that is no moment is another mismatch than a value that is no
timestamp. -/
def timestamp : Decoder Timestamp
  | .timestamp text =>
    match Timestamp.read? text with
    | some t => .ok t
    | none => .error (.mismatch "datetime (yyyymmddThh:mm:ss)" (.timestamp text))
  | v => .error (.mismatch "datetime" v)

/-! ### Containers -/

variable {α β : Type}

/-- A sequence of any length. -/
def items (expected : String) (item : Decoder α) : Decoder (List α)
  | .seq values => values.mapM item
  | v => .error (.mismatch expected v)

/-- A sequence of at most one item. More items than one are another mismatch than a value that is no
sequence. -/
def option (item : Decoder α) : Decoder (Option α)
  | .seq [] => .ok none
  | .seq [v] => some <$> item v
  | .seq values => .error (.mismatch "option (zero or one element)" (.seq values))
  | v => .error (.mismatch "option" v)

/-- A sequence of two items. -/
def pair (first : Decoder α) (second : Decoder β) : Decoder (α × β)
  | .seq [v, w] => do return (← first v, ← second w)
  | .seq values => .error (.mismatch "tuple of 2" (.seq values))
  | v => .error (.mismatch "tuple" v)

/-- A dictionary. Every entry has to decode, its key before its value; then the first entry of each
key counts. -/
def map (key : KeyType) (item : Decoder α) : Decoder (SortedMap key.Carrier α)
  | .dict entries =>
    SortedMap.ofEntries <$> entries.mapM fun e => do return (← key.read e.1, ← item e.2)
  | v => .error (.mismatch "dict" v)

end Decoder
end Wirecall
