import Wirecall.DataType.Basic

/-!
# How native values travel

`DataType.encode` writes a native value and never fails. `DataType.decode` reads one back; `absent` is
the value of a field or argument that was left out, which only options have.
-/

namespace Wirecall

/-- The entries of a map in the order in which they are written. A map without an order of its own might list
them in any order; sorted by their texts they come out the same every time. -/
def MapOrder.arrange : MapOrder → List (String × Value) → List (String × Value)
  | .byKey, entries => entries
  | .byText, entries => entries.mergeSort fun a b => a.1 ≤ b.1

namespace DataType

/-! ### Writing -/

mutual
/-- The wire form of a value. -/
def encode : (type : DataType) → type.Carrier → Value
  | .int64, n | .int, n => .int n
  | .int32, n => .int32 n
  | .bool, b => .bool b
  | .float, x => .float x
  | .string, s => .string s
  | .char, c => .int (.ofNat c.toNat)
  | .unit, _ => .null
  | .timestamp, t => .timestamp t.write
  | .list item, xs | .array item, xs => .seq (xs.map item.encode)
  | .boxed item, x => item.encode x
  | .named _ _ item, x => item.encode x
  | .option _, none => .seq []
  | .option item, some x => .seq [item.encode x]
  | .pair first second, (x, y) => .seq [first.encode x, second.encode y]
  | .map order key item, m =>
    .dict (order.arrange (m.entries.map fun e => (key.write e.1, item.encode e.2)))
  | .record _ _ fields, x => .dict (encodeFields fields x)
  | .variant _ _ cases, x => encodeCase cases x
  | .tree, t => t.encode
  | .chain, c => c.encode
/-- The entries of a record, one for each field in order. -/
def encodeFields : (fields : List FieldType) → FieldCarriers fields → List (String × Value)
  | [], _ => []
  | ⟨name, _, type⟩ :: rest, (x, xs) => (name, type.encode x) :: encodeFields rest xs
/-- The wire form of a variant. -/
def encodeCase : (cases : List CaseType) → CaseCarriers cases → Value
  | ⟨tag, _, none⟩ :: _, .inl _ => .tagged tag none
  | ⟨tag, _, some payload⟩ :: _, .inl x => .tagged tag (some (payload.encode x))
  | ⟨_, _, none⟩ :: rest, .inr x => encodeCase rest x
  | ⟨_, _, some _⟩ :: rest, .inr x => encodeCase rest x
end

/-! ### Reading -/

/-- The value of a field or argument that was left out. Only options have one, also behind an indirection or
under another name; a list that was left out is not an empty list. -/
def absent : (type : DataType) → Option type.Carrier
  | .option _ => some none
  | .boxed item => item.absent
  | .named _ _ item => item.absent
  | _ => none

mutual
/-- Reads a value. -/
def decode : (type : DataType) → Decoder type.Carrier
  | .int64 => Decoder.int64
  | .int => Decoder.int
  | .int32 => Decoder.int32
  | .bool => Decoder.bool
  | .float => Decoder.float
  | .string => Decoder.string
  | .char => Decoder.char
  | .unit => Decoder.unit
  | .timestamp => Decoder.timestamp
  | .list item => Decoder.items "list" item.decode
  | .array item => Decoder.items "array" item.decode
  | .boxed item => item.decode
  | .named _ _ item => item.decode
  | .option item => Decoder.option item.decode
  | .pair first second => Decoder.pair first.decode second.decode
  | .map _ key item => Decoder.map key item.decode
  | .record name _ fields => fun v => do decodeFields fields (← RecordReader.ofValue name v)
  | .variant name _ cases => fun v => do decodeCase cases (← VariantReader.ofValue name v)
  | .tree => IntTree.decode
  | .chain => IntChain.decode
/-- Reads the fields of a record, in the order of their declaration. -/
def decodeFields : (fields : List FieldType) → RecordReader →
    Except DecodeError (FieldCarriers fields)
  | [], _ => .ok ()
  | ⟨name, _, type⟩ :: rest, r => do
    return (← r.field type.decode type.absent name, ← decodeFields rest r)
/-- Reads a variant: the first case of the tag counts. -/
def decodeCase : (cases : List CaseType) → VariantReader → Except DecodeError (CaseCarriers cases)
  | [], r => .error r.unknown
  | ⟨tag, _, none⟩ :: rest, r =>
    if r.is tag then .inl <$> r.unit else .inr <$> decodeCase rest r
  | ⟨tag, _, some payload⟩ :: rest, r =>
    if r.is tag then .inl <$> payload.decode r.payloadOrNull else .inr <$> decodeCase rest r
end

end DataType
end Wirecall
