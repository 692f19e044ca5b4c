import Wirecall.DataType.IntChain
import Wirecall.DataType.IntTree

/-!
# The types that can cross a connection

A `DataType` is the code of a native type: plain types, containers over other types, records with named
fields and variants with named cases, plus the two recursive types. `DataType.Carrier` is the native
type itself: a record is the product of its fields, a variant the sum of its cases.

Everything else about a type is defined by recursion on its code: its descriptor and its wire form
(`DataType.descriptor`, `DataType.encode`, `DataType.decode`), so the description of a type and the way
it travels cannot drift apart.
-/

namespace Wirecall

/-- In which order the entries of a map are written. -/
inductive MapOrder where
  /-- In the order of the keys themselves. -/
  | byKey
  /-- In the order of the texts of the keys, for maps whose keys have no order of their own. -/
  | byText
deriving DecidableEq

mutual
/-- The code of a type. -/
inductive DataType where
  | int64
  /-- Integers of the native width, which is 64 bits. -/
  | int
  | int32
  | bool
  | float
  | string
  | char
  | unit
  | timestamp
  | list (item : DataType)
  /-- Arrays travel like lists. -/
  | array (item : DataType)
  /-- An indirection, which leaves no trace on the wire. -/
  | boxed (item : DataType)
  /-- Another type under a name and a description of its own. -/
  | named (name description : String) (item : DataType)
  | option (item : DataType)
  | pair (first second : DataType)
  | map (order : MapOrder) (key : KeyType) (item : DataType)
  | record (name description : String) (fields : List FieldType)
  | variant (name description : String) (cases : List CaseType)
  | tree
  | chain
/-- A field of a record type. -/
structure FieldType where
  name : String
  description : String
  type : DataType
/-- A case of a variant type, with or without a payload. -/
structure CaseType where
  tag : String
  description : String
  payload : Option DataType
end

namespace DataType

mutual
/-- The native type of a code. -/
@[reducible] def Carrier : DataType → Type
  | .int64 | .int => Int64
  | .int32 => Int32
  | .bool => Bool
  | .float => Binary64
  | .string => String
  | .char => Char
  | .unit => Unit
  | .timestamp => Timestamp
  | .list item => List item.Carrier
  | .array item => List item.Carrier
  | .boxed item => item.Carrier
  | .named _ _ item => item.Carrier
  | .option item => Option item.Carrier
  | .pair first second => first.Carrier × second.Carrier
  | .map _ key item => SortedMap key.Carrier item.Carrier
  | .record _ _ fields => FieldCarriers fields
  | .variant _ _ cases => CaseCarriers cases
  | .tree => IntTree
  | .chain => IntChain
/-- The product of some fields. -/
@[reducible] def FieldCarriers : List FieldType → Type
  | [] => Unit
  | ⟨_, _, type⟩ :: rest => type.Carrier × FieldCarriers rest
/-- The sum of some cases. A case without a payload holds nothing but itself. -/
@[reducible] def CaseCarriers : List CaseType → Type
  | [] => Empty
  | ⟨_, _, none⟩ :: rest => Unit ⊕ CaseCarriers rest
  | ⟨_, _, some payload⟩ :: rest => payload.Carrier ⊕ CaseCarriers rest
end

/-! ### Descriptors -/

mutual
/-- The descriptor of a type. -/
def descriptor : DataType → Descriptor
  | .int64 => .ofScalar .int64
  | .int => .ofScalar .int
  | .int32 => .ofScalar .int32
  | .bool => .ofScalar .bool
  | .float => .ofScalar .float
  | .string => .ofScalar .string
  | .char => .ofScalar .char
  | .unit => .unit
  | .timestamp => .timestamp
  | .list item => .listOf item.descriptor
  | .array item => .arrayOf item.descriptor
  | .boxed item => item.descriptor
  | .named name description item => (item.descriptor.rename name).describe description
  | .option item => .optionOf item.descriptor
  | .pair first second => .pairOf first.descriptor second.descriptor
  | .map _ key item => .dictOf key.kind item.descriptor
  | .record name description fields => ⟨name, description, .record (fieldDescriptors name fields)⟩
  | .variant name description cases => ⟨name, description, .variant (caseDescriptors cases)⟩
  | .tree => IntTree.descriptor
  | .chain => IntChain.descriptor
/-- The fields of a record in its descriptor. -/
def fieldDescriptors (owner : String) : List FieldType → List Field
  | [] => []
  | ⟨name, description, type⟩ :: rest =>
    ⟨name, description, type.descriptor, owner⟩ :: fieldDescriptors owner rest
/-- The cases of a variant in its descriptor. -/
def caseDescriptors : List CaseType → List Case
  | [] => []
  | ⟨tag, description, none⟩ :: rest => ⟨tag, description, none⟩ :: caseDescriptors rest
  | ⟨tag, description, some payload⟩ :: rest =>
    ⟨tag, description, some payload.descriptor⟩ :: caseDescriptors rest
end

end DataType
end Wirecall
