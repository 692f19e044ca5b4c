/-!
# Type descriptors

A `Descriptor` says what shape a value of some type has on the wire, under a name and with a
description for readers. It never contains itself: a recursive type closes the circle with
`Shape.ref`, the name of a declaration.

The order of fields and of cases matters, because it is the order in which they are written. `visit`
lists a descriptor with everything inside it, parents first, and equality is structural and decidable.
-/

namespace Wirecall

/-- The kinds of plain values. -/
inductive Scalar where
  | int64
  | int32
  | int
  | string
  | float
  | bool
  | char
deriving DecidableEq

/-- The name of a kind. -/
def Scalar.name : Scalar → String
  | .int64 => "int64"
  | .int32 => "int32"
  | .int => "int"
  | .string => "string"
  | .float => "float"
  | .bool => "bool"
  | .char => "char"

/-- What a kind holds, for readers. -/
def Scalar.description : Scalar → String
  | .int64 => "64-bit signed integer"
  | .int32 => "32-bit signed integer"
  | .int => "native-width signed integer"
  | .string => "string"
  | .float => "64-bit float"
  | .bool => "boolean"
  | .char => "unicode scalar value"

mutual
/-- The shape of a type, with a name and a description. -/
structure Descriptor where
  name : String
  description : String
  shape : Shape
/-- The shape of a value. -/
inductive Shape where
  | scalar (kind : Scalar)
  | timestamp
  | record (fields : List Field)
  | variant (cases : List Case)
  | array (item : Descriptor)
  /-- The same as `array` on the wire. -/
  | list (item : Descriptor)
  | dict (key : Scalar) (item : Descriptor)
  | option (item : Descriptor)
  | pair (first second : Descriptor)
  | unit
  /-- Whatever the declaration of this name says. -/
  | ref (name : String)
/-- A member of a record. -/
structure Field where
  name : String
  description : String
  type : Descriptor
  /-- The name of the record that the field belongs to. -/
  owner : String
/-- A case of a variant, with or without a payload. -/
structure Case where
  name : String
  description : String
  payload : Option Descriptor
end

/-- The name of the outermost shape. -/
def Shape.label : Shape → String
  | .scalar kind => kind.name
  | .timestamp => "datetime"
  | .record _ => "struct"
  | .variant _ => "variant"
  | .array _ => "array"
  | .list _ => "list"
  | .dict _ _ => "dict"
  | .option _ => "option"
  | .pair _ _ => "tuple"
  | .unit => "unit"
  | .ref _ => "ref"

/-- Whether the shape is an option, so that a field of it may be left out. -/
def Shape.isOption : Shape → Bool
  | .option _ => true
  | _ => false

namespace Descriptor

/-- The same descriptor under another name. -/
def rename (d : Descriptor) (name : String) : Descriptor :=
  { d with name }

/-- The same descriptor with another description. -/
def describe (d : Descriptor) (description : String) : Descriptor :=
  { d with description }

/-! ### Standard descriptors

Plain types are named for their kind, containers for their parts. -/

/-- The descriptor of plain values of a kind. -/
def ofScalar (kind : Scalar) : Descriptor :=
  ⟨kind.name, kind.description, .scalar kind⟩

/-- The descriptor of the unit value. -/
def unit : Descriptor :=
  ⟨"unit", "unit", .unit⟩

/-- The descriptor of timestamps. -/
def timestamp : Descriptor :=
  ⟨"datetime", "timestamp, yyyymmddThh:mm:ss", .timestamp⟩

/-- The descriptor of lists. -/
def listOf (item : Descriptor) : Descriptor :=
  ⟨item.name ++ " list", "", .list item⟩

/-- The descriptor of arrays. -/
def arrayOf (item : Descriptor) : Descriptor :=
  ⟨item.name ++ " array", "", .array item⟩

/-- The descriptor of options. -/
def optionOf (item : Descriptor) : Descriptor :=
  ⟨item.name ++ " option", "", .option item⟩

/-- The descriptor of pairs. -/
def pairOf (first second : Descriptor) : Descriptor :=
  ⟨"(" ++ first.name ++ " * " ++ second.name ++ ")", "", .pair first second⟩

/-- The descriptor of dictionaries. -/
def dictOf (key : Scalar) (item : Descriptor) : Descriptor :=
  ⟨"(" ++ key.name ++ ", " ++ item.name ++ ") dict", "", .dict key item⟩

/-! ### Inside a descriptor -/

/-- Whether the descriptor introduces a name of its own: a record or a variant. -/
def isDeclaration (d : Descriptor) : Bool :=
  match d.shape with
  | .record _ | .variant _ => true
  | _ => false

/-- The descriptors directly inside a descriptor, in the order in which they are written. -/
def children (d : Descriptor) : List Descriptor :=
  match d.shape with
  | .record fields => fields.map (·.type)
  | .variant cases => cases.filterMap (·.payload)
  | .array item | .list item | .option item | .dict _ item => [item]
  | .pair first second => [first, second]
  | .scalar _ | .timestamp | .unit | .ref _ => []

mutual
/-- A descriptor and all descriptors inside it, parents first. -/
def visit : Descriptor → List Descriptor
  | ⟨name, description, shape⟩ => ⟨name, description, shape⟩ :: visitShape shape
/-- All descriptors inside a shape. -/
def visitShape : Shape → List Descriptor
  | .record fields => visitFields fields
  | .variant cases => visitCases cases
  | .array item => item.visit
  | .list item => item.visit
  | .option item => item.visit
  | .dict _ item => item.visit
  | .pair first second => first.visit ++ second.visit
  | .scalar _ | .timestamp | .unit | .ref _ => []
/-- All descriptors inside some fields. -/
def visitFields : List Field → List Descriptor
  | [] => []
  | ⟨_, _, type, _⟩ :: rest => type.visit ++ visitFields rest
/-- All descriptors inside the payloads of some cases. -/
def visitCases : List Case → List Descriptor
  | [] => []
  | ⟨_, _, none⟩ :: rest => visitCases rest
  | ⟨_, _, some payload⟩ :: rest => payload.visit ++ visitCases rest
end

theorem visitFields_eq_flatMap (fields : List Field) :
    visitFields fields = (fields.map (·.type)).flatMap visit := by
  induction fields with
  | nil => rfl
  | cons f rest ih =>
    rcases f with ⟨_, _, _, _⟩
    simp [visitFields, ih]

theorem visitCases_eq_flatMap (cases : List Case) :
    visitCases cases = (cases.filterMap (·.payload)).flatMap visit := by
  induction cases with
  | nil => rfl
  | cons c rest ih => rcases c with ⟨_, _, _ | _⟩ <;> simp [visitCases, ih]

/-- A descriptor comes first, then what its children visit, one child after the other. -/
theorem visit_eq (d : Descriptor) : d.visit = d :: d.children.flatMap visit := by
  rcases d with ⟨_, _, shape⟩
  cases shape <;>
    simp [visit, visitShape, children, visitFields_eq_flatMap, visitCases_eq_flatMap]

end Descriptor
end Wirecall
