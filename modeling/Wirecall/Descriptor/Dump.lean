import Wirecall.Descriptor.Basic
import Wirecall.Text.Quoted

/-!
# Dumps

The complete one-line form of a value for debugging: constructors with every field by name, texts in
quotes. `Dump` holds the pieces, `Descriptor.dump` dumps a descriptor with everything inside it.
-/

namespace Wirecall

namespace Dump

/-- A structure: its name, and its fields between braces. -/
def fields (name : String) (members : List (String × String)) : String :=
  name ++ " \x7b " ++ ", ".intercalate (members.map fun f => f.1 ++ ": " ++ f.2) ++ " \x7d"

/-- A structure that shows some of its fields only. -/
def partialFields (name : String) (members : List (String × String)) : String :=
  name ++ " \x7b " ++ String.join (members.map fun f => f.1 ++ ": " ++ f.2 ++ ", ") ++ ".. \x7d"

/-- A constructor applied to some values. -/
def tuple (name : String) (values : List String) : String :=
  name ++ "(" ++ ", ".intercalate values ++ ")"

/-- A list between brackets. -/
def list (items : List String) : String :=
  "[" ++ ", ".intercalate items ++ "]"

/-- A value that may be missing. -/
def option : Option String → String
  | none => "None"
  | some value => tuple "Some" [value]

end Dump

/-- The constructor of a kind. -/
def Scalar.dump : Scalar → String
  | .int64 => "Int64"
  | .int32 => "Int32"
  | .int => "Int"
  | .string => "String"
  | .float => "Float"
  | .bool => "Bool"
  | .char => "Char"

mutual
/-- A descriptor with everything inside it. -/
def Descriptor.dump : Descriptor → String
  | ⟨name, description, shape⟩ =>
    Dump.fields "TypeDef"
      [("name", Text.quote name), ("description", Text.quote description), ("ty", shape.dump)]
/-- A shape with everything inside it. -/
def Shape.dump : Shape → String
  | .scalar kind => Dump.tuple "Basic" [kind.dump]
  | .timestamp => "DateTime"
  | .record fields => Dump.tuple "Struct" [Dump.list (Shape.fieldDumps fields)]
  | .variant cases => Dump.tuple "Variant" [Dump.list (Shape.caseDumps cases)]
  | .array item => Dump.tuple "Array" [item.dump]
  | .list item => Dump.tuple "List" [item.dump]
  | .dict key item => Dump.tuple "Dict" [key.dump, item.dump]
  | .option item => Dump.tuple "Option" [item.dump]
  | .pair first second => Dump.tuple "Tuple" [first.dump, second.dump]
  | .unit => "Unit"
  | .ref name => Dump.tuple "Ref" [Text.quote name]
/-- Some fields, each with everything inside it. -/
def Shape.fieldDumps : List Field → List String
  | [] => []
  | ⟨name, description, type, owner⟩ :: rest =>
    Dump.fields "Field"
        [("name", Text.quote name), ("description", Text.quote description), ("def", type.dump),
          ("owner", Text.quote owner)]
      :: Shape.fieldDumps rest
/-- Some cases, each with everything inside it. -/
def Shape.caseDumps : List Case → List String
  | [] => []
  | ⟨name, description, none⟩ :: rest =>
    Dump.fields "Tag"
        [("name", Text.quote name), ("description", Text.quote description), ("payload", "None")]
      :: Shape.caseDumps rest
  | ⟨name, description, some payload⟩ :: rest =>
    Dump.fields "Tag"
        [("name", Text.quote name), ("description", Text.quote description),
          ("payload", Dump.tuple "Some" [payload.dump])]
      :: Shape.caseDumps rest
end

end Wirecall
