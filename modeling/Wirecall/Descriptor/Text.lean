import Wirecall.Descriptor.Basic

/-!
# Descriptors as text

The one-line form in which a type is shown to readers: only shapes, field names and tags.
-/

namespace Wirecall

mutual
/-- A shape as text. -/
def Shape.text : Shape → String
  | .scalar kind => kind.name
  | .timestamp => "datetime"
  | .record fields => "\x7b " ++ String.join (Shape.fieldTexts fields) ++ "\x7d"
  | .variant cases => " | ".intercalate (Shape.caseTexts cases)
  | .array item => item.text ++ " array"
  | .list item => item.text ++ " list"
  | .dict key item => "(" ++ key.name ++ ", " ++ item.text ++ ") dict"
  | .option item => item.text ++ " option"
  | .pair first second => "(" ++ first.text ++ " * " ++ second.text ++ ")"
  | .unit => "unit"
  | .ref name => name
/-- The shape of a descriptor as text. -/
def Descriptor.text : Descriptor → String
  | ⟨_, _, shape⟩ => shape.text
/-- The texts of some fields. -/
def Shape.fieldTexts : List Field → List String
  | [] => []
  | ⟨name, _, type, _⟩ :: rest => (name ++ ": " ++ type.text ++ "; ") :: Shape.fieldTexts rest
/-- The texts of some cases. -/
def Shape.caseTexts : List Case → List String
  | [] => []
  | ⟨name, _, none⟩ :: rest => name :: Shape.caseTexts rest
  | ⟨name, _, some payload⟩ :: rest =>
    (name ++ " of " ++ payload.text) :: Shape.caseTexts rest
end

end Wirecall
