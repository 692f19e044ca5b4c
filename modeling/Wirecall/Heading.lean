import Wirecall.Descriptor.Dump
import Wirecall.Number.Decimal

/-!
# Headings of interfaces

What an interface says about itself. Its namespace, if it has one, is put in front of the names of its
methods on the wire.
-/

namespace Wirecall

/-- The version of an interface. -/
structure Version where
  major : UInt32
  minor : UInt32
  patch : UInt32
deriving DecidableEq

/-- What an interface says about itself. -/
structure Heading where
  name : String
  /-- The namespace of its methods. -/
  space : Option String := none
  description : String := ""
  version : Version := ⟨0, 1, 0⟩
deriving DecidableEq

namespace Heading

/-- The name under which a method is called on the wire. -/
def wireName (h : Heading) (method : String) : String :=
  match h.space with
  | some space => space ++ "." ++ method
  | none => method

/-- The complete one-line form of a heading for debugging. -/
def dump (h : Heading) : String :=
  let number (n : UInt32) := String.ofList (Decimal.digits n.toNat)
  Dump.fields "InterfaceInfo"
    [("name", Text.quote h.name), ("namespace", Dump.option (h.space.map Text.quote)),
      ("description", Text.quote h.description),
      ("version",
        Dump.tuple "" [number h.version.major, number h.version.minor, number h.version.patch])]

/-- Methods of one interface with different names have different names on the wire. -/
theorem wireName_inj (h : Heading) {a b : String} : h.wireName a = h.wireName b ↔ a = b := by
  unfold wireName
  split
  · rw [String.append_right_inj]
  · exact Iff.rfl

end Heading
end Wirecall
