import Wirecall.Signature

/-!
# Signatures over the type language

A `Slot` is a parameter of a type of the type language. A list of slots fixes the argument types of a
method, so signatures can be built from data (`Signature.ofSlots`).
-/

namespace Wirecall

/-- A parameter given by the code of its type. A name or description that is missing is the type's
own. -/
structure Slot where
  type : DataType
  name : Option String := none
  description : Option String := none

namespace Slot

/-- The parameter of a slot. -/
def param (s : Slot) : Param s.type.Carrier :=
  .ofCodec (.ofType s.type) s.name s.description

/-- The arguments for some slots. -/
@[reducible] def Carriers : List Slot → Type
  | [] => Unit
  | s :: rest => s.type.Carrier × Carriers rest

end Slot

/-- The method that takes an argument for each slot. -/
def Signature.ofSlots {R : Type} (result : Param R) :
    (slots : List Slot) → Signature (Slot.Carriers slots) R
  | [] => .returning result
  | s :: rest => .arrow s.param (ofSlots result rest)

/-- What is published about the arguments is what is published about the slots. -/
theorem Signature.params_ofSlots {R : Type} (result : Param R) (slots : List Slot) :
    (Signature.ofSlots result slots).params = slots.map fun s => s.param.describe := by
  induction slots with
  | nil => rfl
  | cons s rest ih => simp [ofSlots, params, ih]

end Wirecall
