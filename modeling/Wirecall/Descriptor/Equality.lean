import Wirecall.Descriptor.Basic

/-!
# Equality of descriptors

Two descriptors are equal when they are built alike, names and descriptions included. `same` decides
it (`same_iff`), which makes equality of descriptors decidable.
-/

namespace Wirecall.Descriptor

mutual
/-- Whether two descriptors are built alike. -/
def same : Descriptor → Descriptor → Bool
  | ⟨n, d, s⟩, ⟨n', d', s'⟩ => n == n' && d == d' && sameShape s s'
/-- Whether two shapes are built alike. -/
def sameShape : Shape → Shape → Bool
  | .scalar kind, .scalar kind' => kind == kind'
  | .timestamp, .timestamp => true
  | .record fields, .record fields' => sameFields fields fields'
  | .variant cases, .variant cases' => sameCases cases cases'
  | .array item, .array item' => item.same item'
  | .list item, .list item' => item.same item'
  | .dict key item, .dict key' item' => key == key' && item.same item'
  | .option item, .option item' => item.same item'
  | .pair first second, .pair first' second' => first.same first' && second.same second'
  | .unit, .unit => true
  | .ref name, .ref name' => name == name'
  | _, _ => false
/-- Whether two lists of fields are built alike. -/
def sameFields : List Field → List Field → Bool
  | [], [] => true
  | ⟨n, d, t, o⟩ :: rest, ⟨n', d', t', o'⟩ :: rest' =>
    n == n' && d == d' && t.same t' && o == o' && sameFields rest rest'
  | _, _ => false
/-- Whether two lists of cases are built alike. -/
def sameCases : List Case → List Case → Bool
  | [], [] => true
  | ⟨n, d, none⟩ :: rest, ⟨n', d', none⟩ :: rest' => n == n' && d == d' && sameCases rest rest'
  | ⟨n, d, some p⟩ :: rest, ⟨n', d', some p'⟩ :: rest' =>
    n == n' && d == d' && p.same p' && sameCases rest rest'
  | _, _ => false
end

mutual
/-- What is built alike is equal, and the other way round. -/
theorem same_iff : ∀ a b : Descriptor, a.same b = true ↔ a = b
  | ⟨n, d, s⟩, ⟨n', d', s'⟩ => by
    simp [same, sameShape_iff s s', and_assoc]
theorem sameShape_iff : ∀ a b : Shape, sameShape a b = true ↔ a = b
  | .scalar _, b => by cases b <;> simp [sameShape]
  | .timestamp, b => by cases b <;> simp [sameShape]
  | .record fields, b => by cases b <;> simp [sameShape, sameFields_iff fields]
  | .variant cases, b => by cases b <;> simp [sameShape, sameCases_iff cases]
  | .array item, b => by cases b <;> simp [sameShape, same_iff item]
  | .list item, b => by cases b <;> simp [sameShape, same_iff item]
  | .dict _ item, b => by cases b <;> simp [sameShape, same_iff item]
  | .option item, b => by cases b <;> simp [sameShape, same_iff item]
  | .pair first second, b => by cases b <;> simp [sameShape, same_iff first, same_iff second]
  | .unit, b => by cases b <;> simp [sameShape]
  | .ref _, b => by cases b <;> simp [sameShape]
theorem sameFields_iff : ∀ a b : List Field, sameFields a b = true ↔ a = b
  | [], b => by cases b <;> simp [sameFields]
  | ⟨n, d, t, o⟩ :: rest, b => by
    rcases b with _ | ⟨⟨_, _, _, _⟩, _⟩ <;>
      simp [sameFields, same_iff t, sameFields_iff rest, and_assoc]
theorem sameCases_iff : ∀ a b : List Case, sameCases a b = true ↔ a = b
  | [], b => by cases b <;> simp [sameCases]
  | ⟨n, d, none⟩ :: rest, b => by
    rcases b with _ | ⟨⟨_, _, _ | _⟩, _⟩ <;> simp [sameCases, sameCases_iff rest, and_assoc]
  | ⟨n, d, some p⟩ :: rest, b => by
    rcases b with _ | ⟨⟨_, _, _ | _⟩, _⟩ <;>
      simp [sameCases, same_iff p, sameCases_iff rest, and_assoc]
end

instance : DecidableEq Descriptor := fun a b => decidable_of_iff _ (same_iff a b)

instance : DecidableEq Shape := fun a b => decidable_of_iff _ (sameShape_iff a b)

end Wirecall.Descriptor
