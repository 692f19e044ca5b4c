import Wirecall.Param

/-!
# Signatures of methods

A signature lists the arguments of a method from left to right and ends in its result. It fixes the
native types of both: a `Signature A R` takes arguments of type `A`, a product that ends in `Unit`, to
results of type `R`. Arguments travel under the names of their parameters.

A method can also be used as a function of several arguments, of the type `Signature.Function`;
`curry` and `apply` go from one form to the other (`apply_curry`).
-/

namespace Wirecall

/-- The arguments of a method, and its result. -/
inductive Signature : Type → Type → Type 1 where
  | returning {R : Type} (result : Param R) : Signature Unit R
  | arrow {A B R : Type} (param : Param A) (rest : Signature B R) : Signature (A × B) R

namespace Signature

/-- What is published about the arguments, in order. -/
def params {A R : Type} : Signature A R → List ParamDescription
  | .returning _ => []
  | .arrow param rest => param.describe :: rest.params

/-- The parameter of the result. -/
def resultParam {A R : Type} : Signature A R → Param R
  | .returning result => result
  | .arrow _ rest => rest.resultParam

/-- What is published about the result. -/
def result {A R : Type} (s : Signature A R) : ParamDescription :=
  s.resultParam.describe

/-- Writes each argument under the name of its parameter, in order. -/
def encodeArgs {A R : Type} : Signature A R → A → Arguments
  | .returning _, () => []
  | .arrow param rest, (a, as) => (param.name, param.codec.encode a) :: rest.encodeArgs as

/-- Reads the arguments, the first parameter first. Arguments that no parameter asks for are passed over. -/
def decodeArgs {A R : Type} : Signature A R → Arguments → Except DispatchError A
  | .returning _, _ => .ok ()
  | .arrow param rest, args => do return (← param.read args, ← rest.decodeArgs args)

/-! ### Methods as functions -/

/-- The type of functions that take the arguments one by one. -/
def Function {A R : Type} : Signature A R → Type → Type
  | .returning _, ρ => ρ
  | .arrow (A := A) _ rest, ρ => A → rest.Function ρ

/-- Takes the arguments one by one. -/
def curry {A R ρ : Type} : (s : Signature A R) → (A → ρ) → s.Function ρ
  | .returning _, f => f ()
  | .arrow _ rest, f => fun a => rest.curry fun as => f (a, as)

/-- Hands over all arguments at once. -/
def apply {A R ρ : Type} : (s : Signature A R) → s.Function ρ → A → ρ
  | .returning _, f, () => f
  | .arrow _ rest, f, (a, as) => rest.apply (f a) as

@[simp] theorem apply_curry {A R ρ : Type} (s : Signature A R) (f : A → ρ) (args : A) :
    s.apply (s.curry f) args = f args := by
  induction s with
  | returning => rfl
  | arrow param rest ih => exact ih (fun as => f (args.1, as)) args.2

end Signature
end Wirecall
