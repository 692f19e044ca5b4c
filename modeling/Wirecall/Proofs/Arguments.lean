import Wirecall.Proofs.Acceptance
import Wirecall.Slot

/-!
# Reading arguments one by one

A signature reads its parameters from the first to the last, each on its own from all named arguments,
and stops at the first that cannot be read.

* `Param.read_eq_ok_iff` and `Param.read_eq_error_iff` are what one parameter does: the first argument of
  exactly its name is decoded, and without one its type has to know what absence means.
* `Signature.Reads` says what all parameters read, without a word about errors, and
  `Signature.decodeArgs_eq_ok_iff` that this is what comes out.
* `Signature.decodeArgs_eq_error_iff` is the order of errors: the error of a signature is that of the
  first parameter that has one.

The parameters of a signature have different types. `Signature.places` lists them with their types left
open, so that one can speak of the parameters before another.
-/

namespace Wirecall

/-! ### One parameter -/

namespace Param

variable {α : Type}

theorem read_eq_ok_iff {p : Param α} {args : Arguments} {a : α} :
    p.read args = .ok a ↔
      (∃ v, args.lookup p.name = some v ∧ p.codec.decode v = .ok a) ∨
        args.lookup p.name = none ∧ p.codec.absent = some a := by
  unfold read
  -- There is an argument of that name, or absence decides.
  cases args.lookup p.name with
  | some v => cases h : p.codec.decode v <;> simp [h]
  | none => cases p.codec.absent <;> simp

/-- An argument that is there is to blame for itself; one that is not there is missed, unless its type
has a value for absence. -/
theorem read_eq_error_iff {p : Param α} {args : Arguments} {e : DispatchError} :
    p.read args = .error e ↔
      (∃ v source, args.lookup p.name = some v ∧ p.codec.decode v = .error source ∧
          e = .invalidArgument p.name source) ∨
        args.lookup p.name = none ∧ p.codec.absent = none ∧ e = .missingArgument p.name := by
  unfold read
  cases args.lookup p.name with
  -- The error of the codec is kept as the source, next to the name of the parameter.
  | some v => cases h : p.codec.decode v <;> simp [h, eq_comm]
  | none => cases p.codec.absent <;> simp [eq_comm]

end Param

/-! ### All parameters -/

/-- A parameter whose type is left open. Parameters of different types make up one list this way, and one
can speak of the parameters before another. -/
structure Place where
  {α : Type}
  param : Param α

/-- Whether the parameter can be read from some arguments. -/
def Place.Reads (p : Place) (args : Arguments) : Prop :=
  ∃ a, p.param.read args = .ok a

/-- A parameter that cannot be read has an error. -/
theorem Place.not_reads_iff {p : Place} {args : Arguments} :
    ¬ p.Reads args ↔ ∃ e, p.param.read args = .error e := by
  unfold Reads
  cases p.param.read args <;> simp

namespace Signature

variable {A R : Type}

/-- The parameters of the arguments, from left to right. -/
def places {A R : Type} : Signature A R → List Place
  | .returning _ => []
  | .arrow param rest => ⟨param⟩ :: rest.places

/-- What is published about the arguments is what is published about their parameters. -/
theorem params_eq_map_places (s : Signature A R) :
    s.params = s.places.map fun p => p.param.describe := by
  induction s with
  | returning => rfl
  | arrow param rest ih => rw [params, places, List.map_cons, ih]

theorem places_ofSlots (result : Param R) (slots : List Slot) :
    (ofSlots result slots).places = slots.map fun s => ⟨s.param⟩ := by
  induction slots with
  | nil => rfl
  | cons s rest ih => rw [ofSlots, places, List.map_cons, ih]

/-- Whether some values are what the parameters read, each in its place. A parameter that is left out reads its
value for absence, if it has one. -/
def Reads {A R : Type} : Signature A R → Arguments → A → Prop
  | .returning _, _, () => True
  | .arrow param rest, args, (a, as) => param.read args = .ok a ∧ rest.Reads args as

theorem decodeArgs_eq_ok_iff {s : Signature A R} {args : Arguments} {as : A} :
    s.decodeArgs args = .ok as ↔ s.Reads args as := by
  induction s with
  | returning => exact ⟨fun _ => trivial, fun _ => rfl⟩
  | arrow param rest ih =>
    obtain ⟨a, as⟩ := as
    -- First the head is read, then the rest, and both results are paired.
    rw [decodeArgs, bind_eq_ok_iff, Reads]
    constructor
    · rintro ⟨b, hb, h⟩
      obtain ⟨bs, hbs, h⟩ := bind_eq_ok_iff.1 h
      cases h
      exact ⟨hb, ih.1 hbs⟩
    · rintro ⟨ha, has⟩
      exact ⟨a, ha, bind_eq_ok_iff.2 ⟨as, ih.2 has, rfl⟩⟩

/-- All arguments can be read together if each of them can. No parameter uses up what it reads. -/
theorem exists_reads_iff {s : Signature A R} {args : Arguments} :
    (∃ as, s.Reads args as) ↔ ∀ p ∈ s.places, p.Reads args := by
  induction s with
  | returning => exact ⟨fun _ _ => List.not_mem_nil.elim, fun _ => ⟨(), trivial⟩⟩
  | arrow param rest ih =>
    -- Each parameter reads from all arguments, so reading the head does not get in the way of the rest.
    rw [places, List.forall_mem_cons, ← ih]
    constructor
    · rintro ⟨⟨a, as⟩, ha, has⟩
      exact ⟨⟨a, ha⟩, as, has⟩
    · rintro ⟨⟨a, ha⟩, as, has⟩
      exact ⟨(a, as), ha, has⟩

/-- **The first parameter that cannot be read is the one that is reported.** -/
theorem decodeArgs_eq_error_iff {s : Signature A R} {args : Arguments} {e : DispatchError} :
    s.decodeArgs args = .error e ↔
      ∃ before p after, s.places = before ++ p :: after ∧ (∀ q ∈ before, q.Reads args) ∧
        p.param.read args = .error e := by
  induction s with
  | returning => simp [decodeArgs, places]
  | arrow param rest ih =>
    -- The head is to blame, or it can be read and the blame is behind it.
    have hstep : (arrow param rest).decodeArgs args = .error e ↔
        param.read args = .error e ∨
          Place.Reads ⟨param⟩ args ∧ rest.decodeArgs args = .error e := by
      simp only [decodeArgs, bind_eq_error_iff, pure, Except.pure, reduceCtorEq, and_false,
        exists_false, or_false, exists_and_right, Place.Reads]
    rw [hstep, ih, places, exists_first_cons_iff]

end Signature
end Wirecall
