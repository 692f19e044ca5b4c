import Wirecall.Proofs.Arguments
import Wirecall.Proofs.Loopback

/-!
# Which argument a parameter reads

Arguments are written in the order of the parameters and read by name, and the first argument of a name
counts. Nothing keeps two parameters of a signature from having one name. It even is what happens if two
parameters of one type go by the name of their type. Both are written then, each with its own argument,
and both read what was written first.

* `Signature.filled` lists the parameters of a signature with the arguments they were given.
* `Param.read_encodeArgs` is what a parameter reads from arguments as they were written: the argument of
  the first parameter of its name.
* `Signature.first_of_name_is_read` is the main statement. Under pairwise different names all arguments
  come back. In general they do exactly if every parameter can read its own argument out of what the first
  parameter of its name wrote.
* `Signature.second_unnamed_is_lost` has two parameters without names of their own.
-/

namespace Wirecall

/-! ### Parameters and their arguments -/

/-- A parameter with the argument that it was given. -/
structure Filled where
  {α : Type}
  param : Param α
  argument : α

namespace Filled

/-- What is written for the argument. -/
def written (p : Filled) : Value :=
  p.param.codec.encode p.argument

/-- Whether the parameter reads its own argument out of a value. -/
def ReadsFrom (p : Filled) (v : Value) : Prop :=
  p.param.codec.decode v = .ok p.argument

end Filled

namespace Signature

variable {A R : Type}

/-- The parameters of a signature with their arguments, from left to right. -/
def filled {A R : Type} : Signature A R → A → List Filled
  | .returning _, () => []
  | .arrow param rest, (a, as) => ⟨param, a⟩ :: rest.filled as

/-- The first parameter of a name, with its argument. Its argument is what every parameter of that name will
find on the other side. -/
def firstOfName (s : Signature A R) (as : A) (name : String) : Option Filled :=
  (s.filled as).find? fun p => p.param.name == name

theorem encodeArgs_eq_map_filled (s : Signature A R) (as : A) :
    s.encodeArgs as = (s.filled as).map fun p => (p.param.name, p.written) := by
  -- On the signature, as its parameters have types of their own and no list of them is at hand.
  induction s with
  | returning => rfl
  | arrow param rest ih =>
    obtain ⟨a, as⟩ := as
    rw [encodeArgs, filled, List.map_cons, ih]
    rfl

/-- Under a name stands what the first parameter of that name wrote. -/
theorem lookup_encodeArgs (s : Signature A R) (as : A) (name : String) :
    (s.encodeArgs as).lookup name = (s.firstOfName as name).map Filled.written := by
  rw [encodeArgs_eq_map_filled]
  unfold firstOfName
  induction s.filled as with
  | nil => rfl
  | cons p rest ih =>
    rw [List.map_cons, List.find?_cons]
    -- The two searches compare the names the other way round.
    by_cases hname : p.param.name = name
    · rw [hname, List.lookup_cons_self, beq_self_eq_true]
      rfl
    · rw [List.lookup_cons, beq_eq_false_iff_ne.2 (Ne.symm hname), beq_eq_false_iff_ne.2 hname]
      exact ih

/-- Arguments are read by reading each of them in its place. -/
theorem reads_iff_forall_filled {s : Signature A R} {args : Arguments} {as : A} :
    s.Reads args as ↔ ∀ p ∈ s.filled as, p.param.read args = .ok p.argument := by
  induction s with
  | returning => exact ⟨fun _ _ => List.not_mem_nil.elim, fun _ => trivial⟩
  | arrow param rest ih =>
    obtain ⟨a, as⟩ := as
    -- Reading in its place is the same statement for each parameter, the head and all others.
    rw [Reads, filled, List.forall_mem_cons, ih]

/-- A parameter of the signature has a first parameter of its name, itself or one before it. -/
theorem exists_firstOfName {s : Signature A R} {as : A} {q : Filled} (hq : q ∈ s.filled as) :
    ∃ p, s.firstOfName as q.param.name = some p := by
  refine Option.isSome_iff_exists.1 (List.find?_isSome.2 ⟨q, hq, ?_⟩)
  exact beq_self_eq_true _

end Signature

/-! ### What is read -/

/-- A parameter reads what the first parameter of its name wrote, and blames itself if it cannot. -/
theorem Param.read_encodeArgs {A R α : Type} (q : Param α) {s : Signature A R} {as : A} {p : Filled}
    (hp : s.firstOfName as q.name = some p) :
    q.read (s.encodeArgs as) = (q.codec.decode p.written).mapError (.invalidArgument q.name) := by
  have hlookup : (s.encodeArgs as).lookup q.name = some p.written := by
    rw [s.lookup_encodeArgs, hp, Option.map_some]
  simp only [Param.read, hlookup]
  -- The argument is there, so an error of the codec is the only one that can come up.
  cases q.codec.decode p.written <;> rfl

/-- **Every parameter reads the argument of the first parameter of its name.** Let the arguments of a
signature be such that each is read back from its own form.

* If no two parameters have one name, the signature reads back all arguments.
* In any case a parameter reads from what the first parameter of its name wrote, never from the argument
  of a parameter of another name.
* So the signature reads back all arguments exactly if every parameter reads its own argument out of what
  the first parameter of its name wrote. -/
theorem Signature.first_of_name_is_read {A R : Type} (s : Signature A R) {as : A} (h : s.Carries as) :
    ((s.params.map (·.name)).Nodup → s.decodeArgs (s.encodeArgs as) = .ok as) ∧
      (∀ q ∈ s.filled as, ∃ p, s.firstOfName as q.param.name = some p ∧
        q.param.read (s.encodeArgs as) =
          (q.param.codec.decode p.written).mapError (.invalidArgument q.param.name)) ∧
      (s.decodeArgs (s.encodeArgs as) = .ok as ↔
        ∀ q ∈ s.filled as, ∀ p, s.firstOfName as q.param.name = some p → q.ReadsFrom p.written) := by
  -- A parameter gets its own argument back exactly if its codec reads it out of what stands there.
  have hread {q p : Filled} (hp : s.firstOfName as q.param.name = some p) :
      q.param.read (s.encodeArgs as) = .ok q.argument ↔ q.ReadsFrom p.written := by
    rw [q.param.read_encodeArgs hp, Filled.ReadsFrom]
    cases q.param.codec.decode p.written <;> simp [Except.mapError]
  refine ⟨fun hnames => s.decodeArgs_encodeArgs hnames h, ?_, ?_⟩
  · intro q hq
    obtain ⟨p, hp⟩ := exists_firstOfName hq
    exact ⟨p, hp, q.param.read_encodeArgs hp⟩
  · -- The first parameter of a name exists and is unique, so "some" and "every" say the same here.
    rw [decodeArgs_eq_ok_iff, reads_iff_forall_filled]
    constructor
    · intro hall q hq p hp
      exact (hread hp).1 (hall q hq)
    · intro hall q hq
      obtain ⟨p, hp⟩ := exists_firstOfName hq
      exact (hread hp).2 (hall q hq p hp)

/-- Two numbers around a text that goes by the name of its type. -/
theorem Signature.first_of_name_is_read_around :
    let slots : List Slot := [⟨.int, some "from", none⟩, ⟨.string, none, none⟩, ⟨.int, some "to", none⟩]
    let s := ofSlots (.ofCodec (.ofType .unit)) slots
    let as : Slot.Carriers slots := (3, "to", 5, ())
    s.decodeArgs (s.encodeArgs as) = .ok as := by
  intro slots s as
  have hlossless : Slot.Lossless slots as := ⟨trivial, trivial, trivial, trivial⟩
  have hnames : (s.params.map (·.name)).Nodup := by decide
  exact (first_of_name_is_read s (carries_ofSlots _ hlossless)).1 hnames

/-- Two numbers that both go by the name of their type: the second one is lost. -/
theorem Signature.second_unnamed_is_lost :
    let slots : List Slot := [⟨.int, none, none⟩, ⟨.int, none, none⟩]
    let s := ofSlots (.ofCodec (.ofType .int)) slots
    let as : Slot.Carriers slots := (1, 2, ())
    Slot.Lossless slots as ∧ s.Carries as ∧ s.decodeArgs (s.encodeArgs as) = .ok (1, 1, ()) ∧
      s.decodeArgs (s.encodeArgs as) ≠ .ok as := by
  intro slots s as
  have hlossless : Slot.Lossless slots as := ⟨trivial, trivial, trivial⟩
  have hlost : s.decodeArgs (s.encodeArgs as) = .ok (1, 1, ()) := rfl
  refine ⟨hlossless, carries_ofSlots _ hlossless, hlost, ?_⟩
  rw [hlost]
  intro heq
  have hargs : ((1, 1, ()) : Slot.Carriers slots) = (1, 2, ()) := Except.ok.inj heq
  -- The two arguments that are compared differ in the second place.
  have hsecond : (1 : Int64) = 2 := congrArg (fun as : Slot.Carriers slots => as.2.1) hargs
  exact absurd hsecond (by decide)

end Wirecall
