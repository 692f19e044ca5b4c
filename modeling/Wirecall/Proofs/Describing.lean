import Mathlib.Data.List.Induction
import Wirecall.Interface
import Wirecall.Proofs.Arguments
import Wirecall.Sample.Errors

/-!
# Interfaces while they are described

The errors of an interface are written down once for the interface and once more in each of its methods.
They may be changed at any time: before the first method is declared, between two declarations, or after the
last. To keep all copies alike takes two operations that know of each other. A declaration copies the errors
as they are, and a change of errors reaches the methods that are there already. Neither touches anything else.

* `Interface.Operation` is what can be done to an interface, and `Interface.after` what a sequence of
  operations makes of a new one.
* `Interface.declarations` and `Interface.latestErrors` read a history without an interface: what was
  declared in it, and which errors were chosen last. `Interface.Declaration.published` is what a declaration
  comes to under some errors.
* `Interface.Recorded` is the invariant. An interface is what its history says. Each operation keeps it
  (`Interface.Recorded.perform`), hence every history does (`Interface.recorded_after`).
* `Interface.after_is_published` is the main statement.

**Descriptions on their own.** A method can be described without being declared. Such a description is what
a declaration would have recorded at the time, and it leaves no trace: whatever comes later, the interface is
the same without it.
-/

namespace Wirecall
namespace Interface

/-! ### Operations -/

/-- A declaration of a method, with the types of its arguments and of its result left open. -/
structure Declaration where
  {A R : Type}
  name : String
  description : String
  signature : Signature A R

/-- What is to be published of a declaration under some errors: every parameter in its place, then the
result. -/
def Declaration.published (d : Declaration) (errors : Descriptor) : MethodDescription where
  name := d.name
  description := d.description
  params := d.signature.places.map fun p => p.param.describe
  result := d.signature.resultParam.describe
  errors

/-- What can be done to an interface. -/
inductive Operation : Type 1
  | declare (d : Declaration)
  /-- Describes a method without recording it. -/
  | describe (d : Declaration)
  /-- Goes over to another type of errors. -/
  | withErrors {E : Type} (type : ErrorType E)

/-- The method that an operation answers with, if any, and the interface after it. -/
def perform (i : Interface) : Operation → Option MethodDescription × Interface
  | .declare d =>
    (some (i.describe d.name d.description d.signature), i.declare d.name d.description d.signature)
  | .describe d => (some (i.describe d.name d.description d.signature), i)
  | .withErrors type => (none, i.withErrors type.codec.descriptor)

/-- What a sequence of operations makes of a new interface. -/
def after (heading : Heading) (history : List Operation) : Interface :=
  history.foldl (fun i o => (i.perform o).2) (new heading)

theorem after_snoc (heading : Heading) (history : List Operation) (o : Operation) :
    after heading (history ++ [o]) = ((after heading history).perform o).2 := by
  rw [after, List.foldl_append]
  rfl

/-- A description that is not recorded makes no difference to anything that comes later. -/
theorem after_describe (heading : Heading) (before : List Operation) (d : Declaration)
    (rest : List Operation) :
    after heading (before ++ .describe d :: rest) = after heading (before ++ rest) := by
  rw [after, after, List.foldl_append, List.foldl_append]
  -- The description leaves the interface at that point as it was.
  rfl

/-! ### What a history says -/

/-- The declaration in an operation, if it is one. -/
def Operation.declaration? : Operation → Option Declaration
  | .declare d => some d
  | _ => none

/-- The descriptor of the errors that an operation goes over to, if it does. -/
def Operation.errors? : Operation → Option Descriptor
  | .withErrors type => some type.codec.descriptor
  | _ => none

/-- The declarations in a history, as often as they were made and in this order. -/
def declarations (history : List Operation) : List Declaration :=
  history.filterMap Operation.declaration?

/-- The descriptor of the errors that were chosen last. Where none were, they are the plain reasons of a
new interface. -/
def latestErrors (history : List Operation) : Descriptor :=
  (history.filterMap Operation.errors?).getLast?.getD ErrorType.reason.codec.descriptor

theorem Operation.declaration?_eq_some_iff {o : Operation} {d : Declaration} :
    o.declaration? = some d ↔ o = .declare d := by
  cases o <;> simp [Operation.declaration?]

theorem declarations_snoc (history : List Operation) (o : Operation) :
    declarations (history ++ [o]) = declarations history ++ o.declaration?.toList := by
  rw [declarations, List.filterMap_append]
  cases o <;> rfl

theorem latestErrors_snoc (history : List Operation) (o : Operation) :
    latestErrors (history ++ [o]) = o.errors?.getD (latestErrors history) := by
  rw [latestErrors, List.filterMap_append]
  cases o with
  | withErrors type =>
    -- The errors of the last operation come after all others,
    rw [List.getLast?_append]
    rfl
  | declare d | describe d =>
    -- and an operation without errors leaves the list as it is.
    rw [List.filterMap_cons_none rfl, List.filterMap_nil, List.append_nil]
    rfl

/-! ### One operation -/

variable {heading : Heading} {history : List Operation} {i : Interface}

/-- A description repeats its declaration and the errors of the interface. -/
theorem describe_eq_published (i : Interface) (d : Declaration) :
    i.describe d.name d.description d.signature = d.published i.errors := by
  -- The parameters are published one by one, in their places.
  rw [describe, Signature.params_eq_map_places]
  rfl

theorem perform_describe (i : Interface) (d : Declaration) :
    i.perform (.describe d) = (some (d.published i.errors), i) := by
  rw [perform, describe_eq_published]

/-- A declaration records what it answers with. -/
theorem perform_declare (i : Interface) (d : Declaration) :
    i.perform (.declare d) =
      (some (d.published i.errors), { i with methods := i.methods ++ [d.published i.errors] }) := by
  rw [perform, declare, describe_eq_published]

/-- What an interface has to do with the operations that led to it. This is the invariant of histories, and
nothing about an interface is left open by it. -/
structure Recorded (heading : Heading) (history : List Operation) (i : Interface) : Prop where
  heading_eq : i.heading = heading
  errors_eq : i.errors = latestErrors history
  /-- There is one method for each declaration, and all methods repeat the errors of the interface. -/
  methods_eq : i.methods = (declarations history).map fun d => d.published i.errors

theorem recorded_new (heading : Heading) : Recorded heading [] (new heading) where
  heading_eq := rfl
  errors_eq := rfl
  methods_eq := rfl

/-- **Each operation keeps the record.** -/
theorem Recorded.perform (h : Recorded heading history i) (o : Operation) :
    Recorded heading (history ++ [o]) (i.perform o).2 := by
  -- Only a change of errors touches the errors, and then they are the latest.
  have herrors : (i.perform o).2.errors = latestErrors (history ++ [o]) := by
    rw [latestErrors_snoc, ← h.errors_eq]
    cases o <;> rfl
  cases o with
  | declare d =>
    -- The errors stay, so the new method has the same ones as those before it.
    refine ⟨h.heading_eq, herrors, ?_⟩
    rw [perform_declare, declarations_snoc, List.map_append, ← h.methods_eq]
    rfl
  | describe d =>
    refine ⟨h.heading_eq, herrors, ?_⟩
    -- Neither the interface nor the list of declarations has changed.
    show i.methods = (declarations (history ++ [.describe d])).map fun d => d.published i.errors
    rw [declarations_snoc, h.methods_eq]
    exact congrArg _ (List.append_nil _).symm
  | withErrors type =>
    -- Whatever errors the methods had, they are written over.
    refine ⟨h.heading_eq, herrors, ?_⟩
    show (i.methods.map fun m => { m with errors := type.codec.descriptor }) =
      (declarations (history ++ [.withErrors type])).map fun d => d.published type.codec.descriptor
    rw [declarations_snoc, h.methods_eq, List.map_map]
    exact congrArg _ (List.append_nil _).symm

/-- **So does every history.** -/
theorem recorded_after (heading : Heading) (history : List Operation) :
    Recorded heading history (after heading history) := by
  -- The last operation acts on what the ones before it have made.
  induction history using List.reverseRecOn with
  | nil => exact recorded_new heading
  | append_singleton history o ih =>
    rw [after_snoc]
    exact ih.perform o

/-! ### Looking for a method -/

/-- Whether a declaration is the earliest of its name in a history. Descriptions that were not recorded and
changes of errors may come before it. -/
def Declaration.EarliestIn (d : Declaration) (history : List Operation) : Prop :=
  ∃ before rest, history = before ++ .declare d :: rest ∧
    ∀ e, .declare e ∈ before → e.name ≠ d.name

/-- What a search by name passes over are operations that declare nothing of this name. -/
theorem forall_not_declares_iff {before : List Operation} {name : String} :
    (∀ o ∈ before, (!o.declaration?.any (·.name == name)) = true) ↔
      ∀ e, .declare e ∈ before → e.name ≠ name := by
  constructor
  · intro h e he hname
    -- A declaration of the name would have ended the search.
    have hpassed := h _ he
    simp [Operation.declaration?, hname] at hpassed
  · intro h o ho
    cases o with
    | declare e => simpa [Operation.declaration?] using h e ho
    | describe _ | withErrors _ => rfl

theorem find?_declarations_eq_some_iff {name : String} {d : Declaration} :
    (declarations history).find? (·.name == name) = some d ↔ d.EarliestIn history ∧ d.name = name := by
  -- The search goes through the whole history and skips what is no declaration.
  simp only [declarations, List.find?_filterMap, Option.bind_eq_some_iff,
    Operation.declaration?_eq_some_iff, exists_eq_right, List.find?_eq_some_iff_append,
    forall_not_declares_iff]
  -- What is left are two spellings of one split of the history.
  constructor
  · rintro ⟨hname, before, rest, rfl, hbefore⟩
    cases beq_iff_eq.1 hname
    exact ⟨⟨before, rest, rfl, hbefore⟩, rfl⟩
  · rintro ⟨⟨before, rest, rfl, hbefore⟩, rfl⟩
    exact ⟨beq_iff_eq.2 rfl, before, rest, rfl, hbefore⟩

/-- To look for a method is to look for its declaration. -/
theorem Recorded.method?_eq (h : Recorded heading history i) (name : String) :
    i.method? name =
      ((declarations history).find? (·.name == name)).map fun d => d.published i.errors := by
  -- The name of a method is that of its declaration, so the search can go through the declarations.
  rw [method?, h.methods_eq, List.find?_map]
  rfl

theorem Recorded.method?_eq_some_iff (h : Recorded heading history i) {name : String}
    {m : MethodDescription} :
    i.method? name = some m ↔
      ∃ d : Declaration, d.EarliestIn history ∧ d.name = name ∧ m = d.published i.errors := by
  simp only [h.method?_eq, Option.map_eq_some_iff, find?_declarations_eq_some_iff, and_assoc,
    eq_comm (a := m)]

theorem Recorded.method?_eq_none_iff (h : Recorded heading history i) {name : String} :
    i.method? name = none ↔ ∀ d ∈ declarations history, d.name ≠ name := by
  simp only [h.method?_eq, Option.map_eq_none_iff, List.find?_eq_none, beq_iff_eq, ne_eq]

/-! ### The whole history -/

/-- **An interface is what its history says.** Whatever was declared, described and changed, in any order,
there is one method for each declaration, in the order of the declarations, with the name, the description,
the parameters and the result that were declared. All methods have the errors of the interface, which are
those that were chosen last. A description that is not recorded is the one that a declaration would have
recorded, and leaves everything as it is, then and later. The method of a name is the earliest of those that
were declared under it. -/
theorem after_is_published (heading : Heading) (history : List Operation) :
    let i := after heading history
    i.heading = heading ∧ i.errors = latestErrors history ∧
      (i.methods = (declarations history).map fun d => d.published i.errors) ∧
      (∀ m ∈ i.methods, m.errors = i.errors) ∧
      (∀ d : Declaration,
        let m := d.published i.errors
        i.perform (.describe d) = (some m, i) ∧
          i.perform (.declare d) = (some m, { i with methods := i.methods ++ [m] }) ∧
          ∀ rest, after heading (history ++ .describe d :: rest) = after heading (history ++ rest)) ∧
      ∀ name,
        (∀ m, i.method? name = some m ↔
          ∃ d : Declaration, d.EarliestIn history ∧ d.name = name ∧ m = d.published i.errors) ∧
        (i.method? name = none ↔ ∀ d ∈ declarations history, d.name ≠ name) := by
  intro i
  have h : Recorded heading history i := recorded_after heading history
  refine ⟨h.heading_eq, h.errors_eq, h.methods_eq, ?_, fun d => ⟨?_, ?_, ?_⟩, fun name => ⟨?_, ?_⟩⟩
  · rw [h.methods_eq]
    -- Each method is made with the errors of the interface.
    exact List.forall_mem_map.2 fun d _ => rfl
  · exact i.perform_describe d
  · exact i.perform_declare d
  · exact after_describe heading history d
  · exact fun m => h.method?_eq_some_iff
  · exact h.method?_eq_none_iff

/-- A calculator goes over to other errors twice. Of the methods that are called `ping`, the first one is
found, with the errors that came last. -/
theorem after_is_published_calculator :
    let heading : Heading := { name := "calculator" }
    let ping : Declaration := ⟨"ping", "", .returning (.ofCodec (.ofType .unit))⟩
    let sqrt : Declaration :=
      ⟨"sqrt", "", .arrow (.ofCodec (.ofType .int64) "n") (.returning (.ofCodec (.ofType .int64)))⟩
    let again : Declaration := ⟨"ping", "Once more", sqrt.signature⟩
    let history : List Operation :=
      [.declare ping, .withErrors Sample.calcErrors, .describe sqrt, .declare again,
        .withErrors Sample.faults]
    let i := after heading history
    let first := ping.published Sample.fault.descriptor
    i.methods = [first, again.published Sample.fault.descriptor] ∧ first ∈ i.methods ∧
      first.errors = i.errors ∧ i.method? "ping" = some first ∧ i.method? "sqrt" = none := by
  intro heading ping sqrt again history i first
  obtain ⟨-, herrors, hmethods, hsame, -, hmethod⟩ := after_is_published heading history
  -- The last change of errors decides for both methods, also for the one that came before it.
  have hfault : i.errors = Sample.fault.descriptor := herrors
  have hboth : i.methods = [first, again.published Sample.fault.descriptor] := by
    rw [hmethods, hfault]
    rfl
  have hfirst : first ∈ i.methods := hboth ▸ List.mem_cons_self
  refine ⟨hboth, hfirst, hsame first hfirst, ?_, ?_⟩
  · rw [(hmethod "ping").1]
    -- Nothing was declared before the first ping.
    exact ⟨ping, ⟨[], _, rfl, fun _ he => nomatch he⟩, rfl, hfault ▸ rfl⟩
  · rw [(hmethod "sqrt").2]
    -- The square root was described, but never declared.
    show ∀ d ∈ [ping, again], d.name ≠ "sqrt"
    simp [ping, again]

end Interface
end Wirecall
