import Wirecall.Proofs.Agreement
import Wirecall.Proofs.Arguments
import Wirecall.Proofs.Declarations
import Wirecall.Sample.Errors

/-!
# What is published is what is read

Whoever knows an interface only by its description can tell which arguments a server will read: it
validates each argument against what is published about its parameter, with the declarations of the
interface at hand. A server reads them with the native types and knows nothing of descriptions. The two
come to the same (`Interface.decodeArgs_agrees_published`), also about which parameter is to blame.

* `ParamDescription.Accepts` is the question asked of a description: of the arguments of exactly its
  name the first counts, and only an option may be left out.
* `Interface.knows_of_covers` is what the declarations are good for. A recursive type inside a parameter
  refers to itself by name, and as names that are referred to mean one thing
  (`Interface.Unambiguous`), the validator finds that type under the name.
* `Slot.reads_iff_accepts` settles one parameter, by the agreement of validation and decoding.

A type under another name is published under that name alone, so its own would lead nowhere. This is of
no consequence unless something refers to it: records and variants have to go by their own names
(`DataType.OwnNames`).
-/

namespace Wirecall

namespace DataType

mutual
/-- Whether the records and variants inside a type go by their own names. Others may go by any name, as
plain reasons do. -/
def OwnNames : DataType → Prop
  | .named _ _ item => item.OwnNames ∧ item.descriptor.isDeclaration = false
  | .list item | .array item | .boxed item | .option item | .map _ _ item => item.OwnNames
  | .pair first second => first.OwnNames ∧ second.OwnNames
  | .record _ _ fields => FieldsOwnNames fields
  | .variant _ _ cases => CasesOwnNames cases
  | .int64 | .int | .int32 | .bool | .float | .string | .char | .unit | .timestamp | .tree
  | .chain => True
/-- The same for the types of some fields. -/
def FieldsOwnNames : List FieldType → Prop
  | [] => True
  | ⟨_, _, type⟩ :: rest => type.OwnNames ∧ FieldsOwnNames rest
/-- The same for the payloads of some cases. -/
def CasesOwnNames : List CaseType → Prop
  | [] => True
  | ⟨_, _, none⟩ :: rest => CasesOwnNames rest
  | ⟨_, _, some payload⟩ :: rest => payload.OwnNames ∧ CasesOwnNames rest
end

end DataType

/-- A descriptor comes before everything inside its shape. -/
theorem Descriptor.visit_eq_cons (d : Descriptor) : d.visit = d :: visitShape d.shape := by
  cases d
  rfl

namespace Interface

/-! ### What an interface describes -/

variable {A R : Type}

/-- Whether one of the methods has the parameters and the result of a signature. -/
def Describes (i : Interface) (s : Signature A R) : Prop :=
  ∃ m ∈ i.methods, m.params = s.params ∧ m.result = s.result

theorem describes_declare (i : Interface) (name description : String) (s : Signature A R) :
    (i.declare name description s).Describes s :=
  ⟨_, List.mem_append_right _ List.mem_cons_self, rfl, rfl⟩

/-- A signature stays described when the errors change. -/
theorem Describes.withErrors {i : Interface} {s : Signature A R} (h : i.Describes s)
    (errors : Descriptor) : (i.withErrors errors).Describes s := by
  obtain ⟨m, hm, hsame⟩ := h
  exact ⟨{ m with errors }, List.mem_map_of_mem hm, hsame⟩

/-- Everything inside a published parameter is described. -/
theorem Describes.mem_descriptors {i : Interface} {s : Signature A R} (h : i.Describes s)
    {p : ParamDescription} (hp : p ∈ s.params) {d : Descriptor} (hd : d ∈ p.type.visit) :
    d ∈ i.descriptors := by
  obtain ⟨m, hm, hparams, _⟩ := h
  -- The type of a parameter is one of the types that the methods mention.
  have htype : p.type ∈ i.types := by
    refine List.mem_append_left _ (List.mem_flatMap.2 ⟨m, hm, List.mem_append_left _ ?_⟩)
    exact List.mem_map_of_mem (hparams ▸ hp)
  exact List.mem_flatMap.2 ⟨p.type, htype, hd⟩

/-! ### What the declarations are good for -/

/-- Whether an interface describes everything inside a descriptor, and the descriptor itself if it is a
declaration. -/
def Covers (i : Interface) (d : Descriptor) : Prop :=
  (∀ e ∈ Descriptor.visitShape d.shape, e ∈ i.descriptors) ∧
    (d.isDeclaration = true → d ∈ i.descriptors)

theorem covers_of_visit {i : Interface} {d : Descriptor} (h : ∀ e ∈ d.visit, e ∈ i.descriptors) :
    i.Covers d := by
  rw [Descriptor.visit_eq_cons, List.forall_mem_cons] at h
  exact ⟨h.2, fun _ => h.1⟩

/-- A recursive type that is covered is found under its name. -/
theorem declaration?_of_covers {i : Interface} (hnames : i.Unambiguous) {d : Descriptor}
    (h : i.Covers d) (hd : d.isDeclaration = true) {r : Descriptor}
    (hr : r ∈ Descriptor.visitShape d.shape) (href : r.shape = .ref d.name) :
    i.validator.declaration? d.name = some d :=
  declaration?_validator hnames (h.2 hd) hd ⟨r, h.1 r hr, href⟩

mutual
/-- The validator of an interface knows the types whose descriptors the interface covers. -/
theorem knows_of_covers {i : Interface} (hnames : i.Unambiguous) : ∀ (type : DataType),
    type.OwnNames → i.Covers type.descriptor → i.validator.Knows type
  | .tree, _, h =>
    declaration?_of_covers hnames h rfl (r := IntTree.reference)
      (by simp [DataType.descriptor, IntTree.descriptor, IntTree.reference, Descriptor.visitShape,
        Descriptor.visitCases, Descriptor.visit]) rfl
  | .chain, _, h =>
    declaration?_of_covers hnames h rfl (r := ⟨"chain", "", .ref "chain"⟩)
      (by simp [DataType.descriptor, IntChain.descriptor, Descriptor.optionOf, Descriptor.visitShape,
        Descriptor.visitFields, Descriptor.visit]) rfl
  | .list item, hown, h | .array item, hown, h | .option item, hown, h | .map _ _ item, hown, h =>
    knows_of_covers hnames item hown (covers_of_visit h.1)
  | .boxed item, hown, h => knows_of_covers hnames item hown h
  | .named name _ item, hown, h => by
    obtain ⟨hown, hitem⟩ := hown
    -- The new name hides nothing: what is renamed is no declaration.
    have hcovers : i.Covers item.descriptor := by
      refine ⟨h.1, ?_⟩
      intro hd
      rw [hitem] at hd
      cases hd
    refine ⟨knows_of_covers hnames item hown hcovers, ?_⟩
    intro cases hcases
    rw [Descriptor.isDeclaration, hcases] at hitem
    cases hitem
  | .pair first second, hown, h => by
    obtain ⟨hfirst, hsecond⟩ := List.forall_mem_append.1 h.1
    exact ⟨knows_of_covers hnames first hown.1 (covers_of_visit hfirst),
      knows_of_covers hnames second hown.2 (covers_of_visit hsecond)⟩
  | .record name _ fields, hown, h => knowsFields_of_covers hnames name fields hown h.1
  | .variant _ _ cases, hown, h => knowsCases_of_covers hnames cases hown h.1
  | .int64, _, _ | .int, _, _ | .int32, _, _ | .bool, _, _ | .float, _, _ | .string, _, _
  | .char, _, _ | .unit, _, _ | .timestamp, _, _ => trivial
theorem knowsFields_of_covers {i : Interface} (hnames : i.Unambiguous) (owner : String) :
    ∀ (fields : List FieldType), DataType.FieldsOwnNames fields →
      (∀ e ∈ Descriptor.visitFields (DataType.fieldDescriptors owner fields), e ∈ i.descriptors) →
      i.validator.KnowsFields fields
  | [], _, _ => trivial
  | ⟨_, _, type⟩ :: rest, hown, h => by
    obtain ⟨hfirst, hrest⟩ := List.forall_mem_append.1 h
    exact ⟨knows_of_covers hnames type hown.1 (covers_of_visit hfirst),
      knowsFields_of_covers hnames owner rest hown.2 hrest⟩
theorem knowsCases_of_covers {i : Interface} (hnames : i.Unambiguous) :
    ∀ (cases : List CaseType), DataType.CasesOwnNames cases →
      (∀ e ∈ Descriptor.visitCases (DataType.caseDescriptors cases), e ∈ i.descriptors) →
      i.validator.KnowsCases cases
  | [], _, _ => trivial
  | ⟨_, _, none⟩ :: rest, hown, h => knowsCases_of_covers hnames rest hown h
  | ⟨_, _, some payload⟩ :: rest, hown, h => by
    obtain ⟨hfirst, hrest⟩ := List.forall_mem_append.1 h
    exact ⟨knows_of_covers hnames payload hown.1 (covers_of_visit hfirst),
      knowsCases_of_covers hnames rest hown.2 hrest⟩
end

end Interface

/-! ### One parameter -/

/-- Whether some arguments hold what is published about a parameter. The first argument of exactly its
name has to pass validation; without one the parameter has to be an option. -/
def ParamDescription.Accepts (p : ParamDescription) (c : Validator) (args : Arguments) : Prop :=
  (∃ v, args.lookup p.name = some v ∧ c.check p.type v = .accepted) ∨
    args.lookup p.name = none ∧ p.type.shape.isOption = true

namespace Slot

variable {c : Validator} {s : Slot} {args : Arguments}

theorem reads_iff_accepts (h : c.Knows s.type) :
    Place.Reads ⟨s.param⟩ args ↔ s.param.describe.Accepts c args := by
  -- Of an argument that is there, validation asks what decoding asks,
  have hcheck (v : Value) : c.check s.type.descriptor v = .accepted ↔ ∃ x, s.type.decode v = .ok x :=
    (Validator.check_reports c s.type v h).eq_accepted_iff
  -- and of one that is not there, both ask for the same kind of type.
  have habsent : s.type.descriptor.shape.isOption = true ↔ ∃ x, s.type.absent = some x := by
    rw [s.type.isOption_descriptor, Option.isSome_iff_exists]
  unfold Place.Reads ParamDescription.Accepts
  simp only [Param.read_eq_ok_iff, Param.describe, param, Param.ofCodec, Codec.ofType, hcheck,
    habsent]
  -- The two ways to read the parameter are the two ways to be accepted.
  constructor
  · rintro ⟨x, ⟨v, hv, hx⟩ | ⟨hnone, hx⟩⟩
    · exact .inl ⟨v, hv, x, hx⟩
    · exact .inr ⟨hnone, x, hx⟩
  · rintro (⟨v, hv, x, hx⟩ | ⟨hnone, x, hx⟩)
    · exact ⟨x, .inl ⟨v, hv, hx⟩⟩
    · exact ⟨x, .inr ⟨hnone, hx⟩⟩

/-- The error of a parameter is about the first argument of its name, and of the kind that validation
comes to; or there is no such argument. -/
theorem blames_of_read (h : c.Knows s.type) {e : DispatchError} (hread : s.param.read args = .error e) :
    args.lookup s.param.name = none ∧ e = .missingArgument s.param.name ∨
      ∃ v source, args.lookup s.param.name = some v ∧ e = .invalidArgument s.param.name source ∧
        ∃ refusal, c.check s.param.describe.type v = .refused refusal ∧ refusal.Alike source := by
  rcases Param.read_eq_error_iff.1 hread with ⟨v, source, hv, hdecode, rfl⟩ | ⟨hnone, _, rfl⟩
  · -- The validator has an error of its own for this value, and it is alike.
    have hcheck := (Validator.check_reports c s.type v h).eq_refused hdecode
    exact .inr ⟨v, source, hv, rfl, hcheck⟩
  · exact .inl ⟨hnone, rfl⟩

end Slot

/-! ### All parameters -/

/-- **A server reads exactly the arguments that are published as acceptable**, and blames the first
parameter whose description does not accept them. -/
theorem Interface.decodeArgs_agrees_published (i : Interface) (hnames : i.Unambiguous) {R : Type}
    (result : Param R) (slots : List Slot) (hown : ∀ s ∈ slots, s.type.OwnNames)
    (hdescribed : i.Describes (Signature.ofSlots result slots)) (args : Arguments) :
    let signature := Signature.ofSlots result slots
    ((∃ as, signature.decodeArgs args = .ok as) ↔
        ∀ p ∈ signature.params, p.Accepts i.validator args) ∧
      ∀ e, signature.decodeArgs args = .error e →
        ∃ before p after, signature.params = before ++ p :: after ∧
          (∀ q ∈ before, q.Accepts i.validator args) ∧ ¬ p.Accepts i.validator args ∧
          (args.lookup p.name = none ∧ e = .missingArgument p.name ∨
            ∃ v source, args.lookup p.name = some v ∧ e = .invalidArgument p.name source ∧
              ∃ refusal, i.validator.check p.type v = .refused refusal ∧ refusal.Alike source) := by
  intro signature
  -- All that can be visited in the parameters is described, which is enough to know their types.
  have hknows (s : Slot) (hs : s ∈ slots) : i.validator.Knows s.type := by
    refine knows_of_covers hnames s.type (hown s hs) (covers_of_visit ?_)
    have hp : s.param.describe ∈ signature.params := by
      rw [Signature.params_ofSlots]
      exact List.mem_map_of_mem hs
    exact fun d hd => hdescribed.mem_descriptors hp hd
  have hplaces : signature.places = slots.map fun s => ⟨s.param⟩ :=
    Signature.places_ofSlots result slots
  -- Parameter by parameter, reading and accepting are the same.
  have haccepts (p : Place) (hp : p ∈ signature.places) :
      p.Reads args ↔ p.param.describe.Accepts i.validator args := by
    rw [hplaces] at hp
    obtain ⟨s, hs, rfl⟩ := List.mem_map.1 hp
    exact Slot.reads_iff_accepts (hknows s hs)
  refine ⟨?_, ?_⟩
  · simp only [Signature.decodeArgs_eq_ok_iff, Signature.exists_reads_iff,
      Signature.params_eq_map_places, List.forall_mem_map]
    exact forall₂_congr haccepts
  · intro e he
    obtain ⟨before, p, after, hsplit, hbefore, hp⟩ := Signature.decodeArgs_eq_error_iff.1 he
    -- The split of the places is a split of what is published about them.
    have hmem (q : Place) (hq : q ∈ before ++ p :: after) : q ∈ signature.places := hsplit ▸ hq
    refine ⟨before.map fun q => q.param.describe, p.param.describe,
      after.map fun q => q.param.describe, ?_, ?_, ?_, ?_⟩
    · rw [Signature.params_eq_map_places, hsplit, List.map_append, List.map_cons]
    · rw [List.forall_mem_map]
      exact fun q hq => (haccepts q (hmem q (List.mem_append_left _ hq))).1 (hbefore q hq)
    · rw [← haccepts p (hmem p (by simp)), Place.not_reads_iff]
      exact ⟨e, hp⟩
    · -- For the kind of the error, the type of the parameter has to be known.
      have hp' := hmem p (by simp)
      rw [hplaces] at hp'
      obtain ⟨s, hs, rfl⟩ := List.mem_map.1 hp'
      exact Slot.blames_of_read (hknows s hs) hp

/-- A tree and two arguments that may be left out, one of them by way of an indirection. Of two trees
the first counts, one under a name in another case does not, and a bad subtree is found through the
references. -/
theorem Interface.decodeArgs_agrees_published_graft :
    let slots : List Slot :=
      [⟨.tree, some "stock", none⟩, ⟨.option .tree, some "scion", none⟩,
        ⟨.boxed (.option .int64), some "height", none⟩]
    let signature := Signature.ofSlots (.ofCodec (.ofType .tree)) slots
    let i := ((Interface.new { name := "garden" }).declare "graft" "" signature).withErrors
      Sample.calcErrors.codec.descriptor
    let leaf : Value := .seq [.string "LEAF", .int 1]
    let args : Arguments :=
      [("weather", .null), ("scion", .seq [leaf]), ("stock", leaf), ("Height", .null),
        ("stock", .null)]
    let twig : Value := .seq [.string "Node", .seq [leaf, .string "twig"]]
    i.Unambiguous ∧ (∀ s ∈ slots, s.type.OwnNames) ∧ i.Describes signature ∧
      (∀ p ∈ signature.params, p.Accepts i.validator args) ∧
      ∃ before p after, signature.params = before ++ p :: after ∧
        ¬ p.Accepts i.validator (("scion", .seq [twig]) :: args) := by
  intro slots signature i leaf args twig
  have hnames : i.Unambiguous := by decide +kernel
  have hown : ∀ s ∈ slots, s.type.OwnNames := by
    intro s hs
    simp only [slots, List.mem_cons, List.not_mem_nil, or_false] at hs
    rcases hs with rfl | rfl | rfl <;> trivial
  have hdescribed : i.Describes signature := (Interface.describes_declare _ _ _ _).withErrors _
  have hpublished := Interface.decodeArgs_agrees_published i hnames _ slots hown hdescribed
  refine ⟨hnames, hown, hdescribed, (hpublished args).1.1 ⟨_, rfl⟩, ?_⟩
  -- The bad subtree is put in front, so it is the scion that counts.
  have herror : signature.decodeArgs (("scion", .seq [twig]) :: args) =
      .error (.invalidArgument "scion" (.unknownTag "tree" "twig")) := by
    subst twig args leaf slots
    rfl
  obtain ⟨before, p, after, hsplit, _, hrefused, _⟩ :=
    (hpublished (("scion", .seq [twig]) :: args)).2 _ herror
  exact ⟨before, p, after, hsplit, hrefused⟩

end Wirecall
