import Mathlib.Data.List.Induction
import Mathlib.Data.List.Sort
import Mathlib.Logic.Relation
import Wirecall.Proofs.Declarations

/-!
# Declarations at their first occurrence

Generators are told every record and variant of an interface once. Where several descriptors go by one
name they are told the first, in the order in which a reader of the interface meets them: method by
method, arguments before the result, the errors last, and inside each descriptor parents before their
children and these from left to right. Interfaces that are published together are read one after the
other, as if they were one.

* `Descriptor.FirstDeclarations` says which declarations these are and in which order, without saying
  how they are collected. There is only one such list (`Descriptor.FirstDeclarations.unique`).
* `Descriptor.FirstDeclarations.snoc_of_hidden` and `Descriptor.FirstDeclarations.snoc_of_new` are one step of
  collecting: the list stays what it has to be as one more descriptor is met. So what is collected from
  nothing is the right list (`Descriptor.firstDeclarations_firstPass`).
* `Descriptor.foldl_addDeclaration_firstPass` is why a group of interfaces can be collected from what was
  collected in each. Leaving out repeated names early makes no difference to what is left out later.
* `typeDeclarations_are_first` is the main statement.
-/

open Relation

namespace Wirecall
namespace Descriptor

variable {all found : List Descriptor} {d : Descriptor} {name : String}

/-! ### Occurrences -/

/-- Whether a descriptor occurs in another, at any depth. Every descriptor occurs in itself. -/
def OccursIn (d whole : Descriptor) : Prop :=
  ReflTransGen (fun parent child => child ∈ parent.children) whole d

/-- A child is smaller than its parent. -/
theorem sizeOf_lt_of_mem_children {child parent : Descriptor} (h : child ∈ parent.children) :
    sizeOf child < sizeOf parent := by
  obtain ⟨name, description, shape⟩ := parent
  cases shape with
  -- A child stands behind a field or a case, and that stands in a list. The size counts both steps.
  | record fields =>
    obtain ⟨⟨_, _, type, _⟩, hf, rfl⟩ := List.mem_map.1 h
    have hlt := List.sizeOf_lt_of_mem hf
    simp only [Field.mk.sizeOf_spec, Descriptor.mk.sizeOf_spec, Shape.record.sizeOf_spec] at hlt ⊢
    omega
  | variant cases =>
    obtain ⟨⟨_, _, payload⟩, hk, hpayload⟩ := List.mem_filterMap.1 h
    have hlt := List.sizeOf_lt_of_mem hk
    cases hpayload
    simp only [Case.mk.sizeOf_spec, Option.some.sizeOf_spec, Descriptor.mk.sizeOf_spec,
      Shape.variant.sizeOf_spec] at hlt ⊢
    omega
  | array item | list item | option item | dict key item =>
    cases List.mem_singleton.1 h
    simp
    omega
  | pair first second =>
    rcases List.mem_pair.1 h with rfl | rfl <;> simp <;> omega
  | scalar _ | timestamp | unit | ref _ => cases h

/-- What is visited is what occurs. -/
theorem mem_visit_iff {whole : Descriptor} : d ∈ whole.visit ↔ d.OccursIn whole := by
  constructor
  · intro h
    rw [visit_eq] at h
    rcases List.mem_cons.1 h with rfl | h
    · exact .refl
    · obtain ⟨child, hchild, hd⟩ := List.mem_flatMap.1 h
      -- The child is smaller, so what is visited there occurs there.
      have := sizeOf_lt_of_mem_children hchild
      exact .head hchild (mem_visit_iff.1 hd)
  · intro h
    -- Along the path from the whole to the descriptor, from its top.
    induction h using ReflTransGen.head_induction_on with
    | refl =>
      rw [visit_eq]
      exact List.mem_cons_self
    | head hchild _ ih =>
      rw [visit_eq]
      exact List.mem_cons_of_mem _ (List.mem_flatMap.2 ⟨_, hchild, ih⟩)
termination_by whole

/-! ### First occurrences -/

/-- Whether a descriptor is a record or a variant of some name. -/
def declares (name : String) (d : Descriptor) : Bool :=
  d.isDeclaration && d.name == name

theorem declares_iff : declares name d = true ↔ d.isDeclaration = true ∧ d.name = name := by
  simp [declares]

/-- What is found in a list of descriptors if of every name the first record or variant is taken. It is said
without a pass over the list: only one `found` can be like this. -/
structure FirstDeclarations (all found : List Descriptor) : Prop where
  /-- No name comes twice. -/
  distinct : found.Pairwise fun d e => d.name ≠ e.name
  /-- The names are those of all records and variants. -/
  complete (name : String) :
    (∃ d ∈ found, d.name = name) ↔ ∃ d ∈ all, d.isDeclaration = true ∧ d.name = name
  /-- Under each name stands the first record or variant of that name. -/
  first : ∀ d ∈ found, all.find? (declares d.name) = some d
  /-- The order is that of the first occurrences. -/
  ordered : found.Pairwise fun d e => all.findIdx (declares d.name) < all.findIdx (declares e.name)

namespace FirstDeclarations

theorem declares_of_mem (h : FirstDeclarations all found) (hd : d ∈ found) :
    d ∈ all ∧ declares d.name d = true :=
  ⟨List.mem_of_find?_eq_some (h.first d hd), List.find?_some (h.first d hd)⟩

/-- What is found is what is found first under its name. -/
theorem mem_iff (h : FirstDeclarations all found) :
    d ∈ found ↔ all.find? (declares d.name) = some d := by
  constructor
  · exact h.first d
  · intro hfirst
    have hdeclares := declares_iff.1 (List.find?_some hfirst)
    -- Something of the name was taken, and it is what comes first under the name.
    obtain ⟨e, he, hname⟩ :=
      (h.complete d.name).2 ⟨d, List.mem_of_find?_eq_some hfirst, hdeclares⟩
    have hsame := h.first e he
    rw [hname, hfirst] at hsame
    cases hsame
    exact he

/-- Only one list is like that. -/
theorem unique {found' : List Descriptor} (h : FirstDeclarations all found)
    (h' : FirstDeclarations all found') : found = found' := by
  -- Both have the same members, and both are ordered by the place of the first occurrence.
  let before (d e : Descriptor) : Prop :=
    all.findIdx (declares d.name) < all.findIdx (declares e.name)
  have : Std.Irrefl before := ⟨fun d => Nat.lt_irrefl _⟩
  have : Std.Antisymm before := ⟨fun d e hde hed => absurd hde (Nat.lt_asymm hed)⟩
  refine List.Pairwise.eq_of_mem_iff (r := before) h.ordered h'.ordered ?_
  intro d
  rw [h.mem_iff, h'.mem_iff]

/-! ### Collecting -/

theorem nil : FirstDeclarations [] [] where
  distinct := .nil
  complete name := by simp
  first d hd := by cases hd
  ordered := .nil

/-- A descriptor that is no declaration, or not the first of its name, changes nothing. -/
theorem snoc_of_hidden (h : FirstDeclarations all found)
    (hd : d.isDeclaration = true → ∃ e ∈ found, e.name = d.name) :
    FirstDeclarations (all ++ [d]) found := by
  -- What is found stays found where it was, as the new descriptor stands behind everything.
  have hfirst (e : Descriptor) (he : e ∈ found) :
      (all ++ [d]).find? (declares e.name) = some e := by
    rw [List.find?_append, h.first e he, Option.some_or]
  have hplace (e : Descriptor) (he : e ∈ found) :
      (all ++ [d]).findIdx (declares e.name) = all.findIdx (declares e.name) := by
    have hlt := List.findIdx_lt_length_of_exists ⟨e, h.declares_of_mem he⟩
    rw [List.findIdx_append, if_pos hlt]
  refine ⟨h.distinct, ?_, hfirst, ?_⟩
  · intro name
    rw [h.complete]
    constructor
    · rintro ⟨e, he, hname⟩
      exact ⟨e, List.mem_append_left _ he, hname⟩
    · rintro ⟨e, he, hdeclares, rfl⟩
      rcases List.mem_append.1 he with he | he
      · exact ⟨e, he, hdeclares, rfl⟩
      · -- The new one is a declaration, so its name is there already.
        cases List.mem_singleton.1 he
        exact (h.complete d.name).1 (hd hdeclares)
  · refine h.ordered.imp_of_mem ?_
    intro e e' he he' hlt
    rwa [hplace e he, hplace e' he']

/-- The first declaration of a name is found behind all others. -/
theorem snoc_of_new (h : FirstDeclarations all found) (hd : d.isDeclaration = true)
    (hnew : ∀ e ∈ found, e.name ≠ d.name) : FirstDeclarations (all ++ [d]) (found ++ [d]) := by
  -- Nothing of this name came before, so its first occurrence is at the end.
  have hnone : ∀ e ∈ all, ¬ declares d.name e = true := by
    intro e he hdeclares
    obtain ⟨e', he', hname⟩ := (h.complete d.name).2 ⟨e, he, declares_iff.1 hdeclares⟩
    exact hnew e' he' hname
  -- Its place is that behind everything that came before.
  have hplace : (all ++ [d]).findIdx (declares d.name) = all.length := by
    have hall : all.findIdx (declares d.name) = all.length :=
      List.findIdx_eq_length.2 fun e he => Bool.eq_false_iff.2 (hnone e he)
    rw [List.findIdx_append, hall, if_neg (Nat.lt_irrefl _), List.findIdx_cons,
      declares_iff.2 ⟨hd, rfl⟩, cond_true, Nat.zero_add]
  -- What was found before has its first occurrence where it had it, in front of this place.
  have hbefore (e : Descriptor) (he : e ∈ found) :
      (all ++ [d]).findIdx (declares e.name) = all.findIdx (declares e.name) ∧
        all.findIdx (declares e.name) < all.length := by
    have hlt := List.findIdx_lt_length_of_exists ⟨e, h.declares_of_mem he⟩
    exact ⟨by rw [List.findIdx_append, if_pos hlt], hlt⟩
  refine ⟨?_, ?_, ?_, ?_⟩
  · refine List.pairwise_append.2 ⟨h.distinct, List.pairwise_singleton _ _, ?_⟩
    intro e he d' hd'
    cases List.mem_singleton.1 hd'
    exact hnew e he
  · intro name
    simp only [List.mem_append, List.mem_singleton, or_and_right, exists_or, exists_eq_left,
      h.complete, hd, true_and]
  · intro e he
    rcases List.mem_append.1 he with he | he
    · rw [List.find?_append, h.first e he, Option.some_or]
    · cases List.mem_singleton.1 he
      -- Under the new name, the search passes over everything before.
      rw [List.find?_append, List.find?_eq_none.2 hnone, Option.none_or]
      exact List.find?_cons_of_pos (declares_iff.2 ⟨hd, rfl⟩)
  · refine List.pairwise_append.2 ⟨?_, List.pairwise_singleton _ _, ?_⟩
    · refine h.ordered.imp_of_mem ?_
      intro e e' he he' hlt
      rwa [(hbefore e he).1, (hbefore e' he').1]
    · intro e he d' hd'
      cases List.mem_singleton.1 hd'
      -- All others have their places in front of the last one.
      rw [hplace, (hbefore e he).1]
      exact (hbefore e he).2

end FirstDeclarations

/-- One pass over some descriptors. Of every name the first declaration is taken, and those of other kinds are
passed over, whatever their names are. -/
def firstPass (all : List Descriptor) : List Descriptor :=
  (all.filter isDeclaration).foldl addDeclaration []

theorem firstPass_snoc (all : List Descriptor) (d : Descriptor) :
    firstPass (all ++ [d]) =
      if d.isDeclaration then addDeclaration (firstPass all) d else firstPass all := by
  unfold firstPass
  rw [List.filter_append, List.foldl_append, List.filter_singleton]
  cases d.isDeclaration <;> rfl

theorem firstDeclarations_firstPass (all : List Descriptor) :
    FirstDeclarations all (firstPass all) := by
  -- The last descriptor is met when all others have been.
  induction all using List.reverseRecOn with
  | nil => exact .nil
  | append_singleton all d ih =>
    rw [firstPass_snoc]
    by_cases hd : d.isDeclaration = true
    · -- The pass looks for the name in what it took, which is to look for it in everything before.
      rw [if_pos hd, addDeclaration]
      split
      next hseen =>
        obtain ⟨e, he, hname⟩ := List.any_eq_true.1 hseen
        exact ih.snoc_of_hidden fun _ => ⟨e, he, beq_iff_eq.1 hname⟩
      next hnew =>
        refine ih.snoc_of_new hd ?_
        intro e he hname
        exact hnew (List.any_eq_true.2 ⟨e, he, beq_iff_eq.2 hname⟩)
    · rw [if_neg hd]
      exact ih.snoc_of_hidden fun h => absurd h hd

/-- A declaration of a name that is there is not added. -/
theorem addDeclaration_of_mem {e : Descriptor} (he : e ∈ found) (hname : e.name = d.name) :
    addDeclaration found d = found := by
  have hseen : found.any (·.name == d.name) = true :=
    List.any_eq_true.2 ⟨e, he, beq_iff_eq.2 hname⟩
  exact if_pos hseen

/-- To add what one pass takes is to add everything. -/
theorem foldl_addDeclaration_firstPass (all found : List Descriptor) :
    (firstPass all).foldl addDeclaration found =
      (all.filter isDeclaration).foldl addDeclaration found := by
  unfold firstPass
  -- Which descriptors are declarations plays no part here.
  generalize all.filter isDeclaration = added
  induction added using List.reverseRecOn with
  | nil => rfl
  | append_singleton added d ih =>
    rw [List.foldl_append, List.foldl_append, List.foldl_cons, List.foldl_nil, List.foldl_cons,
      List.foldl_nil, ← ih]
    by_cases hseen : (added.foldl addDeclaration []).any (·.name == d.name) = true
    · -- Whatever hides it in the pass was added before it, so it is hidden here as well.
      obtain ⟨e, he, hname⟩ := List.any_eq_true.1 hseen
      have hkept : ∃ e' ∈ (added.foldl addDeclaration []).foldl addDeclaration found,
          e'.name = e.name := exists_mem_foldl_addDeclaration he
      obtain ⟨e', he', hname'⟩ := hkept
      have hsame : e'.name = d.name := hname'.trans (beq_iff_eq.1 hname)
      rw [addDeclaration_of_mem he (beq_iff_eq.1 hname), addDeclaration_of_mem he' hsame]
    · -- Otherwise the pass takes it, and it is added on both sides.
      rw [addDeclaration, if_neg hseen, List.foldl_append, List.foldl_cons, List.foldl_nil]

end Descriptor

/-! ### Interfaces and groups -/

namespace Interface

/-- The order in which an interface is read. -/
theorem descriptors_eq (i : Interface) :
    i.descriptors =
      (i.methods.flatMap fun m => m.params.flatMap (·.type.visit) ++ m.result.type.visit) ++
        i.errors.visit := by
  simp [descriptors, types, MethodDescription.types, List.flatMap_assoc, List.flatMap_map]

/-- The declarations of an interface are those of one pass over its descriptors. -/
theorem typeDeclarations_eq_firstPass (i : Interface) :
    i.typeDeclarations = Descriptor.firstPass i.descriptors :=
  i.typeDeclarations_eq

end Interface

namespace InterfaceGroup

/-- Everything that the interfaces of a group describe, one interface after the other. -/
def descriptors (g : InterfaceGroup) : List Descriptor :=
  g.interfaces.flatMap Interface.descriptors

/-- The declarations of a group are those of one pass over all descriptors of its interfaces. -/
theorem typeDeclarations_eq_firstPass (g : InterfaceGroup) :
    g.typeDeclarations = Descriptor.firstPass g.descriptors := by
  unfold typeDeclarations descriptors Descriptor.firstPass
  rw [List.filter_flatMap, List.foldl_flatMap, List.foldl_flatMap]
  -- Interface by interface, whatever was found before: adding what one pass takes is adding everything.
  congr 1
  funext found i
  rw [i.typeDeclarations_eq_firstPass, Descriptor.foldl_addDeclaration_firstPass]

end InterfaceGroup

/-- **Every record and variant is declared once, where it occurs first.** The declarations of an interface
are the first ones among everything that is described: the arguments and the result of each method in turn,
and the errors at the end, of each descriptor itself before what occurs in it from left to right. Those of a
group are the first ones among what its interfaces describe, as if nothing was left out in each of them. -/
theorem typeDeclarations_are_first :
    (∀ (i : Interface),
      (∀ found, Descriptor.FirstDeclarations i.descriptors found ↔ found = i.typeDeclarations) ∧
        i.descriptors =
          (i.methods.flatMap fun m => m.params.flatMap (·.type.visit) ++ m.result.type.visit) ++
            i.errors.visit) ∧
      (∀ (g : InterfaceGroup) found,
        Descriptor.FirstDeclarations g.descriptors found ↔ found = g.typeDeclarations) ∧
      ∀ whole : Descriptor, whole.visit = whole :: whole.children.flatMap Descriptor.visit ∧
        ∀ d, d ∈ whole.visit ↔ d.OccursIn whole := by
  -- One pass gives a list as described, and there is only one.
  have hpass {all found : List Descriptor} :
      Descriptor.FirstDeclarations all found ↔ found = Descriptor.firstPass all := by
    constructor
    · exact fun h => h.unique (Descriptor.firstDeclarations_firstPass all)
    · rintro rfl
      exact Descriptor.firstDeclarations_firstPass all
  refine ⟨fun i => ⟨fun found => ?_, i.descriptors_eq⟩, fun g found => ?_, fun whole => ?_⟩
  · rw [hpass, i.typeDeclarations_eq_firstPass]
  · rw [hpass, g.typeDeclarations_eq_firstPass]
  · exact ⟨whole.visit_eq, fun d => Descriptor.mem_visit_iff⟩

end Wirecall
