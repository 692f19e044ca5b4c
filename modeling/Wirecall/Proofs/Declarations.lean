import Wirecall.Interface
import Wirecall.Validator

/-!
# The declarations of an interface

An interface publishes the records and variants that occur in it at any depth, each name once. A
validator that knows these declarations can follow the references of the interface.

* `Interface.descriptors` lists everything that is described, at any depth. The declarations are chosen
  among the records and variants of it (`Interface.mem_descriptors_of_mem_typeDeclarations`), and each of
  their names is declared (`Interface.exists_typeDeclaration`).
* `Interface.Unambiguous` says that names that are referred to mean one thing. Then the declaration of
  such a name is what was meant (`Interface.declaration?_validator`).
-/

namespace Wirecall

/-! ### Adding declarations -/

namespace Descriptor

/-- Nothing but what was added is found. Nothing is said of which additions were left out. -/
theorem mem_of_mem_foldl_addDeclaration {added found : List Descriptor} {d : Descriptor}
    (h : d ∈ added.foldl addDeclaration found) : d ∈ found ∨ d ∈ added := by
  induction added generalizing found with
  | nil => exact .inl h
  | cons e rest ih =>
    rcases ih h with h | h
    · -- An addition is left out, or it is put behind the others.
      unfold addDeclaration at h
      split at h
      · exact .inl h
      · rcases List.mem_append.1 h with h | h
        · exact .inl h
        · exact .inr (List.mem_singleton.1 h ▸ List.mem_cons_self)
    · exact .inr (List.mem_cons_of_mem e h)

theorem mem_addDeclaration_of_mem {found : List Descriptor} {d : Descriptor} (h : d ∈ found)
    (e : Descriptor) : d ∈ addDeclaration found e := by
  unfold addDeclaration
  split
  · exact h
  · exact List.mem_append_left _ h

/-- What was found stays. -/
theorem mem_foldl_addDeclaration_of_mem {added found : List Descriptor} {d : Descriptor}
    (h : d ∈ found) : d ∈ added.foldl addDeclaration found := by
  induction added generalizing found with
  | nil => exact h
  | cons e rest ih => exact ih (mem_addDeclaration_of_mem h e)

/-- Something of the name of an addition is there after it. -/
theorem exists_mem_addDeclaration (found : List Descriptor) (d : Descriptor) :
    ∃ d' ∈ addDeclaration found d, d'.name = d.name := by
  unfold addDeclaration
  split
  next h =>
    -- It was left out, so its name is there already, on something that may be different.
    obtain ⟨d', hmem, hname⟩ := List.any_eq_true.1 h
    exact ⟨d', hmem, beq_iff_eq.1 hname⟩
  next => exact ⟨d, by simp, rfl⟩

/-- Each name that was added is found. -/
theorem exists_mem_foldl_addDeclaration {added found : List Descriptor} {d : Descriptor}
    (h : d ∈ added) : ∃ d' ∈ added.foldl addDeclaration found, d'.name = d.name := by
  induction added generalizing found with
  | nil => cases h
  | cons e rest ih =>
    rcases List.mem_cons.1 h with rfl | h
    · -- Once there is something of the name, later additions do not take it away.
      obtain ⟨d', hmem, hname⟩ := exists_mem_addDeclaration found d
      refine ⟨d', ?_, hname⟩
      rw [List.foldl_cons]
      exact mem_foldl_addDeclaration_of_mem hmem
    · exact ih h

end Descriptor

/-- What is found under a name is a declaration of that name. -/
theorem Validator.mem_of_declaration? {c : Validator} {name : String} {d : Descriptor}
    (h : c.declaration? name = some d) : d ∈ c.declarations ∧ d.name = name := by
  unfold Validator.declaration? at h
  exact ⟨List.mem_of_find?_eq_some h, by simpa using List.find?_some h⟩

namespace Interface

/-! ### What is declared -/

/-- Everything that an interface describes, at any depth. -/
def descriptors (i : Interface) : List Descriptor :=
  i.types.flatMap Descriptor.visit

/-- The declarations are the records and variants, each name at its first occurrence. -/
theorem typeDeclarations_eq (i : Interface) :
    i.typeDeclarations =
      (i.descriptors.filter Descriptor.isDeclaration).foldl Descriptor.addDeclaration [] := by
  -- Choosing declarations in one type after the other is choosing them in all types.
  rw [descriptors, List.filter_flatMap, List.foldl_flatMap]
  rfl

theorem mem_descriptors_of_mem_typeDeclarations {i : Interface} {d : Descriptor}
    (h : d ∈ i.typeDeclarations) : d ∈ i.descriptors ∧ d.isDeclaration = true := by
  rw [typeDeclarations_eq] at h
  rcases Descriptor.mem_of_mem_foldl_addDeclaration h with h | h
  · cases h
  · exact List.mem_filter.1 h

theorem exists_typeDeclaration {i : Interface} {d : Descriptor} (h : d ∈ i.descriptors)
    (hd : d.isDeclaration = true) : ∃ d' ∈ i.typeDeclarations, d'.name = d.name := by
  rw [typeDeclarations_eq]
  exact Descriptor.exists_mem_foldl_addDeclaration (List.mem_filter.2 ⟨h, hd⟩)

/-! ### What is known to a validator -/

/-- A validator with all declarations of an interface. Their names are pairwise different, so it does not matter
that the one declared last would win. -/
def validator (i : Interface) : Validator :=
  i.typeDeclarations.foldl Validator.declare .empty

/-- Whether names that are referred to mean one thing: no two different records or variants share the
name of a reference. Names that nothing refers to may be shared. -/
def Unambiguous (i : Interface) : Prop :=
  ∀ d ∈ i.descriptors, ∀ d' ∈ i.descriptors, d.isDeclaration = true → d'.isDeclaration = true →
    d.name = d'.name → (∃ r ∈ i.descriptors, r.shape = .ref d.name) → d = d'

instance (i : Interface) : Decidable i.Unambiguous :=
  inferInstanceAs (Decidable (∀ d ∈ i.descriptors, ∀ d' ∈ i.descriptors, d.isDeclaration = true →
    d'.isDeclaration = true → d.name = d'.name → (∃ r ∈ i.descriptors, r.shape = .ref d.name) →
    d = d'))

theorem declarations_foldl_declare (ds : List Descriptor) (c : Validator) :
    (ds.foldl Validator.declare c).declarations = ds.reverse ++ c.declarations := by
  induction ds generalizing c with
  | nil => rfl
  -- Each declaration goes in front of those before it.
  | cons d rest ih => rw [List.foldl_cons, ih, List.reverse_cons, List.append_assoc]; rfl

theorem mem_declarations_validator {i : Interface} {d : Descriptor} :
    d ∈ i.validator.declarations ↔ d ∈ i.typeDeclarations := by
  rw [validator, declarations_foldl_declare]
  simp [Validator.empty]

/-- A reference leads to what it means. -/
theorem declaration?_validator {i : Interface} (h : i.Unambiguous) {d : Descriptor}
    (hmem : d ∈ i.descriptors) (hd : d.isDeclaration = true)
    (href : ∃ r ∈ i.descriptors, r.shape = .ref d.name) :
    i.validator.declaration? d.name = some d := by
  obtain ⟨d', hmem', hname'⟩ := exists_typeDeclaration hmem hd
  cases hfind : i.validator.declaration? d.name with
  | none =>
    -- The name is declared, so the search cannot fail.
    have hnone := List.find?_eq_none.1 hfind d' (mem_declarations_validator.2 hmem')
    exact absurd (beq_iff_eq.2 hname') hnone
  | some e =>
    obtain ⟨he, hname⟩ := Validator.mem_of_declaration? hfind
    -- What the search finds was described, too, and only one thing of this name was.
    obtain ⟨hedescribed, hedeclares⟩ :=
      mem_descriptors_of_mem_typeDeclarations (mem_declarations_validator.1 he)
    rw [h d hmem e hedescribed hd hedeclares hname.symm href]

end Interface
end Wirecall
