import Mathlib.Logic.Relation
import Wirecall.Proofs.Declarations
import Wirecall.Proofs.Lockstep

/-!
# When validation comes to an end

Neither the value nor the descriptor gets smaller with every step of a validation. Following a reference
keeps the value and may lead to a larger descriptor, and a payload that was left out starts over on a
null that is no part of the value. What does get smaller is the height of the value, as soon as a
descriptor that is no reference was entered; and between two such descriptors there can only be
references to declarations that are themselves nothing but references, the *aliases*.

* `Validator.AliasOf` is one step from alias to alias, `Validator.Circular` are the names from which
  these steps go round in a circle.
* `Validator.circular_or_leads` is the pigeonhole behind the bound: a walk along aliases that does not
  go round in a circle meets every declaration at most once, so it is over after as many steps as there
  are declarations.
* `Validator.checkWithin_lockstep` is the induction on the height of the value. Two validations that
  both have the depth `Validator.depth` end up related by anything that is kept in step and that holds
  of two validations that never end.
* From equality, `Validator.checkWithin_eq_check`: more depth changes nothing. So `check` no longer shows
  how much depth it was given, and `Validator.check_declared` and `Validator.check_parallel` say what it
  does with references and with all other shapes.
* From termination, `Validator.check_ends_unless_circular`, the main statement.

**Payloads that were left out.** Null has height zero and every value with a tag is higher, so that
starting over on null is a step down as any other.
-/

open Relation

namespace Wirecall
namespace Validator

variable {c : Validator} {d : Descriptor} {v : Value} {name target : String}

/-! ### Following a reference -/

/-- To enter a reference is to enter what is declared under its name. -/
theorem checkWithin_declared (hd : d.shape = .ref name) {declaration : Descriptor}
    (h : c.declaration? name = some declaration) (depth : Nat) :
    c.checkWithin (depth + 1) d v = c.checkWithin depth declaration v := by
  simp only [checkWithin, hd, h]

theorem checkWithin_undeclared (hd : d.shape = .ref name) (h : c.declaration? name = none)
    (depth : Nat) :
    c.checkWithin (depth + 1) d v = .refused (.mismatch ("declaration of " ++ name) v) := by
  simp only [checkWithin, hd, h]

/-- Of a reference only the name counts that it refers to. -/
theorem checkWithin_ref_congr {d' : Descriptor} (hd : d.shape = .ref name) (hd' : d'.shape = .ref name)
    (depth : Nat) : c.checkWithin depth d v = c.checkWithin depth d' v := by
  -- Neither the name of a reference nor its description is looked at.
  cases depth with
  | zero => rfl
  | succ depth => simp only [checkWithin, hd, hd']

/-! ### Aliases -/

/-- Whether a name is declared as an alias, as nothing but a reference to a name. A reference inside a list or
a record is no alias, as it is only met further down in the value. -/
def AliasOf (c : Validator) (name target : String) : Prop :=
  ∃ d, c.declaration? name = some d ∧ d.shape = .ref target

/-- Whether following aliases from a name runs into a circle. The name itself need not be on it: it is enough
that one comes to a name from which one comes back. -/
def Circular (c : Validator) (name : String) : Prop :=
  ∃ again, ReflTransGen c.AliasOf name again ∧ TransGen c.AliasOf again again

/-- Following that many aliases leads from a name to a name. -/
inductive Leads (c : Validator) : Nat → String → String → Prop
  | here (name : String) : Leads c 0 name name
  | next {steps : Nat} {name target last : String} :
    c.AliasOf name target → Leads c steps target last → Leads c (steps + 1) name last

theorem AliasOf.mem_names (h : c.AliasOf name target) : name ∈ c.declarations.map (·.name) := by
  obtain ⟨d, hdeclared, -⟩ := h
  obtain ⟨hmem, hname⟩ := mem_of_declaration? hdeclared
  exact List.mem_map.2 ⟨d, hmem, hname⟩

/-- What an alias stands for runs into the circle as well, if the alias does. -/
theorem Circular.next (h : c.Circular name) : ∃ target, c.AliasOf name target ∧ c.Circular target := by
  obtain ⟨again, hreach, hcircle⟩ := h
  rcases hreach.cases_head with rfl | ⟨target, halias, hrest⟩
  · -- The name is on the circle itself, and its target comes back to it.
    obtain ⟨target, halias, hback⟩ := TransGen.head'_iff.1 hcircle
    exact ⟨target, halias, name, hback, hcircle⟩
  · exact ⟨target, halias, again, hrest, hcircle⟩

theorem Circular.of_aliasOf (halias : c.AliasOf name target) (h : c.Circular target) :
    c.Circular name := by
  obtain ⟨again, hreach, hcircle⟩ := h
  exact ⟨again, hreach.head halias, hcircle⟩

/-- A circle of aliases is followed for as long as there is depth, whatever the value. -/
theorem checkWithin_of_circular (h : c.Circular name) (hd : d.shape = .ref name) (depth : Nat) :
    c.checkWithin depth d v = none := by
  -- Each step costs depth and leads to a name from which the circle is reached again.
  induction depth generalizing name d with
  | zero => rfl
  | succ depth ih =>
    obtain ⟨target, ⟨declaration, hdeclared, hshape⟩, hnext⟩ := h.next
    rw [checkWithin_declared hd hdeclared]
    exact ih hnext hshape

/-- Aliases cost depth and do nothing else. -/
theorem Leads.checkWithin_eq {steps : Nat} {last : String} (h : c.Leads steps name last)
    (hd : d.shape = .ref name) {d' : Descriptor} (hd' : d'.shape = .ref last) (depth : Nat) :
    c.checkWithin (depth + steps) d v = c.checkWithin depth d' v := by
  induction h generalizing d with
  -- At the end of the aliases, both refer to the same name.
  | here name => exact checkWithin_ref_congr hd hd' depth
  -- One step of depth is spent on this alias.
  | next halias _ ih =>
    obtain ⟨declaration, hdeclared, hshape⟩ := halias
    rw [← Nat.add_assoc, checkWithin_declared hd hdeclared]
    exact ih hshape hd'

/-- Names that were all met on the way along aliases are at most as many as there are declarations. -/
theorem length_le_of_transGen {visited : List String} (hnodup : visited.Nodup)
    (h : ∀ k ∈ visited, TransGen c.AliasOf k name) : visited.length ≤ c.declarations.length := by
  -- Every one of them was left by an alias, so it is declared.
  have hsubset : visited ⊆ c.declarations.map (·.name) := by
    intro k hk
    obtain ⟨target, halias, -⟩ := TransGen.head'_iff.1 (h k hk)
    exact halias.mem_names
  -- Different names among the declared ones are no more than these.
  have hle := (List.subperm_of_subset hnodup hsubset).length_le
  rwa [List.length_map] at hle

/-- **From every name, following aliases runs into a circle or comes to a name that is none, after at
most as many steps as there are declarations.** The names in `visited` are those already met. -/
theorem circular_or_leads_from (c : Validator) (name : String) (visited : List String)
    (hnodup : visited.Nodup) (h : ∀ k ∈ visited, TransGen c.AliasOf k name) :
    c.Circular name ∨ ∃ steps last, steps + visited.length ≤ c.declarations.length ∧
      c.Leads steps name last ∧ ∀ target, ¬ c.AliasOf last target := by
  by_cases halias : ∃ target, c.AliasOf name target
  · obtain ⟨target, halias⟩ := halias
    by_cases hmem : name ∈ visited
    · -- The name was met before, so the walk came back to it.
      exact .inl ⟨name, .refl, h name hmem⟩
    · -- The name is a new one, and the walk goes on with one more name behind it.
      have hnodup' : (name :: visited).Nodup := List.nodup_cons.2 ⟨hmem, hnodup⟩
      have h' : ∀ k ∈ name :: visited, TransGen c.AliasOf k target := by
        intro k hk
        rcases List.mem_cons.1 hk with rfl | hk
        · exact .single halias
        · exact (h k hk).tail halias
      have hroom : visited.length + 1 ≤ c.declarations.length := length_le_of_transGen hnodup' h'
      rcases circular_or_leads_from c target (name :: visited) hnodup' h' with hcircular | hleads
      · exact .inl (hcircular.of_aliasOf halias)
      · obtain ⟨steps, last, hsteps, hleads, hlast⟩ := hleads
        rw [List.length_cons] at hsteps
        exact .inr ⟨steps + 1, last, by omega, .next halias hleads, hlast⟩
  · -- This name is no alias, so the walk is over.
    have hroom := length_le_of_transGen hnodup h
    exact .inr ⟨0, name, by omega, .here name, fun target ht => halias ⟨target, ht⟩⟩
termination_by c.declarations.length - visited.length

theorem circular_or_leads (c : Validator) (name : String) :
    c.Circular name ∨ ∃ steps last, steps ≤ c.declarations.length ∧ c.Leads steps name last ∧
      ∀ target, ¬ c.AliasOf last target := by
  rcases circular_or_leads_from c name [] List.nodup_nil (by simp) with hcircular | hleads
  · exact .inl hcircular
  · obtain ⟨steps, last, hsteps, hleads, hlast⟩ := hleads
    exact .inr ⟨steps, last, hsteps, hleads, hlast⟩

/-! ### Enough depth -/

/-- The room of a value is that of the values below it, and one walk along all declarations. -/
theorem depth_eq (c : Validator) (v : Value) :
    c.depth v = v.height * (c.declarations.length + 2) + (c.declarations.length + 2) :=
  Nat.succ_mul ..

theorem depth_le_of_height_lt {w : Value} (h : w.height < v.height) :
    c.depth w ≤ v.height * (c.declarations.length + 2) :=
  Nat.mul_le_mul_right _ h

/-- **Two validations with enough depth stay in step.** Whatever relation between verdicts is kept in
step, and holds of two validations that go round in circles, holds of two validations with the depth
that `depth` allows, or more. -/
theorem checkWithin_lockstep {Rel : Verdict → Verdict → Prop} (hRel : Verdict.Lockstep Rel)
    (hcircular : ∀ name, c.Circular name → Rel none none) (d : Descriptor) (v : Value)
    {depth depth' : Nat} (hdepth : c.depth v ≤ depth) (hdepth' : c.depth v ≤ depth') :
    Rel (c.checkWithin depth d v) (c.checkWithin depth' d v) := by
  -- The induction is on the height of the value. A descriptor that is no reference goes down into it.
  have entered (t : Descriptor) (ht : ∀ name, t.shape ≠ .ref name) {k k' : Nat}
      (hk : v.height * (c.declarations.length + 2) ≤ k)
      (hk' : v.height * (c.declarations.length + 2) ≤ k') :
      Rel (c.checkWithin (k + 1) t v) (c.checkWithin (k' + 1) t v) := by
    have hself : t.shape.Parallel Eq Rel t.shape := t.parallel_self hRel ht fun _ _ => rfl
    refine checkWithin_parallel hRel rfl hself ?_
    rintro e _ w rfl hw
    have hbelow : c.depth w ≤ v.height * (c.declarations.length + 2) := depth_le_of_height_lt hw
    exact checkWithin_lockstep hRel hcircular e w (hbelow.trans hk) (hbelow.trans hk')
  rw [depth_eq] at hdepth hdepth'
  by_cases href : ∃ name, d.shape = .ref name
  · obtain ⟨name, hd⟩ := href
    rcases c.circular_or_leads name with hcircle | ⟨steps, last, hsteps, hleads, hlast⟩
    · rw [checkWithin_of_circular hcircle hd, checkWithin_of_circular hcircle hd]
      exact hcircular name hcircle
    · -- After the aliases there is room for the last reference and for what it refers to.
      obtain ⟨k, rfl⟩ : ∃ k, depth = k + 1 + 1 + steps := ⟨depth - 2 - steps, by omega⟩
      obtain ⟨k', rfl⟩ : ∃ k', depth' = k' + 1 + 1 + steps := ⟨depth' - 2 - steps, by omega⟩
      have hd' : (Descriptor.mk last "" (.ref last)).shape = .ref last := rfl
      rw [hleads.checkWithin_eq hd hd', hleads.checkWithin_eq hd hd']
      cases hdeclared : c.declaration? last with
      | none =>
        rw [checkWithin_undeclared hd' hdeclared, checkWithin_undeclared hd' hdeclared]
        exact hRel.same _
      | some declaration =>
        have hshape : ∀ target, declaration.shape ≠ .ref target := by
          intro target htarget
          exact hlast target ⟨declaration, hdeclared, htarget⟩
        rw [checkWithin_declared hd' hdeclared, checkWithin_declared hd' hdeclared]
        exact entered declaration hshape (by omega) (by omega)
  · -- No reference to follow: this descriptor goes down into the value itself.
    obtain ⟨k, rfl⟩ : ∃ k, depth = k + 1 := ⟨depth - 1, by omega⟩
    obtain ⟨k', rfl⟩ : ∃ k', depth' = k' + 1 := ⟨depth' - 1, by omega⟩
    exact entered d (fun name hd => href ⟨name, hd⟩) (by omega) (by omega)
termination_by v.height

/-- More depth than `depth` allows changes nothing: what is not over by then never is. -/
theorem checkWithin_eq_check {depth : Nat} (hdepth : c.depth v ≤ depth) :
    c.checkWithin depth d v = c.check d v :=
  checkWithin_lockstep Verdict.lockstep_eq (fun _ _ => rfl) d v hdepth (Nat.le_refl _)

/-- Two validations of one value, each with all the depth that it can need, are related if they are on
all parts. The declarations may differ. -/
theorem check_parallel {c' : Validator} {d' : Descriptor} {Rel : Verdict → Verdict → Prop}
    (hRel : Verdict.Lockstep Rel) (hname : d.name = d'.name)
    (hshape : d.shape.Parallel (fun e e' => ∀ w, Rel (c.check e w) (c'.check e' w)) Rel d'.shape)
    (v : Value) : Rel (c.check d v) (c'.check d' v) := by
  have hdepth := c.depth_eq v
  have hdepth' := c'.depth_eq v
  obtain ⟨k, hk⟩ : ∃ k, c.depth v = k + 1 := ⟨c.depth v - 1, by omega⟩
  obtain ⟨k', hk'⟩ : ∃ k', c'.depth v = k' + 1 := ⟨c'.depth v - 1, by omega⟩
  unfold check
  rw [hk, hk']
  refine checkWithin_parallel hRel hname hshape ?_
  intro e e' w hpart hw
  have hbelow : c.depth w ≤ v.height * (c.declarations.length + 2) := depth_le_of_height_lt hw
  have hbelow' : c'.depth w ≤ v.height * (c'.declarations.length + 2) := depth_le_of_height_lt hw
  -- The parts are given less depth than the whole, but all that they can need.
  rw [checkWithin_eq_check (by omega), checkWithin_eq_check (by omega)]
  exact hpart w

/-- A reference is validated as what is declared under its name. -/
theorem check_declared (hd : d.shape = .ref name) {declaration : Descriptor}
    (h : c.declaration? name = some declaration) : c.check d v = c.check declaration v := by
  calc c.check d v = c.checkWithin (c.depth v + 1) d v := (checkWithin_eq_check (Nat.le_succ _)).symm
    _ = c.checkWithin (c.depth v) declaration v := checkWithin_declared hd h _

/-- Without circles of aliases every validation comes to an end. The relation that is kept in step is a
property of one verdict here: that there is one. -/
theorem isSome_check (hcircular : ∀ name, ¬ c.Circular name) (d : Descriptor) (v : Value) :
    (c.check d v).isSome :=
  checkWithin_lockstep Verdict.lockstep_isSome (fun name h => absurd h (hcircular name)) d v
    (Nat.le_refl _) (Nat.le_refl _)

/-! ### The statement -/

/-- **Validation comes to an end unless aliases run in a circle.** If no alias leads back to itself, there
is a verdict on every value against every descriptor, it is the one of `check`, and no depth beyond the
one that `check` allows changes it. If the aliases behind a name run into a circle, validating against a
reference to that name has no verdict on any value, however much depth there is. -/
theorem check_ends_unless_circular (c : Validator) :
    ((∀ name, ¬ TransGen c.AliasOf name name) → ∀ d v, ∃ result, c.check d v = some result ∧
        ∀ depth, c.depth v ≤ depth → c.checkWithin depth d v = some result) ∧
      ∀ name again, ReflTransGen c.AliasOf name again → TransGen c.AliasOf again again →
        ∀ d, d.shape = .ref name → ∀ v depth, c.checkWithin depth d v = none := by
  constructor
  · intro hacyclic d v
    -- To run into a circle is to come to a name that leads back to itself.
    have hcircular : ∀ name, ¬ c.Circular name := by
      rintro name ⟨again, -, hcircle⟩
      exact hacyclic again hcircle
    obtain ⟨result, hresult⟩ := Option.isSome_iff_exists.1 (isSome_check hcircular d v)
    refine ⟨result, hresult, ?_⟩
    intro depth hdepth
    rw [checkWithin_eq_check hdepth]
    exact hresult
  · intro name again hreach hcircle d hd v depth
    exact checkWithin_of_circular ⟨again, hreach, hcircle⟩ hd depth

/-- Trees under an alias, which end on everything; and two names that stand for each other, with a third
one in front, which end on nothing. -/
theorem check_ends_unless_circular_alias :
    let wood := (empty.declare IntTree.descriptor).declare ⟨"wood", "", .ref "tree"⟩
    let round := ((empty.declare ⟨"hen", "", .ref "egg"⟩).declare ⟨"egg", "", .ref "hen"⟩).declare
      ⟨"chick", "", .ref "egg"⟩
    let forest : Descriptor := .listOf ⟨"wood", "", .ref "wood"⟩
    (∃ result, wood.check forest (.seq [.string "Node"]) = some result) ∧
      ∀ depth, round.checkWithin depth ⟨"chick", "", .ref "chick"⟩ .null = none := by
  intro wood round forest
  constructor
  · -- There is one alias, and it leads to a type that is declared in full.
    have halias : ∀ {name target}, wood.AliasOf name target → name = "wood" ∧ target = "tree" := by
      rintro name target ⟨d, hdeclared, hd⟩
      obtain ⟨hmem, rfl⟩ := mem_of_declaration? hdeclared
      rcases List.mem_cons.1 hmem with rfl | hmem
      · cases hd
        exact ⟨rfl, rfl⟩
      · cases List.mem_singleton.1 hmem
        cases hd
    have hacyclic : ∀ name, ¬ TransGen wood.AliasOf name name := by
      intro name hcircle
      -- The first step of the circle leaves `wood`, the last one arrives at `tree`.
      obtain ⟨_, hfirst, -⟩ := TransGen.head'_iff.1 hcircle
      obtain ⟨_, -, hlast⟩ := TransGen.tail'_iff.1 hcircle
      have hname : "wood" = "tree" := (halias hfirst).1.symm.trans (halias hlast).2
      exact absurd hname (by decide)
    obtain ⟨result, hresult, -⟩ := (check_ends_unless_circular wood).1 hacyclic forest
      (.seq [.string "Node"])
    exact ⟨result, hresult⟩
  · -- The third name stands in front of the circle, and leads into it.
    have hchick : round.AliasOf "chick" "egg" := ⟨_, rfl, rfl⟩
    have hegg : round.AliasOf "egg" "hen" := ⟨_, rfl, rfl⟩
    have hhen : round.AliasOf "hen" "egg" := ⟨_, rfl, rfl⟩
    have hcircle : TransGen round.AliasOf "egg" "egg" := .tail (.single hegg) hhen
    exact (check_ends_unless_circular round).2 "chick" "egg" (.single hchick) hcircle _ rfl .null

end Validator
end Wirecall
