import Wirecall.Proofs.FirstErrors
import Wirecall.Proofs.FirstOccurrences

/-!
# The declarations that a validation reaches

A validator may know much more than what a descriptor refers to. Only the names count to which references lead
from the descriptor, be it through the declarations of other names, and validation never finds out what else
is declared.

* `Validator.Reaches` are these names, `Validator.AgreeFrom` are two validators that know the same under all
  of them.
* `Validator.AgreeFrom.checkWithin_eq` is the induction. It goes over the depth and not over the descriptor,
  as declarations may refer to each other in a circle: a step to a child or to a declaration reaches nothing
  new, so the two validators still agree from there.
* `Validator.Same` are validators that cannot be told apart, whatever they validate. What they know under each
  name decides it, so that the order of declarations and those that were replaced do not count.
* `Validator.stopsAt_declare` is what one more declaration changes. Reading takes the same way to the same
  error, unless the error is that the declaration was missing.
* `Validator.check_of_reached` is the main statement.
-/

open Relation

namespace Wirecall

namespace Validator

variable {c c' : Validator} {d e t : Descriptor} {v : Value} {name : String}

/-! ### Reachable names -/

/-- The names that references lead to from a descriptor: those referred to in it, and those referred to in
the declaration of a name that is reached. -/
inductive Reaches (c : Validator) (d : Descriptor) : String → Prop
  | here {r : Descriptor} {name : String} :
    r.OccursIn d → r.shape = .ref name → Reaches c d name
  | next {r declaration : Descriptor} {name name' : String} :
    Reaches c d name → c.declaration? name = some declaration → r.OccursIn declaration →
      r.shape = .ref name' → Reaches c d name'

/-- What a child reaches, its parent reaches. -/
theorem Reaches.of_child (he : e ∈ d.children) (h : c.Reaches e name) : c.Reaches d name := by
  -- Only the first name is found below the child itself. The others are found in declarations.
  induction h with
  | here hr hname => exact .here (.head he hr) hname
  | next _ hdeclared hr hname ih => exact .next ih hdeclared hr hname

/-- What a declaration reaches, a reference to it reaches. -/
theorem Reaches.of_declaration (hd : d.shape = .ref name) {declaration : Descriptor}
    (hdeclared : c.declaration? name = some declaration) {name' : String}
    (h : c.Reaches declaration name') : c.Reaches d name' := by
  induction h with
  | here hr hname => exact .next (.here .refl hd) hdeclared hr hname
  | next _ hdeclared' hr hname ih => exact .next ih hdeclared' hr hname

/-- Whether two validators know the same under every name that is reached from a descriptor. A name that neither
of the two has declared is one of which they know the same. -/
def AgreeFrom (c c' : Validator) (d : Descriptor) : Prop :=
  ∀ name, c.Reaches d name → c.declaration? name = c'.declaration? name

/-- Validators that agree from a descriptor take the same steps. -/
theorem AgreeFrom.checkWithin_eq (h : c.AgreeFrom c' d) (depth : Nat) (v : Value) :
    c.checkWithin depth d v = c'.checkWithin depth d v := by
  induction depth generalizing d v with
  | zero => rfl
  | succ depth ih =>
    by_cases href : ∃ name, d.shape = .ref name
    · -- A reference leads both to one declaration, which reaches no more than the reference does.
      obtain ⟨name, hd⟩ := href
      have hsame : c.declaration? name = c'.declaration? name := h name (.here .refl hd)
      cases hdeclared : c.declaration? name with
      | none =>
        rw [checkWithin_undeclared hd hdeclared, checkWithin_undeclared hd (hsame ▸ hdeclared)]
      | some declaration =>
        rw [checkWithin_declared hd hdeclared, checkWithin_declared hd (hsame ▸ hdeclared)]
        exact ih (fun _ hname => h _ (.of_declaration hd hdeclared hname)) v
    · -- Any other shape leads both to its children, and to null where a payload was left out.
      have hself : d.shape.Parallel (fun e e' => e = e' ∧ c.AgreeFrom c' e) Eq d.shape := by
        refine d.parallel_self Verdict.lockstep_eq (fun name hd => href ⟨name, hd⟩) ?_
        intro e he
        exact ⟨rfl, fun _ hname => h _ (.of_child he hname)⟩
      refine checkWithin_parallel Verdict.lockstep_eq rfl hself ?_
      rintro e _ w ⟨rfl, hagree⟩ -
      exact ih hagree w

/-- Validators that agree from a descriptor say the same of every value. -/
theorem AgreeFrom.check_eq (h : c.AgreeFrom c' d) (v : Value) : c.check d v = c'.check d v := by
  -- Each validator has a depth of its own that is enough, so the greater one is enough for both.
  have hleft : c.depth v ≤ max (c.depth v) (c'.depth v) := Nat.le_max_left ..
  have hright : c'.depth v ≤ max (c.depth v) (c'.depth v) := Nat.le_max_right ..
  rw [← checkWithin_eq_check hleft, ← checkWithin_eq_check hright]
  exact h.checkWithin_eq _ v

/-! ### Declaring -/

/-- Whether two validators cannot be told apart: they know the same under every name, and say the same of
every value. -/
def Same (c c' : Validator) : Prop :=
  (∀ name, c.declaration? name = c'.declaration? name) ∧ ∀ d v, c.check d v = c'.check d v

/-- Validators are only told apart by what they know. -/
theorem Same.of_declaration? (h : ∀ name, c.declaration? name = c'.declaration? name) : c.Same c' :=
  ⟨h, fun _ v => AgreeFrom.check_eq (fun name _ => h name) v⟩

/-- The last declaration of a name is found. -/
theorem declaration?_foldl_declare (ds : List Descriptor) (c : Validator) (name : String) :
    (ds.foldl declare c).declaration? name =
      (ds.reverse.find? (·.name == name)).or (c.declaration? name) := by
  -- Declarations are put in front, so the list is searched from its end.
  rw [declaration?, Interface.declarations_foldl_declare, List.find?_append]
  rfl

/-- An earlier declaration of a name is not found. -/
theorem declaration?_foldl_hidden (c : Validator) (before between after : List Descriptor)
    (hname : d.name = t.name) (name : String) :
    ((before ++ d :: between ++ t :: after).foldl declare c).declaration? name =
      ((before ++ between ++ t :: after).foldl declare c).declaration? name := by
  simp only [declaration?_foldl_declare, List.reverse_append, List.reverse_cons, List.find?_append,
    List.find?_singleton, hname]
  by_cases h : t.name = name
  · -- The later one is found in both, if nothing behind it is.
    simp [h]
  · simp [h]

/-- The latest declaration of a name is found. -/
theorem declaration?_foldl_latest (c : Validator) (before after : List Descriptor)
    (hlast : ∀ d ∈ after, d.name ≠ t.name) :
    ((before ++ t :: after).foldl declare c).declaration? t.name = some t := by
  -- Behind it nothing has this name.
  have hafter : after.reverse.find? (·.name == t.name) = none := by
    refine List.find?_eq_none.2 ?_
    intro d hd hname
    exact hlast d (List.mem_reverse.1 hd) (beq_iff_eq.1 hname)
  rw [declaration?_foldl_declare]
  simp [List.find?_append, hafter]

/-- Of declarations with pairwise different names the order does not matter. -/
theorem find?_eq_of_perm {ds ds' : List Descriptor} (hperm : ds.Perm ds')
    (hnames : (ds.map (·.name)).Nodup) (name : String) :
    ds.find? (·.name == name) = ds'.find? (·.name == name) := by
  induction hperm with
  | nil => rfl
  | cons d _ ih =>
    rw [List.find?_cons, List.find?_cons, ih (List.nodup_cons.1 hnames).2]
  | swap d e rest =>
    -- The two that change places have different names, so at most one of them is the one.
    have hne : e.name ≠ d.name := by
      intro hsame
      exact (List.nodup_cons.1 hnames).1 (List.mem_map.2 ⟨d, List.mem_cons_self, hsame.symm⟩)
    rw [List.find?_cons, List.find?_cons, List.find?_cons, List.find?_cons]
    by_cases hd : d.name = name
    · have he : (e.name == name) = false := beq_eq_false_iff_ne.2 fun he => hne (he.trans hd.symm)
      rw [he, hd]
    · rw [beq_eq_false_iff_ne.2 hd]
  -- That the names differ goes from one list to the next.
  | trans hfirst _ ihfirst ihsecond =>
    rw [ihfirst hnames, ihsecond ((hfirst.map _).nodup_iff.1 hnames)]

/-- A new declaration hides what was declared under its name. -/
theorem declaration?_declare (c : Validator) (t : Descriptor) (name : String) :
    (c.declare t).declaration? name = if t.name = name then some t else c.declaration? name := by
  unfold declaration? declare
  rw [List.find?_cons]
  by_cases h : t.name = name
  · rw [if_pos h, beq_iff_eq.2 h]
  · rw [if_neg h, beq_eq_false_iff_ne.2 h]

/-! ### One more declaration -/

/-- Whether a part is a reference to a name. -/
def RefersTo (name : String) (p : Part Descriptor) : Prop :=
  ∃ r w, p = .value r w ∧ r.shape = .ref name

/-- A declaration changes how its name is read and nothing else. -/
theorem plan_declare {p : Part Descriptor} (hp : ¬ RefersTo t.name p) :
    (c.declare t).grammar.plan p = c.grammar.plan p := by
  cases p with
  | key _ _ | absent _ _ _ => rfl
  | value d v =>
    have hform : (c.declare t).form d = c.form d := by
      unfold form
      split <;> try rfl
      next name hd =>
        -- A reference to the new name is the one thing that is excluded.
        have hname : t.name ≠ name := fun h => hp ⟨d, v, rfl, h ▸ hd⟩
        rw [declaration?_declare, if_neg hname]
    simp only [Grammar.plan, Grammar.planValue, grammar, hform]

/-- A reference to a name that is not declared is not read at all. -/
theorem plan_of_refersTo {p : Part Descriptor} (hp : RefersTo name p)
    (hname : c.declaration? name = none) :
    c.grammar.plan p = .error (.mismatch ("declaration of " ++ name) p.subject) := by
  obtain ⟨r, w, rfl, hr⟩ := hp
  simp only [Grammar.plan, Grammar.planValue, grammar, form, shapeError, hr, hname, Part.subject]
  rfl

variable {p : Part Descriptor}

/-- What is read without a declaration is read with it. -/
theorem succeeds_declare (ht : c.declaration? t.name = none) (h : c.grammar.Succeeds p) :
    (c.declare t).grammar.Succeeds p := by
  induction h with
  | @intro p π hplan _ ih =>
    -- A reference to the name is refused, so there is none in what is read.
    have hp : ¬ RefersTo t.name p := by
      intro hp
      rw [plan_of_refersTo hp ht] at hplan
      cases hplan
    exact .intro ((plan_declare hp).trans hplan) ih

/-- Reading stops where it did, unless that was for want of the declaration. -/
theorem stopsAt_declare (ht : c.declaration? t.name = none) {s : Stop Descriptor}
    (h : c.grammar.StopsAt p s) : RefersTo t.name s.culprit ∨ (c.declare t).grammar.StopsAt p s := by
  induction h with
  | @here p e hplan =>
    -- It stops right here: for want of the declaration, or for a reason that is still there.
    by_cases hp : RefersTo t.name p
    · exact .inl hp
    · exact .inr (.here ((plan_declare hp).trans hplan))
  | @inside p q π before after place s hplan hparts hbefore _ ih =>
    have hp : ¬ RefersTo t.name p := by
      intro hp
      rw [plan_of_refersTo hp ht] at hplan
      cases hplan
    -- What was read before needed no such reference, and is read as before.
    have hbefore' : ∀ b ∈ before, (c.declare t).grammar.Succeeds b.2 :=
      fun b hb => succeeds_declare ht (hbefore b hb)
    exact ih.imp id fun hstops => .inside ((plan_declare hp).trans hplan) hparts hbefore' hstops

/-! ### The statement -/

/-- **Validation depends on the declarations that it can reach.** Validators that know the same under all
names that are reached from a descriptor say the same of every value. So it does not matter in which order
different names are declared, of several declarations of a name the last one counts, and a declaration of a
new name takes back no acceptance and no error but that of a reference to this name. -/
theorem check_of_reached :
    (∀ (c c' : Validator) d, c.AgreeFrom c' d → ∀ v, c.check d v = c'.check d v) ∧
      (∀ (c : Validator) (ds ds' : List Descriptor), ds.Perm ds' → (ds.map (·.name)).Nodup →
        (ds.foldl declare c).Same (ds'.foldl declare c)) ∧
      (∀ (c : Validator) (before between after : List Descriptor) (t t' : Descriptor),
        t.name = t'.name →
          ((before ++ t :: between ++ t' :: after).foldl declare c).Same
            ((before ++ between ++ t' :: after).foldl declare c) ∧
          ((∀ d ∈ after, d.name ≠ t'.name) →
            ((before ++ t :: between ++ t' :: after).foldl declare c).declaration? t'.name =
              some t')) ∧
      ∀ (c : Validator) (t : Descriptor), c.declaration? t.name = none → ∀ d v,
        (c.check d v = .accepted → (c.declare t).check d v = .accepted) ∧
          ∀ e, c.check d v = .refused e → (c.declare t).check d v = .refused e ∨
            ∃ s, c.grammar.StopsAt (.value d v) s ∧ s.error = e ∧ RefersTo t.name s.culprit := by
  refine ⟨fun c c' d h v => h.check_eq v, ?_, ?_, ?_⟩
  · intro c ds ds' hperm hnames
    refine .of_declaration? ?_
    intro name
    -- Both orders are searched from the end.
    have hreverse : ds.reverse.Perm ds'.reverse :=
      (List.reverse_perm ds).trans (hperm.trans (List.reverse_perm ds').symm)
    have hnames' : (ds.reverse.map (·.name)).Nodup := by
      rw [List.map_reverse]
      exact List.nodup_reverse.2 hnames
    rw [declaration?_foldl_declare, declaration?_foldl_declare,
      find?_eq_of_perm hreverse hnames']
  · intro c before between after t t' hname
    constructor
    · exact .of_declaration? fun name => declaration?_foldl_hidden c before between after hname name
    · intro hlast
      exact declaration?_foldl_latest c (before ++ t :: between) after hlast
  · intro c t ht d v
    constructor
    · intro haccepted
      -- That something is accepted means that reading succeeds, and reading needs no more than it had.
      have hsucceeds := (c.decides_check.accepts_iff d v).1 haccepted
      exact ((c.declare t).decides_check.accepts_iff d v).2 (succeeds_declare ht hsucceeds)
    · intro e hrefused
      obtain ⟨s, hstops, rfl⟩ := (c.decides_check.refuses_iff d v e).1 hrefused
      -- Reading stops with this error. Either the declaration was missing, or it stops there again.
      rcases stopsAt_declare ht hstops with hculprit | hstops'
      · exact .inr ⟨s, hstops, rfl, hculprit⟩
      · exact .inl (((c.declare t).decides_check.refuses_iff d v _).2 ⟨s, hstops', rfl⟩)

/-- Chains refer to themselves and to nothing else, so that they are validated alike whether trees are
declared or not, before or after them. -/
theorem check_of_reached_chains :
    let chain := IntChain.descriptor
    let tree := IntTree.descriptor
    let chains := empty.declare chain
    (∀ v, chains.check chain v = (chains.declare tree).check chain v) ∧
      (chains.declare tree).Same ((empty.declare tree).declare chain) ∧
      ((empty.declare ⟨"chain", "", .unit⟩).declare chain).Same chains ∧
      (chains.declare tree).check chain (.dict [("head", .int 1)]) = .accepted := by
  intro chain tree chains
  obtain ⟨hagree, horder, hlast, hmore⟩ := check_of_reached
  -- The circle is closed with the first step, so that it holds all names that are reached.
  have hrefs {r : Descriptor} {name : String} (hr : r.OccursIn chain) (hname : r.shape = .ref name) :
      name = "chain" := by
    have hvisit : r ∈ chain.visit := Descriptor.mem_visit_iff.2 hr
    simp only [chain, IntChain.descriptor, Descriptor.visit, Descriptor.visitShape, Descriptor.visitFields,
      Descriptor.ofScalar, Descriptor.optionOf, List.append_nil, List.cons_append, List.nil_append,
      List.mem_cons, List.not_mem_nil, or_false] at hvisit
    rcases hvisit with rfl | rfl | rfl | rfl <;> cases hname
    rfl
  have hreaches {name : String} (h : chains.Reaches chain name) : name = "chain" := by
    induction h with
    | here hr hname => exact hrefs hr hname
    | next _ hdeclared hr hname ih =>
      subst ih
      cases hdeclared
      exact hrefs hr hname
  -- A chain of one link, whose tail is left out.
  have hchain : chains.check chain (.dict [("head", .int 1)]) = .accepted := by decide
  refine ⟨hagree _ _ _ ?_, horder empty [chain, tree] [tree, chain] (.swap ..) (by decide), ?_, ?_⟩
  · intro name hname
    cases hreaches hname
    rfl
  · exact (hlast empty [] [] [] ⟨"chain", "", .unit⟩ chain rfl).1
  · exact (hmore chains tree rfl chain _).1 hchain

end Validator
end Wirecall
