import Wirecall.Proofs.Termination

/-!
# Replacing references by what they refer to

A reference stands for the declaration of its name. Wherever validation goes through `check` this is what
it does with it, so a descriptor may be written with references or with definitions in their place, and
values are accepted and refused alike. There is one exception. If a record has no entry for a field,
there is nothing to go through `check`: the validator looks at the shape of the field itself, and a
reference is no option, whatever its declaration is. A field whose type is a reference to an option has to
be there, while the same field with the option in its place may be left out.

* `Descriptor.Replaces` is the replacement of one descriptor inside another, at any depth. It keeps track
  of the innermost field around the replaced place.
* `Validator.check_of_replaces` is the main statement: the verdicts are the same, or the place is the type
  of such a field and the reference gets it reported as missing. "The same" includes that neither of the
  two validations ends.
* `Validator.absent_by_reference` shows that the exception occurs.

**The relation behind it.** "Equal, or the first one reports that field" is kept in step
(`Verdict.lockstep_orRefused`), so the induction over the place of the replacement only has to look at
fields closely.
-/

namespace Wirecall

/-- Equality of verdicts, up to certain errors on the left, is kept in step. -/
theorem Verdict.lockstep_orRefused (excused : DecodeError → Prop) :
    Lockstep fun verdict verdict' => verdict = verdict' ∨ ∃ e, excused e ∧ verdict = refused e where
  same _ := .inl rfl
  andThen {first first' next next'} hfirst hnext := by
    rcases hfirst with rfl | ⟨e, he, rfl⟩
    · rcases first with _ | _ | _
      · exact .inl rfl
      · exact .inl rfl
      · exact hnext
    · -- What was refused on the left stays refused, whatever would have come next.
      exact .inr ⟨e, he, rfl⟩

/-! ### Replacing -/

/-- One descriptor inside another replaced: `Replaces r t place d d'` says that `d'` is `d` with `t`
instead of `r` at one place. What is given of the place is the innermost field around it, if it is inside
any. -/
inductive Descriptor.Replaces (r t : Descriptor) : Option Field → Descriptor → Descriptor → Prop
  | here : Replaces r t none r t
  | field {place : Option Field} {f : Field} {type : Descriptor} (name description : String)
    (before after : List Field) :
    Replaces r t place f.type type →
      Replaces r t (some (place.getD f)) ⟨name, description, .record (before ++ f :: after)⟩
        ⟨name, description, .record (before ++ { f with type } :: after)⟩
  | payload {place : Option Field} {payload payload' : Descriptor}
    (name description tag about : String) (before after : List Case) :
    Replaces r t place payload payload' →
      Replaces r t place
        ⟨name, description, .variant (before ++ ⟨tag, about, some payload⟩ :: after)⟩
        ⟨name, description, .variant (before ++ ⟨tag, about, some payload'⟩ :: after)⟩
  | array {place : Option Field} {item item' : Descriptor} (name description : String) :
    Replaces r t place item item' →
      Replaces r t place ⟨name, description, .array item⟩ ⟨name, description, .array item'⟩
  | list {place : Option Field} {item item' : Descriptor} (name description : String) :
    Replaces r t place item item' →
      Replaces r t place ⟨name, description, .list item⟩ ⟨name, description, .list item'⟩
  | dict {place : Option Field} {item item' : Descriptor} (name description : String) (key : Scalar) :
    Replaces r t place item item' →
      Replaces r t place ⟨name, description, .dict key item⟩ ⟨name, description, .dict key item'⟩
  | option {place : Option Field} {item item' : Descriptor} (name description : String) :
    Replaces r t place item item' →
      Replaces r t place ⟨name, description, .option item⟩ ⟨name, description, .option item'⟩
  | first {place : Option Field} {first first' : Descriptor} (name description : String)
    (second : Descriptor) :
    Replaces r t place first first' →
      Replaces r t place ⟨name, description, .pair first second⟩ ⟨name, description, .pair first' second⟩
  | second {place : Option Field} {second second' : Descriptor} (name description : String)
    (first : Descriptor) :
    Replaces r t place second second' →
      Replaces r t place ⟨name, description, .pair first second⟩ ⟨name, description, .pair first second'⟩

variable {r t d d' : Descriptor} {place : Option Field}

/-- Replacing inside a descriptor leaves its outermost shape as it is. So whether it is an option can only
change if it is replaced as a whole. -/
theorem Descriptor.Replaces.eq_or_isOption_eq (h : Replaces r t place d d') :
    (d = r ∧ d' = t ∧ place = none) ∨ d'.shape.isOption = d.shape.isOption := by
  cases h with
  | here => exact .inl ⟨rfl, rfl, rfl⟩
  | _ => exact .inr rfl

namespace Validator

variable {c : Validator} {name : String}

/-- The error that a reference to an option gets a field reported with, if that field is the place of the
reference. -/
def ReportedAbsent (r t : Descriptor) (place : Option Field) (e : DecodeError) : Prop :=
  ∃ f, place = some f ∧ f.type = r ∧ t.shape.isOption ∧ e = .missingField f.owner f.name

/-- An excuse for a place further in is one for the same place seen from outside. -/
theorem ReportedAbsent.getD {e : DecodeError} (h : ReportedAbsent r t place e) (f : Field) :
    ReportedAbsent r t (some (place.getD f)) e := by
  obtain ⟨g, rfl, hg⟩ := h
  exact ⟨g, rfl, hg⟩

/-- Whether a field may be left out is the same after replacing inside its type, unless the type itself
was a reference to an option. -/
theorem absence_of_replaces (hr : r.shape = .ref name) {f : Field} {type : Descriptor}
    (h : Descriptor.Replaces r t place f.type type) :
    absence f = absence { f with type } ∨
      ∃ e, ReportedAbsent r t (some (place.getD f)) e ∧ absence f = .refused e := by
  unfold absence
  rcases h.eq_or_isOption_eq with ⟨htype, rfl, rfl⟩ | hoption
  · -- The type was the reference itself, and a reference is no option.
    have hrequired : f.type.shape.isOption = false := by rw [htype, hr]; rfl
    rw [hrequired]
    cases ht : type.shape.isOption with
    | false => exact .inl rfl
    -- Here the two differ: one field is required, the other may be left out.
    | true => exact .inr ⟨_, ⟨f, rfl, htype, ht, rfl⟩, rfl⟩
  · -- The replacement is further in, where this question does not look.
    exact .inl (by rw [hoption])

/-- **A reference may be replaced by what is declared under its name.** Wherever inside a descriptor the
reference is, the verdict on a value stays the same, errors and endlessness included. Only if the
reference is the type of a field and its declaration is an option, the verdict may have been that this
field is missing. -/
theorem check_of_replaces (hr : r.shape = .ref name) (ht : c.declaration? name = some t)
    (h : Descriptor.Replaces r t place d d') (v : Value) :
    c.check d v = c.check d' v ∨
      ∃ f, place = some f ∧ f.type = r ∧ t.shape.isOption ∧
        c.check d v = .refused (.missingField f.owner f.name) := by
  suffices hrel : ∀ v, c.check d v = c.check d' v ∨
      ∃ e, ReportedAbsent r t place e ∧ c.check d v = .refused e by
    rcases hrel v with heq | ⟨e, ⟨f, hplace, htype, hoption, rfl⟩, hrefused⟩
    · exact .inl heq
    · exact .inr ⟨f, hplace, htype, hoption, hrefused⟩
  clear v
  -- The induction is on the place. Everything beside it is related to itself, as it is the same.
  induction h with
  | here =>
    intro v
    exact .inl (check_declared hr ht)
  | @field place f type name description before after hinner ih =>
    -- This field may differ in what is said of its entry and in what is said of its absence.
    have hRel := Verdict.lockstep_orRefused (ReportedAbsent r t (some (place.getD f)))
    refine check_parallel hRel rfl (.record ?_)
    -- The fields in front and behind are the same ones.
    refine List.rel_append (List.forall₂_same.2 ?_) (.cons ?_ (List.forall₂_same.2 ?_))
    · exact fun g _ => .refl hRel fun w => .inl rfl
    · refine ⟨rfl, ?_, absence_of_replaces hr hinner⟩
      intro w
      rcases ih w with heq | ⟨e, he, hrefused⟩
      · exact .inl heq
      · exact .inr ⟨e, he.getD f, hrefused⟩
    · exact fun g _ => .refl hRel fun w => .inl rfl
  | payload name description tag about before after _ ih =>
    -- From here on the parts only go through `check`, so what holds of them holds of the whole.
    refine check_parallel (Verdict.lockstep_orRefused _) rfl (.variant ?_)
    refine List.rel_append (List.forall₂_same.2 ?_) (.cons ⟨rfl, .some ih⟩ (List.forall₂_same.2 ?_))
    · exact fun k _ => .refl fun _ _ w => .inl rfl
    · exact fun k _ => .refl fun _ _ w => .inl rfl
  | array name description _ ih => exact check_parallel (Verdict.lockstep_orRefused _) rfl (.array ih)
  | list name description _ ih => exact check_parallel (Verdict.lockstep_orRefused _) rfl (.list ih)
  | dict name description key _ ih =>
    exact check_parallel (Verdict.lockstep_orRefused _) rfl (.dict key ih)
  | option name description _ ih => exact check_parallel (Verdict.lockstep_orRefused _) rfl (.option ih)
  | first name description second _ ih =>
    exact check_parallel (Verdict.lockstep_orRefused _) rfl (.pair ih fun w => .inl rfl)
  | second name description first _ ih =>
    exact check_parallel (Verdict.lockstep_orRefused _) rfl (.pair (fun w => .inl rfl) ih)

/-- The items of a list are no field, so nothing can be missing there. -/
theorem check_of_replaces_limits :
    let limit : Descriptor := ⟨"limit", "", .option (.ofScalar .int64)⟩
    let reference : Descriptor := ⟨"limit", "", .ref "limit"⟩
    let limits (item : Descriptor) : Descriptor := ⟨"limits", "", .list item⟩
    let c := empty.declare limit
    let v : Value := .seq [.seq [.int 5], .seq [], .null]
    c.check (limits reference) v = c.check (limits limit) v := by
  intro limit reference limits c v
  have hplace : Descriptor.Replaces reference limit none (limits reference) (limits limit) :=
    .list "limits" "" .here
  rcases check_of_replaces (c := c) rfl rfl hplace v with heq | ⟨f, hf, -⟩
  · exact heq
  · cases hf

/-- The limit of an account may be left out if it is an option, and has to be there if it is a reference
to that option. -/
theorem absent_by_reference :
    let limit : Descriptor := ⟨"limit", "", .option (.ofScalar .int64)⟩
    let reference : Descriptor := ⟨"limit", "", .ref "limit"⟩
    let field (type : Descriptor) : Field := ⟨"limit", "", type, "account"⟩
    let account (type : Descriptor) : Descriptor := ⟨"account", "", .record [field type]⟩
    let c := empty.declare limit
    c.declaration? "limit" = some limit ∧
      Descriptor.Replaces reference limit (some (field reference)) (account reference)
        (account limit) ∧
      c.check (account reference) (.dict []) = .refused (.missingField "account" "limit") ∧
      c.check (account limit) (.dict []) = .accepted := by
  intro limit reference field account c
  refine ⟨rfl, ?_, rfl, rfl⟩
  exact .field (f := field reference) "account" "" [] [] .here

end Validator
end Wirecall
