import Wirecall.Proofs.Agreement

/-!
# Two validations side by side

Much of what can be said about validation compares two runs of it on one value: with more depth and with
less, against a descriptor and against another that stands for the same, among these declarations and
among those. Apart from references the two runs then take the same steps, and whatever holds between the
verdicts on the parts holds between the verdicts on the whole. This file says so once for all of them.

* `Verdict.Lockstep` are the relations between verdicts that such a pair of runs keeps.
* `Shape.Parallel` are the shapes that make validation take the same steps: the same constructor, the
  same names, and parts that are related in turn. References are left out, as they take a step that the
  shape does not show.
* `Validator.checkWithin_parallel` is the step itself. It goes one level down into the value, so that
  what holds of a whole run follows by induction on the height of the value.

**Absence.** A field that is left out is the one place where validation looks at the shape of a part
without validating anything against it. `Validator.absence` is what it then says, and fields are only
parallel if that is related as well.
-/

namespace Wirecall

/-! ### Relations that are kept -/

/-- A relation between verdicts that two runs keep while they take the same steps: a verdict that was
reached is related to itself, and going on with related parts leads to related verdicts. -/
structure Verdict.Lockstep (Rel : Verdict → Verdict → Prop) : Prop where
  same (result : Except DecodeError Unit) : Rel (some result) (some result)
  andThen {first first' : Verdict} {next next' : Unit → Verdict} :
    Rel first first' → Rel (next ()) (next' ()) → Rel (first.andThen next) (first'.andThen next')

namespace Verdict

/-- Equality is kept. -/
theorem lockstep_eq : Lockstep Eq where
  same _ := rfl
  andThen {first first' next next'} hfirst hnext := by
    subst hfirst
    -- The first verdict is missing, an error or accepted, and only then the next one is asked for.
    rcases first with _ | _ | _
    · rfl
    · rfl
    · exact hnext

/-- So is that the first run comes to an end. -/
theorem lockstep_isSome : Lockstep fun verdict _ => verdict.isSome where
  same _ := rfl
  andThen {first _ next _} hfirst hnext := by
    -- Nothing goes on behind an error, so the first run has come to an end there.
    rcases first with _ | _ | _
    · cases hfirst
    · rfl
    · exact hnext

variable {Rel : Verdict → Verdict → Prop}

theorem Lockstep.ofBool (hRel : Lockstep Rel) (ok : Bool) (e : DecodeError) :
    Rel (Verdict.ofBool ok e) (Verdict.ofBool ok e) := by
  cases ok with
  | true => exact hRel.same _
  | false => exact hRel.same _

/-- Related questions about related items, one after the other. -/
theorem Lockstep.each (hRel : Lockstep Rel) {α α' : Type} {ask : α → Verdict} {ask' : α' → Verdict}
    {items : List α} {items' : List α'}
    (h : List.Forall₂ (fun a a' => Rel (ask a) (ask' a')) items items') :
    Rel (Verdict.each ask items) (Verdict.each ask' items') := by
  -- The lists are gone through together, so the two runs always ask for items that are related.
  induction h with
  | nil => exact hRel.same _
  | cons first _ rest => exact hRel.andThen first rest

/-- Two questions about each of the same items. -/
theorem Lockstep.each_same (hRel : Lockstep Rel) {α : Type} {ask ask' : α → Verdict} {items : List α}
    (h : ∀ a ∈ items, Rel (ask a) (ask' a)) :
    Rel (Verdict.each ask items) (Verdict.each ask' items) :=
  hRel.each (List.forall₂_same.2 h)

end Verdict

/-! ### Shapes that take the same steps -/

/-- What validation says if a field is left out. -/
def Validator.absence (f : Field) : Verdict :=
  .ofBool f.type.shape.isOption (.missingField f.owner f.name)

variable {part : Descriptor → Descriptor → Prop} {Rel : Verdict → Verdict → Prop}

/-- Two fields of one name, with related types and the same to be said of their absence. -/
structure Field.Parallel (part : Descriptor → Descriptor → Prop) (Rel : Verdict → Verdict → Prop)
    (f f' : Field) : Prop where
  name : f.name = f'.name
  type : part f.type f'.type
  absence : Rel (Validator.absence f) (Validator.absence f')

/-- Two cases of one tag, with related payloads or none. -/
structure Case.Parallel (part : Descriptor → Descriptor → Prop) (k k' : Case) : Prop where
  name : k.name = k'.name
  payload : Option.Rel part k.payload k'.payload

/-- Two shapes with the same constructor and related parts. -/
inductive Shape.Parallel (part : Descriptor → Descriptor → Prop) (Rel : Verdict → Verdict → Prop) :
    Shape → Shape → Prop
  | scalar (kind : Scalar) : Parallel part Rel (.scalar kind) (.scalar kind)
  | timestamp : Parallel part Rel .timestamp .timestamp
  | record {fields fields' : List Field} :
    List.Forall₂ (Field.Parallel part Rel) fields fields' →
      Parallel part Rel (.record fields) (.record fields')
  | variant {cases cases' : List Case} :
    List.Forall₂ (Case.Parallel part) cases cases' →
      Parallel part Rel (.variant cases) (.variant cases')
  | array {item item' : Descriptor} : part item item' → Parallel part Rel (.array item) (.array item')
  | list {item item' : Descriptor} : part item item' → Parallel part Rel (.list item) (.list item')
  | dict {item item' : Descriptor} (key : Scalar) :
    part item item' → Parallel part Rel (.dict key item) (.dict key item')
  | option {item item' : Descriptor} :
    part item item' → Parallel part Rel (.option item) (.option item')
  | pair {first first' second second' : Descriptor} :
    part first first' → part second second' →
      Parallel part Rel (.pair first second) (.pair first' second')
  | unit : Parallel part Rel .unit .unit

theorem Field.Parallel.refl (hRel : Verdict.Lockstep Rel) {f : Field} (h : part f.type f.type) :
    f.Parallel part Rel f :=
  ⟨rfl, h, hRel.ofBool _ _⟩

theorem Case.Parallel.refl {k : Case} (h : ∀ payload, k.payload = some payload → part payload payload) :
    k.Parallel part k := by
  refine ⟨rfl, ?_⟩
  -- Without a payload there is nothing to relate.
  cases hk : k.payload with
  | none => exact .none
  | some payload => exact .some (h payload hk)

/-- A shape that is no reference is parallel to itself if every part is related to itself. -/
theorem Descriptor.parallel_self (hRel : Verdict.Lockstep Rel) {d : Descriptor}
    (hd : ∀ name, d.shape ≠ .ref name) (h : ∀ e ∈ d.children, part e e) :
    d.shape.Parallel part Rel d.shape := by
  obtain ⟨name, description, shape⟩ := d
  dsimp only at hd
  cases shape with
  | scalar kind => exact .scalar kind
  | timestamp => exact .timestamp
  | record fields =>
    refine .record (List.forall₂_same.2 ?_)
    -- A field leads to a child, and so does a case that has a payload.
    intro f hf
    exact .refl hRel (h f.type (List.mem_map_of_mem hf))
  | variant cases =>
    refine .variant (List.forall₂_same.2 ?_)
    intro k hk
    refine .refl ?_
    intro payload hpayload
    exact h payload (List.mem_filterMap.2 ⟨k, hk, hpayload⟩)
  | array item => exact .array (h item (List.mem_singleton_self _))
  | list item => exact .list (h item (List.mem_singleton_self _))
  | dict key item => exact .dict key (h item (List.mem_singleton_self _))
  | option item => exact .option (h item (List.mem_singleton_self _))
  | pair first second =>
    have left : part first first := h first (by simp [children])
    have right : part second second := h second (by simp [children])
    exact .pair left right
  | unit => exact .unit
  | ref name => exact absurd rfl (hd name)

/-! ### The step -/

namespace Validator

variable {ask ask' : Descriptor → Value → Verdict}

/-- One field in two validations, by the same entry or by its absence. -/
theorem checkField_parallel {f f' : Field} (hf : f.Parallel part Rel f')
    {entries : List (String × Value)}
    (hask : ∀ e e' w, part e e' → w.height < (Value.dict entries).height → Rel (ask e w) (ask' e' w)) :
    Rel (checkField ask (entries.map fun e => (Text.lowerCase e.1, e.2)) f)
      (checkField ask' (entries.map fun e => (Text.lowerCase e.1, e.2)) f') := by
  -- Under the same name both sides find the same entry, or none.
  have hunder : Value.under? entries f'.name = Value.under? entries f.name := by rw [hf.name]
  rw [checkField_eq, checkField_eq, hunder]
  cases hw : Value.under? entries f.name with
  | some w => exact hask f.type f'.type w hf.type (Value.height_lt_of_under? hw)
  | none => exact hf.absence

/-- One tag in two validations: the same case is meant, or none. -/
theorem checkCase_parallel (hRel : Verdict.Lockstep Rel) {cases cases' : List Case}
    (h : List.Forall₂ (Case.Parallel part) cases cases') {r : VariantReader}
    (hask : ∀ e e', part e e' → Rel (ask e r.payloadOrNull) (ask' e' r.payloadOrNull)) :
    Rel (checkCase ask cases r) (checkCase ask' cases' r) := by
  -- Both sides look for the first case of the tag, and come to it at the same place.
  induction h with
  | nil => exact hRel.same _
  | @cons k k' _ _ hk _ rest =>
    rw [checkCase_cons, checkCase_cons, ← hk.name]
    split
    next =>
      -- With a payload on one side there is one on the other.
      have payload := hk.payload
      revert payload
      cases k.payload <;> cases k'.payload <;> rintro ⟨⟩
      · exact hRel.same _
      · exact hask _ _ ‹_›
    next => exact rest

variable {c c' : Validator} {depth depth' : Nat} {d d' : Descriptor} {v : Value}

/-- **Two validations against parallel shapes under one name keep whatever holds of the parts.** The
depths and the declarations may differ, and the parts only have to be related on lower values. -/
theorem checkWithin_parallel (hRel : Verdict.Lockstep Rel) (hname : d.name = d'.name)
    (hshape : d.shape.Parallel part Rel d'.shape)
    (hpart : ∀ e e' w, part e e' → w.height < v.height →
      Rel (c.checkWithin depth e w) (c'.checkWithin depth' e' w)) :
    Rel (c.checkWithin (depth + 1) d v) (c'.checkWithin (depth' + 1) d' v) := by
  -- Descriptions are never looked at, so they may differ.
  obtain ⟨name, description, shape⟩ := d
  obtain ⟨name', description', shape'⟩ := d'
  dsimp only at hname hshape
  subst hname
  -- What does not fit the shape is refused in the same words, as name and label are the same.
  cases hshape with
  | scalar kind => exact hRel.ofBool _ _
  | timestamp =>
    cases v with
    | timestamp text => exact hRel.ofBool _ _
    | _ => exact hRel.same _
  | unit =>
    cases v with
    | null => exact hRel.same _
    | _ => exact hRel.same _
  | record fields =>
    cases v with
    | dict entries =>
      refine hRel.each (fields.imp ?_)
      intro f f' hf
      exact checkField_parallel hf hpart
    | _ => exact hRel.same _
  | variant cases =>
    -- A payload that was left out is read as null, which is lower than the value as well.
    have tagged {tag : String} {payload : Option Value} (form : v.TagForm tag payload) :
        Rel (checkCase (c.checkWithin depth) _ ⟨name, tag, payload⟩)
          (checkCase (c'.checkWithin depth') _ ⟨name, tag, payload⟩) :=
      checkCase_parallel hRel cases fun e e' he => hpart e e' _ he form.height_payload_lt
    cases v with
    | string tag => exact tagged (.alone tag)
    | seq values =>
      -- A tag has to come first, and no more than a payload may follow.
      rcases values with _ | ⟨w, rest⟩
      · exact hRel.same _
      · cases w with
        | string tag =>
          rcases rest with _ | ⟨payload, _ | ⟨_, _⟩⟩
          · exact tagged (.wrapped tag)
          · exact tagged (.withPayload tag payload)
          · exact hRel.same _
        | _ => exact hRel.same _
    | _ => exact hRel.same _
  | array item | list item =>
    cases v with
    | seq values =>
      -- Both runs ask about the items of one value, one after the other.
      refine hRel.each_same ?_
      intro w hw
      exact hpart _ _ w item (Value.height_lt_of_mem_items hw)
    | _ => exact hRel.same _
  | dict key item =>
    cases v with
    | dict entries =>
      refine hRel.each_same ?_
      intro e he
      -- The key comes first. It is asked about by its kind alone, which is the same on both sides.
      refine hRel.andThen (hRel.ofBool _ _) ?_
      exact hpart _ _ e.2 item (Value.height_lt_of_mem_entries he)
    | _ => exact hRel.same _
  | option item =>
    cases v with
    | seq values =>
      rcases values with _ | ⟨w, _ | ⟨_, _⟩⟩
      · exact hRel.same _
      · exact hpart _ _ w item (Value.height_lt_of_mem_items (List.mem_singleton_self w))
      · exact hRel.same _
    | _ => exact hRel.same _
  | pair first second =>
    cases v with
    | seq values =>
      rcases values with _ | ⟨a, _ | ⟨b, _ | ⟨_, _⟩⟩⟩
      · exact hRel.same _
      · exact hRel.same _
      · have ha : a.height < (Value.seq [a, b]).height := Value.height_lt_of_mem_items (by simp)
        have hb : b.height < (Value.seq [a, b]).height := Value.height_lt_of_mem_items (by simp)
        have left := hpart _ _ a first ha
        have right := hpart _ _ b second hb
        simp only [checkWithin]
        -- The second item is asked about behind the first on both sides.
        exact hRel.andThen left right
      · exact hRel.same _
    | _ => exact hRel.same _

end Validator
end Wirecall
