import Wirecall.Proofs.Lockstep

/-!
# The order of reading

Values are read part by part, and reading stops at the first error. This file says in which order, without
looking at a decoder or at the validator: both are shown to read like this elsewhere.

* A `Grammar` says how types are read: for each type its `Form`, and what is said of a value whose outermost
  shape is not that of the form. `Grammar.planValue` lists the parts that a value is read by: items by their
  numbers, pairs from left to right, entries of a dictionary as they are written with each key before what it
  holds, and the fields of a record in the order of their declaration, whether they are there or not.
* `Value.Position` says where a part stands in a value. `Value.at?` looks there, `Value.put` puts something
  else there.
* `Grammar.Succeeds` and `Grammar.StopsAt` are the two ways in which reading can end. A `Stop` is all that
  can be said of an error: its position, the part that is to blame, and what was read before.
* There is only one stop (`Grammar.StopsAt.unique`), what is to blame stands at its position
  (`Grammar.StopsAt.subject`), and all parts before it were read without an error (`Grammar.StopsAt.before`).

**Looking without reading.** The keys of a record and the tag of a variant are no parts of their own, they
decide what the parts are. They were looked at all the same, so they are counted in with what was read
(`Plan.seen`).

**What is not there.** A payload that was left out is read as null, and the absence of a field is a part like
any other. Both have a position at which there is nothing.
-/

namespace Wirecall

/-! ### Positions -/

/-- A step into a value. -/
inductive Value.Step where
  /-- To an item of a sequence. -/
  | item (index : Nat)
  /-- To the key of an entry. -/
  | key (index : Nat)
  /-- To what an entry holds. -/
  | entry (index : Nat)
  /-- To where a field would be that was left out. There is nothing at its end. -/
  | leftOut (field : String)
deriving DecidableEq

/-- Where something is in a value: the steps that lead to it, from the outside in. -/
abbrev Value.Position := List Value.Step

namespace Value

/-- Whether two places in a value have nothing in common: neither lies inside the other. -/
def Position.Apart (p q : Position) : Prop :=
  ¬ p <+: q ∧ ¬ q <+: p

theorem Position.Apart.ne_nil {p q : Position} (h : p.Apart q) : p ≠ [] := by
  rintro rfl
  exact h.1 List.nil_prefix

/-- Two places inside a third that are apart are apart in there. -/
theorem Position.Apart.of_append {place p q : Position} (h : Apart (place ++ p) (place ++ q)) :
    p.Apart q :=
  ⟨fun hp => h.1 ((List.prefix_append_right_inj place).2 hp),
    fun hq => h.2 ((List.prefix_append_right_inj place).2 hq)⟩

/-- What stands at a position. Of a key this is its text, and where a field was left out there is nothing. -/
def at? : Position → Value → Option Value
  | [], v => some v
  | .item i :: rest, .seq items => items[i]?.bind (at? rest)
  | .entry i :: rest, .dict entries => entries[i]?.bind fun e => at? rest e.2
  | [.key i], .dict entries => entries[i]?.map fun e => .string e.1
  | _, _ => none

/-- A value with something else at a position. A key can only become another text, and where there is
nothing, nothing comes to be. -/
def put : Value → Position → Value → Value
  | _, [], new => new
  | .seq items, .item i :: rest, new => .seq (items.modify i fun v => put v rest new)
  | .dict entries, .entry i :: rest, new =>
    .dict (entries.modify i fun e => (e.1, put e.2 rest new))
  | .dict entries, [.key i], .string text => .dict (entries.modify i fun e => (text, e.2))
  | v, _, _ => v

end Value

/-! ### Grammars -/

/-- What a record reads as one of its fields. -/
structure FieldForm (T : Type) where
  name : String
  /-- The name of the record in errors. -/
  owner : String
  type : T
  /-- Whether the field may be left out. -/
  optional : Bool

/-- How a type is read: as something plain, or by its parts. Types are only names here for how to go on, so that
the same forms serve for types and for descriptors. -/
inductive Form (T : Type) where
  | plain (accepts : Value → Bool)
  | items (item : T)
  | option (item : T)
  | pair (first second : T)
  | dict (key : Scalar) (item : T)
  | record (fields : List (FieldForm T))
  | variant (name : String) (cases : List (String × Option T))
  /-- As another type, from the same value. -/
  | same (type : T)

/-- How all types of some kind are read, and what is said of a value that does not have the outermost shape
of its form. -/
structure Grammar (T : Type) where
  form : T → Form T
  mismatch : T → Value → DecodeError

/-- One of the things that are read one after the other: a value, the key of an entry, or the lack of an entry
where a record has a field. -/
inductive Part (T : Type) where
  | value (type : T) (v : Value)
  | key (kind : Scalar) (text : String)
  | absent (optional : Bool) (owner field : String)

/-- What a part is read from. -/
def Part.subject {T : Type} : Part T → Value
  | .value _ v => v
  | .key _ text => .string text
  | .absent _ _ _ => .null

/-- What reading a value comes to at first: the places that are looked at right away, and the parts that are
to be read then, in this order. -/
structure Plan (T : Type) where
  seen : List Value.Position := []
  parts : List (Value.Position × Part T) := []

namespace Plan

variable {T : Type}

/-- The items of a sequence are read one after the other, each as the type for its place. -/
def sequence (type : Nat → T) (values : List Value) : List (Value.Position × Part T) :=
  values.zipIdx.map fun w => ([.item w.2], .value (type w.2) w.1)

/-- The entries of a dictionary are read one after the other, each key before what the entry holds. -/
def entries (kind : Scalar) (item : T) (entries : List (String × Value)) :
    List (Value.Position × Part T) :=
  entries.zipIdx.flatMap fun e =>
    [([.key e.2], .key kind e.1.1), ([.entry e.2], .value item e.1.2)]

/-- A field is read from the first entry of its name. -/
def field (entries : List (String × Value)) (f : FieldForm T) : Value.Position × Part T :=
  match entries.zipIdx.find? fun e => Text.lowerCase f.name == Text.lowerCase e.1.1 with
  | some (e, i) => ([.entry i], .value f.type e.2)
  | none => ([.leftOut f.name], .absent f.optional f.owner f.name)

/-- The first case of a tag is read. A payload that was left out is read as null, in the place where it
would be. -/
def ofTag (seen : List Value.Position) (cases : List (String × Option T)) (r : VariantReader) :
    Except DecodeError (Plan T) :=
  match cases.find? fun k => r.is k.1 with
  | none => .error r.unknown
  | some (_, none) =>
    match r.unit with
    | .ok () => .ok { seen := [.item 1] :: seen }
    | .error e => .error e
  | some (_, some type) => .ok { seen, parts := [([.item 1], .value type r.payloadOrNull)] }

end Plan

/-- Where reading stops with an error. It has the whole history of reading up to there, since what may be said of
other places depends on whether they were looked at. -/
structure Stop (T : Type) where
  /-- What was looked at before: the places, and the parts that were read there, where they were not only
  looked at. -/
  read : List (Value.Position × Option (Part T))
  position : Value.Position
  /-- The part that is to blame. -/
  culprit : Part T
  error : DecodeError

/-- Where the reading of a whole stops if that of a part stops somewhere. The error is passed on unchanged. -/
def Stop.inside {T : Type} (s : Stop T) (seen : List Value.Position)
    (before : List (Value.Position × Part T)) (place : Value.Position) : Stop T where
  read := seen.map (fun q => (q, none)) ++ before.map (fun b => (b.1, some b.2)) ++
    s.read.map fun r => (place ++ r.1, r.2)
  position := place ++ s.position
  culprit := s.culprit
  error := s.error

namespace Grammar

variable {T : Type} (G : Grammar T)

/-- How a value is read. A value without the outermost shape of its form has no plan, and neither has a tag that
is none of those declared. -/
def planValue (t : T) (v : Value) : Except DecodeError (Plan T) :=
  match G.form t, v with
  | .plain accepts, v => if accepts v then .ok {} else .error (G.mismatch t v)
  | .items item, .seq values =>
    .ok { parts := Plan.sequence (fun _ => item) values }
  | .option _, .seq [] => .ok {}
  | .option item, .seq [w] => .ok { parts := [([.item 0], .value item w)] }
  | .pair first second, .seq [a, b] =>
    .ok { parts := [([.item 0], .value first a), ([.item 1], .value second b)] }
  | .dict kind item, .dict entries =>
    .ok { parts := Plan.entries kind item entries }
  | .record fields, .dict entries =>
    .ok { seen := entries.zipIdx.map fun e => [.key e.2], parts := fields.map (Plan.field entries) }
  | .variant name cases, .string tag => Plan.ofTag [] cases ⟨name, tag, none⟩
  | .variant name cases, .seq [.string tag] => Plan.ofTag [[.item 0]] cases ⟨name, tag, none⟩
  | .variant name cases, .seq [.string tag, payload] =>
    Plan.ofTag [[.item 0]] cases ⟨name, tag, some payload⟩
  | .same t', v => .ok { parts := [([], .value t' v)] }
  | _, v => .error (G.mismatch t v)

/-- How a part is read. -/
def plan : Part T → Except DecodeError (Plan T)
  | .value t v => G.planValue t v
  | .key kind text =>
    if kind.acceptsKey text then .ok {} else .error (.mismatch (kind.name ++ " key") (.string text))
  | .absent optional owner field => if optional then .ok {} else .error (.missingField owner field)

/-- Whether a part is read without an error. That is more than having a plan: all parts of the plan have to be
read in turn, and this has to come to an end. -/
inductive Succeeds : Part T → Prop
  | intro {p : Part T} {π : Plan T} :
    G.plan p = .ok π → (∀ q ∈ π.parts, Succeeds q.2) → Succeeds p

/-- Whether reading a part stops somewhere: right away, or inside one of its parts, after those before it were
read without an error. -/
inductive StopsAt : Part T → Stop T → Prop
  | here {p : Part T} {e : DecodeError} : G.plan p = .error e → StopsAt p ⟨[], [], p, e⟩
  | inside {p q : Part T} {π : Plan T} {before after : List (Value.Position × Part T)}
      {place : Value.Position} {s : Stop T} :
    G.plan p = .ok π → π.parts = before ++ (place, q) :: after → (∀ b ∈ before, G.Succeeds b.2) →
      StopsAt q s → StopsAt p (s.inside π.seen before place)

variable {G}
variable {p : Part T} {s s' : Stop T}

/-! ### One error -/

/-- No part is read both with an error and without. -/
theorem Succeeds.not_stopsAt (h : G.Succeeds p) : ¬ G.StopsAt p s := by
  induction h generalizing s with
  | intro hplan _ ih =>
    intro hstops
    cases hstops with
    | here hplan' =>
      rw [hplan] at hplan'
      cases hplan'
    -- The part that stops is one of the parts that are read without an error.
    | inside hplan' hparts _ hstops =>
      rw [hplan] at hplan'
      cases hplan'
      exact ih _ (hparts ▸ List.mem_append_right _ List.mem_cons_self) hstops

/-- The error is that of the part that is to blame. -/
theorem StopsAt.raises (h : G.StopsAt p s) : G.plan s.culprit = .error s.error := by
  induction h with
  | here hplan => exact hplan
  | inside _ _ _ _ ih => exact ih

/-- A list is split in only one way at the first item at which something ends. -/
theorem first_unique {ι : Type} {goes ends : ι → Prop} (hexclusive : ∀ x, goes x → ¬ ends x)
    {before before' after after' : List ι} {y y' : ι}
    (hsplit : before ++ y :: after = before' ++ y' :: after') (hbefore : ∀ z ∈ before, goes z)
    (hbefore' : ∀ z ∈ before', goes z) (hy : ends y) (hy' : ends y') : before = before' ∧ y = y' := by
  induction before generalizing before' with
  | nil =>
    cases before' with
    | nil =>
      cases hsplit
      exact ⟨rfl, rfl⟩
    | cons z before' =>
      cases hsplit
      -- The first item ends one split, so it does not go on in the other.
      exact absurd hy (hexclusive _ (hbefore' _ List.mem_cons_self))
  | cons z before ih =>
    cases before' with
    | nil =>
      cases hsplit
      exact absurd hy' (hexclusive _ (hbefore _ List.mem_cons_self))
    | cons z' before' =>
      obtain ⟨rfl, htail⟩ := List.cons.inj hsplit
      obtain ⟨rfl, hsame⟩ := ih htail (List.forall_mem_cons.1 hbefore).2
        (List.forall_mem_cons.1 hbefore').2
      exact ⟨rfl, hsame⟩

/-- Reading stops in one place, and there is only one way to come to it. -/
theorem StopsAt.unique (h : G.StopsAt p s) (h' : G.StopsAt p s') : s = s' := by
  induction h generalizing s' with
  -- A part without a plan is to blame itself.
  | here hplan =>
    cases h' with
    | here hplan' =>
      rw [hplan] at hplan'
      cases hplan'
      rfl
    | inside hplan' =>
      rw [hplan] at hplan'
      cases hplan'
  | inside hplan hparts hbefore hstops ih =>
    cases h' with
    | here hplan' =>
      rw [hplan] at hplan'
      cases hplan'
    | inside hplan' hparts' hbefore' hstops' =>
      rw [hplan] at hplan'
      cases hplan'
      -- Both stop in the first part that is not read without an error.
      have hexclusive : ∀ b : Value.Position × Part T, G.Succeeds b.2 → ¬ ∃ s, G.StopsAt b.2 s :=
        fun b hb ⟨s, hs⟩ => hb.not_stopsAt hs
      obtain ⟨rfl, hsame⟩ := first_unique hexclusive (hparts.symm.trans hparts') hbefore hbefore'
        ⟨_, hstops⟩ ⟨_, hstops'⟩
      cases hsame
      rw [ih hstops']

end Grammar

/-! ### What stands at a position -/

namespace Value

/-- Inside a text there is nothing. -/
theorem at?_string (text : String) {q : Position} (hq : q ≠ []) : at? q (.string text) = none := by
  -- One step and several steps are looked up by different rules, and no rule leads into a text.
  rcases q with _ | ⟨step, _ | _⟩
  · exact absurd rfl hq
  · cases step <;> rfl
  · cases step <;> rfl

/-- Inside null everything is null that is read there at all. -/
theorem at?_null (q : Position) : (at? q .null).getD .null = .null := by
  rcases q with _ | ⟨step, _ | _⟩
  · rfl
  · cases step <;> rfl
  · cases step <;> rfl

/-- What stands behind a place is what stands inside of what stands there. -/
theorem at?_append (place q : Position) (v : Value) :
    at? (place ++ q) v = (at? place v).bind (at? q) := by
  induction place generalizing v with
  | nil => rfl
  | cons step rest ih =>
    cases step with
    | item i =>
      cases v with
      | seq items =>
        simp only [List.cons_append, at?, ih]
        cases items[i]? <;> rfl
      | _ => rfl
    | entry i =>
      cases v with
      | dict entries =>
        simp only [List.cons_append, at?, ih]
        cases entries[i]? <;> rfl
      | _ => rfl
    | key i =>
      -- A key is a text, so no step leads on from it.
      rcases rest with _ | ⟨step, rest⟩
      · cases v with
        | dict entries =>
          rcases q with _ | ⟨step, q⟩
          · simp [at?]
          · simp only [List.cons_append, List.nil_append, at?]
            cases entries[i]? with
            | none => rfl
            | some e => exact (at?_string e.1 (List.cons_ne_nil _ _)).symm
        | _ => rcases q with _ | _ <;> rfl
      · rfl
    | leftOut field => rfl

end Value

namespace Grammar

variable {T : Type} {G : Grammar T}

/-- Which part a variant is read by is decided by its tag. -/
theorem eq_of_ofTag {seen : List Value.Position} {cases : List (String × Option T)}
    {name tag : String} {payload : Option Value} {π : Plan T}
    (h : Plan.ofTag seen cases ⟨name, tag, payload⟩ = .ok π) (hparts : π.parts ≠ []) :
    ∃ type, π = { seen, parts := [([.item 1], .value type (payload.getD .null))] } ∧
      ∀ payload, Plan.ofTag seen cases ⟨name, tag, payload⟩ =
        .ok { seen, parts := [([.item 1], .value type (payload.getD .null))] } := by
  unfold Plan.ofTag at h
  split at h
  next => cases h
  next =>
    split at h <;> cases h
    exact absurd rfl hparts
  next type hfind =>
    cases h
    refine ⟨type, rfl, ?_⟩
    intro payload
    -- The search looks at the tag, and the payload makes no difference to it.
    have hsame : (cases.find? fun k => VariantReader.is ⟨name, tag, payload⟩ k.1) =
        some (_, some type) := hfind
    unfold Plan.ofTag
    rw [hsame]
    rfl

/-- The plans of values, form by form. -/
inductive Plans (G : Grammar T) (t : T) : Value → Plan T → Prop
  | plain {accepts : Value → Bool} {v : Value} : G.form t = .plain accepts → Plans G t v {}
  | items {item : T} (values : List Value) : G.form t = .items item →
    Plans G t (.seq values) { parts := Plan.sequence (fun _ => item) values }
  | none {item : T} : G.form t = .option item → Plans G t (.seq []) {}
  | some {item : T} (w : Value) : G.form t = .option item →
    Plans G t (.seq [w]) { parts := [([.item 0], .value item w)] }
  | pair {first second : T} (a b : Value) : G.form t = .pair first second →
    Plans G t (.seq [a, b]) { parts := [([.item 0], .value first a), ([.item 1], .value second b)] }
  | dict {kind : Scalar} {item : T} (entries : List (String × Value)) : G.form t = .dict kind item →
    Plans G t (.dict entries) { parts := Plan.entries kind item entries }
  | record {fields : List (FieldForm T)} (entries : List (String × Value)) :
    G.form t = .record fields → Plans G t (.dict entries)
      { seen := entries.zipIdx.map fun e => [.key e.2], parts := fields.map (Plan.field entries) }
  /-- All ways to write a tag are read alike. -/
  | variant {name tag : String} {cases : List (String × Option T)} {payload : Option Value} {v : Value}
    {π : Plan T} : G.form t = .variant name cases → v.TagForm tag payload →
      (π.parts ≠ [] → ∃ type, π.parts = [([.item 1], .value type (payload.getD .null))]) →
        Plans G t v π
  | same {t' : T} (v : Value) : G.form t = .same t' → Plans G t v { parts := [([], .value t' v)] }

/-- There are no others. -/
theorem plans_of_planValue {t : T} {v : Value} {π : Plan T} (hplan : G.planValue t v = .ok π) :
    G.Plans t v π := by
  -- The three forms of a tag lead to one and the same case.
  have tagged {seen : List Value.Position} {name tag : String} {cases : List (String × Option T)}
      {payload : Option Value} (hform : G.form t = .variant name cases) (form : v.TagForm tag payload)
      (h : Plan.ofTag seen cases ⟨name, tag, payload⟩ = .ok π) : G.Plans t v π := by
    refine .variant hform form ?_
    intro hparts
    obtain ⟨type, rfl, -⟩ := eq_of_ofTag h hparts
    exact ⟨type, rfl⟩
  unfold planValue at hplan
  split at hplan
  next hform =>
    split at hplan <;> cases hplan
    exact .plain hform
  next hform =>
    cases hplan
    exact .items _ hform
  next hform =>
    cases hplan
    exact .none hform
  next hform =>
    cases hplan
    exact .some _ hform
  next hform =>
    cases hplan
    exact .pair _ _ hform
  next hform =>
    cases hplan
    exact .dict _ hform
  next hform =>
    cases hplan
    exact .record _ hform
  next hform => exact tagged hform (.alone _) hplan
  next hform => exact tagged hform (.wrapped _) hplan
  next hform => exact tagged hform (.withPayload _ _) hplan
  next hform =>
    cases hplan
    exact .same _ hform
  next => cases hplan

/-- Only values are read by their parts. -/
theorem plan_key_or_absent {p : Part T} {π : Plan T} (hplan : G.plan p = .ok π)
    (hp : ∀ t v, p ≠ .value t v) : π.parts = [] := by
  cases p with
  | value t v => exact absurd rfl (hp t v)
  | key _ _ | absent _ _ _ =>
    simp only [plan] at hplan
    -- Keys and absent fields are in order or they are not, and have no parts in either case.
    split at hplan <;> cases hplan
    rfl

/-- Each part is read from what stands at its place. -/
theorem subject_of_mem_parts {t : T} {v : Value} {π : Plan T} (hplan : G.planValue t v = .ok π)
    {b : Value.Position × Part T} (hb : b ∈ π.parts) : b.2.subject = (v.at? b.1).getD .null := by
  cases plans_of_planValue hplan with
  | plain _ | none _ => cases hb
  | items values _ =>
    obtain ⟨⟨w, k⟩, hw, rfl⟩ := List.mem_map.1 hb
    -- The number of an item is the place where it stands.
    have hw : values[k]? = some w := List.mem_zipIdx_iff_getElem?.1 hw
    simp [Part.subject, Value.at?, hw]
  | some w _ =>
    cases List.mem_singleton.1 hb
    rfl
  | pair _ _ _ => rcases List.mem_pair.1 hb with rfl | rfl <;> rfl
  | dict entries _ =>
    obtain ⟨⟨e, k⟩, he, hb⟩ := List.mem_flatMap.1 hb
    have he : entries[k]? = some e := List.mem_zipIdx_iff_getElem?.1 he
    -- An entry makes two parts, a text for its key and what it holds.
    rcases List.mem_pair.1 hb with rfl | rfl <;> simp [Part.subject, Value.at?, he]
  | record entries _ =>
    obtain ⟨f, hf, rfl⟩ := List.mem_map.1 hb
    unfold Plan.field
    split
    next e k hfind =>
      have he : entries[k]? = some e := List.mem_zipIdx_iff_getElem?.1 (List.mem_of_find?_eq_some hfind)
      simp [Part.subject, Value.at?, he]
    -- Where the field would be, there is nothing.
    next => rfl
  | variant _ form hparts =>
    obtain ⟨type, hparts⟩ := hparts (List.ne_nil_of_mem hb)
    rw [hparts] at hb
    cases List.mem_singleton.1 hb
    -- Where there is no payload there is nothing, and nothing is read as null.
    cases form <;> rfl
  | same _ _ =>
    cases List.mem_singleton.1 hb
    rfl

/-- What is inside a part stands behind the place of the part. -/
theorem subject_inside {p q : Part T} {π : Plan T} (hplan : G.plan p = .ok π) {place : Value.Position}
    (hq : (place, q) ∈ π.parts) (position : Value.Position) :
    (q.subject.at? position).getD .null = (p.subject.at? (place ++ position)).getD .null := by
  -- Only a value has parts.
  obtain ⟨t, v, rfl⟩ : ∃ t v, p = .value t v := by
    by_contra hp
    rw [plan_key_or_absent hplan fun t v h => hp ⟨t, v, h⟩] at hq
    cases hq
  have hsubject : q.subject = (v.at? place).getD .null := subject_of_mem_parts hplan hq
  have hwhole : (Part.value t v).subject.at? (place ++ position) =
      (v.at? place).bind (Value.at? position) := Value.at?_append place position v
  rw [hsubject, hwhole]
  cases v.at? place with
  | some w => rfl
  | none => exact Value.at?_null position

/-- What is to blame stands at the position of the error. -/
theorem StopsAt.subject {p : Part T} {s : Stop T} (h : G.StopsAt p s) :
    s.culprit.subject = (p.subject.at? s.position).getD .null := by
  induction h with
  | here => rfl
  | inside hplan hparts _ _ ih =>
    exact ih.trans (subject_inside hplan (hparts ▸ List.mem_append_right _ List.mem_cons_self) _)

/-- What was read before was read without an error. -/
theorem StopsAt.before {p : Part T} {s : Stop T} (h : G.StopsAt p s) {place : Value.Position}
    {q : Part T} (hq : (place, some q) ∈ s.read) :
    G.Succeeds q ∧ q.subject = (p.subject.at? place).getD .null := by
  induction h generalizing place with
  | here => cases hq
  | @inside p part π before after within s hplan hparts hbefore _ ih =>
    simp only [Stop.inside, List.mem_append, List.mem_map] at hq
    -- It was a part in front of the one where reading stops, or it was read inside that one.
    rcases hq with (⟨_, _, h⟩ | ⟨b, hb, h⟩) | ⟨⟨place, _⟩, hr, h⟩ <;> cases h
    · have hmem : (b.1, b.2) ∈ π.parts := hparts ▸ List.mem_append_left _ hb
      have hsubject := subject_inside hplan hmem []
      rw [List.append_nil] at hsubject
      exact ⟨hbefore b hb, hsubject⟩
    · have hmem : (within, part) ∈ π.parts := hparts ▸ List.mem_append_right _ List.mem_cons_self
      obtain ⟨hsucceeds, hsubject⟩ := ih hr
      exact ⟨hsucceeds, hsubject.trans (subject_inside hplan hmem place)⟩

end Grammar
end Wirecall
