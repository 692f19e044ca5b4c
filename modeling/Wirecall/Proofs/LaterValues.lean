import Wirecall.Proofs.ReadingOrder

/-!
# What is read later

An error hides everything behind it. Whatever else stands in a value where nothing was looked at before,
reading still stops in the same place with the same error (`Grammar.StopsAt.put`).

* `PutAt` relates two parts of two plans, the second for a value that has something else at a position. Of
  parts the position does not lie in nothing changes, and inside a part there is something else at the rest
  of the position.
* `put_seq`, `put_dict` and `putAt_field` take one step into a value: all items, entries and fields stay in
  their places.
* From there, one lemma for each form says that the plan of a value stays as it is, but for the part that
  the position lies in (`Grammar.StaysAt`). What must not change is what was looked at to make the plan: the
  keys of a record and the tag of a variant.

**Keys.** Something else can also be put in the place of a key. Then the part that is this key changes, and
`PutAt` leaves open how; the position of a key is apart from all places but its own.
-/

namespace Wirecall

/-! ### Other values at a position -/

/-- There is nothing in null to put anything at. -/
theorem Value.put_null {q : Position} (hq : q ≠ []) (new : Value) : put .null q new = .null := by
  rcases q with _ | ⟨step, _ | _⟩
  · exact absurd rfl hq
  · cases step <;> rfl
  · cases step <;> rfl

section Put

variable {T : Type} {new : Value}

/-- A part whose value has something else at a position. -/
def Part.put (q : Value.Position) (new : Value) : Part T → Part T
  | .value t v => .value t (v.put q new)
  | part => part

/-- Whether a part at some place becomes another one as something else is put at a position of the whole.
Nothing is said of the part that stands at this very position. -/
structure PutAt (q : Value.Position) (new : Value) (a b : Value.Position × Part T) : Prop where
  place : b.1 = a.1
  outside : ¬ a.1 <+: q → b.2 = a.2
  inside : ∀ rest, rest ≠ [] → q = a.1 ++ rest → b.2 = a.2.put rest new

namespace PutAt

variable {q rest : Value.Position} {a : Value.Position × Part T} {t : T} {w : Value}

theorem of_outside (h : ¬ a.1 <+: q) : PutAt q new a a where
  place := rfl
  outside _ := rfl
  inside rest _ hq := absurd ⟨rest, hq.symm⟩ h

/-- Inside some parts there is nothing to put anything at. -/
theorem of_put_eq (h : ∀ rest, rest ≠ [] → a.2.put rest new = a.2) : PutAt q new a a where
  place := rfl
  outside _ := rfl
  inside rest hrest _ := (h rest hrest).symm

/-- One step down, a part changes if the step leads to it. -/
theorem of_step (here step : Value.Step) :
    PutAt (step :: rest) new ([here], .value t w)
      ([here], .value t (if here = step then w.put rest new else w)) := by
  -- The step leads to this part, or past it.
  by_cases hstep : here = step
  · subst hstep
    rw [if_pos rfl]
    refine ⟨rfl, fun houtside => absurd ⟨rest, rfl⟩ houtside, ?_⟩
    intro rest' _ hq
    cases hq
    rfl
  · rw [if_neg hstep]
    refine of_outside ?_
    intro hprefix
    exact hstep (List.cons_prefix_cons.1 hprefix).1

theorem item (k i : Nat) : PutAt (.item i :: rest) new ([.item k], .value t w)
    ([.item k], .value t (if k = i then w.put rest new else w)) := by
  simpa only [Value.Step.item.injEq] using of_step (.item k) (.item i)

theorem entry (e : String × Value) (k i : Nat) :
    PutAt (.entry i :: rest) new ([.entry k], .value t e.2)
      ([.entry k], .value t (if k = i then (e.1, e.2.put rest new) else e).2) := by
  -- The entry keeps its key, so this is a step to what it holds.
  have hstep : PutAt (.entry i :: rest) new ([.entry k], .value t e.2)
      ([.entry k], .value t (if k = i then e.2.put rest new else e.2)) := by
    simpa only [Value.Step.entry.injEq] using of_step (.entry k) (.entry i)
  rwa [apply_ite Prod.snd]

/-- Parts that the position does not lie in are the same as before, up to the first that may be another. -/
theorem exists_split {before after parts' : List (Value.Position × Part T)} {b : Value.Position × Part T}
    (h : List.Forall₂ (PutAt q new) (before ++ b :: after) parts')
    (hbefore : ∀ a ∈ before, ¬ a.1 <+: q) :
    ∃ b' after', parts' = before ++ b' :: after' ∧ PutAt q new b b' := by
  induction before generalizing parts' with
  | nil =>
    cases h with
    | cons hb _ => exact ⟨_, _, rfl, hb⟩
  | cons a before ih =>
    obtain ⟨houtside, hbefore⟩ := List.forall_mem_cons.1 hbefore
    cases h with
    | @cons _ a' _ _ ha hrest =>
      obtain ⟨b', after', rfl, hb⟩ := ih hrest hbefore
      -- The position does not lie in this part, so it is the same as before.
      have hsame : a' = a := Prod.ext ha.place (ha.outside houtside)
      exact ⟨b', after', by rw [hsame]; rfl, hb⟩

end PutAt

/-- Changing an item changes it where it is numbered. -/
theorem zipIdx_modify {α : Type} (xs : List α) (i : Nat) (g : α → α) :
    (xs.modify i g).zipIdx = xs.zipIdx.map fun x => (if x.2 = i then g x.1 else x.1, x.2) := by
  -- Place by place: there is an item or there is none, and it is the one to change or it is not.
  apply List.ext_getElem?
  intro k
  rw [List.getElem?_map, List.getElem?_zipIdx, List.getElem?_zipIdx, List.getElem?_modify]
  cases xs[k]? with
  | none => rfl
  | some x => by_cases hk : i = k <;> simp [hk, eq_comm]

variable {rest : Value.Position}

/-- One step down a sequence, all items stay in their places. -/
theorem put_seq (type : Nat → T) (values : List Value) (step : Value.Step) (rest : Value.Position)
    (new : Value) : ∃ values', (Value.seq values).put (step :: rest) new = .seq values' ∧
      values'.length = values.length ∧
      List.Forall₂ (PutAt (step :: rest) new) (Plan.sequence type values)
        (Plan.sequence type values') := by
  cases step with
  | item i =>
    refine ⟨values.modify i fun w => w.put rest new, rfl, List.length_modify .., ?_⟩
    unfold Plan.sequence
    rw [zipIdx_modify, List.map_map, List.forall₂_map_left_iff, List.forall₂_map_right_iff,
      List.forall₂_same]
    rintro ⟨w, k⟩ -
    -- Every item has its number before and after, and one of them is changed.
    exact .item k i
  | _ =>
    -- A sequence has nothing but items, so any other step leads nowhere.
    refine ⟨values, by cases rest <;> rfl, rfl, List.forall₂_same.2 ?_⟩
    intro b hb
    obtain ⟨w, -, rfl⟩ := List.mem_map.1 hb
    exact .of_outside (by simp [List.cons_prefix_cons])

/-- If one entry changes, and its key and what it holds change as they should, so do all parts. -/
theorem putAt_entries {kind : Scalar} {item : T} {q : Value.Position} {i : Nat}
    {g : String × Value → String × Value} {entries : List (String × Value)}
    (h : ∀ e k, PutAt q new ([.key k], .key (T := T) kind e.1)
        ([.key k], .key kind (if k = i then g e else e).1) ∧
      PutAt q new ([.entry k], .value item e.2) ([.entry k], .value item (if k = i then g e else e).2)) :
    List.Forall₂ (PutAt q new) (Plan.entries kind item entries)
      (Plan.entries kind item (entries.modify i g)) := by
  unfold Plan.entries
  rw [zipIdx_modify, List.flatMap_map]
  -- Entry by entry, its key and then what it holds.
  induction entries.zipIdx with
  | nil => exact .nil
  | cons e others ih => exact List.rel_append (.cons (h e.1 e.2).1 (.cons (h e.1 e.2).2 .nil)) ih

/-- One step down a dictionary, all entries stay in their places, and no key changes but one that stands at
the position itself. -/
theorem put_dict (kind : Scalar) (item : T) (entries : List (String × Value)) (step : Value.Step)
    (rest : Value.Position) (new : Value) :
    ∃ entries', (Value.dict entries).put (step :: rest) new = .dict entries' ∧
      List.Forall₂ (PutAt (step :: rest) new) (Plan.entries kind item entries)
        (Plan.entries kind item entries') := by
  -- If nothing is put anywhere, keys stay as they are, and no entry is one that the step leads to.
  have unchanged (h : ∀ k, ¬ [Value.Step.entry k] <+: step :: rest) :
      List.Forall₂ (PutAt (step :: rest) new) (Plan.entries kind item entries)
        (Plan.entries kind item entries) := by
    refine List.forall₂_same.2 ?_
    intro b hb
    obtain ⟨e, -, hb⟩ := List.mem_flatMap.1 hb
    rcases List.mem_pair.1 hb with rfl | rfl
    · exact .of_put_eq fun _ _ => rfl
    · exact .of_outside (h e.2)
  cases step with
  | entry i =>
    refine ⟨_, rfl, putAt_entries ?_⟩
    intro e k
    -- What an entry holds may change, its key does not.
    have hkey : (if k = i then (e.1, e.2.put rest new) else e).1 = e.1 := by split <;> rfl
    refine ⟨?_, .entry e k i⟩
    rw [hkey]
    exact .of_put_eq fun _ _ => rfl
  | key i =>
    have houtside (k : Nat) : ¬ [Value.Step.entry k] <+: .key i :: rest := by
      simp [List.cons_prefix_cons]
    -- Only a text can be put in the place of a key, and only at the key itself.
    by_cases htext : rest = [] ∧ ∃ text, new = .string text
    · obtain ⟨rfl, text, rfl⟩ := htext
      refine ⟨_, rfl, putAt_entries ?_⟩
      intro e k
      by_cases hk : k = i
      · -- This key stands at the position itself, where nothing is to be shown.
        subst hk
        rw [if_pos rfl]
        refine ⟨⟨rfl, fun h => absurd List.prefix_rfl h, ?_⟩, .of_outside (houtside k)⟩
        intro rest hrest hq
        cases hq
        exact absurd rfl hrest
      · rw [if_neg hk]
        exact ⟨.of_put_eq fun _ _ => rfl, .of_outside (houtside k)⟩
    · refine ⟨entries, ?_, unchanged houtside⟩
      rcases rest with _ | _
      · cases new with
        | string text => exact absurd ⟨rfl, text, rfl⟩ htext
        | _ => rfl
      · rfl
  | _ => exact ⟨entries, by cases rest <;> rfl, unchanged (by simp [List.cons_prefix_cons])⟩

/-- A field is read from the entry of the same number, whatever it holds. -/
theorem putAt_field (entries : List (String × Value)) (i : Nat) (f : FieldForm T) :
    PutAt (.entry i :: rest) new (Plan.field entries f)
      (Plan.field (entries.modify i fun e => (e.1, e.2.put rest new)) f) := by
  unfold Plan.field
  rw [zipIdx_modify, List.find?_map]
  -- The search asks for keys alone, and these are the same as before.
  have hkeys : (fun e : (String × Value) × Nat => Text.lowerCase f.name == Text.lowerCase e.1.1) ∘
      (fun x : (String × Value) × Nat =>
        (if x.2 = i then (x.1.1, x.1.2.put rest new) else x.1, x.2)) =
        fun e => Text.lowerCase f.name == Text.lowerCase e.1.1 := by
    funext ⟨e, k⟩
    by_cases hk : k = i <;> simp [hk]
  rw [hkeys]
  cases entries.zipIdx.find? fun e => Text.lowerCase f.name == Text.lowerCase e.1.1 with
  | none => exact .of_put_eq fun _ _ => rfl
  | some x => exact .entry x.1 x.2 i

end Put

namespace Grammar

variable {T : Type} {G : Grammar T}

/-- Whether a plan for a value stays the same for the value with something else at a position, but for the
part that the position lies in. -/
def StaysAt (G : Grammar T) (t : T) (v : Value) (q : Value.Position) (new : Value) (π : Plan T) : Prop :=
  ∃ parts, G.planValue t (v.put q new) = .ok { seen := π.seen, parts } ∧
    List.Forall₂ (PutAt q new) π.parts parts

section StaysAt

variable {t : T} {v new : Value} {step : Value.Step} {rest : Value.Position} {π : Plan T}

theorem StaysAt.of_put_eq {q : Value.Position} (hplan : G.planValue t v = .ok π)
    (hv : v.put q new = v)
    (h : ∀ b ∈ π.parts, ¬ b.1 <+: q ∨ ∀ rest, rest ≠ [] → b.2.put rest new = b.2) :
    G.StaysAt t v q new π := by
  refine ⟨π.parts, by rw [hv, hplan], List.forall₂_same.2 ?_⟩
  intro b hb
  exact (h b hb).elim .of_outside .of_put_eq

theorem staysAt_items {item : T} (hform : G.form t = .items item) (values : List Value) :
    G.StaysAt t (.seq values) (step :: rest) new
      { parts := Plan.sequence (fun _ => item) values } := by
  obtain ⟨values', hput, -, hparts⟩ := put_seq (fun _ => item) values step rest new
  exact ⟨_, by simp only [hput, planValue, hform], hparts⟩

theorem staysAt_option {item : T} (hform : G.form t = .option item) (w : Value) :
    G.StaysAt t (.seq [w]) (step :: rest) new { parts := [([.item 0], .value item w)] } := by
  obtain ⟨values', hput, hlength, hparts⟩ := put_seq (fun _ => item) [w] step rest new
  -- There is still one item, so the plan is still that of a value that is there.
  obtain ⟨w', rfl⟩ := List.length_eq_one_iff.1 hlength
  refine ⟨_, ?_, hparts⟩
  simp only [hput, planValue, hform]
  rfl

theorem staysAt_pair {first second : T} (hform : G.form t = .pair first second) (a b : Value) :
    G.StaysAt t (.seq [a, b]) (step :: rest) new
      { parts := [([.item 0], .value first a), ([.item 1], .value second b)] } := by
  obtain ⟨values', hput, hlength, hparts⟩ :=
    put_seq (fun k => if k = 0 then first else second) [a, b] step rest new
  -- There are still two items, and each is read as before.
  obtain ⟨a', b', rfl⟩ := List.length_eq_two.1 hlength
  refine ⟨_, ?_, hparts⟩
  simp only [hput, planValue, hform]
  rfl

theorem staysAt_dict {kind : Scalar} {item : T} (hform : G.form t = .dict kind item)
    (entries : List (String × Value)) :
    G.StaysAt t (.dict entries) (step :: rest) new { parts := Plan.entries kind item entries } := by
  obtain ⟨entries', hput, hparts⟩ := put_dict kind item entries step rest new
  exact ⟨_, by simp only [hput, planValue, hform], hparts⟩

/-- The keys of a record decide which entries its fields are read from, so none of them may change. -/
theorem staysAt_record {fields : List (FieldForm T)} (hform : G.form t = .record fields)
    {entries : List (String × Value)}
    (hseen : ∀ s ∈ entries.zipIdx.map fun e => [Value.Step.key e.2], ¬ s <+: step :: rest) :
    G.StaysAt t (.dict entries) (step :: rest) new
      { seen := entries.zipIdx.map fun e => [.key e.2], parts := fields.map (Plan.field entries) } := by
  -- Anything else than an entry of the dictionary leaves the record and all its parts alone.
  have unchanged (hv : (Value.dict entries).put (step :: rest) new = .dict entries)
      (hstep : ∀ k, step ≠ .entry k) : G.StaysAt t (.dict entries) (step :: rest) new
        { seen := entries.zipIdx.map fun e => [.key e.2],
          parts := fields.map (Plan.field entries) } := by
    refine .of_put_eq (by simp only [planValue, hform]) hv ?_
    intro b hb
    obtain ⟨f, -, rfl⟩ := List.mem_map.1 hb
    unfold Plan.field
    split
    next e k _ => exact .inl fun h => hstep k (List.cons_prefix_cons.1 h).1.symm
    next => exact .inr fun _ _ => rfl
  cases step with
  | entry i =>
    refine ⟨fields.map (Plan.field (entries.modify i fun e => (e.1, e.2.put rest new))), ?_, ?_⟩
    · simp only [Value.put, planValue, hform, zipIdx_modify, List.map_map]
      rfl
    · rw [List.forall₂_map_left_iff, List.forall₂_map_right_iff, List.forall₂_same]
      intro f _
      -- The fields are read from the entries that they were read from.
      exact putAt_field entries i f
  | key i =>
    refine unchanged ?_ (by simp)
    -- A key of one of the entries was looked at, so this can only be the key of none.
    have hi : entries.length ≤ i := by
      by_contra hi
      have hmem : (entries[i], i) ∈ entries.zipIdx := List.mk_mem_zipIdx_iff_getElem?.2 (by simp)
      exact hseen [.key i] (List.mem_map_of_mem hmem)
        (List.cons_prefix_cons.2 ⟨rfl, List.nil_prefix⟩)
    rcases rest with _ | _
    · cases new with
      | string text => simp [Value.put, List.modify_eq_self hi]
      | _ => rfl
    · rfl
  | item _ | leftOut _ => exact unchanged (by cases rest <;> rfl) (by simp)

/-- The tag of a variant decides which case is read, so it may not change. -/
theorem staysAt_variant {name : String} {cases : List (String × Option T)}
    (hform : G.form t = .variant name cases) {tag : String} {payload : Option Value}
    (form : v.TagForm tag payload) (hplan : G.planValue t v = .ok π) (hparts : π.parts ≠ [])
    (hseen : ∀ s ∈ π.seen, ¬ s <+: step :: rest) : G.StaysAt t v (step :: rest) new π := by
  cases form with
  | alone tag =>
    have hplan' : Plan.ofTag [] cases ⟨name, tag, none⟩ = .ok π := by
      simpa only [planValue, hform] using hplan
    obtain ⟨type, rfl, -⟩ := eq_of_ofTag hplan' hparts
    refine .of_put_eq hplan (by cases rest <;> cases step <;> rfl) ?_
    intro b hb
    cases List.mem_singleton.1 hb
    -- The payload was left out. The null in its place has no parts.
    exact .inr fun rest hrest => congrArg (Part.value type) (Value.put_null hrest new)
  | wrapped tag =>
    have hplan' : Plan.ofTag [[.item 0]] cases ⟨name, tag, none⟩ = .ok π := by
      simpa only [planValue, hform] using hplan
    obtain ⟨type, rfl, -⟩ := eq_of_ofTag hplan' hparts
    obtain ⟨values', hput, hlength, hitems⟩ := put_seq (fun _ => type) [.string tag] step rest new
    obtain ⟨w', rfl⟩ := List.length_eq_one_iff.1 hlength
    cases hitems with
    | cons htag _ =>
      -- The tag was looked at, and it is the only item. So nothing has changed.
      cases htag.outside (hseen _ List.mem_cons_self)
      refine .of_put_eq hplan hput ?_
      intro b hb
      cases List.mem_singleton.1 hb
      exact .inr fun rest hrest => congrArg (Part.value type) (Value.put_null hrest new)
  | withPayload tag payload =>
    have hplan' : Plan.ofTag [[.item 0]] cases ⟨name, tag, some payload⟩ = .ok π := by
      simpa only [planValue, hform] using hplan
    obtain ⟨type, rfl, htype⟩ := eq_of_ofTag hplan' hparts
    obtain ⟨values', hput, hlength, hitems⟩ :=
      put_seq (fun _ => type) [.string tag, payload] step rest new
    obtain ⟨w', payload', rfl⟩ := List.length_eq_two.1 hlength
    cases hitems with
    | cons htag hpayload =>
      -- The tag was looked at, so the payload is what may have changed.
      cases htag.outside (hseen _ List.mem_cons_self)
      refine ⟨_, ?_, hpayload⟩
      rw [hput]
      simp only [planValue, hform]
      exact htype (some payload')

theorem staysAt_same {t' : T} (hform : G.form t = .same t') :
    G.StaysAt t v (step :: rest) new { parts := [([], .value t' v)] } := by
  refine ⟨[([], .value t' (v.put (step :: rest) new))], by simp only [planValue, hform], ?_⟩
  refine .cons ⟨rfl, fun h => absurd List.nil_prefix h, ?_⟩ .nil
  rintro _ _ rfl
  rfl

end StaysAt

/-- **Putting something else at a position changes no more of what is to be read than the part it lies
in,** if the position is none that was looked at. -/
theorem staysAt_of_planValue {t : T} {v : Value} {π : Plan T} (hplan : G.planValue t v = .ok π)
    (hparts : π.parts ≠ []) {q : Value.Position} (hq : q ≠ []) (hseen : ∀ s ∈ π.seen, ¬ s <+: q)
    (new : Value) : G.StaysAt t v q new π := by
  obtain ⟨step, rest, rfl⟩ := List.exists_cons_of_ne_nil hq
  cases plans_of_planValue hplan with
  | plain _ | none _ => exact absurd rfl hparts
  | items values hform => exact staysAt_items hform values
  | some w hform => exact staysAt_option hform w
  | pair a b hform => exact staysAt_pair hform a b
  | dict entries hform => exact staysAt_dict hform entries
  | record entries hform => exact staysAt_record hform hseen
  | variant hform form _ => exact staysAt_variant hform form hplan hparts hseen
  | same v hform => exact staysAt_same hform

/-- **What is read only after an error does not matter.** -/
theorem StopsAt.put {p : Part T} {s : Stop T} (h : G.StopsAt p s) {q : Value.Position}
    (hposition : q.Apart s.position) (hread : ∀ r ∈ s.read, q.Apart r.1) (new : Value) :
    G.StopsAt (p.put q new) s := by
  induction h generalizing q with
  -- Reading stops at the value itself, and no position is apart from that.
  | here => exact absurd List.nil_prefix hposition.2
  | @inside p part π before after place s hplan hparts hbefore hstops ih =>
    -- What was looked at comes before the position, so the plan is made as before up to this part.
    simp only [Stop.inside, List.mem_append, List.mem_map] at hposition hread
    -- There is a part to go into, so this is no key and nothing absent.
    have hne : π.parts ≠ [] := by simp [hparts]
    cases p with
    | key kind text => exact absurd (plan_key_or_absent hplan (by simp)) hne
    | absent optional owner field => exact absurd (plan_key_or_absent hplan (by simp)) hne
    | value t v =>
      -- Neither what was seen for the plan nor a part that was read before contains the position.
      have hseen : ∀ r ∈ π.seen, ¬ r <+: q :=
        fun r hr => (hread (r, none) (.inl (.inl ⟨r, hr, rfl⟩))).2
      have houtside : ∀ a ∈ before, ¬ a.1 <+: q :=
        fun a ha => (hread (a.1, some a.2) (.inl (.inr ⟨a, ha, rfl⟩))).2
      obtain ⟨parts', hplan', hall⟩ := staysAt_of_planValue hplan hne hposition.ne_nil hseen new
      rw [hparts] at hall
      -- The part to go into is still there, behind the same parts as before.
      obtain ⟨⟨place', part'⟩, after', rfl, hpart⟩ := PutAt.exists_split hall houtside
      cases hpart.place
      have hinner : G.StopsAt part' s := by
        -- The position leads into this part, which has something else at the rest of it, or past it.
        by_cases hplace : place <+: q
        · obtain ⟨rest, rfl⟩ := hplace
          have hrest : Value.Position.Apart rest s.position := hposition.of_append
          have hpart' : part' = part.put rest new := hpart.inside rest hrest.ne_nil rfl
          rw [hpart']
          refine ih hrest ?_
          intro r hr
          exact (hread (place ++ r.1, r.2) (.inr ⟨r, hr, rfl⟩)).of_append
        · have hpart' : part' = part := hpart.outside hplace
          rw [hpart']
          exact hstops
      have hnew : G.plan (.value t (v.put q new)) =
          .ok { seen := π.seen, parts := before ++ (place, part') :: after' } := hplan'
      have hwhole := StopsAt.inside hnew rfl hbefore hinner
      exact hwhole

end Grammar
end Wirecall
