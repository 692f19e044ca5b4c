import Wirecall.Proofs.LaterValues
import Wirecall.Proofs.Termination

/-!
# Verdicts part by part

A decoder and a validator both say something of a value. They read the value by a grammar if what they say
of it is what they say of the first of its parts that is not in order, if there is one.

* `Plan.verdict` is what is said of a plan, given what is said of values.
* `Grammar.Follows` is the step: of each value there is said what is said of its plan. Then a value that is
  read without an error is accepted (`Grammar.Succeeds.accepted`), and where reading stops the error comes
  from (`Grammar.StopsAt.refused`).
* `Grammar.Explains` is the other direction: a part that is accepted is read without an error, and a part
  that is refused stops somewhere.
* `Grammar.Decides` is both together, and all that it means for an error: it has one position, it is raised
  by what stands there, everything before was in order, and what comes behind does not matter.
  `Grammar.decides` puts it together.
* The lemmas on plans say what is said of items, entries, fields and cases, in the words in which validation
  and decoding are defined. `Grammar.lower_of_mem_parts` says that parts are lower than the whole, so that
  what follows a grammar can be shown to be explained by it by induction.

**Both directions.** The step alone does not decide what is said. A reference that is declared as itself is
its own plan, so of a value that is read by it anything could be said, as long as it is always the same.
-/

namespace Wirecall

/-! ### Verdicts -/

namespace Verdict

theorem andThen_eq_accepted_iff {first : Verdict} {next : Unit → Verdict} :
    first.andThen next = .accepted ↔ first = .accepted ∧ next () = .accepted := by
  rcases first with _ | _ | _ <;> simp [andThen, accepted]

theorem andThen_eq_refused_iff {first : Verdict} {next : Unit → Verdict} {e : DecodeError} :
    first.andThen next = .refused e ↔
      first = .refused e ∨ first = .accepted ∧ next () = .refused e := by
  rcases first with _ | _ | _ <;> simp [andThen, accepted, refused]

@[simp] theorem andThen_accepted (verdict : Verdict) :
    (verdict.andThen fun _ => .accepted) = verdict := by
  rcases verdict with _ | _ | _ <;> rfl

theorem andThen_assoc (first : Verdict) (next last : Unit → Verdict) :
    (first.andThen next).andThen last = first.andThen fun u => (next u).andThen last := by
  rcases first with _ | _ | _ <;> rfl

variable {α β : Type} {ask : α → Verdict} {items : List α}

theorem each_map (f : β → α) (items : List β) :
    each ask (items.map f) = each (fun b => ask (f b)) items := by
  induction items with
  | nil => rfl
  | cons b rest ih => rw [List.map_cons, each, each, ih]

theorem each_append (items items' : List α) :
    each ask (items ++ items') = (each ask items).andThen fun _ => each ask items' := by
  induction items with
  | nil => rfl
  | cons a rest ih => rw [List.cons_append, each, each, ih, andThen_assoc]

theorem each_flatMap (f : β → List α) (items : List β) :
    each ask (items.flatMap f) = each (fun b => each ask (f b)) items := by
  induction items with
  | nil => rfl
  | cons b rest ih => rw [List.flatMap_cons, each_append, each, ih]

/-- The numbers of items do not matter. -/
theorem each_zipIdx (ask : α → Verdict) (items : List α) :
    each (fun a => ask a.1) items.zipIdx = each ask items := by
  rw [← each_map Prod.fst, List.zipIdx_map_fst]

theorem each_eq_accepted_iff : each ask items = .accepted ↔ ∀ a ∈ items, ask a = .accepted := by
  induction items with
  | nil => simp [each]
  | cons a rest ih => rw [each, andThen_eq_accepted_iff, ih, List.forall_mem_cons]

/-- The first item that is refused is to blame. -/
theorem each_eq_refused_iff {e : DecodeError} :
    each ask items = .refused e ↔ ∃ before a after, items = before ++ a :: after ∧
      (∀ b ∈ before, ask b = .accepted) ∧ ask a = .refused e := by
  induction items with
  | nil => simp [each, accepted, refused]
  -- Either the first item is to blame, or it is accepted and one of the others is.
  | cons a rest ih => rw [each, andThen_eq_refused_iff, ih, exists_first_cons_iff]

end Verdict

/-! ### What a grammar decides -/

section

variable {T : Type} {G : Grammar T} {ask : T → Value → Verdict}

/-- What is said of a part, if something is said of each value. -/
def Part.verdict (ask : T → Value → Verdict) : Part T → Verdict
  | .value t v => ask t v
  | .key kind text => Validator.checkKey kind text
  | .absent optional owner field => .ofBool optional (.missingField owner field)

/-- What is said of a plan: what is said of the first part that is not in order. Without a plan it is the error
that there is instead of one. -/
def Plan.verdict (ask : T → Value → Verdict) : Except DecodeError (Plan T) → Verdict
  | .error e => .refused e
  | .ok π => .each (fun b => b.2.verdict ask) π.parts

namespace Grammar

/-- Whether what is said of values is what is said of their parts. Each of the two may be looked at as a
definition of the other, so this is an equation and no recursion. -/
def Follows (G : Grammar T) (ask : T → Value → Verdict) : Prop :=
  ∀ t v, ask t v = Plan.verdict ask (G.planValue t v)

variable {p : Part T}

/-- Keys and fields that are left out are in order or not, whatever is said of values. -/
theorem verdict_key_or_absent (hp : ∀ t v, p ≠ .value t v) :
    p.verdict ask = Plan.verdict ask (G.plan p) := by
  cases p with
  | value t v => exact absurd rfl (hp t v)
  | key kind text =>
    simp only [Part.verdict, Validator.checkKey, Verdict.ofBool, plan]
    -- The text is that of a key of this kind or it is not, on both sides.
    split <;> rfl
  | absent optional owner field =>
    simp only [Part.verdict, Verdict.ofBool, plan]
    split <;> rfl

theorem Follows.part (h : G.Follows ask) (p : Part T) :
    p.verdict ask = Plan.verdict ask (G.plan p) := by
  cases p with
  | value t v => exact h t v
  | key _ _ | absent _ _ _ => exact verdict_key_or_absent (by simp)

/-- What is read without an error is in order. -/
theorem Succeeds.accepted (h : G.Follows ask) (hp : G.Succeeds p) : p.verdict ask = .accepted := by
  induction hp with
  | intro hplan _ ih =>
    rw [h.part, hplan]
    exact Verdict.each_eq_accepted_iff.2 ih

/-- Where reading stops, the error comes from. -/
theorem StopsAt.refused (h : G.Follows ask) {s : Stop T} (hp : G.StopsAt p s) :
    p.verdict ask = .refused s.error := by
  induction hp with
  | here hplan => rw [h.part, hplan, Plan.verdict]
  -- Everything in front was read without an error, so it is in order.
  | inside hplan hparts hbefore _ ih =>
    rw [h.part, hplan]
    exact Verdict.each_eq_refused_iff.2
      ⟨_, _, _, hparts, fun b hb => (hbefore b hb).accepted h, ih⟩

/-- Whether a verdict on a part comes about by reading it. A verdict that did not come to an end explains itself:
nothing is asked of it. -/
structure Explains (G : Grammar T) (p : Part T) (verdict : Verdict) : Prop where
  accepted : verdict = .accepted → G.Succeeds p
  refused (e : DecodeError) : verdict = .refused e → ∃ s, G.StopsAt p s ∧ s.error = e

/-- If all verdicts on parts come about by reading, so does the one on the whole. This is the step of an
induction that goes down into values. -/
theorem explains_of_parts (h : ∀ π, G.plan p = .ok π → ∀ b ∈ π.parts,
    G.Explains b.2 (b.2.verdict ask)) : G.Explains p (Plan.verdict ask (G.plan p)) := by
  cases hplan : G.plan p with
  -- Reading stops right here, before there are any parts.
  | error e =>
    refine ⟨by simp [Plan.verdict, Verdict.refused, Verdict.accepted], ?_⟩
    rintro _ ⟨⟩
    exact ⟨_, .here hplan, rfl⟩
  | ok π =>
    have hparts := h π hplan
    constructor
    · intro haccepted
      refine .intro hplan ?_
      intro b hb
      exact (hparts b hb).accepted (Verdict.each_eq_accepted_iff.1 haccepted b hb)
    · intro e hrefused
      -- The first part that is refused is where reading goes on, and it stops further in.
      obtain ⟨before, ⟨place, q⟩, after, hsplit, hbefore, hq⟩ :=
        Verdict.each_eq_refused_iff.1 hrefused
      have hmem : (place, q) ∈ π.parts := hsplit ▸ List.mem_append_right _ List.mem_cons_self
      obtain ⟨s, hstops, rfl⟩ := (hparts _ hmem).refused e hq
      refine ⟨_, .inside hplan hsplit ?_ hstops, rfl⟩
      intro b hb
      exact (hparts b (hsplit ▸ List.mem_append_left _ hb)).accepted (hbefore b hb)

/-- Keys and fields that are left out have no parts. -/
theorem explains_key_or_absent (hp : ∀ t v, p ≠ .value t v) : G.Explains p (p.verdict ask) := by
  rw [verdict_key_or_absent (G := G) hp]
  refine explains_of_parts ?_
  intro π hplan b hb
  rw [plan_key_or_absent hplan hp] at hb
  cases hb

/-- **Whether something that accepts values, and refuses them with errors, reads them by a grammar.** What it
accepts and what it refuses are two predicates, as a decoder and a validator say so in different ways. -/
structure Decides (G : Grammar T) (accepts : T → Value → Prop)
    (refuses : T → Value → DecodeError → Prop) : Prop where
  /-- What is accepted is what is read without an error. -/
  accepts_iff (t : T) (v : Value) : accepts t v ↔ G.Succeeds (.value t v)
  /-- The errors are those at which reading stops. -/
  refuses_iff (t : T) (v : Value) (e : DecodeError) :
    refuses t v e ↔ ∃ s, G.StopsAt (.value t v) s ∧ s.error = e
  /-- Reading stops in one place only, and there is only one way to come to it. -/
  unique {t : T} {v : Value} {s s' : Stop T} :
    G.StopsAt (.value t v) s → G.StopsAt (.value t v) s' → s = s'
  /-- The error is raised there, by what stands there. -/
  raised {t : T} {v : Value} {s : Stop T} : G.StopsAt (.value t v) s →
    G.plan s.culprit = .error s.error ∧ s.culprit.subject = (v.at? s.position).getD .null
  /-- All that was read before was read without an error. -/
  before {t : T} {v : Value} {s : Stop T} : G.StopsAt (.value t v) s →
    ∀ place q, (place, some q) ∈ s.read → G.Succeeds q ∧ q.subject = (v.at? place).getD .null
  /-- Whatever is put in the place of something that was not looked at before, the error stays. -/
  later {t : T} {v : Value} {s : Stop T} : G.StopsAt (.value t v) s →
    ∀ place : Value.Position, place.Apart s.position → (∀ r ∈ s.read, place.Apart r.1) →
      ∀ new, refuses t (v.put place new) s.error

/-- What says of values what is to be said of their parts, and only that, reads them by the grammar. -/
theorem decides (hfollows : G.Follows ask) (hexplains : ∀ t v, G.Explains (.value t v) (ask t v)) :
    G.Decides (fun t v => ask t v = .accepted) (fun t v e => ask t v = .refused e) where
  accepts_iff t v := ⟨(hexplains t v).accepted, fun h => h.accepted hfollows⟩
  refuses_iff t v e := ⟨(hexplains t v).refused e, fun ⟨_, h, he⟩ => he ▸ h.refused hfollows⟩
  unique h h' := h.unique h'
  raised h := ⟨h.raises, h.subject⟩
  before h _ _ hq := h.before hq
  later h _ hposition hread new := (h.put hposition hread new).refused hfollows

end Grammar

end

/-! ### What is said of plans -/

namespace Plan

variable {T : Type} (ask : T → Value → Verdict)

theorem each_sequence (item : T) (values : List Value) :
    Verdict.each (fun b => b.2.verdict ask) (sequence (fun _ => item) values) =
      Verdict.each (ask item) values := by
  rw [sequence, Verdict.each_map]
  exact Verdict.each_zipIdx (ask item) values

theorem each_entries (kind : Scalar) (item : T) (entries : List (String × Value)) :
    Verdict.each (fun b => b.2.verdict ask) (Plan.entries kind item entries) =
      Verdict.each (fun e => (Validator.checkKey kind e.1).andThen fun _ => ask item e.2) entries := by
  -- Of each entry there are two parts, first the key and then the item.
  rw [Plan.entries, Verdict.each_flatMap, ← Verdict.each_zipIdx _ entries]
  simp only [Verdict.each, Part.verdict, Verdict.andThen_accepted]

theorem verdict_field (entries : List (String × Value)) (f : FieldForm T) :
    (field entries f).2.verdict ask =
      match Value.under? entries f.name with
      | some v => ask f.type v
      | none => .ofBool f.optional (.missingField f.owner f.name) := by
  -- A plan keeps the numbers of entries, which do not matter for looking a name up.
  have hfind : entries.find? (fun e => Text.lowerCase f.name == Text.lowerCase e.1) =
      (entries.zipIdx.find? fun e => Text.lowerCase f.name == Text.lowerCase e.1.1).map (·.1) := by
    conv_lhs => rw [← List.zipIdx_map_fst 0 entries, List.find?_map]
    rfl
  unfold field Value.under?
  rw [hfind]
  cases entries.zipIdx.find? fun e => Text.lowerCase f.name == Text.lowerCase e.1.1 <;> rfl

theorem verdict_ofTag (seen : List Value.Position) (cases : List (String × Option T))
    (r : VariantReader) :
    Plan.verdict ask (ofTag seen cases r) =
      match cases.find? fun k => r.is k.1 with
      | none => .refused r.unknown
      | some (_, some type) => ask type r.payloadOrNull
      | some (_, none) => some r.unit := by
  unfold ofTag
  generalize cases.find? (fun k => r.is k.1) = found
  -- No such case, one without a payload, or one with.
  rcases found with _ | ⟨_, _ | type⟩
  · rfl
  · cases r.unit <;> rfl
  · exact Verdict.andThen_accepted _

variable {ask}

/-- What is said of a plan depends on what is said of its parts. -/
theorem verdict_congr {ask' : T → Value → Verdict} {plan : Except DecodeError (Plan T)}
    (h : ∀ π, plan = .ok π → ∀ b ∈ π.parts, b.2.verdict ask = b.2.verdict ask') :
    Plan.verdict ask plan = Plan.verdict ask' plan := by
  cases plan with
  | error e => rfl
  | ok π => exact Verdict.lockstep_eq.each_same (h π rfl)

end Plan

/-- A value that is read as part of another is lower, or it is the same value read as another type. -/
theorem Grammar.lower_of_mem_parts {T : Type} {G : Grammar T} {t t' : T} {v w : Value} {π : Plan T}
    (hplan : G.planValue t v = .ok π) {place : Value.Position}
    (hb : (place, .value t' w) ∈ π.parts) : w.height < v.height ∨ G.form t = .same t' ∧ w = v := by
  cases plans_of_planValue hplan with
  -- There are no parts at all.
  | plain _ | none _ => cases hb
  | items values _ =>
    obtain ⟨x, hx, h⟩ := List.mem_map.1 hb
    cases h
    exact .inl (Value.height_lt_of_mem_items (List.fst_mem_of_mem_zipIdx hx))
  | some w _ =>
    cases List.mem_singleton.1 hb
    exact .inl (Value.height_lt_of_mem_items (List.mem_singleton_self _))
  | pair a b _ =>
    rcases List.mem_pair.1 hb with h | h <;> cases h <;>
      exact .inl (Value.height_lt_of_mem_items (by simp))
  | dict entries _ =>
    obtain ⟨x, hx, h⟩ := List.mem_flatMap.1 hb
    -- Keys are texts and not values, so it is the item.
    rcases List.mem_pair.1 h with h | h <;> cases h
    exact .inl (Value.height_lt_of_mem_entries (List.fst_mem_of_mem_zipIdx hx))
  | record entries _ =>
    obtain ⟨f, -, h⟩ := List.mem_map.1 hb
    unfold Plan.field at h
    -- A field that is left out is no value either.
    split at h
    next e k hfind =>
      cases h
      exact .inl (Value.height_lt_of_mem_entries
        (List.fst_mem_of_mem_zipIdx (List.mem_of_find?_eq_some hfind)))
    next => cases h
  | variant _ form hparts =>
    -- A payload that was left out is read as null, which is lower than every value with a tag.
    obtain ⟨type, hparts⟩ := hparts (List.ne_nil_of_mem hb)
    rw [hparts] at hb
    cases List.mem_singleton.1 hb
    exact .inl form.height_payload_lt
  | same _ hform =>
    cases List.mem_singleton.1 hb
    exact .inr ⟨hform, rfl⟩

end Wirecall
