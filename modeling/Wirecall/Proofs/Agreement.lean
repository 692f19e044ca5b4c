import Wirecall.DataType.Wire
import Wirecall.Proofs.Acceptance
import Wirecall.Validator

/-!
# Validation and decoding are one decision

Validation reads a descriptor, decoding the code of a type. They are written apart from each other, and
what comes out of them differs: the validator builds nothing, follows references, and puts what it
expected into words of its own. That they decide the same is the subject of this file.

* `Verdict.Reports` relates a verdict to the result of a decoder: both in order, or both an error, and
  then the errors are `DecodeError.Alike`.
* `Validator.Tracks` says that of a descriptor and a decoder at one value, for every depth that leaves
  room for twice the height of the value. Twice, because between two steps down into a value a reference
  may have to be followed.
* There is one lemma for each shape: if the parts of a descriptor track the parts of a decoder on all
  lower values, so do the whole ones on this value.
* `Validator.tracks_decode` puts them together by recursion on the type, with an induction on the height
  of the value for the two recursive types.
* `Validator.check_descriptor_agrees` is the main statement.

A payload that was left out reads as null, which is no part of the value. It is still lower than the
value, as null has height zero.
-/

namespace Wirecall

/-- Whether two errors are of one kind and point at the same place: the same text of what was there, the
same field of the same record, or the same tag of the same variant. What was expected is left open. -/
def DecodeError.Alike : DecodeError → DecodeError → Prop
  | .shapeMismatch _ got, .shapeMismatch _ got' => got = got'
  | .missingField owner field, .missingField owner' field' => owner = owner' ∧ field = field'
  | .unknownTag variant tag, .unknownTag variant' tag' => variant = variant' ∧ tag = tag'
  | _, _ => False

@[simp] theorem DecodeError.Alike.refl (e : DecodeError) : e.Alike e := by
  cases e <;> simp [Alike]

/-- Two mismatches of one value are alike, whatever was expected. -/
@[simp] theorem DecodeError.mismatch_alike (expected expected' : String) (v : Value) :
    (mismatch expected v).Alike (mismatch expected' v) :=
  rfl

/-! ### Verdicts and results -/

/-- Whether a verdict says what a decoder says, up to what was expected. A verdict that has run out of depth
says nothing, and reports nothing. -/
inductive Verdict.Reports {α : Type} : Verdict → Except DecodeError α → Prop
  | accepted (x : α) : Reports accepted (.ok x)
  | refused {e' e : DecodeError} (alike : e'.Alike e) : Reports (refused e') (.error e)

namespace Verdict.Reports

variable {α β : Type} {first : Verdict} {result : Except DecodeError α}

/-- What is made of a result does not matter. -/
theorem map (h : first.Reports result) (f : α → β) : first.Reports (f <$> result) := by
  cases h with
  | accepted x => exact .accepted (f x)
  | refused alike => exact .refused alike

theorem bind_pure (h : first.Reports result) (f : α → β) :
    first.Reports (result >>= fun x => pure (f x)) := by
  cases h with
  | accepted x => exact .accepted (f x)
  | refused alike => exact .refused alike

/-- One part after the other: the second is asked about only if the first is in order. -/
theorem andThen (h : first.Reports result) {next : Unit → Verdict}
    {rest : α → Except DecodeError β} (hrest : ∀ x, (next ()).Reports (rest x)) :
    (first.andThen next).Reports (result >>= rest) := by
  cases h with
  -- The decoder hands its result on, while the verdict knows only that there is one.
  | accepted x => exact hrest x
  | refused alike => exact .refused alike

/-- Items are asked about in the order in which they are read, up to the first error. -/
theorem each {γ : Type} {ask : γ → Verdict} {read : γ → Except DecodeError α} :
    ∀ {items : List γ}, (∀ a ∈ items, (ask a).Reports (read a)) →
      (Verdict.each ask items).Reports (items.mapM read)
  | [], _ => .accepted []
  | a :: rest, h => by
    rw [List.mapM_cons]
    -- What is said of the rest is of use only if the head is in order.
    have first := h a List.mem_cons_self
    have others := each fun b hb => h b (List.mem_cons_of_mem a hb)
    refine first.andThen ?_
    intro x
    exact others.bind_pure (x :: ·)

/-- A question whether something is found, against the reading of what is found. -/
theorem ofBool {found : Option α} {e' e : DecodeError} (alike : e'.Alike e)
    (h : result = found.elim (.error e) .ok) :
    (Verdict.ofBool found.isSome e').Reports result := by
  -- Both ask for the same thing, one whether it is there and the other for the thing itself.
  subst h
  cases found with
  | some x => exact .accepted x
  | none => exact .refused alike

/-- A verdict that reports a result is acceptance exactly if there is a value. -/
theorem eq_accepted_iff (h : first.Reports result) :
    first = Verdict.accepted ↔ ∃ x, result = .ok x := by
  cases h with
  | accepted x => simp
  | refused alike => simp [Verdict.accepted, Verdict.refused]

theorem eq_refused (h : first.Reports result) {e : DecodeError} (he : result = .error e) :
    ∃ e', first = .refused e' ∧ e'.Alike e := by
  cases h with
  | accepted x => cases he
  | refused alike =>
    cases he
    exact ⟨_, rfl, alike⟩

end Verdict.Reports

/-! ### Depth and height -/

namespace Value

/-- An item is lower than its sequence. -/
theorem height_lt_of_mem_items {w : Value} {items : List Value} (h : w ∈ items) :
    w.height < (seq items).height :=
  Nat.lt_succ_of_le (height_le_heightItems h)

/-- What an entry holds is lower than the dictionary. -/
theorem height_lt_of_mem_entries {key : String} {w : Value} {entries : List (String × Value)}
    (h : (key, w) ∈ entries) : w.height < (dict entries).height :=
  Nat.lt_succ_of_le (height_le_heightEntries h)

/-- So is what a record finds under a name. -/
theorem height_lt_of_under? {entries : List (String × Value)} {name : String} {w : Value}
    (h : under? entries name = some w) : w.height < (dict entries).height := by
  unfold under? at h
  -- What is found under a name is one of the entries.
  obtain ⟨⟨key, _⟩, hfind, rfl⟩ := Option.map_eq_some_iff.1 h
  exact height_lt_of_mem_entries (List.mem_of_find?_eq_some hfind)

/-- A payload is lower than the value it comes with, also when it was left out and null stands for
it. -/
theorem TagForm.height_payload_lt {v : Value} {tag : String} {payload : Option Value}
    (form : v.TagForm tag payload) : (payload.getD .null).height < v.height := by
  -- Null has height zero, so it is lower than anything that has a form of a tag.
  cases form with
  | alone => exact Nat.zero_lt_one
  | wrapped => exact Nat.zero_lt_succ _
  | withPayload tag payload => exact height_lt_of_mem_items (by simp)

end Value

variable {c : Validator} {d : Descriptor} {v : Value} {α β : Type} {read : Decoder α}

namespace Validator

/-- Whether a descriptor is to validation what a decoder is to decoding, at some value. The depth has to
leave room for twice the height of the value, and for as many references as stand in front. -/
def Tracks (c : Validator) (references : Nat) (d : Descriptor) (read : Decoder α) (v : Value) :
    Prop :=
  ∀ depth, 2 * v.height + references < depth → (c.checkWithin depth d v).Reports (read v)

theorem Tracks.mono (h : c.Tracks 0 d read v) : c.Tracks 1 d read v := by
  intro depth hdepth
  exact h depth (by omega)

theorem Tracks.intro
    (h : ∀ depth, 2 * v.height ≤ depth → (c.checkWithin (depth + 1) d v).Reports (read v)) :
    c.Tracks 0 d read v := by
  -- There is always room for one step, so depth zero never comes up.
  rintro (_ | depth) hdepth
  · omega
  · exact h depth (by omega)

/-- What the decoder does elsewhere does not matter. -/
theorem Tracks.congr {read' : Decoder α} (hread : read v = read' v) {references : Nat}
    (h : c.Tracks references d read' v) : c.Tracks references d read v := by
  intro depth hdepth
  rw [hread]
  exact h depth hdepth

/-- One step down into the value leaves room for the step and for a reference. -/
theorem Tracks.below {w : Value} (h : c.Tracks 1 d read w) (hw : w.height < v.height)
    {depth : Nat} (hdepth : 2 * v.height ≤ depth) : (c.checkWithin depth d w).Reports (read w) :=
  h depth (by omega)

/-- To validate against a reference is to validate against its declaration. -/
theorem tracks_ref {name description target : String} {declaration : Descriptor}
    (hdeclared : c.declaration? target = some declaration)
    (h : c.Tracks 0 declaration read v) : c.Tracks 1 ⟨name, description, .ref target⟩ read v := by
  -- The step to the declaration does not lead down into the value. It is the reference that pays for it.
  rintro (_ | depth) hdepth
  · omega
  · simp only [checkWithin, hdeclared]
    exact h depth (by omega)

/-! ### Plain values

Of the descriptor only the shape is given, and for variants the name: a type under another name has
the shape of the type, and its decoder. -/

theorem tracks_scalar {kind : Scalar} (hd : d.shape = .scalar kind)
    (h : (Verdict.ofBool (kind.accepts v) (.mismatch kind.name v)).Reports (read v)) :
    c.Tracks 0 d read v := by
  apply Tracks.intro
  intro depth _
  simpa only [checkWithin, hd] using h

theorem tracks_int64 (hd : d.shape = .scalar .int64) : c.Tracks 0 d Decoder.int64 v := by
  refine tracks_scalar hd ?_
  cases v with
  | int x => exact .accepted x
  | _ => exact .refused (.refl _)

theorem tracks_int (hd : d.shape = .scalar .int) : c.Tracks 0 d Decoder.int v := by
  refine tracks_scalar hd ?_
  cases v with
  | int x => exact .accepted x
  | _ => exact .refused (.refl _)

theorem tracks_int32 (hd : d.shape = .scalar .int32) : c.Tracks 0 d Decoder.int32 v := by
  refine tracks_scalar hd ?_
  cases v with
  | int32 x => exact .accepted x
  | _ => exact .refused (.refl _)

theorem tracks_bool (hd : d.shape = .scalar .bool) : c.Tracks 0 d Decoder.bool v := by
  refine tracks_scalar hd ?_
  cases v with
  | bool x => exact .accepted x
  | _ => exact .refused (.refl _)

theorem tracks_float (hd : d.shape = .scalar .float) : c.Tracks 0 d Decoder.float v := by
  refine tracks_scalar hd ?_
  cases v with
  | float x => exact .accepted x
  | _ => exact .refused (.refl _)

theorem tracks_string (hd : d.shape = .scalar .string) : c.Tracks 0 d Decoder.string v := by
  refine tracks_scalar hd ?_
  cases v with
  | string x => exact .accepted x
  | _ => exact .refused (.refl _)

/-- Characters are the integers that are code points of one. -/
theorem tracks_char (hd : d.shape = .scalar .char) : c.Tracks 0 d Decoder.char v := by
  refine tracks_scalar hd ?_
  cases v with
  | int code =>
    refine Verdict.Reports.ofBool (DecodeError.Alike.refl _) ?_
    -- What validation asks about a code is whether decoding finds a character for it.
    simp only [Decoder.char]
    cases charOfCode? code <;> rfl
  | _ => exact .refused (.refl _)

theorem tracks_unit (hd : d.shape = .unit) : c.Tracks 0 d Decoder.unit v := by
  apply Tracks.intro
  intro depth _
  obtain ⟨name, description, shape⟩ := d
  cases hd
  cases v with
  | null => exact .accepted ()
  | _ => exact .refused (DecodeError.mismatch_alike ..)

theorem tracks_timestamp (hd : d.shape = .timestamp) : c.Tracks 0 d Decoder.timestamp v := by
  apply Tracks.intro
  intro depth _
  obtain ⟨name, description, shape⟩ := d
  cases hd
  cases v with
  | timestamp text =>
    -- Validation reads the text as decoding does, and forgets the moment.
    refine Verdict.Reports.ofBool (DecodeError.Alike.refl _) ?_
    simp only [Decoder.timestamp]
    cases Timestamp.read? text <;> rfl
  | _ => exact .refused (DecodeError.mismatch_alike ..)

/-! ### Containers -/

/-- Lists and arrays are read the same. -/
theorem tracks_items {item : Descriptor} (hd : d.shape = .list item ∨ d.shape = .array item)
    (expected : String) (h : ∀ w, w.height < v.height → c.Tracks 1 item read w) :
    c.Tracks 0 d (Decoder.items expected read) v := by
  apply Tracks.intro
  intro depth hdepth
  have items {values : List Value} (hv : v = .seq values) :
      (Verdict.each (c.checkWithin depth item) values).Reports (values.mapM read) := by
    subst hv
    apply Verdict.Reports.each
    intro w hw
    have hlower := Value.height_lt_of_mem_items hw
    exact (h w hlower).below hlower hdepth
  obtain ⟨name, description, shape⟩ := d
  -- The two shapes have different names, which only shows in what was expected.
  rcases hd with hd | hd <;> cases hd <;>
    cases v with
    | seq values => exact items rfl
    | _ => exact .refused (DecodeError.mismatch_alike ..)

theorem tracks_option {item : Descriptor} (hd : d.shape = .option item)
    (h : ∀ w, w.height < v.height → c.Tracks 1 item read w) :
    c.Tracks 0 d (Decoder.option read) v := by
  apply Tracks.intro
  intro depth hdepth
  obtain ⟨name, description, shape⟩ := d
  cases hd
  cases v with
  | seq values =>
    -- An option is an empty sequence or one of a single item. Longer ones are refused on both sides.
    rcases values with _ | ⟨w, _ | ⟨w', rest⟩⟩
    · exact .accepted none
    · have hlower := Value.height_lt_of_mem_items (List.mem_singleton_self w)
      exact ((h w hlower).below hlower hdepth).map some
    · exact .refused (DecodeError.mismatch_alike ..)
  | _ => exact .refused (DecodeError.mismatch_alike ..)

theorem tracks_pair {first second : Descriptor} (hd : d.shape = .pair first second)
    {read' : Decoder β} (hfirst : ∀ w, w.height < v.height → c.Tracks 1 first read w)
    (hsecond : ∀ w, w.height < v.height → c.Tracks 1 second read' w) :
    c.Tracks 0 d (Decoder.pair read read') v := by
  apply Tracks.intro
  intro depth hdepth
  obtain ⟨name, description, shape⟩ := d
  cases hd
  cases v with
  | seq values =>
    -- Two items have to be there before either of them is looked at.
    rcases values with _ | ⟨a, _ | ⟨b, _ | ⟨w, rest⟩⟩⟩
    · exact .refused (DecodeError.mismatch_alike ..)
    · exact .refused (DecodeError.mismatch_alike ..)
    · have ha : a.height < (Value.seq [a, b]).height := Value.height_lt_of_mem_items (by simp)
      have hb : b.height < (Value.seq [a, b]).height := Value.height_lt_of_mem_items (by simp)
      -- Both sides look at the second item only if the first is in order.
      have left := (hfirst a ha).below ha hdepth
      have right := (hsecond b hb).below hb hdepth
      simp only [checkWithin, Decoder.pair]
      refine left.andThen ?_
      intro x
      exact right.bind_pure fun y => (x, y)
    · exact .refused (DecodeError.mismatch_alike ..)
  | _ => exact .refused (DecodeError.mismatch_alike ..)

end Validator

/-! ### Keys -/

/-- A text is a key of a kind if it is read as one. -/
theorem KeyType.acceptsKey_kind (key : KeyType) (text : String) :
    key.kind.acceptsKey text = (key.read? text).isSome := by
  cases key with
  -- Numbers and texts are settled by definition. The other two are asked for in words of their own.
  | bool =>
    simp only [KeyType.kind, Scalar.acceptsKey, KeyType.read?]
    split
    next h => simp [h]
    next h => split <;> simp [*]
  | char =>
    simp only [KeyType.kind, Scalar.acceptsKey, KeyType.read?, ← String.length_toList]
    split
    next c h => simp [h]
    next h =>
      -- A text of one character would have been read.
      rw [Option.isSome_none, beq_eq_false_iff_ne]
      intro hone
      obtain ⟨c, hc⟩ := List.length_eq_one_iff.1 hone
      exact h c hc
  | _ => rfl

namespace Validator

theorem checkKey_reports (key : KeyType) (text : String) :
    (checkKey key.kind text).Reports (key.read text) := by
  rw [checkKey, KeyType.acceptsKey_kind]
  refine .ofBool (DecodeError.Alike.refl _) ?_
  unfold KeyType.read
  cases key.read? text <;> rfl

theorem tracks_dict {key : KeyType} {item : Descriptor} (hd : d.shape = .dict key.kind item)
    (h : ∀ w, w.height < v.height → c.Tracks 1 item read w) :
    c.Tracks 0 d (Decoder.map key read) v := by
  apply Tracks.intro
  intro depth hdepth
  obtain ⟨name, description, shape⟩ := d
  cases hd
  cases v with
  | dict entries =>
    -- Entries under a key that was there before are dropped only after all of them were read.
    refine Verdict.Reports.map (.each ?_) SortedMap.ofEntries
    intro e he
    have hlower := Value.height_lt_of_mem_entries he
    have value := (h e.2 hlower).below hlower hdepth
    refine (checkKey_reports key e.1).andThen ?_
    intro k
    exact value.bind_pure fun x => (k, x)
  | _ => exact .refused (DecodeError.mismatch_alike ..)

/-! ### Records and variants -/

/-- Validation finds a field where decoding does, at the first entry of its name in any case. -/
theorem checkField_eq (ask : Descriptor → Value → Verdict) (entries : List (String × Value)) (f : Field) :
    checkField ask (entries.map fun e => (Text.lowerCase e.1, e.2)) f =
      match Value.under? entries f.name with
      | some w => ask f.type w
      | none => .ofBool f.type.shape.isOption (.missingField f.owner f.name) := by
  have hentry : (entries.map fun e => (Text.lowerCase e.1, e.2)).lookup (Text.lowerCase f.name) =
      Value.under? entries f.name := RecordReader.entry?_ofEntries f.owner entries f.name
  exact congrArg (fun found : Option Value => match found with
    | some w => ask f.type w
    | none => .ofBool f.type.shape.isOption (.missingField f.owner f.name)) hentry

/-- A field is looked up under the same name, and an absent one is missed only if its type has no value
for absence. -/
theorem checkField_reports {f : Field} {entries : List (String × Value)} {depth : Nat}
    (hdepth : 2 * (Value.dict entries).height ≤ depth) {absent : Option α}
    (habsent : f.type.shape.isOption = absent.isSome)
    (h : ∀ w, w.height < (Value.dict entries).height → c.Tracks 0 f.type read w) :
    (checkField (c.checkWithin depth) (RecordReader.ofEntries f.owner entries).entries f).Reports
      ((RecordReader.ofEntries f.owner entries).field read absent f.name) := by
  have hfield := checkField_eq (c.checkWithin depth) entries f
  unfold RecordReader.field
  rw [RecordReader.entry?_ofEntries, RecordReader.ofEntries, hfield]
  cases hw : Value.under? entries f.name with
  | some w =>
    -- A field that is there lies below the dictionary, and is asked about at this depth.
    have hlower := Value.height_lt_of_under? hw
    exact (h w hlower).mono.below hlower hdepth
  | none =>
    -- Without the field, the shape decides on one side and the value for absence on the other.
    rw [habsent]
    cases absent with
    | some x => exact .accepted x
    | none => exact .refused (.refl _)

theorem tracks_record {fields : List Field} (hd : d.shape = .record fields) {owner : String}
    {readFields : RecordReader → Except DecodeError α}
    (h : ∀ entries depth, v = .dict entries → 2 * v.height ≤ depth →
      (Verdict.each (checkField (c.checkWithin depth) (RecordReader.ofEntries owner entries).entries)
        fields).Reports (readFields (RecordReader.ofEntries owner entries))) :
    c.Tracks 0 d (fun v => RecordReader.ofValue owner v >>= readFields) v := by
  apply Tracks.intro
  intro depth hdepth
  obtain ⟨name, description, shape⟩ := d
  cases hd
  -- Anything but a dictionary is refused before a field is looked for.
  cases v with
  | dict entries => exact h entries depth rfl hdepth
  | _ => exact .refused (DecodeError.mismatch_alike ..)

/-- The first case is the one meant, or the others decide. -/
theorem checkCase_cons (ask : Descriptor → Value → Verdict) (first : Case) (rest : List Case)
    (r : VariantReader) :
    checkCase ask (first :: rest) r =
      if r.is first.name then
        match first.payload with
        | some payload => ask payload r.payloadOrNull
        | none => some r.unit
      else checkCase ask rest r := by
  unfold checkCase
  rw [List.find?_cons]
  cases r.is first.name with
  | true => rcases first with ⟨_, _, _ | _⟩ <;> rfl
  | false => rfl

/-- Refusing a payload is the same on both sides. -/
theorem unit_reports (r : VariantReader) : Verdict.Reports (some r.unit) r.unit := by
  cases r.unit with
  | ok x => exact .accepted x
  | error e => exact .refused (.refl e)

theorem tracks_variant {cases : List Case} (hd : d.shape = .variant cases) {name : String}
    (hname : d.name = name) {readCase : VariantReader → Except DecodeError α}
    (h : ∀ tag payload depth, v.TagForm tag payload → 2 * v.height ≤ depth →
      (checkCase (c.checkWithin depth) cases ⟨name, tag, payload⟩).Reports
        (readCase ⟨name, tag, payload⟩)) :
    c.Tracks 0 d (fun v => VariantReader.ofValue name v >>= readCase) v := by
  apply Tracks.intro
  intro depth hdepth
  obtain ⟨_, description, shape⟩ := d
  cases hd
  cases hname
  cases v with
  | string tag => exact h tag none depth (.alone tag) hdepth
  | seq values =>
    -- Only a tag can come first, and at most one payload can follow.
    rcases values with _ | ⟨w, rest⟩
    · exact .refused (DecodeError.mismatch_alike ..)
    · cases w with
      | string tag =>
        rcases rest with _ | ⟨payload, _ | ⟨_, _⟩⟩
        · exact h tag none depth (.wrapped tag) hdepth
        · exact h tag (some payload) depth (.withPayload tag payload) hdepth
        · exact .refused (DecodeError.mismatch_alike ..)
      | _ => exact .refused (DecodeError.mismatch_alike ..)
  | _ => exact .refused (DecodeError.mismatch_alike ..)

/-! ### Recursive types -/

/-- Both subtrees are lower than the tree, and a reference away from the declaration of trees. -/
theorem tracks_tree (hdeclared : c.declaration? "tree" = some IntTree.descriptor) (v : Value)
    {d : Descriptor} (hd : d.shape = IntTree.descriptor.shape) (hname : d.name = "tree") :
    c.Tracks 0 d IntTree.decode v := by
  -- The induction is on the height of the value, as the descriptor goes round in a circle.
  have subtree (w : Value) (hw : w.height < v.height) :
      c.Tracks 1 IntTree.reference IntTree.decode w :=
    tracks_ref hdeclared (tracks_tree hdeclared w rfl rfl)
  refine Tracks.congr (IntTree.decode_eq v) (tracks_variant hd hname ?_)
  intro tag payload depth form hdepth
  have hlower := form.height_payload_lt
  rw [checkCase_cons, checkCase_cons]
  dsimp only
  split
  -- The tag is the first one, that of a leaf.
  next =>
    have leaf : c.Tracks 0 (.ofScalar .int64) Decoder.int64 (payload.getD .null) :=
      tracks_int64 rfl
    exact (leaf.mono.below hlower hdepth).map IntTree.leaf
  next =>
    split
    next =>
      have branch (w : Value) (hw : w.height < (payload.getD .null).height) :
          c.Tracks 1 IntTree.reference IntTree.decode w := subtree w (hw.trans hlower)
      have branches : c.Tracks 0 ⟨"branches", "", .pair IntTree.reference IntTree.reference⟩
          (Decoder.pair IntTree.decode IntTree.decode) (payload.getD .null) :=
        tracks_pair rfl branch branch
      exact (branches.mono.below hlower hdepth).map _
    next => exact .refused (.refl _)
termination_by v.height

/-- The tail is lower than the chain, with an option and a reference in between. -/
theorem tracks_chain (hdeclared : c.declaration? "chain" = some IntChain.descriptor) (v : Value)
    {d : Descriptor} (hd : d.shape = IntChain.descriptor.shape) :
    c.Tracks 0 d IntChain.decode v := by
  -- As with trees, the induction is on the height of the value.
  have link (w : Value) (hw : w.height < v.height) :
      c.Tracks 1 ⟨"chain", "", .ref "chain"⟩ IntChain.decode w :=
    tracks_ref hdeclared (tracks_chain hdeclared w rfl)
  refine Tracks.congr (IntChain.decode_eq v) (tracks_record hd ?_)
  rintro entries depth rfl hdepth
  have head : (checkField (c.checkWithin depth) (RecordReader.ofEntries "chain" entries).entries
      ⟨"head", "", .ofScalar .int64, "chain"⟩).Reports
        ((RecordReader.ofEntries "chain" entries).field Decoder.int64 none "head") :=
    checkField_reports hdepth rfl fun w _ => tracks_int64 rfl
  have tail : (checkField (c.checkWithin depth) (RecordReader.ofEntries "chain" entries).entries
      ⟨"tail", "", .optionOf ⟨"chain", "", .ref "chain"⟩, "chain"⟩).Reports
        ((RecordReader.ofEntries "chain" entries).field (Decoder.option IntChain.decode) (some none)
          "tail") :=
    checkField_reports hdepth rfl fun w hw =>
      tracks_option rfl fun u hu => link u (hu.trans hw)
  -- The head is read before the tail, and a tail that is absent is read as the end.
  refine head.andThen ?_
  intro n
  refine tail.andThen ?_
  intro rest
  exact .accepted (IntChain.mk n rest)
termination_by v.height

end Validator

/-! ### All types -/

/-- Only an option has a value for absence, and its descriptor is an option. -/
theorem DataType.isOption_descriptor : ∀ (type : DataType),
    type.descriptor.shape.isOption = type.absent.isSome
  | .boxed item => by rw [descriptor, absent, isOption_descriptor item]
  | .named _ _ item => by
    rw [descriptor, absent]
    exact isOption_descriptor item
  | .option _ => rfl
  | .int64 | .int | .int32 | .bool | .float | .string | .char | .unit | .timestamp | .list _
  | .array _ | .pair _ _ | .map _ _ _ | .record _ _ _ | .variant _ _ _ | .tree | .chain => rfl

namespace Validator

mutual
/-- Whether a validator knows what a decoder of a type knows: the recursive types inside are declared
under their names, and no variant inside goes by a name that is not its own. Other types may go by any
name, as plain reasons do. -/
def Knows (c : Validator) : DataType → Prop
  | .tree => c.declaration? "tree" = some IntTree.descriptor
  | .chain => c.declaration? "chain" = some IntChain.descriptor
  | .named name _ item =>
    c.Knows item ∧ ∀ cases, item.descriptor.shape = .variant cases → item.descriptor.name = name
  | .list item | .array item | .boxed item | .option item | .map _ _ item => c.Knows item
  | .pair first second => c.Knows first ∧ c.Knows second
  | .record _ _ fields => c.KnowsFields fields
  | .variant _ _ cases => c.KnowsCases cases
  | .int64 | .int | .int32 | .bool | .float | .string | .char | .unit | .timestamp => True
/-- Whether a validator knows the types of all fields. -/
def KnowsFields (c : Validator) : List FieldType → Prop
  | [] => True
  | ⟨_, _, type⟩ :: rest => c.Knows type ∧ c.KnowsFields rest
/-- Whether a validator knows the types of all payloads. -/
def KnowsCases (c : Validator) : List CaseType → Prop
  | [] => True
  | ⟨_, _, none⟩ :: rest => c.KnowsCases rest
  | ⟨_, _, some payload⟩ :: rest => c.Knows payload ∧ c.KnowsCases rest
end

mutual
/-- Whatever has the shape of a type, and the name of it if it is a variant, validates as the type
decodes. -/
theorem tracks_decode (c : Validator) : ∀ (type : DataType) {d : Descriptor} {v : Value},
    c.Knows type → d.shape = type.descriptor.shape →
      (∀ cases, d.shape = .variant cases → d.name = type.descriptor.name) →
      c.Tracks 0 d type.decode v
  | .int64, _, _, _, hd, _ => tracks_int64 hd
  | .int, _, _, _, hd, _ => tracks_int hd
  | .int32, _, _, _, hd, _ => tracks_int32 hd
  | .bool, _, _, _, hd, _ => tracks_bool hd
  | .float, _, _, _, hd, _ => tracks_float hd
  | .string, _, _, _, hd, _ => tracks_string hd
  | .char, _, _, _, hd, _ => tracks_char hd
  | .unit, _, _, _, hd, _ => tracks_unit hd
  | .timestamp, _, _, _, hd, _ => tracks_timestamp hd
  | .list item, _, _, h, hd, _ =>
    -- Below a container, a type is known by its own descriptor, so its name is its own, too.
    tracks_items (.inl hd) "list" fun _ _ => (tracks_decode c item h rfl fun _ _ => rfl).mono
  | .array item, _, _, h, hd, _ =>
    tracks_items (.inr hd) "array" fun _ _ => (tracks_decode c item h rfl fun _ _ => rfl).mono
  | .boxed item, _, _, h, hd, hname => tracks_decode c item h hd hname
  | .named name _ item, d, _, h, hd, hname => by
    -- The new name hides the name below, which would show in the errors of a variant.
    refine tracks_decode c item h.1 hd ?_
    intro cases hcases
    have hitem : item.descriptor.name = name := h.2 cases (hd.symm.trans hcases)
    have hnew : d.name = name := hname cases hcases
    rw [hnew, hitem]
  | .option item, _, _, h, hd, _ =>
    tracks_option hd fun _ _ => (tracks_decode c item h rfl fun _ _ => rfl).mono
  | .pair first second, _, _, h, hd, _ =>
    tracks_pair hd (fun _ _ => (tracks_decode c first h.1 rfl fun _ _ => rfl).mono) fun _ _ =>
      (tracks_decode c second h.2 rfl fun _ _ => rfl).mono
  | .map _ _ item, _, _, h, hd, _ =>
    tracks_dict hd fun _ _ => (tracks_decode c item h rfl fun _ _ => rfl).mono
  | .record _ _ fields, _, _, h, hd, _ =>
    tracks_record hd fun _ _ hv hdepth => each_checkField_reports c fields _ h (hv ▸ hdepth)
  | .variant _ _ cases, _, _, h, hd, hname =>
    tracks_variant hd (hname _ hd) fun _ _ _ form hdepth =>
      checkCase_reports c cases h form hdepth
  | .tree, _, v, h, hd, hname => tracks_tree h v hd (hname _ hd)
  | .chain, _, v, h, hd, _ => tracks_chain h v hd
/-- The fields of a record are read in the order in which they are validated. -/
theorem each_checkField_reports (c : Validator) : ∀ (fields : List FieldType) (owner : String)
    {entries : List (String × Value)} {depth : Nat}, c.KnowsFields fields →
      2 * (Value.dict entries).height ≤ depth →
      (Verdict.each (checkField (c.checkWithin depth) (RecordReader.ofEntries owner entries).entries)
        (DataType.fieldDescriptors owner fields)).Reports
          (DataType.decodeFields fields (RecordReader.ofEntries owner entries))
  | [], _, _, _, _, _ => .accepted ()
  | ⟨name, description, type⟩ :: rest, owner, _, _, h, hdepth => by
    have field := checkField_reports (f := ⟨name, description, type.descriptor, owner⟩) hdepth
      type.isOption_descriptor fun _ _ => tracks_decode c type h.1 rfl fun _ _ => rfl
    have others := each_checkField_reports c rest owner h.2 hdepth
    exact field.andThen fun x => others.bind_pure fun xs => (x, xs)
/-- The first case of a tag counts on both sides. -/
theorem checkCase_reports (c : Validator) : ∀ (cases : List CaseType) {name tag : String}
    {payload : Option Value} {v : Value} {depth : Nat}, c.KnowsCases cases →
      v.TagForm tag payload → 2 * v.height ≤ depth →
      (checkCase (c.checkWithin depth) (DataType.caseDescriptors cases) ⟨name, tag, payload⟩).Reports
        (DataType.decodeCase cases ⟨name, tag, payload⟩)
  | [], _, _, _, _, _, _, _, _ => .refused (.refl _)
  | ⟨tag, _, none⟩ :: rest, _, _, _, _, _, h, form, hdepth => by
    rw [DataType.caseDescriptors, checkCase_cons, DataType.decodeCase]
    dsimp only
    split
    next => exact (unit_reports _).map _
    next => exact (checkCase_reports c rest h form hdepth).map _
  | ⟨tag, _, some type⟩ :: rest, _, _, payload, _, _, h, form, hdepth => by
    rw [DataType.caseDescriptors, checkCase_cons, DataType.decodeCase]
    dsimp only
    split
    next =>
      have inner : c.Tracks 0 type.descriptor type.decode (payload.getD .null) :=
        tracks_decode c type h.1 rfl fun _ _ => rfl
      exact (inner.mono.below form.height_payload_lt hdepth).map _
    next => exact (checkCase_reports c rest h.2 form hdepth).map _
end

/-- Validation has room for every value: two descriptors for each step down, and no more are needed. -/
theorem check_reports (c : Validator) (type : DataType) (v : Value) (h : c.Knows type) :
    (c.check type.descriptor v).Reports (type.decode v) := by
  have henough : 2 * v.height + 0 < c.depth v := by
    -- Declarations only add to the room, so it is enough to count without them.
    have hroom : (v.height + 1) * 2 ≤ c.depth v := Nat.mul_le_mul_left _ (by omega)
    omega
  exact tracks_decode c type h rfl (fun _ _ => rfl) _ henough

/-- **Validation against the descriptor of a type decides what its decoder decides.** Given the
declarations of the recursive types inside, it comes to an end on every value, accepts exactly what
decodes, and otherwise refuses with an error of the same kind about the same place. -/
theorem check_descriptor_agrees (c : Validator) (type : DataType) (v : Value) (h : c.Knows type) :
    (c.check type.descriptor v = .accepted ↔ ∃ x, type.decode v = .ok x) ∧
      ∀ e, type.decode v = .error e →
        ∃ e', c.check type.descriptor v = .refused e' ∧ e'.Alike e := by
  have hreports := check_reports c type v h
  exact ⟨hreports.eq_accepted_iff, fun e he => hreports.eq_refused he⟩

/-- A subtree that is none, behind a tag in the wrong case: both sides look into the references and blame
the same tag of the same variant. -/
theorem check_descriptor_agrees_twig :
    let c := (empty.declare IntTree.descriptor).declare IntChain.descriptor
    let type : DataType := .pair (.option .tree) (.named "links" "A linked chain" .chain)
    let twig : Value := .seq [.string "nODE", .seq [.seq [.string "LEAF", .int 1], .string "twig"]]
    c.Knows type ∧ ∃ e', c.check type.descriptor (.seq [.seq [twig], .null]) = .refused e' ∧
      e'.Alike (.unknownTag "tree" "twig") := by
  intro c type twig
  -- Neither of the two types at the top is a variant, so their names are free.
  have hknows : c.Knows type := by
    refine ⟨rfl, rfl, ?_⟩
    intro cases hcases
    cases hcases
  refine ⟨hknows, ?_⟩
  -- The decoder is the one whose error is computed here. That of the validator is alike.
  refine (check_descriptor_agrees c type (.seq [.seq [twig], .null]) hknows).2 _ ?_
  rfl

end Validator
end Wirecall
