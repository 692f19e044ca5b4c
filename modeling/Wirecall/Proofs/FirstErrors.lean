import Wirecall.Proofs.Verdicts

/-!
# The first error

What is wrong with a value is told by the first error in it, and nothing behind that error is looked at. The
order is that of the wire for items and entries, each key before what it holds, and that of the declaration
for fields. Decoding and validation keep to the same order, they only differ in how types and descriptors are
read.

* `Validator.grammar` is how descriptors are read among some declarations, `DataType.grammar` is how types
  are.
* `Validator.checkWithin_succ` and `DataType.follows_verdict` take the step: validation and decoding say of a
  value what they say of its parts.
* `Validator.explains_checkWithin` and `DataType.explains_verdict` are the inductions, over the depth of a
  validation and over values and types. They say that every verdict comes about by reading.
* `reading_ends_with_first_error` is the main statement. It says for both what `Grammar.Decides` says: where
  the error of a value comes from, and what it does not depend on.

**No verdict.** Validation says nothing of a value if references lead in a circle. Then reading does not stop
anywhere, and it does not succeed either: there is no end to the parts.
-/

namespace Wirecall

/-! ### Validation -/

namespace Validator

/-- How a descriptor is read, one level deep. A reference is read as its declaration is, and if there is none it
is a plain type that has no values. -/
def form (c : Validator) (d : Descriptor) : Form Descriptor :=
  match d.shape with
  | .scalar kind => .plain kind.accepts
  | .timestamp => .plain fun
    | .timestamp text => Timestamp.isText text
    | _ => false
  | .unit => .plain fun
    | .null => true
    | _ => false
  | .array item | .list item => .items item
  | .option item => .option item
  | .pair first second => .pair first second
  | .dict kind item => .dict kind item
  | .record fields => .record (fields.map fun f => ⟨f.name, f.owner, f.type, f.type.shape.isOption⟩)
  | .variant cases => .variant d.name (cases.map fun k => (k.name, k.payload))
  | .ref name =>
    match c.declaration? name with
    | some target => .same target
    | none => .plain fun _ => false

/-- What is said of a value that does not have the shape of a descriptor. Plain kinds and timestamps have words
of their own for it; everything else is called by the name of the descriptor and its shape. -/
def shapeError (d : Descriptor) (v : Value) : DecodeError :=
  match d.shape, v with
  | .scalar kind, v => .mismatch kind.name v
  | .timestamp, .timestamp text => .mismatch "datetime (yyyymmddThh:mm:ss)" (.timestamp text)
  | .ref name, v => .mismatch ("declaration of " ++ name) v
  | _, v => mismatch d v

/-- How a validator reads. -/
def grammar (c : Validator) : Grammar Descriptor :=
  ⟨c.form, shapeError⟩

/-- Of a record, validation says what it says of the parts that the fields are read from. -/
theorem each_checkField_eq (ask : Descriptor → Value → Verdict) (fields : List Field)
    (entries : List (String × Value)) :
    Verdict.each (checkField ask (entries.map fun e => (Text.lowerCase e.1, e.2))) fields =
      Verdict.each (fun f =>
        (Plan.field entries ⟨f.name, f.owner, f.type, f.type.shape.isOption⟩).2.verdict ask) fields := by
  congr 1
  -- Field by field: what is looked up is the same, and so is what an absent field comes to.
  funext f
  refine (checkField_eq ask entries f).trans (Eq.trans ?_ (Plan.verdict_field ask entries _).symm)
  cases Value.under? entries f.name <;> rfl

/-- Of a variant, it says what it says of the part behind the first case of the tag. -/
theorem checkCase_eq (ask : Descriptor → Value → Verdict) (cases : List Case)
    (seen : List Value.Position) (r : VariantReader) :
    checkCase ask cases r =
      Plan.verdict ask (Plan.ofTag seen (cases.map fun k => (k.name, k.payload)) r) := by
  have hsame : ((fun k : String × Option Descriptor => r.is k.1) ∘ fun k : Case => (k.name, k.payload)) =
      fun k => r.is k.name := rfl
  rw [Plan.verdict_ofTag, checkCase, List.find?_map, hsame]
  -- The first case of the tag is missing, or it has a payload to ask about, or it must come alone.
  generalize cases.find? (fun k => r.is k.name) = found
  rcases found with _ | ⟨_, _, _ | _⟩ <;> rfl

/-- Validation takes one level at a time. -/
theorem checkWithin_succ (c : Validator) (depth : Nat) (d : Descriptor) (v : Value) :
    c.checkWithin (depth + 1) d v =
      Plan.verdict (c.checkWithin depth) (c.grammar.planValue d v) := by
  obtain ⟨name, description, shape⟩ := d
  -- Every shape asks for its parts in the order in which the plan lists them.
  cases shape with
  | scalar kind =>
    simp only [checkWithin, Grammar.planValue, grammar, form, shapeError, Verdict.ofBool]
    split <;> rfl
  | timestamp =>
    cases v with
    | timestamp text =>
      simp only [checkWithin, Grammar.planValue, grammar, form, shapeError, Verdict.ofBool]
      split <;> rfl
    | _ => rfl
  | unit => cases v <;> rfl
  -- A sequence asks for its items from the first to the last, and no other value has items.
  | array item | list item =>
    cases v with
    | seq values => exact (Plan.each_sequence _ item values).symm
    | _ => rfl
  | dict kind item =>
    cases v with
    | dict entries => exact (Plan.each_entries _ kind item entries).symm
    | _ => rfl
  | option item =>
    cases v with
    | seq values =>
      rcases values with _ | ⟨w, _ | _⟩
      · rfl
      · exact (Verdict.andThen_accepted _).symm
      · rfl
    | _ => rfl
  | pair first second =>
    cases v with
    | seq values =>
      rcases values with _ | ⟨a, _ | ⟨b, _ | _⟩⟩
      · rfl
      · rfl
      · simp only [checkWithin, Grammar.planValue, grammar, form, Plan.verdict, Verdict.each, Part.verdict,
          Verdict.andThen_accepted]
      · rfl
    | _ => rfl
  -- The plan lists fields in the order of the declaration, wherever they stand in the dictionary.
  | record fields =>
    cases v with
    | dict entries =>
      show Verdict.each _ fields = Verdict.each _ ((fields.map _).map (Plan.field entries))
      rw [Verdict.each_map, Verdict.each_map]
      exact each_checkField_eq _ fields entries
    | _ => rfl
  -- A tag alone, a tag alone in a sequence, or a tag with a payload: the plan knows these three forms.
  | variant cases =>
    cases v with
    | string tag => exact checkCase_eq _ cases [] _
    | seq values =>
      rcases values with _ | ⟨w, rest⟩
      · rfl
      · cases w with
        | string tag =>
          rcases rest with _ | ⟨payload, _ | _⟩
          · exact checkCase_eq _ cases _ _
          · exact checkCase_eq _ cases _ _
          · rfl
        | _ => rfl
    | _ => rfl
  | ref target =>
    simp only [checkWithin, Grammar.planValue, grammar, form, shapeError]
    -- A reference is one part, namely the same value under the declaration.
    cases c.declaration? target with
    | none => rfl
    | some declaration => exact (Verdict.andThen_accepted _).symm

/-- What validation says of a value comes about by reading it, however little depth it has. -/
theorem explains_checkWithin (c : Validator) (depth : Nat) (p : Part Descriptor) :
    c.grammar.Explains p (p.verdict (c.checkWithin depth)) := by
  -- On the depth. Without any, nothing is said, and what is not said needs no reason.
  induction depth generalizing p with
  | zero =>
    cases p with
    | value d v => exact ⟨fun h => (nomatch h), fun e h => (nomatch h)⟩
    | key _ _ | absent _ _ _ => exact Grammar.explains_key_or_absent (by simp)
  | succ depth ih =>
    cases p with
    | value d v =>
      -- The verdict is that of the plan one level down, where the induction knows all parts.
      have hverdict : (Part.value d v).verdict (c.checkWithin (depth + 1)) =
          Plan.verdict (c.checkWithin depth) (c.grammar.plan (.value d v)) :=
        c.checkWithin_succ depth d v
      rw [hverdict]
      exact Grammar.explains_of_parts fun _ _ b _ => ih b.2
    | key _ _ | absent _ _ _ => exact Grammar.explains_key_or_absent (by simp)

/-- With all the depth that is needed, validation says of a value what it says of the parts. -/
theorem follows_check (c : Validator) : c.grammar.Follows c.check := by
  intro d v
  -- The depth is enough, so one step more says the same, and that step goes to the parts.
  have henough : c.depth v ≤ c.depth v + 1 := Nat.le_succ _
  rw [← checkWithin_eq_check henough, checkWithin_succ]
  refine Plan.verdict_congr ?_
  rintro π hplan ⟨place, ⟨t, w⟩ | _ | _⟩ hb
  · -- No part is higher than the whole, so what is enough for the whole is enough for its parts.
    have hle : w.height ≤ v.height := by
      rcases Grammar.lower_of_mem_parts hplan hb with hlt | ⟨-, rfl⟩
      · exact hlt.le
      · exact le_rfl
    exact checkWithin_eq_check (Nat.mul_le_mul_right _ (Nat.succ_le_succ hle))
  · rfl
  · rfl

theorem decides_check (c : Validator) : c.grammar.Decides (fun d v => c.check d v = .accepted)
    (fun d v e => c.check d v = .refused e) :=
  Grammar.decides c.follows_check fun d v => c.explains_checkWithin (c.depth v) (.value d v)

end Validator

/-! ### Decoding -/

/-- What the result of a decoder comes to as a verdict. Decoding always comes to a result, so this is never the
verdict that says nothing. -/
def Verdict.ofResult {α : Type} (result : Except DecodeError α) : Verdict :=
  some ((fun _ => ()) <$> result)

namespace Verdict

variable {α β : Type}

@[simp] theorem ofResult_map (f : α → β) (result : Except DecodeError α) :
    ofResult (f <$> result) = ofResult result := by
  cases result <;> rfl

theorem ofResult_bind {result : Except DecodeError α} {next : α → Except DecodeError β}
    {verdict : Verdict} (h : ∀ x, ofResult (next x) = verdict) :
    ofResult (result >>= next) = (ofResult result).andThen fun _ => verdict := by
  cases result with
  | error e => rfl
  | ok x => exact h x

theorem ofResult_mapM (read : α → Except DecodeError β) (items : List α) :
    ofResult (items.mapM read) = each (fun a => ofResult (read a)) items := by
  induction items with
  | nil => rfl
  | cons a rest ih =>
    -- The list is put together only after all of it was read, and what is put together does not show.
    rw [List.mapM_cons, each, ← ih]
    refine ofResult_bind ?_
    intro x
    exact ofResult_map (x :: ·) (rest.mapM read)

theorem ofResult_eq_accepted_iff {result : Except DecodeError α} :
    ofResult result = .accepted ↔ ∃ x, result = .ok x := by
  cases result <;> simp [ofResult, accepted, Functor.map, Except.map]

theorem ofResult_eq_refused_iff {result : Except DecodeError α} {e : DecodeError} :
    ofResult result = .refused e ↔ result = .error e := by
  cases result <;> simp [ofResult, refused, Functor.map, Except.map]

end Verdict

namespace DataType

/-- How a type is read, one level deep. An indirection is read as what it holds, and the recursive types are
read as the variant and the record that they look like on the wire. -/
def form : DataType → Form DataType
  | .int64 => .plain (Scalar.accepts .int64)
  | .int => .plain (Scalar.accepts .int)
  | .int32 => .plain (Scalar.accepts .int32)
  | .bool => .plain (Scalar.accepts .bool)
  | .float => .plain (Scalar.accepts .float)
  | .string => .plain (Scalar.accepts .string)
  | .char => .plain (Scalar.accepts .char)
  | .unit => .plain fun
    | .null => true
    | _ => false
  | .timestamp => .plain fun
    | .timestamp text => Timestamp.isText text
    | _ => false
  | .list item | .array item => .items item
  | .boxed item | .named _ _ item => .same item
  | .option item => .option item
  | .pair first second => .pair first second
  | .map _ key item => .dict key.kind item
  | .record name _ fields =>
    .record (fields.map fun f => ⟨f.name, name, f.type, f.type.absent.isSome⟩)
  | .variant name _ cases => .variant name (cases.map fun k => (k.tag, k.payload))
  | .tree => .variant "tree" [("Leaf", some .int64), ("Node", some (.pair .tree .tree))]
  | .chain =>
    .record [⟨"head", "chain", .int64, false⟩, ⟨"tail", "chain", .option .chain, true⟩]

/-- What was expected of a value that does not have the shape of a type. -/
def expected : DataType → Value → String
  | .int64, _ => "int64"
  | .int, _ => "int"
  | .int32, _ => "int32"
  | .bool, _ => "bool"
  | .float, _ => "float"
  | .string, _ => "string"
  | .char, _ => "char"
  | .unit, _ => "unit"
  | .timestamp, .timestamp _ => "datetime (yyyymmddThh:mm:ss)"
  | .timestamp, _ => "datetime"
  | .list _, _ => "list"
  | .array _, _ => "array"
  | .option _, .seq _ => "option (zero or one element)"
  | .option _, _ => "option"
  | .pair _ _, .seq _ => "tuple of 2"
  | .pair _ _, _ => "tuple"
  | .map _ _ _, _ => "dict"
  | .record name _ _, _ => "struct " ++ name
  | .variant name _ _, _ => "variant " ++ name
  | .tree, _ => "variant tree"
  | .chain, _ => "struct chain"
  | .boxed item, v | .named _ _ item, v => item.expected v

/-- How decoders read. -/
def grammar : Grammar DataType :=
  ⟨form, fun type v => .mismatch (type.expected v) v⟩

/-- What decoding comes to as a verdict. -/
def verdict (type : DataType) (v : Value) : Verdict :=
  .ofResult (type.decode v)

theorem verdict_read (key : KeyType) (text : String) :
    Verdict.ofResult (key.read text) = Validator.checkKey key.kind text := by
  rw [Validator.checkKey, KeyType.acceptsKey_kind, KeyType.read]
  cases key.read? text <;> rfl

theorem verdict_entry (key : KeyType) (item : DataType) (e : String × Value) :
    Verdict.ofResult (Decoder.entry key item.decode e) =
      (Validator.checkKey key.kind e.1).andThen fun _ => item.verdict e.2 := by
  rw [← verdict_read]
  -- The item is asked for only where there is a key.
  refine Verdict.ofResult_bind ?_
  intro k
  exact Verdict.ofResult_map (fun x => (k, x)) (item.decode e.2)

theorem verdict_field (entries : List (String × Value)) (owner name : String) (type : DataType) :
    Verdict.ofResult ((RecordReader.ofEntries owner entries).field type.decode type.absent name) =
      (Plan.field entries ⟨name, owner, type, type.absent.isSome⟩).2.verdict verdict := by
  unfold RecordReader.field
  rw [Plan.verdict_field, RecordReader.entry?_ofEntries]
  -- The field is there and has a verdict of its own, or its type decides what absence comes to.
  cases Value.under? entries name with
  | some w => rfl
  | none => cases type.absent <;> rfl

theorem verdict_decodeFields (entries : List (String × Value)) (owner : String) :
    ∀ fields : List FieldType,
      Verdict.ofResult (decodeFields fields (RecordReader.ofEntries owner entries)) =
        Verdict.each (fun f =>
          (Plan.field entries ⟨f.name, owner, f.type, f.type.absent.isSome⟩).2.verdict verdict) fields
  | [] => rfl
  | ⟨name, description, type⟩ :: rest => by
    -- The first field, then the others: on both sides in the order of the declaration.
    rw [Verdict.each, ← verdict_field, ← verdict_decodeFields entries owner rest]
    refine Verdict.ofResult_bind ?_
    intro x
    exact Verdict.ofResult_map (fun xs => (x, xs)) (decodeFields rest _)

theorem verdict_decodeCase (r : VariantReader) (seen : List Value.Position) :
    ∀ cases : List CaseType, Verdict.ofResult (decodeCase cases r) =
      Plan.verdict verdict (Plan.ofTag seen (cases.map fun k => (k.tag, k.payload)) r)
  | [] => rfl
  | ⟨tag, description, payload⟩ :: rest => by
    have ih := verdict_decodeCase r seen rest
    rw [Plan.verdict_ofTag] at ih ⊢
    rw [List.map_cons, List.find?_cons]
    cases payload with
    | none =>
      -- The tag is that of this case, or the cases behind it decide.
      cases htag : r.is tag with
      | true =>
        simp only [decodeCase, htag, if_true, Verdict.ofResult_map]
        cases r.unit <;> rfl
      | false =>
        simp only [decodeCase, htag, Bool.false_eq_true, if_false, Verdict.ofResult_map]
        exact ih
    | some payload =>
      cases htag : r.is tag with
      | true =>
        simp only [decodeCase, htag, if_true, Verdict.ofResult_map]
        rfl
      | false =>
        simp only [decodeCase, htag, Bool.false_eq_true, if_false, Verdict.ofResult_map]
        exact ih

theorem verdict_pair (first second : DataType) (a b : Value) :
    Verdict.ofResult (Decoder.pair first.decode second.decode (.seq [a, b])) =
      (first.verdict a).andThen fun _ => (second.verdict b).andThen fun _ => .accepted := by
  rw [Verdict.andThen_accepted]
  refine Verdict.ofResult_bind ?_
  intro x
  exact Verdict.ofResult_map (fun y => (x, y)) (second.decode b)

/-- A value that is no variant is refused, and others are read by their tags. -/
theorem verdict_ofValue {type : DataType} {name : String} {cases : List (String × Option DataType)}
    (hform : type.form = .variant name cases)
    {α : Type} {readCase : VariantReader → Except DecodeError α} {v : Value}
    (hdecode : type.verdict v = Verdict.ofResult (VariantReader.ofValue name v >>= readCase))
    (hexpected : type.expected v = "variant " ++ name)
    (h : ∀ seen r, Verdict.ofResult (readCase r) = Plan.verdict verdict (Plan.ofTag seen cases r)) :
    type.verdict v = Plan.verdict verdict (grammar.planValue type v) := by
  -- What is no variant is refused by both with the same words.
  have other (hplan : grammar.planValue type v = .error (.mismatch (type.expected v) v))
      (hread : VariantReader.ofValue name v = .error (.mismatch ("variant " ++ name) v)) :
      type.verdict v = Plan.verdict verdict (grammar.planValue type v) := by
    rw [hdecode, hplan, hread, hexpected]
    rfl
  cases v with
  | string tag =>
    rw [hdecode]
    simp only [Grammar.planValue, grammar, hform]
    exact h [] _
  | seq values =>
    rcases values with _ | ⟨w, rest⟩
    · exact other (by simp only [Grammar.planValue, grammar, hform]) rfl
    · cases w with
      | string tag =>
        -- At most one payload can follow the tag.
        rcases rest with _ | ⟨payload, _ | _⟩
        · rw [hdecode]
          simp only [Grammar.planValue, grammar, hform]
          exact h _ _
        · rw [hdecode]
          simp only [Grammar.planValue, grammar, hform]
          exact h _ _
        · exact other (by simp only [Grammar.planValue, grammar, hform]) rfl
      | _ => exact other (by simp only [Grammar.planValue, grammar, hform]) rfl
  | _ => exact other (by simp only [Grammar.planValue, grammar, hform]) rfl

/-- The decoder of trees asks for its two tags one after the other. -/
theorem verdict_tree (v : Value) :
    tree.verdict v = Plan.verdict verdict (grammar.planValue .tree v) := by
  refine verdict_ofValue rfl (congrArg Verdict.ofResult (IntTree.decode_eq v)) rfl ?_
  intro seen r
  rw [Plan.verdict_ofTag, List.find?_cons, List.find?_cons]
  cases hleaf : r.is "Leaf" with
  | true => exact Verdict.ofResult_map IntTree.leaf _
  | false =>
    cases hnode : r.is "Node" with
    | true => exact Verdict.ofResult_map _ (Decoder.pair IntTree.decode IntTree.decode r.payloadOrNull)
    | false => rfl

/-- The decoder of chains reads its two fields one after the other. -/
theorem verdict_chain (entries : List (String × Value)) :
    chain.verdict (.dict entries) = Plan.verdict verdict (grammar.planValue .chain (.dict entries)) := by
  let r := RecordReader.ofEntries "chain" entries
  -- The two fields of a chain are fields like those of any record.
  have hhead : Verdict.ofResult (r.field Decoder.int64 none "head") = _ :=
    verdict_field entries "chain" "head" .int64
  have htail : Verdict.ofResult (r.field (Decoder.option IntChain.decode) (some none) "tail") = _ :=
    verdict_field entries "chain" "tail" (.option .chain)
  have hread : IntChain.decode (.dict entries) = r.field Decoder.int64 none "head" >>= fun head =>
      IntChain.mk head <$> r.field (Decoder.option IntChain.decode) (some none) "tail" :=
    IntChain.decode_eq (.dict entries)
  calc Verdict.ofResult (IntChain.decode (.dict entries))
      = (Verdict.ofResult (r.field Decoder.int64 none "head")).andThen fun _ =>
          Verdict.ofResult (r.field (Decoder.option IntChain.decode) (some none) "tail") := by
        rw [hread]
        refine Verdict.ofResult_bind ?_
        intro head
        exact Verdict.ofResult_map (IntChain.mk head) _
    _ = _ := by
        rw [hhead, htail]
        -- A plan ends with the last field, a chain with putting both together, which cannot fail.
        exact congrArg _ (funext fun _ => (Verdict.andThen_accepted _).symm)

/-- Decoding reads a value by its parts. -/
theorem follows_verdict : grammar.Follows verdict := by
  intro type v
  cases type with
  | int64 | int | int32 | bool | float | string | unit => cases v <;> rfl
  | char =>
    cases v with
    | int n =>
      -- A code belongs to a character or to none, on both sides.
      show Verdict.ofResult (Decoder.char (.int n)) = Plan.verdict verdict
        (if (charOfCode? n).isSome then .ok {} else .error (.mismatch "char" (.int n)))
      simp only [Decoder.char]
      cases charOfCode? n <;> rfl
    | _ => rfl
  | timestamp =>
    cases v with
    | timestamp text =>
      show Verdict.ofResult (Decoder.timestamp (.timestamp text)) = Plan.verdict verdict
        (if Timestamp.isText text then .ok {}
          else .error (.mismatch "datetime (yyyymmddThh:mm:ss)" (.timestamp text)))
      simp only [Decoder.timestamp]
      rw [Timestamp.isText]
      cases Timestamp.read? text <;> rfl
    | _ => rfl
  | list item | array item =>
    cases v with
    | seq values =>
      exact (Verdict.ofResult_mapM item.decode values).trans
        (Plan.each_sequence verdict item values).symm
    | _ => rfl
  -- Boxes and names are no level of their own: the one part is the value itself.
  | boxed item => exact (Verdict.andThen_accepted _).symm
  | named _ _ item => exact (Verdict.andThen_accepted _).symm
  | option item =>
    cases v with
    | seq values =>
      rcases values with _ | ⟨w, _ | _⟩
      · rfl
      · exact (Verdict.ofResult_map _ _).trans (Verdict.andThen_accepted _).symm
      · rfl
    | _ => rfl
  | pair first second =>
    cases v with
    | seq values =>
      rcases values with _ | ⟨a, _ | ⟨b, _ | _⟩⟩
      · rfl
      · rfl
      · exact verdict_pair first second a b
      · rfl
    | _ => rfl
  | map order key item =>
    cases v with
    | dict entries =>
      -- Entries that are hidden in the map are read all the same.
      have hentries : verdict (.map order key item) (.dict entries) =
          Verdict.each (fun e => Verdict.ofResult (Decoder.entry key item.decode e)) entries :=
        (Verdict.ofResult_map _ _).trans (Verdict.ofResult_mapM _ entries)
      rw [hentries, funext (verdict_entry key item)]
      exact (Plan.each_entries verdict key.kind item entries).symm
    | _ => rfl
  | record name _ fields =>
    cases v with
    | dict entries =>
      show _ = Verdict.each _ ((fields.map _).map (Plan.field entries))
      rw [Verdict.each_map, Verdict.each_map]
      exact verdict_decodeFields entries name fields
    | _ => rfl
  | variant name _ cases =>
    exact verdict_ofValue rfl rfl rfl fun seen r => verdict_decodeCase r seen cases
  | tree => exact verdict_tree v
  | chain =>
    cases v with
    | dict entries => exact verdict_chain entries
    | _ => rfl

/-- A type that is read as another one is a type around it. -/
theorem sizeOf_lt_of_form {type item : DataType} (h : type.form = .same item) :
    sizeOf item < sizeOf type := by
  cases type with
  | boxed _ =>
    cases h
    simp
  | named _ _ _ =>
    cases h
    simp only [DataType.named.sizeOf_spec]
    omega
  | _ => cases h

/-- What decoding says of a value comes about by reading it. Parts are lower values, or the same value read
as a smaller type. -/
theorem explains_verdict (type : DataType) (v : Value) :
    grammar.Explains (.value type v) (type.verdict v) := by
  rw [follows_verdict type v]
  refine Grammar.explains_of_parts ?_
  rintro π hplan ⟨place, part⟩ hb
  cases part with
  | value t w =>
    -- This is what the recursion runs on, for parts that are values.
    have hlower := Grammar.lower_of_mem_parts hplan hb
    exact explains_verdict t w
  | key _ _ | absent _ _ _ => exact Grammar.explains_key_or_absent (by simp)
termination_by (v.height, sizeOf type)
decreasing_by
  rcases hlower with hlt | ⟨hform, rfl⟩
  · exact Prod.Lex.left _ _ hlt
  · exact Prod.Lex.right _ (sizeOf_lt_of_form hform)

theorem decides_decode : grammar.Decides (fun type v => ∃ x, type.decode v = .ok x)
    (fun type v e => type.decode v = .error e) := by
  -- A verdict only forgets what was read.
  have h := Grammar.decides follows_verdict explains_verdict
  have hrefused {type : DataType} {v : Value} {e : DecodeError} :
      type.verdict v = .refused e ↔ type.decode v = .error e := Verdict.ofResult_eq_refused_iff
  -- So each statement about verdicts is one about results.
  exact {
    accepts_iff := fun t v => Verdict.ofResult_eq_accepted_iff.symm.trans (h.accepts_iff t v)
    refuses_iff := fun t v e => hrefused.symm.trans (h.refuses_iff t v e)
    unique := h.unique
    raised := h.raised
    before := h.before
    later := fun hstops place hposition hread new =>
      hrefused.1 (h.later hstops place hposition hread new) }

end DataType

/-- **Reading ends with the first error.** Whatever type a value is decoded as, and against whatever
descriptor and among whatever declarations it is validated, the error is the one at which reading the value
in order stops. It is passed on as it was raised, all that was read before is in order, and it stays the same
whatever stands where nothing was looked at before. -/
theorem reading_ends_with_first_error :
    DataType.grammar.Decides (fun type v => ∃ x, type.decode v = .ok x)
        (fun type v e => type.decode v = .error e) ∧
      ∀ c : Validator, c.grammar.Decides (fun d v => c.check d v = .accepted)
        (fun d v e => c.check d v = .refused e) :=
  ⟨DataType.decides_decode, fun c => c.decides_check⟩

end Wirecall
