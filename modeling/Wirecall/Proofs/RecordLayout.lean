import Wirecall.Proofs.FirstErrors
import Wirecall.Sample.Records

/-!
# The layout of records

A record is read from the first entry under the name of each of its fields, in whatever case the name is
written. All else about a dictionary is layout: the order of its entries, the case of its keys, entries that
no field asks for, and later ones of the same name.

* `Value.SameUnder` is what counts, that dictionaries show the same under some names. `Value.Rearranged` are
  the changes that leave it (`Value.Rearranged.sameUnder`).
* `DataType.decode_eq_of_sameUnder` and `Validator.check_eq_of_sameUnder` say that then records read the same
  and are validated alike, errors included.
* `DataType.Relaid` takes the change to any depth, one constructor for each place in which a value may stand.
  `DataType.Relaid.readSame` is the induction over these places.
* `layout_does_not_matter` is the main statement.

**Further up.** A change inside a value leaves whether the value is read, and what is read, but not the error
that is told of it, as errors quote the value. And a dictionary may be read twice, when two fields have names
that only differ in case. If one of them reads it as a record and the other as a map, the map shows the keys
as they were written (`recased_under_two_names`). So a change counts as one of layout if it is one for all
fields that read it.
-/

namespace Wirecall

namespace Value

/-! ### Entries that show the same -/

/-- Whether some entries show the same under some names as others do. Of the entries of one name, in whatever
case, only the first one shows. -/
def SameUnder (names : List String) (entries entries' : List (String × Value)) : Prop :=
  ∀ name ∈ names, under? entries name = under? entries' name

/-- The changes of entries that do not matter to a record with some fields. They may be made one after the other
and the other way round, so the constructors only name the smallest ones. -/
inductive Rearranged (names : List String) : List (String × Value) → List (String × Value) → Prop
  /-- The entries in another order, those of one lower-cased key in the same order. -/
  | permuted {entries entries' : List (String × Value)} :
    entries.Perm entries' →
      (∀ key, entries.filter (fun e => Text.lowerCase key == Text.lowerCase e.1) =
        entries'.filter fun e => Text.lowerCase key == Text.lowerCase e.1) →
        Rearranged names entries entries'
  /-- Keys written in another case. -/
  | recased {entries entries' : List (String × Value)} :
    List.Forall₂ (fun e e' => Text.lowerCase e.1 = Text.lowerCase e'.1 ∧ e.2 = e'.2) entries entries' →
      Rearranged names entries entries'
  /-- An entry less that no field matches. -/
  | unmatched {key : String} (v : Value) (before after : List (String × Value)) :
    (∀ name ∈ names, Text.lowerCase name ≠ Text.lowerCase key) →
      Rearranged names (before ++ (key, v) :: after) (before ++ after)
  /-- An entry less behind another one of the same key. -/
  | hidden {key : String} {e : String × Value} (v : Value) {before : List (String × Value)}
    (after : List (String × Value)) :
    e ∈ before → Text.lowerCase e.1 = Text.lowerCase key →
      Rearranged names (before ++ (key, v) :: after) (before ++ after)
  | symm {entries entries' : List (String × Value)} :
    Rearranged names entries entries' → Rearranged names entries' entries
  | trans {entries entries' entries'' : List (String × Value)} :
    Rearranged names entries entries' → Rearranged names entries' entries'' →
      Rearranged names entries entries''

theorem isSome_under? {entries : List (String × Value)} {e : String × Value} (he : e ∈ entries)
    {name : String} (hname : Text.lowerCase name = Text.lowerCase e.1) :
    (under? entries name).isSome := by
  unfold under?
  rw [Option.isSome_map, List.find?_isSome]
  exact ⟨e, he, beq_iff_eq.2 hname⟩

/-- All of these changes leave what shows under the names. -/
theorem Rearranged.sameUnder {names : List String} {entries entries' : List (String × Value)}
    (h : Rearranged names entries entries') : SameUnder names entries entries' := by
  induction h with
  | permuted _ hfilter =>
    intro name _
    unfold under?
    -- What shows under a name is the first entry of its key, and these kept their order.
    rw [← List.head?_filter, ← List.head?_filter, hfilter]
  | recased hsame =>
    intro name _
    -- Entry by entry, as looking a name up never looks at the case.
    induction hsame with
    | nil => rfl
    | @cons e e' _ _ he _ ih =>
      obtain ⟨key, v⟩ := e
      obtain ⟨key', _⟩ := e'
      obtain ⟨hkey, rfl⟩ := he
      rw [under?_cons, under?_cons, ih, hkey]
  | unmatched v before after hkey =>
    intro name hname
    rw [under?_append, under?_append, under?_cons, if_neg (hkey name hname)]
  | @hidden key e v before after he hkey =>
    intro name _
    rw [under?_append, under?_append, under?_cons]
    by_cases hname : Text.lowerCase name = Text.lowerCase key
    · -- Something shows already in front.
      obtain ⟨w, hw⟩ := Option.isSome_iff_exists.1 (isSome_under? he (hname.trans hkey.symm))
      rw [hw, Option.some_or, Option.some_or]
    · rw [if_neg hname]
  | symm _ ih => exact fun name hname => (ih name hname).symm
  | trans _ _ ih ih' => exact fun name hname => (ih name hname).trans (ih' name hname)

end Value

open Value (SameUnder)

/-! ### Records -/

namespace DataType

/-- The names of the fields, if a type is read as a record. -/
def fieldNames? : DataType → Option (List String)
  | .record _ _ fields => some (fields.map (·.name))
  | .chain => some ["head", "tail"]
  | .boxed item | .named _ _ item => item.fieldNames?
  | _ => none

variable {entries entries' : List (String × Value)} {names : List String}

/-- A field is read from what shows under its name. -/
theorem field_congr {α : Type} (owner : String) (read : Decoder α) (absent : Option α) {name : String}
    (h : Value.under? entries name = Value.under? entries' name) :
    (RecordReader.ofEntries owner entries).field read absent name =
      (RecordReader.ofEntries owner entries').field read absent name := by
  unfold RecordReader.field
  rw [RecordReader.entry?_ofEntries, RecordReader.entry?_ofEntries, h]
  rfl

/-- Records are read alike if all their fields are. -/
theorem decodeFields_congr {r r' : RecordReader} : ∀ {fields : List FieldType},
    (∀ f ∈ fields, r.field f.type.decode f.type.absent f.name =
      r'.field f.type.decode f.type.absent f.name) → decodeFields fields r = decodeFields fields r'
  | [], _ => rfl
  | ⟨name, description, type⟩ :: rest, h => by
    obtain ⟨hfirst, hrest⟩ := List.forall_mem_cons.1 h
    rw [decodeFields, decodeFields, hfirst, decodeFields_congr hrest]

/-- A record is read from what shows under the names of its fields. -/
theorem decode_eq_of_sameUnder (h : SameUnder names entries entries') :
    ∀ (type : DataType), type.fieldNames? = some names →
      type.decode (.dict entries) = type.decode (.dict entries')
  | .record name _ fields, hnames => by
    cases hnames
    refine decodeFields_congr ?_
    intro f hf
    exact field_congr name _ _ (h f.name (List.mem_map_of_mem hf))
  | .chain, hnames => by
    cases hnames
    -- A chain has two fields like a record, although it is read by a recursion of its own.
    have hhead := field_congr "chain" Decoder.int64 none (h "head" (by simp))
    have htail := field_congr "chain" (Decoder.option IntChain.decode) (some none) (h "tail" (by simp))
    show IntChain.decode (.dict entries) = IntChain.decode (.dict entries')
    rw [IntChain.decode_eq, IntChain.decode_eq]
    simp only [RecordReader.ofValue_dict, bind, Except.bind]
    rw [hhead, htail]
  | .boxed item, hnames => decode_eq_of_sameUnder h item hnames
  | .named _ _ item, hnames => decode_eq_of_sameUnder h item hnames

end DataType

/-- A record is validated by what shows under the names of its fields. -/
theorem Validator.check_eq_of_sameUnder (c : Validator) {d : Descriptor} {fields : List Field}
    (hd : d.shape = .record fields) {entries entries' : List (String × Value)}
    (h : SameUnder (fields.map (·.name)) entries entries') :
    c.check d (.dict entries) = c.check d (.dict entries') := by
  have hplan (entries : List (String × Value)) : c.check d (.dict entries) =
      Verdict.each (fun f =>
        (Plan.field entries ⟨f.name, f.owner, f.type, f.type.shape.isOption⟩).2.verdict c.check)
        fields := by
    rw [c.follows_check d]
    simp only [Grammar.planValue, grammar, form, hd, Plan.verdict]
    rw [Verdict.each_map, Verdict.each_map]
  -- Fields that show the same are told the same verdict, so the first that is refused is the same one.
  rw [hplan, hplan]
  refine Verdict.lockstep_eq.each_same ?_
  intro f hf
  rw [Plan.verdict_field, Plan.verdict_field, h f.name (List.mem_map_of_mem hf)]

/-! ### Records inside values -/

namespace DataType

/-- Two values that differ in the layout of one dictionary, at any depth, which a type reads as a record.

A field is read from the first entry of its name. Where several fields have that name, up to case, the values
differ in this way for each of them, or it reads neither of the two. -/
inductive Relaid : DataType → Value → Value → Prop
  | record {type : DataType} {names : List String} {entries entries' : List (String × Value)} :
    type.fieldNames? = some names → SameUnder names entries entries' →
      Relaid type (.dict entries) (.dict entries')
  | boxed {item : DataType} {v v' : Value} : Relaid item v v' → Relaid (.boxed item) v v'
  | named {item : DataType} {v v' : Value} (name description : String) :
    Relaid item v v' → Relaid (.named name description item) v v'
  | list {item : DataType} {w w' : Value} (before after : List Value) :
    Relaid item w w' → Relaid (.list item) (.seq (before ++ w :: after)) (.seq (before ++ w' :: after))
  | array {item : DataType} {w w' : Value} (before after : List Value) :
    Relaid item w w' → Relaid (.array item) (.seq (before ++ w :: after)) (.seq (before ++ w' :: after))
  | option {item : DataType} {w w' : Value} :
    Relaid item w w' → Relaid (.option item) (.seq [w]) (.seq [w'])
  | first {first second : DataType} {a a' : Value} (b : Value) :
    Relaid first a a' → Relaid (.pair first second) (.seq [a, b]) (.seq [a', b])
  | second {first second : DataType} {b b' : Value} (a : Value) :
    Relaid second b b' → Relaid (.pair first second) (.seq [a, b]) (.seq [a, b'])
  | entry {item : DataType} {w w' : Value} (order : MapOrder) (key : KeyType) (text : String)
    (before after : List (String × Value)) :
    Relaid item w w' → Relaid (.map order key item) (.dict (before ++ (text, w) :: after))
      (.dict (before ++ (text, w') :: after))
  | field {fields : List FieldType} {w w' : Value} {key : String} {before : List (String × Value)}
    (name description : String) (after : List (String × Value)) :
    (∀ e ∈ before, Text.lowerCase key ≠ Text.lowerCase e.1) →
      (∀ f ∈ fields, Text.lowerCase f.name = Text.lowerCase key → Relaid f.type w w') →
        Relaid (.record name description fields) (.dict (before ++ (key, w) :: after))
          (.dict (before ++ (key, w') :: after))
  | payload {cases : List CaseType} {type : DataType} {w w' : Value} {tag tag' about : String}
    (name description : String) :
    (cases.find? fun k => Text.lowerCase tag == Text.lowerCase k.tag) = some ⟨tag', about, some type⟩ →
      Relaid type w w' → Relaid (.variant name description cases) (.seq [.string tag, w])
        (.seq [.string tag, w'])
  | chain {v v' : Value} (description about about' : String) :
    Relaid (.record "chain" description
      [⟨"head", about, .int64⟩, ⟨"tail", about', .option .chain⟩]) v v' → Relaid .chain v v'
  | neither {type : DataType} {v v' : Value} :
    (∀ x, type.decode v ≠ .ok x) → (∀ x, type.decode v' ≠ .ok x) → Relaid type v v'

/-- Whether two values are read as the same, or neither is read. Which error there is when neither is read is
left open, since errors quote what they are about. -/
def ReadSame (type : DataType) (v v' : Value) : Prop :=
  ∀ x, type.decode v = .ok x ↔ type.decode v' = .ok x

/-- Lists read the same if an item is exchanged for one that does. -/
theorem mapM_eq_ok_replace {ε α β : Type} {read : α → Except ε β} {a a' : α}
    (h : ∀ b, read a = .ok b ↔ read a' = .ok b) (before after : List α) {bs : List β} :
    (before ++ a :: after).mapM read = .ok bs ↔ (before ++ a' :: after).mapM read = .ok bs := by
  rw [mapM_eq_ok_iff, mapM_eq_ok_iff]
  -- Read or not, the items in front are the same ones, so it is up to the one exchanged.
  induction before generalizing bs with
  | nil => simp only [List.nil_append, List.forall₂_cons_left_iff, h]
  | cons x before ih => simp only [List.cons_append, List.forall₂_cons_left_iff, ih]

/-- So do sequences. -/
theorem ReadSame.items {item : DataType} {w w' : Value} (h : item.ReadSame w w') (expected : String)
    (before after : List Value) (xs : List item.Carrier) :
    Decoder.items expected item.decode (.seq (before ++ w :: after)) = .ok xs ↔
      Decoder.items expected item.decode (.seq (before ++ w' :: after)) = .ok xs :=
  mapM_eq_ok_replace h before after

/-- So do dictionaries that are read as maps. -/
theorem ReadSame.map {item : DataType} {w w' : Value} (h : item.ReadSame w w') (key : KeyType)
    (text : String) (before after : List (String × Value)) (m : SortedMap key.Carrier item.Carrier) :
    Decoder.map key item.decode (.dict (before ++ (text, w) :: after)) = .ok m ↔
      Decoder.map key item.decode (.dict (before ++ (text, w') :: after)) = .ok m := by
  -- The text of the key is the same, so the entry reads the same if its item does.
  have hentry (n : key.Carrier × item.Carrier) :
      Decoder.entry key item.decode (text, w) = .ok n ↔
        Decoder.entry key item.decode (text, w') = .ok n := by
    rw [Decoder.entry_eq_ok_iff, Decoder.entry_eq_ok_iff, h]
  simp only [Decoder.map_dict, map_eq_ok_iff, mapM_eq_ok_replace hentry]

/-- Records read the same if all their fields do. -/
theorem decodeFields_eq_ok_congr {r r' : RecordReader} : ∀ {fields : List FieldType},
    (∀ f ∈ fields, ∀ x, r.field f.type.decode f.type.absent f.name = .ok x ↔
      r'.field f.type.decode f.type.absent f.name = .ok x) →
        ∀ xs, decodeFields fields r = .ok xs ↔ decodeFields fields r' = .ok xs
  | [], _, _ => Iff.rfl
  | ⟨name, description, type⟩ :: rest, h, xs => by
    obtain ⟨hfirst, hrest⟩ := List.forall_mem_cons.1 h
    simp only [decodeFields, bind_eq_ok_iff, hfirst, decodeFields_eq_ok_congr hrest]

/-- A field reads the same if what shows under its name does. -/
theorem field_eq_ok_congr {owner key : String} {before : List (String × Value)} {w w' : Value}
    {f : FieldType} (after : List (String × Value))
    (hbefore : ∀ e ∈ before, Text.lowerCase key ≠ Text.lowerCase e.1)
    (h : Text.lowerCase f.name = Text.lowerCase key → f.type.ReadSame w w') (x : f.type.Carrier) :
    (RecordReader.ofEntries owner (before ++ (key, w) :: after)).field f.type.decode f.type.absent
        f.name = .ok x ↔
      (RecordReader.ofEntries owner (before ++ (key, w') :: after)).field f.type.decode f.type.absent
        f.name = .ok x := by
  have hunder (w : Value) : Value.under? (before ++ (key, w) :: after) f.name =
      if Text.lowerCase f.name = Text.lowerCase key then some w
      else Value.under? (before ++ after) f.name := by
    rw [Value.under?_append, Value.under?_append, Value.under?_cons]
    by_cases hname : Text.lowerCase f.name = Text.lowerCase key
    · -- Nothing in front has this name, so the field gets the entry that was exchanged.
      have hnone : Value.under? before f.name = none := by
        unfold Value.under?
        rw [Option.map_eq_none_iff, List.find?_eq_none]
        intro e he hmatches
        exact hbefore e he (hname.symm.trans (beq_iff_eq.1 hmatches))
      rw [if_pos hname, if_pos hname, hnone, Option.none_or]
    · rw [if_neg hname, if_neg hname]
  -- A field of another name does not notice; one of this name reads the same by assumption.
  rw [RecordReader.field_eq_ok_iff, RecordReader.field_eq_ok_iff, hunder, hunder]
  by_cases hname : Text.lowerCase f.name = Text.lowerCase key
  · simp only [if_pos hname, Option.some.injEq, exists_eq_left', reduceCtorEq, false_and, or_false]
    exact h hname x
  · rw [if_neg hname, if_neg hname]

/-- A variant reads the same if the payload of its tag does. -/
theorem decodeCase_eq_ok_congr {name tag tag' about : String} {w w' : Value} {type : DataType}
    (h : type.ReadSame w w') : ∀ {cases : List CaseType},
    (cases.find? fun k => Text.lowerCase tag == Text.lowerCase k.tag) = some ⟨tag', about, some type⟩ →
      ∀ x, decodeCase cases ⟨name, tag, some w⟩ = .ok x ↔ decodeCase cases ⟨name, tag, some w'⟩ = .ok x
  | ⟨first, description, payload⟩ :: rest, hfind, x => by
    have his (w : Value) : VariantReader.is ⟨name, tag, some w⟩ first =
        (Text.lowerCase tag == Text.lowerCase first) := rfl
    cases hfirst : Text.lowerCase tag == Text.lowerCase first with
    -- This is the case that the tag stands for.
    | true =>
      simp only [List.find?_cons, hfirst] at hfind
      cases hfind
      simp only [decodeCase, his, hfirst, if_true, map_eq_ok_iff]
      exact exists_congr fun y => and_congr_left' (h y)
    -- This one is passed by, with whatever payload.
    | false =>
      simp only [List.find?_cons, hfirst] at hfind
      have hrest (y : CaseCarriers rest) : decodeCase rest ⟨name, tag, some w⟩ = .ok y ↔
          decodeCase rest ⟨name, tag, some w'⟩ = .ok y := decodeCase_eq_ok_congr h hfind y
      cases payload <;>
        simp only [decodeCase, his, hfirst, Bool.false_eq_true, if_false, map_eq_ok_iff, hrest]

/-- A chain is read as a record. -/
theorem decode_chain (description about about' : String) (v : Value) :
    IntChain.decode v = (fun r => IntChain.mk r.1 r.2.1) <$> decode (.record "chain" description
      [⟨"head", about, .int64⟩, ⟨"tail", about', .option .chain⟩]) v := by
  cases v with
  -- Both look `head` up first and `tail` after it; only the results are packed differently.
  | dict entries =>
    rw [IntChain.decode_eq]
    simp only [RecordReader.ofValue_dict, decode, decodeFields, absent, bind, Except.bind]
    cases (RecordReader.ofEntries "chain" entries).field Decoder.int64 none "head" with
    | error e => rfl
    | ok head =>
      cases (RecordReader.ofEntries "chain" entries).field (Decoder.option IntChain.decode) (some none)
        "tail" <;> rfl
  | _ => rfl

/-- **Relaid values read as the same.** -/
theorem Relaid.readSame {type : DataType} {v v' : Value} (h : type.Relaid v v') :
    type.ReadSame v v' := by
  -- Every place around the dictionary passes on what it is read as, and so does every field.
  induction h with
  | record hnames hsame =>
    intro x
    rw [decode_eq_of_sameUnder hsame _ hnames]
  | boxed _ ih => exact ih
  | named _ _ _ ih => exact ih
  | list before after _ ih => exact ih.items "list" before after
  | array before after _ ih => exact ih.items "array" before after
  | option _ ih =>
    intro x
    simp only [decode, Decoder.option, map_eq_ok_iff]
    exact exists_congr fun y => and_congr_left' (ih y)
  | first b _ ih =>
    rintro ⟨x, y⟩
    simp only [decode, Decoder.pair, bind_eq_ok_iff]
    exact exists_congr fun z => and_congr_left' (ih z)
  | second a _ ih =>
    intro x
    simp only [decode, Decoder.pair, bind_eq_ok_iff]
    exact exists_congr fun y => and_congr_right' (exists_congr fun z => and_congr_left' (ih z))
  | entry order key text before after _ ih => exact ih.map key text before after
  | field name description after hbefore _ ih =>
    refine decodeFields_eq_ok_congr ?_
    intro f hf
    exact field_eq_ok_congr after hbefore (ih f hf)
  | payload name description hfind _ ih => exact decodeCase_eq_ok_congr ih hfind
  | @chain v v' description about about' _ ih =>
    intro x
    show IntChain.decode v = .ok x ↔ IntChain.decode v' = .ok x
    rw [decode_chain description about about', decode_chain description about about', map_eq_ok_iff,
      map_eq_ok_iff]
    exact exists_congr fun r => and_congr_left' (ih r)
  | neither hleft hright => exact fun x => ⟨fun h => absurd h (hleft x), fun h => absurd h (hright x)⟩

end DataType

/-! ### The statement -/

/-- **The layout of records does not matter.** Dictionaries that show the same under the names of all fields
decode to the same result, as any type that is a record, and are validated alike. Entries in another order,
keys in another case, entries that no field matches and entries behind another one of the same name leave
what shows. Inside other values, such a change leaves what the whole value is read as, and whether it is. -/
theorem layout_does_not_matter :
    (∀ (type : DataType) names, type.fieldNames? = some names →
        ∀ entries entries', SameUnder names entries entries' →
          type.decode (.dict entries) = type.decode (.dict entries')) ∧
      (∀ (c : Validator) (d : Descriptor) fields, d.shape = .record fields →
        ∀ entries entries', SameUnder (fields.map (·.name)) entries entries' →
          c.check d (.dict entries) = c.check d (.dict entries')) ∧
      (∀ names entries entries', Value.Rearranged names entries entries' →
        SameUnder names entries entries') ∧
      ∀ (type : DataType) v v', type.Relaid v v' →
        ∀ x, type.decode v = .ok x ↔ type.decode v' = .ok x :=
  ⟨fun type _ hnames _ _ h => DataType.decode_eq_of_sameUnder h type hnames,
    fun c _ _ hd _ _ h => c.check_eq_of_sameUnder hd h,
    fun _ _ _ h => h.sameUnder,
    fun _ _ _ h => h.readSame⟩

/-- A point among others, with its fields in the other order and in another case, a second `y`, and something
else. -/
theorem layout_does_not_matter_points :
    let tidy : List (String × Value) := [("x", .int 1), ("y", .int 2)]
    let untidy : List (String × Value) := [("Y", .int 2), ("x", .int 1), ("z", .null), ("y", .null)]
    let points (entries : List (String × Value)) : Value := .seq [.dict tidy, .dict entries]
    Sample.point.decode (.dict untidy) = Sample.point.decode (.dict tidy) ∧
      ∀ x, (DataType.list Sample.point).decode (points untidy) = .ok x ↔
        (DataType.list Sample.point).decode (points tidy) = .ok x := by
  intro tidy untidy points
  obtain ⟨hdecode, -, hsame, hrelaid⟩ := layout_does_not_matter
  have hrearranged : Value.Rearranged ["x", "y"] untidy tidy := by
    -- Without the second `y`, then without `z`, then in lower case, then in order.
    let front : List (String × Value) := [("Y", .int 2), ("x", .int 1)]
    have hmem : ("Y", Value.int 2) ∈ front ++ [("z", .null)] := List.mem_cons_self
    have hhidden : Value.Rearranged ["x", "y"] untidy (front ++ [("z", .null)] ++ []) :=
      .hidden .null [] hmem rfl
    have hunmatched : Value.Rearranged ["x", "y"] (front ++ [("z", .null)]) (front ++ []) :=
      .unmatched .null front [] (by decide)
    have hrecased : Value.Rearranged ["x", "y"] front [("y", .int 2), ("x", .int 1)] :=
      .recased (.cons ⟨rfl, rfl⟩ (.cons ⟨rfl, rfl⟩ .nil))
    have hpermuted : Value.Rearranged ["x", "y"] [("y", .int 2), ("x", .int 1)] tidy := by
      refine .permuted (.swap ..) ?_
      intro key
      have hne : Text.lowerCase "x" ≠ Text.lowerCase "y" := by decide
      -- There is one entry at most under each key, so there is no order to keep.
      by_cases hx : Text.lowerCase key = Text.lowerCase "x" <;>
        simp [tidy, List.filter_cons, hx, hne]
    exact hhidden.trans (hunmatched.trans (hrecased.trans hpermuted))
  have hshown := hsame _ _ _ hrearranged
  have hnames : Sample.point.fieldNames? = some ["x", "y"] := rfl
  exact ⟨hdecode _ _ hnames _ _ hshown,
    hrelaid _ _ _ (.list [.dict tidy] [] (.record hnames hshown))⟩

/-- One field reads a dictionary as a record, another one of the same name reads it as a map. The keys of
the map show in which case they were written. -/
theorem recased_under_two_names :
    let both : DataType :=
      .record "both" "" [⟨"at", "", Sample.point⟩, ⟨"AT", "", .map .byKey .string .int64⟩]
    let entries (x : String) : List (String × Value) := [(x, .int 1), ("y", .int 2)]
    let v (x : String) : Value := .dict [("at", .dict (entries x))]
    Sample.point.fieldNames? = some ["x", "y"] ∧
      Value.Rearranged ["x", "y"] (entries "x") (entries "X") ∧
      ∃ a b, both.decode (v "x") = .ok a ∧ both.decode (v "X") = .ok b ∧ a ≠ b := by
  intro both entries v
  -- The keys of the map are enough to tell the two results apart.
  have hkeys (x : String) (keys : List String)
      (h : (fun a => a.2.1.keys) <$> both.decode (v x) = .ok keys) :
      ∃ a, both.decode (v x) = .ok a ∧ a.2.1.keys = keys := map_eq_ok_iff.1 h
  obtain ⟨a, ha, hlower⟩ := hkeys "x" ["x", "y"] (by decide)
  obtain ⟨b, hb, hupper⟩ := hkeys "X" ["X", "y"] (by decide)
  refine ⟨rfl, .recased (.cons ⟨rfl, rfl⟩ (.cons ⟨rfl, rfl⟩ .nil)), a, b, ha, hb, ?_⟩
  rintro rfl
  exact absurd (hlower.symm.trans hupper) (by decide)

end Wirecall
