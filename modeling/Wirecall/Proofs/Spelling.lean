import Wirecall.Proofs.Acceptance

/-!
# The wire language of a type

Writing gives each native value one wire form, but reading takes many: `DataType.Spells type v x` says
that `v` is a *spelling* of `x`. It is the documented language, said by recursion on the type and
without a decoder:

* a plain value has its wire form as its only spelling, a character the code point that is its own;
* lists, arrays, pairs and options are sequences of the right length whose items spell the parts;
* a map is a dictionary all of whose entries spell something, and of the entries with one key the first
  counts;
* a record is a dictionary in which each field is spelled by the first entry of its name in any case,
  or is an absent option, and other entries do not matter;
* a variant is a tag in one of its three written forms (`Value.TagForm`), and the case is the first
  whose tag is that one in any case.

The decoder accepts exactly this language (`DataType.decode_eq_ok_iff_spells`). Soundness
(`spells_of_decode`) and completeness (`decode_of_spells`) are two inductions on the type, mutual with
its fields and its cases; the recursive types bring an induction of their own.
-/

namespace Wirecall

/-! ### The recursive types -/

/-- The spellings of a tree. A leaf holds an integer and a node two trees, so neither can be written
without a payload. -/
inductive IntTree.Spells : Value → IntTree → Prop
  | leaf {v : Value} {tag : String} {n : Int64}
    (form : v.TagForm tag (some (.int n)))
    (name : Text.lowerCase tag = Text.lowerCase "Leaf") :
    Spells v (.leaf n)
  | node {v a b : Value} {tag : String} {left right : IntTree}
    (form : v.TagForm tag (some (.seq [a, b])))
    (name : Text.lowerCase tag = Text.lowerCase "Node")
    (first : Spells a left) (second : Spells b right) :
    Spells v (.node left right)

/-- The spellings of a chain. The last link leaves its tail out or has an empty one. -/
inductive IntChain.Spells : Value → IntChain → Prop
  | last {entries : List (String × Value)} {n : Int64}
    (head : Value.under? entries "head" = some (.int n))
    (tail : Value.under? entries "tail" = none ∨ Value.under? entries "tail" = some (.seq [])) :
    Spells (.dict entries) ⟨n, none⟩
  | link {entries : List (String × Value)} {n : Int64} {v : Value} {rest : IntChain}
    (head : Value.under? entries "head" = some (.int n))
    (tail : Value.under? entries "tail" = some (.seq [v]))
    (next : Spells v rest) :
    Spells (.dict entries) ⟨n, some rest⟩

namespace IntTree

theorem node_ne_leaf {tag : String} (h : Text.lowerCase tag = Text.lowerCase "Node") :
    Text.lowerCase tag ≠ Text.lowerCase "Leaf" := by
  rw [h]
  decide +kernel

theorem decode_of_spells {v : Value} {t : IntTree} (h : Spells v t) : decode v = .ok t := by
  induction h with
  | leaf form name =>
    rw [decode_eq, bind_eq_ok_iff]
    refine ⟨⟨"tree", _, _⟩, VariantReader.ofValue_eq_ok_iff.2 ⟨rfl, form⟩, ?_⟩
    -- The tag is that of leaves, and the payload is there to be read.
    rw [if_pos (VariantReader.is_iff.2 name)]
    rfl
  | node form name first second ihl ihr =>
    rw [decode_eq, bind_eq_ok_iff]
    refine ⟨⟨"tree", _, _⟩, VariantReader.ofValue_eq_ok_iff.2 ⟨rfl, form⟩, ?_⟩
    -- The case of leaves comes first, and the tag of a node is not theirs.
    rw [if_neg fun h => node_ne_leaf name (VariantReader.is_iff.1 h),
      if_pos (VariantReader.is_iff.2 name), map_eq_ok_iff]
    exact ⟨(_, _), Decoder.pair_eq_ok_iff.2 ⟨_, _, rfl, ihl, ihr⟩, rfl⟩

theorem spells_of_decode {v : Value} {t : IntTree} (h : decode v = .ok t) : Spells v t := by
  -- On the tree that was read. Each constructor comes out of one branch of the reader only.
  induction t generalizing v with
  | leaf n =>
    rw [decode_eq, bind_eq_ok_iff] at h
    obtain ⟨⟨variant, tag, payload⟩, hr, h⟩ := h
    have form := (VariantReader.ofValue_eq_ok_iff.1 hr).2
    split at h
    next hleaf =>
      obtain ⟨m, hm, heq⟩ := map_eq_ok_iff.1 h
      cases heq
      -- An integer is not null, so the payload was there.
      have hpayload := VariantReader.payload_eq_some (Decoder.int64_eq_ok_iff.1 hm) (by simp)
      cases hpayload
      exact .leaf form (VariantReader.is_iff.1 hleaf)
    -- No other tag gives a leaf.
    next =>
      split at h
      next =>
        obtain ⟨_, _, heq⟩ := map_eq_ok_iff.1 h
        cases heq
      next => cases h
  | node left right ihl ihr =>
    rw [decode_eq, bind_eq_ok_iff] at h
    obtain ⟨⟨variant, tag, payload⟩, hr, h⟩ := h
    have form := (VariantReader.ofValue_eq_ok_iff.1 hr).2
    split at h
    next =>
      obtain ⟨_, _, heq⟩ := map_eq_ok_iff.1 h
      cases heq
    next =>
      split at h
      next hnode =>
        -- The payload is a pair, of which both items are read as trees.
        obtain ⟨⟨x, y⟩, hpair, heq⟩ := map_eq_ok_iff.1 h
        cases heq
        obtain ⟨a, b, hab, ha, hb⟩ := Decoder.pair_eq_ok_iff.1 hpair
        have hpayload := VariantReader.payload_eq_some hab (by simp)
        cases hpayload
        exact .node form (VariantReader.is_iff.1 hnode) (ihl ha) (ihr hb)
      next => cases h

end IntTree

namespace IntChain

theorem decode_of_spells {v : Value} {c : IntChain} (h : Spells v c) : decode v = .ok c := by
  induction h with
  | @last entries n head tail =>
    rw [decode_eq, bind_eq_ok_iff]
    refine ⟨_, RecordReader.ofValue_dict "chain" entries, bind_eq_ok_iff.2 ⟨n, ?_, ?_⟩⟩
    · exact RecordReader.field_eq_ok_iff.2 (.inl ⟨_, head, rfl⟩)
    · refine bind_eq_ok_iff.2 ⟨none, RecordReader.field_eq_ok_iff.2 ?_, rfl⟩
      -- A tail that is left out and an empty one come to the same.
      rcases tail with habsent | hempty
      · exact .inr ⟨habsent, rfl⟩
      · exact .inl ⟨_, hempty, rfl⟩
  | @link entries n w rest head tail next ih =>
    rw [decode_eq, bind_eq_ok_iff]
    refine ⟨_, RecordReader.ofValue_dict "chain" entries, bind_eq_ok_iff.2 ⟨n, ?_, ?_⟩⟩
    · exact RecordReader.field_eq_ok_iff.2 (.inl ⟨_, head, rfl⟩)
    · refine bind_eq_ok_iff.2 ⟨some rest, RecordReader.field_eq_ok_iff.2 ?_, rfl⟩
      exact .inl ⟨_, tail, Decoder.option_eq_ok_some_iff.2 ⟨w, rfl, ih⟩⟩

/-- What reading a chain finds: its head, and its tail unless it was left out. -/
theorem fields_of_decode {v : Value} {n : Int64} {tail : Option IntChain}
    (h : decode v = .ok ⟨n, tail⟩) :
    ∃ entries, v = .dict entries ∧ Value.under? entries "head" = some (.int n) ∧
      ((∃ w, Value.under? entries "tail" = some w ∧ Decoder.option decode w = .ok tail) ∨
        Value.under? entries "tail" = none ∧ tail = none) := by
  rw [decode_eq, bind_eq_ok_iff] at h
  obtain ⟨r, hr, h⟩ := h
  obtain ⟨entries, rfl, rfl⟩ := RecordReader.ofValue_eq_ok_iff.1 hr
  obtain ⟨m, hhead, h⟩ := bind_eq_ok_iff.1 h
  obtain ⟨rest, htail, h⟩ := bind_eq_ok_iff.1 h
  cases h
  refine ⟨entries, rfl, ?_, ?_⟩
  · -- The head cannot be left out, as there is no value for that.
    rcases RecordReader.field_eq_ok_iff.1 hhead with ⟨w, hw, hdecode⟩ | ⟨_, habsent⟩
    · rw [hw, Decoder.int64_eq_ok_iff.1 hdecode]
    · cases habsent
  · exact (RecordReader.field_eq_ok_iff.1 htail).imp_right fun h => ⟨h.1, (Option.some.inj h.2).symm⟩

theorem spells_of_decode : ∀ (c : IntChain) {v : Value}, decode v = .ok c → Spells v c
  | ⟨n, none⟩, _, h => by
    obtain ⟨entries, rfl, head, tail⟩ := fields_of_decode h
    rcases tail with ⟨w, hw, hdecode⟩ | ⟨habsent, _⟩
    · have hempty : w = .seq [] := Decoder.option_eq_ok_none_iff.1 hdecode
      exact .last head (.inr (hempty ▸ hw))
    · exact .last head (.inl habsent)
  | ⟨n, some rest⟩, _, h => by
    obtain ⟨entries, rfl, head, tail⟩ := fields_of_decode h
    rcases tail with ⟨w, hw, hdecode⟩ | ⟨_, habsent⟩
    · -- The rest of a chain is a part of it, so this is recursion on the chain.
      obtain ⟨link, rfl, hlink⟩ := Decoder.option_eq_ok_some_iff.1 hdecode
      exact .link head hw (spells_of_decode rest hlink)
    · cases habsent

end IntChain

/-! ### All types -/

namespace DataType

mutual
/-- Whether a value is a spelling of a native value. The recursion is on the type alone; the values that are
quantified are those that one finds in the spelling. -/
def Spells : (type : DataType) → Value → type.Carrier → Prop
  | .int64, v, n | .int, v, n => v = .int n
  | .int32, v, n => v = .int32 n
  | .bool, v, b => v = .bool b
  | .float, v, x => v = .float x
  | .string, v, s => v = .string s
  | .char, v, c => ∃ code : Int64, v = .int code ∧ code.toInt = c.toNat
  | .unit, v, _ => v = .null
  | .timestamp, v, t => ∃ text, v = .timestamp text ∧ Timestamp.read? text = some t
  | .list item, v, xs | .array item, v, xs =>
    ∃ values, v = .seq values ∧ List.Forall₂ item.Spells values xs
  | .boxed item, v, x => item.Spells v x
  | .named _ _ item, v, x => item.Spells v x
  | .option _, v, none => v = .seq []
  | .option item, v, some x => ∃ w, v = .seq [w] ∧ item.Spells w x
  | .pair first second, v, (x, y) => ∃ a b, v = .seq [a, b] ∧ first.Spells a x ∧ second.Spells b y
  | .map _ key item, v, m =>
    ∃ (entries : List (String × Value)) (natives : List (key.Carrier × item.Carrier)),
      v = .dict entries ∧
        List.Forall₂ (fun e n => key.read? e.1 = some n.1 ∧ item.Spells e.2 n.2) entries natives ∧
        ∀ k, m.get? k = SortedMap.first? natives k
  | .record _ _ fields, v, x => ∃ entries, v = .dict entries ∧ SpellsFields fields entries x
  | .variant _ _ cases, v, x => ∃ tag payload, v.TagForm tag payload ∧ SpellsCase cases tag payload x
  | .tree, v, t => IntTree.Spells v t
  | .chain, v, c => IntChain.Spells v c
/-- Whether some entries spell the fields of a record. Each field is looked up among all of the entries, so they
may come in any order, and further ones may be among them. -/
def SpellsFields : (fields : List FieldType) → List (String × Value) → FieldCarriers fields → Prop
  | [], _, _ => True
  | ⟨name, _, type⟩ :: rest, entries, (x, xs) =>
    ((∃ v, Value.under? entries name = some v ∧ type.Spells v x) ∨
        Value.under? entries name = none ∧ type.absent = some x) ∧
      SpellsFields rest entries xs
/-- Whether a tag and a payload spell a case. A payload that is left out stands for null, and a case
without a payload puts up with null. -/
def SpellsCase : (cases : List CaseType) → String → Option Value → CaseCarriers cases → Prop
  | ⟨name, _, none⟩ :: _, tag, payload, .inl _ =>
    Text.lowerCase tag = Text.lowerCase name ∧ (payload = none ∨ payload = some .null)
  | ⟨name, _, some type⟩ :: _, tag, payload, .inl x =>
    Text.lowerCase tag = Text.lowerCase name ∧ type.Spells (payload.getD .null) x
  | ⟨name, _, none⟩ :: rest, tag, payload, .inr x =>
    Text.lowerCase tag ≠ Text.lowerCase name ∧ SpellsCase rest tag payload x
  | ⟨name, _, some _⟩ :: rest, tag, payload, .inr x =>
    Text.lowerCase tag ≠ Text.lowerCase name ∧ SpellsCase rest tag payload x
end

/-! ### Completeness: every spelling is read -/

mutual
/-- A spelling of a value is read as that value. -/
theorem decode_of_spells : ∀ (type : DataType) {v : Value} {x : type.Carrier},
    type.Spells v x → type.decode v = .ok x
  | .int64, _, _, h => Decoder.int64_eq_ok_iff.2 h
  | .int, _, _, h => Decoder.int_eq_ok_iff.2 h
  | .int32, _, _, h => Decoder.int32_eq_ok_iff.2 h
  | .bool, _, _, h => Decoder.bool_eq_ok_iff.2 h
  | .float, _, _, h => Decoder.float_eq_ok_iff.2 h
  | .string, _, _, h => Decoder.string_eq_ok_iff.2 h
  | .char, _, _, h => Decoder.char_eq_ok_iff.2 h
  | .unit, _, _, h => Decoder.unit_eq_ok_iff.2 h
  | .timestamp, _, _, h => Decoder.timestamp_eq_ok_iff.2 h
  | .list item, _, _, h | .array item, _, _, h => by
    obtain ⟨values, hv, hitems⟩ := h
    have hread := hitems.imp fun _ _ => decode_of_spells item
    exact Decoder.items_eq_ok_iff.2 ⟨values, hv, hread⟩
  | .boxed item, _, _, h => decode_of_spells item h
  | .named _ _ item, _, _, h => decode_of_spells item h
  | .option _, _, none, h => Decoder.option_eq_ok_none_iff.2 h
  | .option item, _, some _, h => by
    obtain ⟨w, hv, hw⟩ := h
    rw [decode, Decoder.option_eq_ok_some_iff]
    exact ⟨w, hv, decode_of_spells item hw⟩
  | .pair first second, _, (_, _), h => by
    obtain ⟨a, b, hv, ha, hb⟩ := h
    have hfirst := decode_of_spells first ha
    have hsecond := decode_of_spells second hb
    rw [decode, Decoder.pair_eq_ok_iff]
    exact ⟨a, b, hv, hfirst, hsecond⟩
  | .map _ key item, _, _, h => by
    -- The keys are read on both sides; only the items are spelled on one and decoded on the other.
    obtain ⟨entries, natives, hv, hentries, hm⟩ := h
    rw [decode, Decoder.map_eq_ok_iff]
    refine ⟨entries, natives, hv, hentries.imp ?_, hm⟩
    rintro e n ⟨hkey, hitem⟩
    exact ⟨hkey, decode_of_spells item hitem⟩
  | .record name _ fields, _, xs, h => by
    obtain ⟨entries, rfl, hfields⟩ := h
    have hread : decodeFields fields (RecordReader.ofEntries name entries) = .ok xs :=
      decodeFields_of_spells fields hfields
    rw [decode, bind_eq_ok_iff]
    exact ⟨_, RecordReader.ofValue_dict name entries, hread⟩
  | .variant name _ cases, v, _, h => by
    obtain ⟨tag, payload, form, hcase⟩ := h
    have htag : VariantReader.ofValue name v = .ok ⟨name, tag, payload⟩ :=
      VariantReader.ofValue_eq_ok_iff.2 ⟨rfl, form⟩
    exact bind_eq_ok_iff.2 ⟨⟨name, tag, payload⟩, htag, decodeCase_of_spells cases hcase⟩
  | .tree, _, _, h => IntTree.decode_of_spells h
  | .chain, _, _, h => IntChain.decode_of_spells h
theorem decodeFields_of_spells : ∀ (fields : List FieldType) {owner : String}
    {entries : List (String × Value)} {xs : FieldCarriers fields},
    SpellsFields fields entries xs →
      decodeFields fields (RecordReader.ofEntries owner entries) = .ok xs
  | [], _, _, _, _ => rfl
  | ⟨name, _, type⟩ :: rest, owner, entries, (x, xs), h => by
    obtain ⟨hfield, hrest⟩ := h
    have hx : (RecordReader.ofEntries owner entries).field type.decode type.absent name = .ok x := by
      rw [RecordReader.field_eq_ok_iff]
      -- The field has an entry, or it is an option that may be left out.
      rcases hfield with ⟨v, hv, hx⟩ | habsent
      · exact .inl ⟨v, hv, decode_of_spells type hx⟩
      · exact .inr habsent
    exact bind_eq_ok_iff.2 ⟨x, hx, bind_eq_ok_iff.2 ⟨xs, decodeFields_of_spells rest hrest, rfl⟩⟩
theorem decodeCase_of_spells : ∀ (cases : List CaseType) {variant tag : String}
    {payload : Option Value} {x : CaseCarriers cases},
    SpellsCase cases tag payload x → decodeCase cases ⟨variant, tag, payload⟩ = .ok x
  | ⟨name, _, none⟩ :: _, _, _, _, .inl (), h => by
    rw [decodeCase, if_pos (VariantReader.is_iff.2 h.1), map_eq_ok_iff]
    exact ⟨(), VariantReader.unit_eq_ok_iff.2 h.2, rfl⟩
  | ⟨name, _, some type⟩ :: _, _, _, _, .inl x, h => by
    rw [decodeCase, if_pos (VariantReader.is_iff.2 h.1), map_eq_ok_iff]
    exact ⟨x, decode_of_spells type h.2, rfl⟩
  | ⟨name, _, none⟩ :: rest, _, _, _, .inr x, h
  | ⟨name, _, some _⟩ :: rest, _, _, _, .inr x, h => by
    obtain ⟨hne, hrest⟩ := h
    -- The reader passes this case by, whether it has a payload or not.
    rw [decodeCase, if_neg fun hname => hne (VariantReader.is_iff.1 hname), map_eq_ok_iff]
    exact ⟨x, decodeCase_of_spells rest hrest, rfl⟩
end

/-! ### Soundness: whatever is read is a spelling -/

mutual
/-- What is read as a value is a spelling of it. The cases are those of the other direction, read backwards. -/
theorem spells_of_decode : ∀ (type : DataType) {v : Value} {x : type.Carrier},
    type.decode v = .ok x → type.Spells v x
  | .int64, _, _, h => Decoder.int64_eq_ok_iff.1 h
  | .int, _, _, h => Decoder.int_eq_ok_iff.1 h
  | .int32, _, _, h => Decoder.int32_eq_ok_iff.1 h
  | .bool, _, _, h => Decoder.bool_eq_ok_iff.1 h
  | .float, _, _, h => Decoder.float_eq_ok_iff.1 h
  | .string, _, _, h => Decoder.string_eq_ok_iff.1 h
  | .char, _, _, h => Decoder.char_eq_ok_iff.1 h
  | .unit, _, _, h => Decoder.unit_eq_ok_iff.1 h
  | .timestamp, _, _, h => Decoder.timestamp_eq_ok_iff.1 h
  | .list item, _, _, h | .array item, _, _, h => by
    obtain ⟨values, hv, hitems⟩ := Decoder.items_eq_ok_iff.1 h
    have hspell := hitems.imp fun _ _ => spells_of_decode item
    exact ⟨values, hv, hspell⟩
  | .boxed item, _, _, h => spells_of_decode item h
  | .named _ _ item, _, _, h => spells_of_decode item h
  | .option _, _, none, h => Decoder.option_eq_ok_none_iff.1 h
  | .option item, _, some _, h => by
    obtain ⟨w, hv, hw⟩ := Decoder.option_eq_ok_some_iff.1 h
    exact ⟨w, hv, spells_of_decode item hw⟩
  | .pair first second, _, (_, _), h => by
    obtain ⟨a, b, hv, ha, hb⟩ := Decoder.pair_eq_ok_iff.1 h
    exact ⟨a, b, hv, spells_of_decode first ha, spells_of_decode second hb⟩
  | .map _ key item, _, _, h => by
    obtain ⟨entries, natives, hv, hentries, hm⟩ := Decoder.map_eq_ok_iff.1 h
    refine ⟨entries, natives, hv, hentries.imp ?_, hm⟩
    rintro e n ⟨hkey, hitem⟩
    exact ⟨hkey, spells_of_decode item hitem⟩
  | .record _ _ fields, _, _, h => by
    obtain ⟨r, hr, hfields⟩ := bind_eq_ok_iff.1 h
    obtain ⟨entries, hv, rfl⟩ := RecordReader.ofValue_eq_ok_iff.1 hr
    exact ⟨entries, hv, spellsFields_of_decode fields hfields⟩
  | .variant _ _ cases, _, _, h => by
    obtain ⟨⟨_, tag, payload⟩, hr, hcase⟩ := bind_eq_ok_iff.1 h
    have form := (VariantReader.ofValue_eq_ok_iff.1 hr).2
    exact ⟨tag, payload, form, spellsCase_of_decode cases hcase⟩
  | .tree, _, _, h => IntTree.spells_of_decode h
  | .chain, _, _, h => IntChain.spells_of_decode _ h
theorem spellsFields_of_decode : ∀ (fields : List FieldType) {owner : String}
    {entries : List (String × Value)} {xs : FieldCarriers fields},
    decodeFields fields (RecordReader.ofEntries owner entries) = .ok xs →
      SpellsFields fields entries xs
  | [], _, _, _, _ => trivial
  | ⟨name, _, type⟩ :: rest, _, _, (x, xs), h => by
    -- Fields are read in order, and the record is there when all of them are.
    obtain ⟨y, hy, h⟩ := bind_eq_ok_iff.1 h
    obtain ⟨ys, hys, h⟩ := bind_eq_ok_iff.1 h
    cases h
    refine ⟨?_, spellsFields_of_decode rest hys⟩
    rcases RecordReader.field_eq_ok_iff.1 hy with ⟨v, hv, hx⟩ | habsent
    · exact .inl ⟨v, hv, spells_of_decode type hx⟩
    · exact .inr habsent
theorem spellsCase_of_decode : ∀ (cases : List CaseType) {variant tag : String}
    {payload : Option Value} {x : CaseCarriers cases},
    decodeCase cases ⟨variant, tag, payload⟩ = .ok x → SpellsCase cases tag payload x
  | [], _, _, _, _, h => by cases h
  | ⟨name, _, none⟩ :: rest, _, _, _, x, h => by
    rw [decodeCase] at h
    split at h
    next hname =>
      -- The case is this one: the tags agree, and there is nothing besides.
      obtain ⟨_, hunit, rfl⟩ := map_eq_ok_iff.1 h
      exact ⟨VariantReader.is_iff.1 hname, VariantReader.unit_eq_ok_iff.1 hunit⟩
    next hname =>
      obtain ⟨y, hy, rfl⟩ := map_eq_ok_iff.1 h
      exact ⟨fun heq => hname (VariantReader.is_iff.2 heq), spellsCase_of_decode rest hy⟩
  | ⟨name, _, some type⟩ :: rest, _, _, _, x, h => by
    rw [decodeCase] at h
    split at h
    next hname =>
      obtain ⟨y, hy, rfl⟩ := map_eq_ok_iff.1 h
      exact ⟨VariantReader.is_iff.1 hname, spells_of_decode type hy⟩
    next hname =>
      obtain ⟨y, hy, rfl⟩ := map_eq_ok_iff.1 h
      exact ⟨fun heq => hname (VariantReader.is_iff.2 heq), spellsCase_of_decode rest hy⟩
end

/-- **The decoder accepts exactly the wire language.** A value is read as `x` if and only if it is a
spelling of `x`. -/
theorem decode_eq_ok_iff_spells (type : DataType) (v : Value) (x : type.Carrier) :
    type.decode v = .ok x ↔ type.Spells v x :=
  ⟨spells_of_decode type, decode_of_spells type⟩

end DataType
end Wirecall
