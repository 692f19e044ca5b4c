import Wirecall.Proofs.Spelling
import Wirecall.Proofs.WrittenText
import Wirecall.Sample.Variants

/-!
# Writing and reading back

What is written is read back as it was (`DataType.decode_encode`), for every type and every value that
crosses the wire without loss. `DataType.Lossless` names what is lost otherwise: parts of a second and
far years, fields whose names meet in lower case, and cases behind a case of the same tag.

A map whose keys have no order of their own may list its entries in any order, and `encode` picks one
of them. So the statement is about `DataType.Writes`, which leaves that order open: every wire form of
a value is read back, not only the one that `encode` gives (`writes_encode`).

Nothing is proved about decoders here. A wire form of a value is a spelling of it (`spells_of_writes`),
and every spelling is read as what it spells.
-/

namespace Wirecall

/-- The orders in which a map may list its entries: that of its keys, if it keeps one, and otherwise any. -/
def MapOrder.Lists {α : Type} (order : MapOrder) (entries listed : List α) : Prop :=
  match order with
  | .byKey => listed = entries
  | .byText => listed.Perm entries

theorem MapOrder.Lists.perm {α : Type} {order : MapOrder} {entries listed : List α}
    (h : order.Lists entries listed) : listed.Perm entries := by
  cases order with
  | byKey => exact .of_eq h
  | byText => exact h

/-- A moment that the wire form of timestamps can hold: the start of a second, which may be a leap
second, of a year with four digits. -/
def Timestamp.Writable (t : Timestamp) : Prop :=
  0 ≤ t.year ∧ t.year ≤ 9999 ∧ (t.nano = 0 ∨ t.nano = nanosPerSecond)

/-- Of the moments of a second only its start is where its second starts. -/
theorem Timestamp.wholeSecond_eq_self_iff {t : Timestamp} :
    t.wholeSecond = t ↔ t.nano = 0 ∨ t.nano = nanosPerSecond := by
  constructor
  · -- Its own nanoseconds are those of a start, and there are two of these.
    intro h
    have hnano : t.wholeNano = t.nano := congrArg Timestamp.nano h
    rw [← hnano, wholeNano]
    split
    · exact .inr rfl
    · exact .inl rfl
  · intro h
    have hnano : t.wholeNano = t.nano := by
      rcases h with h | h <;> simp [wholeNano, isLeapSecond, h, nanosPerSecond]
    cases t
    simp_all [wholeSecond]

theorem Timestamp.wholeSecond_of_writable {t : Timestamp} (h : t.Writable) : t.wholeSecond = t :=
  wholeSecond_eq_self_iff.2 h.2.2

theorem IntTree.spells_encode (t : IntTree) : Spells t.encode t := by
  induction t with
  -- Both tags are written with a payload, as both need one.
  | leaf n => exact .leaf (.withPayload _ _) rfl
  | node left right ihl ihr => exact .node (.withPayload _ _) rfl ihl ihr

namespace IntChain

theorem under?_head (head tail : Value) :
    Value.under? [("head", head), ("tail", tail)] "head" = some head := by
  rw [Value.under?_cons, if_pos rfl]

theorem under?_tail (head tail : Value) :
    Value.under? [("head", head), ("tail", tail)] "tail" = some tail := by
  -- The entry in front is not taken for this one.
  have hne : Text.lowerCase "tail" ≠ Text.lowerCase "head" := by decide +kernel
  rw [Value.under?_cons, if_neg hne, Value.under?_cons, if_pos rfl]

theorem spells_encode : ∀ c : IntChain, Spells c.encode c
  | ⟨_, none⟩ => .last (under?_head _ _) (.inr (under?_tail _ _))
  | ⟨_, some tail⟩ => .link (under?_head _ _) (under?_tail _ _) tail.spells_encode

end IntChain

namespace DataType

/-! ### Values that cross without loss -/

mutual
/-- Whether a value can be told from all others by its wire form. Timestamps have to be writable, the
fields of each record need names that stay different in lower case, and no case of a variant may
stand behind one of the same tag. -/
def Lossless : (type : DataType) → type.Carrier → Prop
  | .timestamp, t => t.Writable
  | .list item, xs | .array item, xs => ∀ x ∈ xs, item.Lossless x
  | .boxed item, x => item.Lossless x
  | .named _ _ item, x => item.Lossless x
  | .option _, none => True
  | .option item, some x => item.Lossless x
  | .pair first second, (x, y) => first.Lossless x ∧ second.Lossless y
  | .map _ _ item, m => ∀ e ∈ m.entries, item.Lossless e.2
  | .record _ _ fields, xs =>
    (fields.map fun f => Text.lowerCase f.name).Nodup ∧ LosslessFields fields xs
  | .variant _ _ cases, x => LosslessCase [] cases x
  | .int64, _ | .int, _ | .int32, _ | .bool, _ | .float, _ | .string, _ | .char, _ | .unit, _
  | .tree, _ | .chain, _ => True
/-- Whether all fields cross without loss. -/
def LosslessFields : (fields : List FieldType) → FieldCarriers fields → Prop
  | [], _ => True
  | ⟨_, _, type⟩ :: rest, (x, xs) => type.Lossless x ∧ LosslessFields rest xs
/-- Whether a case crosses without loss, behind cases whose tags are these in lower case. -/
def LosslessCase (earlier : List String) : (cases : List CaseType) → CaseCarriers cases → Prop
  | ⟨tag, _, none⟩ :: _, .inl _ => Text.lowerCase tag ∉ earlier
  | ⟨tag, _, some payload⟩ :: _, .inl x => Text.lowerCase tag ∉ earlier ∧ payload.Lossless x
  | ⟨tag, _, none⟩ :: rest, .inr x => LosslessCase (Text.lowerCase tag :: earlier) rest x
  | ⟨tag, _, some _⟩ :: rest, .inr x => LosslessCase (Text.lowerCase tag :: earlier) rest x
end

/-! ### Wire forms -/

mutual
/-- Whether a value is a wire form of a native value: what `encode` gives, or the same with the entries
of maps without an order of their own listed in another order. -/
def Writes : (type : DataType) → type.Carrier → Value → Prop
  | .list item, xs, v | .array item, xs, v =>
    ∃ values, v = .seq values ∧ List.Forall₂ item.Writes xs values
  | .boxed item, x, v => item.Writes x v
  | .named _ _ item, x, v => item.Writes x v
  | .option _, none, v => v = .seq []
  | .option item, some x, v => ∃ w, v = .seq [w] ∧ item.Writes x w
  | .pair first second, (x, y), v => ∃ a b, v = .seq [a, b] ∧ first.Writes x a ∧ second.Writes y b
  | .map order key item, m, v =>
    ∃ (listed : List (key.Carrier × item.Carrier)) (entries : List (String × Value)),
      order.Lists m.entries listed ∧ v = .dict entries ∧
        List.Forall₂ (fun n e => e.1 = key.write n.1 ∧ item.Writes n.2 e.2) listed entries
  | .record _ _ fields, xs, v => ∃ entries, v = .dict entries ∧ WritesFields fields xs entries
  | .variant _ _ cases, x, v => WritesCase cases x v
  | type, x, v => v = type.encode x
/-- Whether some entries are the fields of a record in order. Unlike on the way in, nothing may be left out or
come in between. -/
def WritesFields : (fields : List FieldType) → FieldCarriers fields → List (String × Value) → Prop
  | [], _, entries => entries = []
  | ⟨name, _, type⟩ :: rest, (x, xs), entries =>
    ∃ v more, entries = (name, v) :: more ∧ type.Writes x v ∧ WritesFields rest xs more
/-- Whether a value is a wire form of a case. -/
def WritesCase : (cases : List CaseType) → CaseCarriers cases → Value → Prop
  | ⟨tag, _, none⟩ :: _, .inl _, v => v = .tagged tag none
  | ⟨tag, _, some payload⟩ :: _, .inl x, v => ∃ w, v = .tagged tag (some w) ∧ payload.Writes x w
  | ⟨_, _, none⟩ :: rest, .inr x, v => WritesCase rest x v
  | ⟨_, _, some _⟩ :: rest, .inr x, v => WritesCase rest x v
end

mutual
/-- What `encode` gives is a wire form. -/
theorem writes_encode : ∀ (type : DataType) (x : type.Carrier), type.Writes x (type.encode x)
  | .int64, _ | .int, _ | .int32, _ | .bool, _ | .float, _ | .string, _ | .char, _ | .unit, _
  | .timestamp, _ | .tree, _ | .chain, _ => rfl
  | .list item, xs | .array item, xs => by
    refine ⟨xs.map item.encode, rfl, ?_⟩
    rw [List.forall₂_map_right_iff, List.forall₂_same]
    exact fun x _ => writes_encode item x
  | .boxed item, x => writes_encode item x
  | .named _ _ item, x => writes_encode item x
  | .option _, none => rfl
  | .option item, some x => ⟨_, rfl, writes_encode item x⟩
  | .pair first second, (x, y) => ⟨_, _, rfl, writes_encode first x, writes_encode second y⟩
  | .map .byKey key item, m => by
    -- Here the order is that of the keys, and there is no choice.
    refine ⟨m.entries, _, rfl, rfl, ?_⟩
    rw [MapOrder.arrange, List.forall₂_map_right_iff, List.forall₂_same]
    exact fun e _ => ⟨rfl, writes_encode item e.2⟩
  | .map .byText key item, m => by
    -- Sorting the written entries by their texts is writing the entries sorted that way.
    let listed := m.entries.mergeSort fun a b => key.write a.1 ≤ key.write b.1
    refine ⟨listed, _, List.mergeSort_perm _ _, rfl, ?_⟩
    let form (e : key.Carrier × item.Carrier) : String × Value := (key.write e.1, item.encode e.2)
    have hsort : (m.entries.map form).mergeSort (fun a b => a.1 ≤ b.1) = listed.map form :=
      (List.map_mergeSort (f := form) fun _ _ _ _ => rfl).symm
    rw [MapOrder.arrange, hsort, List.forall₂_map_right_iff, List.forall₂_same]
    exact fun e _ => ⟨rfl, writes_encode item e.2⟩
  | .record _ _ fields, xs => ⟨_, rfl, writesFields_encodeFields fields xs⟩
  | .variant _ _ cases, x => writesCase_encodeCase cases x
theorem writesFields_encodeFields : ∀ (fields : List FieldType) (xs : FieldCarriers fields),
    WritesFields fields xs (encodeFields fields xs)
  | [], _ => rfl
  | ⟨_, _, type⟩ :: rest, (x, xs) =>
    ⟨_, _, rfl, writes_encode type x, writesFields_encodeFields rest xs⟩
theorem writesCase_encodeCase : ∀ (cases : List CaseType) (x : CaseCarriers cases),
    WritesCase cases x (encodeCase cases x)
  | ⟨_, _, none⟩ :: _, .inl _ => rfl
  | ⟨_, _, some payload⟩ :: _, .inl x => ⟨_, rfl, writes_encode payload x⟩
  | ⟨_, _, none⟩ :: rest, .inr x => writesCase_encodeCase rest x
  | ⟨_, _, some _⟩ :: rest, .inr x => writesCase_encodeCase rest x
end

/-! ### Wire forms are spellings -/

theorem toInt_ofNat_toNat (c : Char) : (Int64.ofNat c.toNat).toInt = c.toNat := by
  have hvalid : c.toNat.isValidChar := c.valid
  have hbound : c.toNat < 0x110000 := hvalid.elim (fun h => by omega) fun h => h.2
  exact Int64.toInt_ofNat_of_lt (by omega)

mutual
/-- A wire form of a value that crosses without loss is a spelling of the value. -/
theorem spells_of_writes : ∀ (type : DataType) {x : type.Carrier} {v : Value},
    type.Lossless x → type.Writes x v → type.Spells v x
  | .int64, _, _, _, h | .int, _, _, _, h | .int32, _, _, _, h | .bool, _, _, _, h
  | .float, _, _, _, h | .string, _, _, _, h | .unit, _, _, _, h => h
  | .char, c, _, _, h => ⟨_, h, toInt_ofNat_toNat c⟩
  | .timestamp, t, _, hx, h => by
    -- The written form holds whole seconds only, and a writable moment is one.
    refine ⟨t.write, h, ?_⟩
    rw [Timestamp.read?_write t hx.1 hx.2.1, Timestamp.wholeSecond_of_writable hx]
  | .list item, _, _, hx, h | .array item, _, _, hx, h => by
    obtain ⟨values, hv, hitems⟩ := h
    refine ⟨values, hv, ?_⟩
    exact ((List.forall₂_and_left _ _).2 ⟨hx, hitems⟩).flip.imp fun _ _ h =>
      spells_of_writes item h.1 h.2
  | .boxed item, _, _, hx, h => spells_of_writes item hx h
  | .named _ _ item, _, _, hx, h => spells_of_writes item hx h
  | .option _, none, _, _, h => h
  | .option item, some _, _, hx, h => by
    obtain ⟨w, hv, hw⟩ := h
    exact ⟨w, hv, spells_of_writes item hx hw⟩
  | .pair first second, (_, _), _, hx, h => by
    obtain ⟨a, b, hv, ha, hb⟩ := h
    exact ⟨a, b, hv, spells_of_writes first hx.1 ha, spells_of_writes second hx.2 hb⟩
  | .map _ key item, m, _, hx, h => by
    -- The entries may be listed in another order, but under each key there is the same item.
    obtain ⟨listed, entries, horder, hv, hentries⟩ := h
    have hlisted : ∀ n ∈ listed, item.Lossless n.2 := fun n hn => hx n (horder.perm.subset hn)
    refine ⟨entries, listed, hv, ?_, fun k => (SortedMap.first?_of_perm horder.perm k).symm⟩
    refine ((List.forall₂_and_left _ _).2 ⟨hlisted, hentries⟩).flip.imp fun e n h => ⟨?_, ?_⟩
    · rw [h.2.1, key.read?_write]
    · exact spells_of_writes item h.1 h.2.2
  | .record _ _ fields, _, _, hx, h => by
    obtain ⟨entries, hv, hfields⟩ := h
    exact ⟨entries, hv, spellsFields_of_writes fields [] hx.1 (by simp) hx.2 hfields⟩
  | .variant _ _ cases, _, _, hx, h => by
    obtain ⟨tag, payload, form, -, hcase⟩ := spellsCase_of_writes cases hx h
    exact ⟨tag, payload, form, hcase⟩
  | .tree, t, _, _, h => h ▸ t.spells_encode
  | .chain, c, _, _, h => h ▸ c.spells_encode
/-- The entries written for some fields spell them, behind entries of other names. -/
theorem spellsFields_of_writes : ∀ (fields : List FieldType) {xs : FieldCarriers fields}
    {entries : List (String × Value)} (before : List (String × Value)),
    (fields.map fun f => Text.lowerCase f.name).Nodup →
      (∀ e ∈ before, ∀ f ∈ fields, Text.lowerCase f.name ≠ Text.lowerCase e.1) →
        LosslessFields fields xs → WritesFields fields xs entries →
          SpellsFields fields (before ++ entries) xs
  | [], _, _, _, _, _, _, _ => trivial
  | ⟨name, description, type⟩ :: rest, (x, xs), _, before, hdistinct, hbefore, hx, h => by
    obtain ⟨v, more, rfl, hv, hmore⟩ := h
    obtain ⟨hname, hrest⟩ := List.nodup_cons.1 hdistinct
    -- For the fields that follow, this entry is one more of another name in front of theirs.
    refine ⟨.inl ⟨v, ?_, spells_of_writes type hx.1 hv⟩, ?_⟩
    · rw [Value.under?_append_of_ne fun e he => hbefore e he _ List.mem_cons_self,
        Value.under?_cons, if_pos rfl]
    · rw [List.append_cons]
      refine spellsFields_of_writes rest _ hrest ?_ hx.2 hmore
      intro e he f hf
      rcases List.mem_append.1 he with he | he
      · exact hbefore e he f (List.mem_cons_of_mem _ hf)
      · rw [List.mem_singleton.1 he]
        exact fun heq => hname (List.mem_map.2 ⟨f, hf, heq⟩)
/-- What is written for a case spells it, under a tag that is none of those before. So the reader comes past
all earlier cases, and takes this one. -/
theorem spellsCase_of_writes : ∀ (cases : List CaseType) {earlier : List String}
    {x : CaseCarriers cases} {v : Value},
    LosslessCase earlier cases x → WritesCase cases x v →
      ∃ tag payload, v.TagForm tag payload ∧ Text.lowerCase tag ∉ earlier ∧
        SpellsCase cases tag payload x
  | ⟨tag, _, none⟩ :: _, _, .inl _, _, hx, h =>
    ⟨tag, none, h ▸ Value.tagForm_tagged tag none, hx, rfl, .inl rfl⟩
  | ⟨tag, _, some payload⟩ :: _, _, .inl _, _, hx, h => by
    obtain ⟨w, rfl, hw⟩ := h
    exact ⟨tag, some w, Value.tagForm_tagged tag (some w), hx.1, rfl,
      spells_of_writes payload hx.2 hw⟩
  | ⟨_, _, none⟩ :: rest, _, .inr _, _, hx, h
  | ⟨_, _, some _⟩ :: rest, _, .inr _, _, hx, h => by
    obtain ⟨tag, payload, form, hearlier, hcase⟩ := spellsCase_of_writes rest hx h
    rw [List.mem_cons, not_or] at hearlier
    exact ⟨tag, payload, form, hearlier.2, hearlier.1, hcase⟩
end

/-- **Reading undoes writing.** A value that crosses without loss is read back from what `encode` gives,
and from all its other wire forms. -/
theorem decode_encode (type : DataType) (x : type.Carrier) (h : type.Lossless x) :
    type.decode (type.encode x) = .ok x ∧ ∀ v, type.Writes x v → type.decode v = .ok x := by
  -- What `encode` gives is one of the wire forms, and nothing more is known of it here.
  have hread (v : Value) (hv : type.Writes x v) : type.decode v = .ok x :=
    decode_of_spells type (spells_of_writes type h hv)
  exact ⟨hread _ (writes_encode type x), hread⟩

/-- A leap second, names whose lower case depends on their neighbours, and a case behind another. -/
theorem decode_encode_leap_greek_suspended :
    let type : DataType := .pair .timestamp (.pair Sample.greek Sample.status)
    let x : type.Carrier :=
      (⟨2016, 12, 31, 23, 59, 59, nanosPerSecond, by decide⟩, (7, some 8, "ab", ()), .inr (.inl "audit"))
    type.Lossless x ∧ type.decode (type.encode x) = .ok x := by
  intro type x
  -- In lower case these three look different still, and so do the two tags.
  have hnames : ((["ΣΑΣ", "İd", "STRASSE"] : List String).map Text.lowerCase).Nodup := by
    decide +kernel
  have htag : Text.lowerCase "Suspended" ∉ [Text.lowerCase "Active"] := by decide +kernel
  have h : type.Lossless x :=
    ⟨⟨by decide, by decide, .inr rfl⟩, ⟨hnames, trivial, trivial, trivial, trivial⟩, htag, trivial⟩
  exact ⟨h, (decode_encode type x h).1⟩

end DataType
end Wirecall
