import Mathlib.Data.List.Forall2
import Wirecall.DataType.Wire
import Wirecall.Proofs.MapLookup

/-!
# What the decoders accept

For each decoder, the values that it reads and what it reads them as, said without the decoder:
`Decoder.items_eq_ok_iff` and its siblings for plain values and containers, `RecordReader.field_eq_ok_iff`
for fields, `VariantReader.ofValue_eq_ok_iff` for tags. Proofs about reading a whole type use these and
never look into a decoder.

Tags have three written forms, gathered in `Value.TagForm`; fields are looked up by `Value.under?`, the
first entry whose key is the name in any case.
-/

namespace Wirecall

/-! ### Results -/

section Results

variable {ε α β : Type}

theorem bind_eq_ok_iff {x : Except ε α} {f : α → Except ε β} {b : β} :
    x >>= f = .ok b ↔ ∃ a, x = .ok a ∧ f a = .ok b := by
  cases x with
  | error e => simp [bind, Except.bind]
  | ok a => simp [bind, Except.bind]

theorem bind_eq_error_iff {x : Except ε α} {f : α → Except ε β} {e : ε} :
    x >>= f = .error e ↔ x = .error e ∨ ∃ a, x = .ok a ∧ f a = .error e := by
  cases x with
  | error e' => simp [bind, Except.bind]
  | ok a => simp [bind, Except.bind]

theorem map_eq_ok_iff {f : α → β} {x : Except ε α} {b : β} :
    f <$> x = .ok b ↔ ∃ a, x = .ok a ∧ f a = b := by
  cases x with
  | error e => simp [Functor.map, Except.map]
  | ok a => simp [Functor.map, Except.map]

theorem map_eq_error_iff {f : α → β} {x : Except ε α} {e : ε} :
    f <$> x = .error e ↔ x = .error e := by
  cases x with
  | error e' => simp [Functor.map, Except.map]
  | ok a => simp [Functor.map, Except.map]

/-- A list is read when each of its items is. -/
theorem mapM_eq_ok_iff {f : α → Except ε β} {xs : List α} {ys : List β} :
    xs.mapM f = .ok ys ↔ List.Forall₂ (fun x y => f x = .ok y) xs ys := by
  induction xs generalizing ys with
  | nil =>
    -- An empty list reads as the empty list, and nothing else stands opposite it.
    rw [List.mapM_nil, List.forall₂_nil_left_iff]
    exact ⟨fun h => by cases h; rfl, fun h => h ▸ rfl⟩
  | cons x xs ih =>
    rw [List.mapM_cons, bind_eq_ok_iff, List.forall₂_cons_left_iff]
    -- What is read of the head and what is read of the rest are the two halves of the relation.
    constructor
    · rintro ⟨y, hx, h⟩
      obtain ⟨rest, hrest, h⟩ := bind_eq_ok_iff.1 h
      cases h
      exact ⟨y, rest, hx, ih.1 hrest, rfl⟩
    · rintro ⟨y, rest, hx, hrest, rfl⟩
      exact ⟨y, hx, bind_eq_ok_iff.2 ⟨rest, ih.2 hrest, rfl⟩⟩

/-- A list can be read when each of its items can. -/
theorem exists_mapM_eq_ok_iff {f : α → Except ε β} {xs : List α} :
    (∃ ys, xs.mapM f = .ok ys) ↔ ∀ x ∈ xs, ∃ y, f x = .ok y := by
  simp only [mapM_eq_ok_iff]
  induction xs with
  | nil => simp
  | cons x xs ih =>
    -- With the results hidden, the relation falls apart into head and rest like the quantifier.
    rw [List.forall_mem_cons, ← ih]
    simp only [List.forall₂_cons_left_iff]
    constructor
    · rintro ⟨_, y, ys, hx, hxs, rfl⟩
      exact ⟨⟨y, hx⟩, ys, hxs⟩
    · rintro ⟨⟨y, hx⟩, ys, hxs⟩
      exact ⟨y :: ys, y, ys, hx, hxs, rfl⟩

/-- The first item at which something ends is the head, or it goes on there and the first is behind. -/
theorem exists_first_cons_iff {ι : Type*} {goes ends : ι → Prop} {x : ι} {xs : List ι} :
    (∃ before y after, x :: xs = before ++ y :: after ∧ (∀ z ∈ before, goes z) ∧ ends y) ↔
      ends x ∨
        goes x ∧ ∃ before y after, xs = before ++ y :: after ∧ (∀ z ∈ before, goes z) ∧ ends y := by
  constructor
  · rintro ⟨before, y, after, hsplit, hbefore, hy⟩
    -- Either nothing stands before the first one, so it is the head, or the head is among what does.
    rcases List.cons_eq_append_iff.1 hsplit with ⟨rfl, h⟩ | ⟨before, rfl, h⟩
    · cases h
      exact .inl hy
    · obtain ⟨hx, hbefore⟩ := List.forall_mem_cons.1 hbefore
      exact .inr ⟨hx, before, y, after, h, hbefore, hy⟩
  · rintro (hx | ⟨hx, before, y, after, rfl, hbefore, hy⟩)
    · exact ⟨[], x, xs, rfl, by simp, hx⟩
    · exact ⟨x :: before, y, after, rfl, List.forall_mem_cons.2 ⟨hx, hbefore⟩, hy⟩

/-- The first item that cannot be read is to blame for the list. The items before it can be read. Of those
behind it nothing is said, as they are never looked at. -/
theorem mapM_eq_error_iff {f : α → Except ε β} {xs : List α} {e : ε} :
    xs.mapM f = .error e ↔
      ∃ before x after, xs = before ++ x :: after ∧ (∀ y ∈ before, ∃ b, f y = .ok b) ∧
        f x = .error e := by
  induction xs with
  | nil => simp [pure, Except.pure]
  | cons x xs ih =>
    -- A result in front of an error leaves no trace, so the head matters only by whether it has one.
    have hstep : (x :: xs).mapM f = .error e ↔
        f x = .error e ∨ (∃ b, f x = .ok b) ∧ xs.mapM f = .error e := by
      simp only [List.mapM_cons, bind_eq_error_iff, pure, Except.pure, reduceCtorEq, and_false,
        exists_false, or_false, exists_and_right]
    rw [hstep, ih, exists_first_cons_iff]

end Results

/-! ### Plain values -/

namespace Decoder

theorem int64_eq_ok_iff {v : Value} {n : Int64} : int64 v = .ok n ↔ v = .int n := by
  cases v <;> simp [int64]

theorem int_eq_ok_iff {v : Value} {n : Int64} : int v = .ok n ↔ v = .int n := by
  cases v <;> simp [int]

theorem int32_eq_ok_iff {v : Value} {n : Int32} : int32 v = .ok n ↔ v = .int32 n := by
  cases v <;> simp [int32]

theorem bool_eq_ok_iff {v : Value} {b : Bool} : bool v = .ok b ↔ v = .bool b := by
  cases v <;> simp [bool]

theorem float_eq_ok_iff {v : Value} {x : Binary64} : float v = .ok x ↔ v = .float x := by
  cases v <;> simp [float]

theorem string_eq_ok_iff {v : Value} {s : String} : string v = .ok s ↔ v = .string s := by
  cases v <;> simp [string]

theorem unit_eq_ok_iff {v : Value} {u : Unit} : unit v = .ok u ↔ v = .null := by
  cases v <;> simp [unit]

end Decoder

theorem toNat_charOfNat {n : Nat} (h : n.isValidChar) : (Char.ofNat n).toNat = n := by
  rw [Char.ofNat, dif_pos h]
  rfl

/-- A code point belongs to exactly one character, if to any. -/
theorem charOfCode?_eq_some_iff {code : Int64} {c : Char} :
    charOfCode? code = some c ↔ code.toInt = c.toNat := by
  unfold charOfCode?
  constructor
  · intro h
    split at h
    next hvalid =>
      -- Nothing is lost on the way to a natural number, since the code is not negative.
      obtain ⟨hnonneg, hchar⟩ := hvalid
      cases h
      rw [toNat_charOfNat hchar]
      omega
    next => cases h
  · intro h
    -- The code of a character passes both checks, as the character carries the second one with it.
    have hcode : code.toInt.toNat = c.toNat := by omega
    have hvalid : c.toNat.isValidChar := c.valid
    rw [hcode, if_pos ⟨by omega, hvalid⟩, Char.ofNat_toNat]

namespace Decoder

theorem char_eq_ok_iff {v : Value} {c : Char} :
    char v = .ok c ↔ ∃ code : Int64, v = .int code ∧ code.toInt = c.toNat := by
  cases v with
  | int code =>
    -- Both sides hang on whether the code has a character.
    simp only [char, Value.int.injEq, exists_eq_left', ← charOfCode?_eq_some_iff]
    cases charOfCode? code <;> simp
  | _ => simp [char]

theorem timestamp_eq_ok_iff {v : Value} {t : Timestamp} :
    timestamp v = .ok t ↔ ∃ text, v = .timestamp text ∧ Timestamp.read? text = some t := by
  cases v with
  | timestamp text =>
    simp only [timestamp, Value.timestamp.injEq, exists_eq_left']
    cases Timestamp.read? text <;> simp
  | _ => simp [timestamp]

/-! ### Containers -/

variable {α β : Type}

theorem items_eq_ok_iff {expected : String} {item : Decoder α} {v : Value} {xs : List α} :
    items expected item v = .ok xs ↔
      ∃ values, v = .seq values ∧ List.Forall₂ (fun w x => item w = .ok x) values xs := by
  cases v with
  | seq values => simp [items, mapM_eq_ok_iff]
  | _ => simp [items]

/-- An empty sequence is the option without a value, and nothing else is. -/
theorem option_eq_ok_none_iff {item : Decoder α} {v : Value} :
    option item v = .ok none ↔ v = .seq [] := by
  unfold option
  split
  next => simp
  next w => simp [map_eq_ok_iff]
  -- A longer sequence is refused, and it is not the empty one: that pattern came first.
  next values hnil _ => simpa using hnil
  next hnil _ _ => simpa using hnil

theorem option_eq_ok_some_iff {item : Decoder α} {v : Value} {x : α} :
    option item v = .ok (some x) ↔ ∃ w, v = .seq [w] ∧ item w = .ok x := by
  unfold option
  split
  next => simp
  next w => simp [map_eq_ok_iff]
  -- Likewise a longer sequence is not a single item.
  next values _ hone => simpa using fun w h => absurd h (hone w)
  next hone _ => simpa using fun w h => absurd h (hone w)

theorem pair_eq_ok_iff {first : Decoder α} {second : Decoder β} {v : Value} {x : α} {y : β} :
    pair first second v = .ok (x, y) ↔
      ∃ a b, v = .seq [a, b] ∧ first a = .ok x ∧ second b = .ok y := by
  unfold pair
  split
  next a b => simp [bind_eq_ok_iff, pure, Except.pure]
  -- Any other sequence is refused, and it does not have two items, or the first pattern had taken it.
  next values htwo => simpa using fun a b h => absurd h (htwo a b)
  next htwo _ => simpa using fun a b h => absurd h (htwo a b)

end Decoder

theorem KeyType.read_eq_ok_iff {key : KeyType} {text : String} {k : key.Carrier} :
    key.read text = .ok k ↔ key.read? text = some k := by
  unfold KeyType.read
  cases key.read? text <;> simp

namespace Decoder

variable {α : Type}

/-- An entry is read with its key before its item. -/
def entry (key : KeyType) (item : Decoder α) (e : String × Value) :
    Except DecodeError (key.Carrier × α) := do
  return (← key.read e.1, ← item e.2)

theorem entry_eq_ok_iff {key : KeyType} {item : Decoder α} {e : String × Value}
    {n : key.Carrier × α} : entry key item e = .ok n ↔ key.read e.1 = .ok n.1 ∧ item e.2 = .ok n.2 := by
  simp only [entry, bind_eq_ok_iff, pure, Except.pure]
  -- The order in which key and item are read shows only in errors.
  constructor
  · rintro ⟨k, hk, x, hx, h⟩
    cases h
    exact ⟨hk, hx⟩
  · rintro ⟨hk, hx⟩
    exact ⟨n.1, hk, n.2, hx, rfl⟩

theorem map_dict (key : KeyType) (item : Decoder α) (entries : List (String × Value)) :
    map key item (.dict entries) = SortedMap.ofEntries <$> entries.mapM (entry key item) := rfl

/-- A dictionary is read entry by entry. Of the entries with one key only the first shows. -/
theorem map_eq_ok_iff {key : KeyType} {item : Decoder α} {v : Value}
    {m : SortedMap key.Carrier α} :
    map key item v = .ok m ↔
      ∃ (entries : List (String × Value)) (natives : List (key.Carrier × α)), v = .dict entries ∧
        List.Forall₂ (fun e n => key.read? e.1 = some n.1 ∧ item e.2 = .ok n.2) entries natives ∧
        ∀ k, m.get? k = SortedMap.first? natives k := by
  cases v with
  | dict entries =>
    -- A map is determined by its lookups, so these say which map it is.
    simp only [map_dict, Wirecall.map_eq_ok_iff, mapM_eq_ok_iff, entry_eq_ok_iff,
      KeyType.read_eq_ok_iff, SortedMap.ofEntries_eq_iff, Value.dict.injEq]
    constructor
    · rintro ⟨natives, hread, hm⟩
      exact ⟨entries, natives, rfl, hread, hm⟩
    · rintro ⟨_, natives, rfl, hread, hm⟩
      exact ⟨natives, hread, hm⟩
  | _ => simp [map]

end Decoder

/-! ### Records -/

/-- The value of the first of some entries whose key is the name in any case. Entries behind the first one
never show, whatever they hold, and it does not matter which entries of other names are around. -/
def Value.under? (entries : List (String × Value)) (name : String) : Option Value :=
  (entries.find? fun e => Text.lowerCase name == Text.lowerCase e.1).map (·.2)

theorem Value.under?_cons (key : String) (v : Value) (rest : List (String × Value))
    (name : String) :
    under? ((key, v) :: rest) name =
      if Text.lowerCase name = Text.lowerCase key then some v else under? rest name := by
  unfold under?
  rw [List.find?_cons]
  split <;> simp_all

theorem Value.under?_append (before after : List (String × Value)) (name : String) :
    under? (before ++ after) name = (under? before name).or (under? after name) := by
  unfold under?
  rw [List.find?_append, Option.map_or]

/-- Entries of other names do not hide those behind them. -/
theorem Value.under?_append_of_ne {before : List (String × Value)} {name : String}
    (h : ∀ e ∈ before, Text.lowerCase name ≠ Text.lowerCase e.1) (rest : List (String × Value)) :
    under? (before ++ rest) name = under? rest name := by
  -- The search finds nothing in front and goes on behind.
  have hnone : under? before name = none := by
    rw [under?, Option.map_eq_none_iff, List.find?_eq_none]
    exact fun e he => mt beq_iff_eq.1 (h e he)
  rw [under?_append, hnone, Option.none_or]

namespace RecordReader

/-- The record of some entries. -/
def ofEntries (owner : String) (entries : List (String × Value)) : RecordReader :=
  ⟨owner, entries.map fun e => (Text.lowerCase e.1, e.2)⟩

@[simp] theorem ofValue_dict (owner : String) (entries : List (String × Value)) :
    ofValue owner (.dict entries) = .ok (ofEntries owner entries) := rfl

theorem ofValue_eq_ok_iff {owner : String} {v : Value} {r : RecordReader} :
    ofValue owner v = .ok r ↔ ∃ entries, v = .dict entries ∧ r = ofEntries owner entries := by
  cases v <;> simp [ofValue, ofEntries, eq_comm]

@[simp] theorem entry?_ofEntries (owner : String) (entries : List (String × Value))
    (name : String) :
    RecordReader.entry? (ofEntries owner entries) name = Value.under? entries name := by
  unfold entry? ofEntries
  induction entries with
  | nil => rfl
  | cons e rest ih =>
    -- Looking up a lower-cased name among lower-cased keys is looking for a name in any case.
    rw [List.map_cons, List.lookup_cons, Value.under?_cons]
    split <;> simp_all

/-- A field is read from the first entry of its name. Without one its type has to know what absence
means. -/
theorem field_eq_ok_iff {α : Type} {owner : String} {entries : List (String × Value)}
    {decode : Decoder α} {absent : Option α} {name : String} {x : α} :
    (ofEntries owner entries).field decode absent name = .ok x ↔
      (∃ v, Value.under? entries name = some v ∧ decode v = .ok x) ∨
        Value.under? entries name = none ∧ absent = some x := by
  unfold field
  -- Whether there is an entry decides which of the two ways is open.
  rw [entry?_ofEntries]
  cases Value.under? entries name with
  | some v => simp
  | none => cases absent <;> simp

end RecordReader

/-! ### Variants -/

/-- The three written forms of a tag and its payload. What is written has the first or the last of them
(`Value.tagForm_tagged`); a tag that is alone in a sequence is only ever read. -/
inductive Value.TagForm : Value → String → Option Value → Prop
  | alone (tag : String) : TagForm (.string tag) tag none
  | wrapped (tag : String) : TagForm (.seq [.string tag]) tag none
  | withPayload (tag : String) (payload : Value) :
    TagForm (.seq [.string tag, payload]) tag (some payload)

theorem Value.tagForm_tagged (tag : String) (payload : Option Value) :
    (Value.tagged tag payload).TagForm tag payload := by
  cases payload with
  | none => exact .alone tag
  | some payload => exact .withPayload tag payload

namespace VariantReader

theorem ofValue_eq_ok_iff {variant : String} {v : Value} {r : VariantReader} :
    ofValue variant v = .ok r ↔ r.variant = variant ∧ v.TagForm r.tag r.payload := by
  constructor
  · intro h
    unfold ofValue at h
    -- The three patterns that are taken are the three forms, one each.
    split at h <;> cases h
    · exact ⟨rfl, .alone _⟩
    · exact ⟨rfl, .wrapped _⟩
    · exact ⟨rfl, .withPayload _ _⟩
  · obtain ⟨name, tag, payload⟩ := r
    rintro ⟨rfl, form⟩
    cases form <;> rfl

theorem is_iff {variant tag name : String} {payload : Option Value} :
    VariantReader.is ⟨variant, tag, payload⟩ name = true ↔
      Text.lowerCase tag = Text.lowerCase name :=
  beq_iff_eq

/-- Only null can be a payload that was left out. So a case whose payload is read from anything else was
written with it. -/
theorem payload_eq_some {r : VariantReader} {v : Value} (h : r.payloadOrNull = v)
    (hv : v ≠ .null) : r.payload = some v := by
  unfold payloadOrNull at h
  cases hp : r.payload with
  | none =>
    -- A payload that was left out counts as null, which this one is not.
    rw [hp] at h
    exact absurd h.symm hv
  | some p =>
    rw [hp] at h
    exact congrArg some h

/-- A case without a payload puts up with none, and with null. -/
theorem unit_eq_ok_iff {r : VariantReader} {u : Unit} :
    r.unit = .ok u ↔ r.payload = none ∨ r.payload = some .null := by
  unfold unit
  split
  next h => simp [h]
  next h => simp [h]
  next v hnull h => simpa [h] using hnull

end VariantReader
end Wirecall
