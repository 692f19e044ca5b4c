import Wirecall.Proofs.Acceptance
import Wirecall.Proofs.WrittenText

/-!
# Dictionaries

A dictionary on the wire is a list of entries under texts, a map has native keys. This module says what
becomes of the one in the other, for every type of keys and whatever the items are.

* **Reading decides before it forgets.** Each entry has to be readable, also one that another entry with
  the same key hides (`Decoder.exists_map_dict_iff`), and the first entry that is not is to blame, its key
  before its item (`Decoder.map_dict_eq_error_iff`).
* **Keys are compared as native keys.** Of the entries whose texts are one key the first counts
  (`Decoder.IsFirst`, `Decoder.get?_of_map_dict`). All spellings of a number are one key
  (`KeyType.read_eq_ok_iff_readInt?`), up to both limits of the type and not beyond.
* **Writing has no choice.** Keys are listed in the order of the type, which is spelled out in
  `KeyType.Below`, and no two of them have one text (`KeyType.write_injective`).

`DataType.map_faithful` gathers this for the maps among the types.
-/

namespace Wirecall

/-! ### Keys -/

namespace KeyType

/-- Whether one key comes before another: numbers by size, `false` before `true`, characters by code
point and texts character by character. -/
def Below : (key : KeyType) → key.Carrier → key.Carrier → Prop
  | .int64, m, n | .int, m, n => m.toInt < n.toInt
  | .int32, m, n => m.toInt < n.toInt
  | .bool, a, b => a = false ∧ b = true
  | .string, s, t => List.Lex (fun c d => c.toNat < d.toNat) s.toList t.toList
  | .char, c, d => c.toNat < d.toNat

/-- The order by which maps are sorted is the order of the type. -/
theorem compare_eq_lt_iff {key : KeyType} {j k : key.Carrier} :
    compare j k = .lt ↔ key.Below j k := by
  -- Two of the types of keys are one type of numbers.
  have int64 (m n : Int64) : compare m n = .lt ↔ m.toInt < n.toInt :=
    Std.compare_eq_lt.trans Int64.lt_iff_toInt_lt
  cases key with
  | int64 => exact int64 j k
  | int => exact int64 j k
  | int32 =>
    have int32 (m n : Int32) : compare m n = .lt ↔ m.toInt < n.toInt :=
      Std.compare_eq_lt.trans Int32.lt_iff_toInt_lt
    exact int32 j k
  | bool =>
    have bool : ∀ a b : Bool, compare a b = .lt ↔ a = false ∧ b = true := by decide
    exact bool j k
  | string =>
    -- Texts are compared character by character, and characters by their code points.
    have string (s t : String) : compare s t = .lt ↔ s.toList < t.toList :=
      compareOfLessAndEq_eq_lt.trans String.lt_iff
    exact string j k
  | char =>
    have char (c d : Char) : compare c d = .lt ↔ c.toNat < d.toNat :=
      compareOfLessAndEq_eq_lt
    exact char j k

/-- No two keys have the same text. -/
theorem write_injective (key : KeyType) {j k : key.Carrier} (h : key.write j = key.write k) :
    j = k := by
  -- What both are read back as is the key of their one text.
  have hread : some j = some k := by
    rw [← key.read?_write j, h, key.read?_write k]
  exact Option.some.inj hread

/-- The number that a key is, if keys of the type are numbers. -/
def number? : (key : KeyType) → key.Carrier → Option Int
  | .int64, n | .int, n => some n.toInt
  | .int32, n => some n.toInt
  | .bool, _ | .string, _ | .char, _ => none

/-- A text is the key of a number exactly when it spells this number. -/
theorem read_eq_ok_iff_readInt? {key : KeyType} {k : key.Carrier} {n : Int}
    (h : key.number? k = some n) {text : String} :
    key.read text = .ok k ↔ Decimal.readInt? text.toList = some n := by
  rw [read_eq_ok_iff]
  cases key with
  | int64 => cases h; exact readInt64?_eq_some_iff
  | int => cases h; exact readInt64?_eq_some_iff
  | int32 => cases h; exact readInt32?_eq_some_iff
  -- Keys that are no numbers have none to spell.
  | bool => cases h
  | string => cases h
  | char => cases h

end KeyType

/-! ### Maps by their keys -/

namespace SortedMap

variable {K V : Type} [Ord K] [Std.LawfulEqOrd K]

theorem mem_keys_iff (m : SortedMap K V) {k : K} : k ∈ m.keys ↔ ∃ v, m.get? k = some v := by
  simp [keys, get?_eq_some_iff]

end SortedMap

/-! ### Reading -/

namespace Decoder

variable {α : Type}

/-- Whether an entry can be read, its key and its item. This is asked of every entry, also of one that will be
hidden by an earlier one. -/
def Readable (key : KeyType) (item : Decoder α) (e : String × Value) : Prop :=
  (∃ k, key.read e.1 = .ok k) ∧ ∃ x, item e.2 = .ok x

/-- Whether an entry has an error. That of its key comes first. -/
def Blames (key : KeyType) (item : Decoder α) (e : String × Value) (error : DecodeError) : Prop :=
  key.read e.1 = .error error ∨ (∃ k, key.read e.1 = .ok k) ∧ item e.2 = .error error

/-- Whether an entry is the first of some entries for a key. Those in front of it may be for any other
key. -/
def IsFirst (key : KeyType) (k : key.Carrier) (entries : List (String × Value))
    (e : String × Value) : Prop :=
  ∃ before after, entries = before ++ e :: after ∧ key.read e.1 = .ok k ∧
    ∀ other ∈ before, key.read other.1 ≠ .ok k

variable {key : KeyType} {item : Decoder α} {entries : List (String × Value)}

theorem readable_iff {e : String × Value} : Readable key item e ↔ ∃ n, entry key item e = .ok n := by
  simp [Readable, entry_eq_ok_iff]

theorem blames_iff {e : String × Value} {error : DecodeError} :
    Blames key item e error ↔ entry key item e = .error error := by
  -- Reading an entry is reading its key and then its item, so this is the rule for errors in a sequence.
  simp only [Blames, entry, bind_eq_error_iff, pure, Except.pure, reduceCtorEq, and_false,
    exists_false, or_false, exists_and_right]

/-- A dictionary can be read when each of its entries can. -/
theorem exists_map_dict_iff :
    (∃ m, map key item (.dict entries) = .ok m) ↔ ∀ e ∈ entries, Readable key item e := by
  simp only [readable_iff, ← exists_mapM_eq_ok_iff, map_dict, Wirecall.map_eq_ok_iff]
  -- Making a map of what was read cannot fail, so only the reading counts.
  constructor
  · rintro ⟨_, natives, hread, -⟩
    exact ⟨natives, hread⟩
  · rintro ⟨natives, hread⟩
    exact ⟨_, natives, hread, rfl⟩

/-- The first entry that cannot be read is to blame for the dictionary. -/
theorem map_dict_eq_error_iff {error : DecodeError} :
    map key item (.dict entries) = .error error ↔
      ∃ before e after, entries = before ++ e :: after ∧
        (∀ other ∈ before, Readable key item other) ∧ Blames key item e error := by
  simp only [map_dict, map_eq_error_iff, mapM_eq_error_iff, readable_iff, blames_iff]

/-! ### The first entry of a key -/

variable {k : key.Carrier}

theorem isFirst_cons_iff {head e : String × Value} :
    IsFirst key k (head :: entries) e ↔
      key.read head.1 = .ok k ∧ e = head ∨ key.read head.1 ≠ .ok k ∧ IsFirst key k entries e := by
  -- The first entry of a key is a first item at which a search ends, with a name for the item.
  have hfirst (entries : List (String × Value)) : IsFirst key k entries e ↔
      ∃ before x after, entries = before ++ x :: after ∧
        (∀ other ∈ before, key.read other.1 ≠ .ok k) ∧ key.read x.1 = .ok k ∧ e = x := by
    constructor
    · rintro ⟨before, after, hsplit, he, hbefore⟩
      exact ⟨before, e, after, hsplit, hbefore, he, rfl⟩
    · rintro ⟨before, _, after, hsplit, hbefore, he, rfl⟩
      exact ⟨before, after, hsplit, he, hbefore⟩
  rw [hfirst, hfirst, exists_first_cons_iff]

theorem IsFirst.mem {e : String × Value} (h : IsFirst key k entries e) : e ∈ entries := by
  obtain ⟨before, after, rfl, -, -⟩ := h
  simp

/-- Where there is an entry for a key, there is a first one. -/
theorem exists_isFirst_iff :
    (∃ e, IsFirst key k entries e) ↔ ∃ e ∈ entries, key.read e.1 = .ok k := by
  constructor
  · rintro ⟨e, he⟩
    have hmem := he.mem
    obtain ⟨before, after, -, hread, -⟩ := he
    exact ⟨e, hmem, hread⟩
  · rintro ⟨e, hmem, hread⟩
    induction entries with
    | nil => cases hmem
    | cons head rest ih =>
      -- If the head is for the key, it is the first. Otherwise the first is behind it, as the entry is.
      by_cases hhead : key.read head.1 = .ok k
      · exact ⟨head, isFirst_cons_iff.2 (.inl ⟨hhead, rfl⟩)⟩
      · have hrest : e ∈ rest := by
          rcases List.mem_cons.1 hmem with rfl | h
          · exact absurd hread hhead
          · exact h
        obtain ⟨first, hfirst⟩ := ih hrest
        exact ⟨first, isFirst_cons_iff.2 (.inr ⟨hhead, hfirst⟩)⟩

/-- Looking a key up among the entries that were read is looking for its first entry. -/
theorem first?_of_entries {natives : List (key.Carrier × α)} {x : α}
    (h : List.Forall₂ (fun e n => entry key item e = .ok n) entries natives) :
    SortedMap.first? natives k = some x ↔
      ∃ e, IsFirst key k entries e ∧ item e.2 = .ok x := by
  induction h with
  | nil => simp [IsFirst]
  | @cons e n entries natives hentry _ ih =>
    -- The head is for the key or it is not, and on both sides the search stops there or goes on.
    obtain ⟨hkey, hitem⟩ := entry_eq_ok_iff.1 hentry
    simp only [isFirst_cons_iff]
    rw [SortedMap.first?_cons]
    by_cases heq : k = n.1
    · have hsame : compare k n.1 = .eq := Std.LawfulEqCmp.compare_eq_iff_eq.2 heq
      have hread : key.read e.1 = .ok k := heq ▸ hkey
      -- Both searches end at the head.
      rw [if_pos hsame]
      simp [hread, hitem]
    · have hother : compare k n.1 ≠ .eq := fun h => heq (Std.LawfulEqCmp.compare_eq_iff_eq.1 h)
      have hread : key.read e.1 ≠ .ok k := by
        intro h
        rw [hkey] at h
        cases h
        exact heq rfl
      -- Both go on behind it.
      rw [if_neg hother, ih]
      simp [hread]

variable {m : SortedMap key.Carrier α}

/-- Under a key stands the item of its first entry. It is first among the entries whose texts are read as the
key, and their texts may differ. -/
theorem get?_of_map_dict (h : map key item (.dict entries) = .ok m) {x : α} :
    m.get? k = some x ↔ ∃ e, IsFirst key k entries e ∧ item e.2 = .ok x := by
  rw [map_dict, Wirecall.map_eq_ok_iff] at h
  -- The map is made of what the entries were read as, and of those the first of a key counts.
  obtain ⟨natives, hread, rfl⟩ := h
  rw [SortedMap.get?_ofEntries]
  exact first?_of_entries (mapM_eq_ok_iff.1 hread)

/-- The keys of the map are the keys that the texts stand for. -/
theorem mem_keys_of_map_dict (h : map key item (.dict entries) = .ok m) :
    k ∈ m.keys ↔ ∃ e ∈ entries, key.read e.1 = .ok k := by
  -- A key is in the map if something is under it, hence if there is a first entry for it.
  rw [m.mem_keys_iff, ← exists_isFirst_iff]
  simp only [get?_of_map_dict h]
  constructor
  · rintro ⟨_, e, he, -⟩
    exact ⟨e, he⟩
  · rintro ⟨e, he⟩
    -- Every entry was read, so this one has an item.
    obtain ⟨-, x, hx⟩ := exists_map_dict_iff.1 ⟨m, h⟩ e he.mem
    exact ⟨x, e, he, hx⟩

end Decoder

/-! ### Writing -/

namespace DataType

variable {key : KeyType} {type : DataType}

theorem keys_ascend (m : SortedMap key.Carrier type.Carrier) : m.keys.Pairwise key.Below := by
  refine List.pairwise_map.2 (m.ascending.imp ?_)
  intro a b h
  exact KeyType.compare_eq_lt_iff.1 h

theorem keyTexts_nodup (m : SortedMap key.Carrier type.Carrier) :
    (m.keys.map key.write).Nodup := by
  -- Different keys have different texts, and no key is listed twice.
  have hkeys : m.keys.Nodup := List.pairwise_map.2 m.distinct_keys
  exact hkeys.map fun _ _ h => key.write_injective h

/-- **What becomes of a dictionary.**

* A list of entries is read if each of them can be read. Then the keys are those that the texts stand for,
  and under each of them stands the item of its first entry. Otherwise the error is that of the first entry
  that has one. It makes no difference in which order the map is written.
* For keys that are numbers, a text stands for a key exactly if it spells its number.
* Every key is read back from its text. A map is written in ascending order of its keys, whose texts are
  pairwise different, and maps that hold the same are written the same. -/
theorem map_faithful (key : KeyType) (type : DataType) :
    (∀ entries : List (String × Value),
      ((∃ m, (DataType.map .byKey key type).decode (.dict entries) = .ok m) ↔
        ∀ e ∈ entries, Decoder.Readable key type.decode e) ∧
      (∀ m : SortedMap key.Carrier type.Carrier,
        (DataType.map .byKey key type).decode (.dict entries) = .ok m →
          ∀ k, (k ∈ m.keys ↔ ∃ e ∈ entries, key.read e.1 = .ok k) ∧
            ∀ x, m.get? k = some x ↔
              ∃ e, Decoder.IsFirst key k entries e ∧ type.decode e.2 = .ok x) ∧
      (∀ error, (DataType.map .byKey key type).decode (.dict entries) = .error error ↔
        ∃ before e after, entries = before ++ e :: after ∧
          (∀ other ∈ before, Decoder.Readable key type.decode other) ∧
          Decoder.Blames key type.decode e error) ∧
      (DataType.map .byText key type).decode (.dict entries) =
        (DataType.map .byKey key type).decode (.dict entries)) ∧
    (∀ k n text, key.number? k = some n →
      (key.read text = .ok k ↔ Decimal.readInt? text.toList = some n)) ∧
    (∀ k, key.read (key.write k) = .ok k) ∧
    (∀ m : SortedMap key.Carrier type.Carrier,
      (DataType.map .byKey key type).encode m =
        .dict (m.entries.map fun e => (key.write e.1, type.encode e.2)) ∧
      m.keys.Pairwise key.Below ∧ (m.keys.map key.write).Nodup) ∧
    ∀ m n : SortedMap key.Carrier type.Carrier, (∀ k, m.get? k = n.get? k) →
      (DataType.map .byKey key type).encode m = (DataType.map .byKey key type).encode n := by
  refine ⟨fun entries => ⟨Decoder.exists_map_dict_iff, ?_, ?_, rfl⟩, ?_, ?_, ?_, ?_⟩
  · intro m h k
    exact ⟨Decoder.mem_keys_of_map_dict h, fun x => Decoder.get?_of_map_dict h⟩
  · intro error
    exact Decoder.map_dict_eq_error_iff
  · intro k n text h
    exact KeyType.read_eq_ok_iff_readInt? h
  · intro k
    exact KeyType.read_eq_ok_iff.2 (key.read?_write k)
  · intro m
    exact ⟨rfl, keys_ascend m, keyTexts_nodup m⟩
  · intro m n h
    -- Maps that hold the same are equal, since their entries are in order.
    rw [SortedMap.ext_get? h]

/-- Three spellings of seven, the first of which counts, and a zero with a sign. The least of all numbers
is a key, and the order in which a map was put together does not show in what is written. -/
theorem map_faithful_spellings :
    let type : DataType := .map .byKey .int64 .int64
    let entries : List (String × Value) :=
      [("007", .int 1), ("+7", .int 2), ("-0", .int 4), ("7", .int 3)]
    (∃ m : SortedMap Int64 Int64, type.decode (.dict entries) = .ok m ∧
      m.get? 7 = some 1 ∧ m.get? 0 = some 4 ∧ (0 : Int64) ∈ m.keys) ∧
    KeyType.int64.read "-09223372036854775808" = .ok Int64.minValue ∧
    ∃ m n : SortedMap Int64 Int64, m = SortedMap.ofEntries [(7, 1), (0, 4)] ∧
      n.entries = [(0, 4), (7, 1)] ∧ type.encode m = type.encode n := by
  intro type entries
  obtain ⟨hread, hspell, -, -, hwrite⟩ := map_faithful .int64 .int64
  refine ⟨?_, (hspell Int64.minValue _ _ rfl).2 (by decide +kernel), ?_⟩
  · obtain ⟨-, hmap, -, -⟩ := hread entries
    -- All four entries are kept in the order in which they stand until the map is made of them.
    have hm : type.decode (.dict entries) =
        .ok (SortedMap.ofEntries [((7 : Int64), (1 : Int64)), (7, 2), (0, 4), (7, 3)]) := by rfl
    have hzero : KeyType.int64.read "-0" = .ok (0 : Int64) := by decide
    refine ⟨_, hm, by decide, by decide, ?_⟩
    exact (hmap _ hm 0).1.2 ⟨("-0", .int 4), by simp [entries], hzero⟩
  · let listed : List (Int64 × Int64) := [(7, 1), (0, 4)]
    let ordered : SortedMap Int64 Int64 := ⟨[(0, 4), (7, 1)], by decide⟩
    -- The entries differ by an exchange, and the lookups do not differ at all.
    have hperm : listed.Perm ordered.entries := .swap _ _ _
    refine ⟨SortedMap.ofEntries listed, ordered, rfl, rfl, hwrite _ _ fun k => ?_⟩
    rw [SortedMap.get?_ofEntries]
    exact SortedMap.first?_of_perm hperm k

end DataType
end Wirecall
