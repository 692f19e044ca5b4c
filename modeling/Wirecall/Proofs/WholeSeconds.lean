import Wirecall.Proofs.RoundTrip

/-!
# What is left of a value on the wire

The only thing that is lost in writing without anybody noticing are parts of a second: the wire form of a
timestamp has no place for them, and what is read back is the start of the second. Of all values that are
sent this is the most that happens (`DataType.decode_of_writes`).

* `DataType.wholeSeconds` takes all timestamps inside a value back to the start of their second.
* `DataType.writes_wholeSeconds` says that the wire forms do not show it.
* `DataType.Sendable` are the values that cross without loss once this is done. Of timestamps only the year
  has to be one of four digits (`DataType.sendable_timestamp_iff`); about records and variants nothing is
  new compared with `DataType.Lossless`.
-/

namespace Wirecall

/-- The map with something done to each value. -/
def SortedMap.mapValues {K V W : Type} [Ord K] (f : V → W) (m : SortedMap K V) : SortedMap K W where
  entries := m.entries.map fun e => (e.1, f e.2)
  ascending := List.pairwise_map.2 m.ascending

/-- Whether a second is a leap second does not hang on its parts. -/
theorem Timestamp.isLeapSecond_wholeSecond (t : Timestamp) :
    t.wholeSecond.isLeapSecond = t.isLeapSecond := by
  show decide (nanosPerSecond ≤ t.wholeNano) = t.isLeapSecond
  -- A leap second is one by its nanoseconds, and its start has those of one.
  unfold wholeNano
  cases t.isLeapSecond with
  | true => rfl
  | false => rfl

/-- Parts of a second are not written. -/
theorem Timestamp.write_wholeSecond (t : Timestamp) : t.wholeSecond.write = t.write := by
  unfold write
  rw [isLeapSecond_wholeSecond]
  rfl

/-- What is done to all entries does not touch their order. -/
theorem MapOrder.Lists.map {α β : Type} {order : MapOrder} {entries listed : List α}
    (h : order.Lists entries listed) (f : α → β) : order.Lists (entries.map f) (listed.map f) := by
  cases order with
  | byKey => exact congrArg (List.map f) h
  | byText => exact List.Perm.map f h

namespace DataType

mutual
/-- A value with all timestamps in it at the start of their second. Everything else stays as it is, the keys of
maps included, since no timestamp is one. -/
def wholeSeconds : (type : DataType) → type.Carrier → type.Carrier
  | .timestamp, t => t.wholeSecond
  | .list item, xs | .array item, xs => xs.map item.wholeSeconds
  | .boxed item, x => item.wholeSeconds x
  | .named _ _ item, x => item.wholeSeconds x
  | .option _, none => none
  | .option item, some x => some (item.wholeSeconds x)
  | .pair first second, (x, y) => (first.wholeSeconds x, second.wholeSeconds y)
  | .map _ _ item, m => m.mapValues item.wholeSeconds
  | .record _ _ fields, xs => wholeSecondsOfFields fields xs
  | .variant _ _ cases, x => wholeSecondsOfCase cases x
  | .int64, x | .int, x | .int32, x | .bool, x | .float, x | .string, x | .char, x | .unit, x
  | .tree, x | .chain, x => x
/-- The same for the fields of a record. -/
def wholeSecondsOfFields : (fields : List FieldType) → FieldCarriers fields → FieldCarriers fields
  | [], xs => xs
  | ⟨_, _, type⟩ :: rest, (x, xs) => (type.wholeSeconds x, wholeSecondsOfFields rest xs)
/-- The same for a case. -/
def wholeSecondsOfCase : (cases : List CaseType) → CaseCarriers cases → CaseCarriers cases
  | ⟨_, _, none⟩ :: _, .inl x => .inl x
  | ⟨_, _, some payload⟩ :: _, .inl x => .inl (payload.wholeSeconds x)
  | ⟨_, _, none⟩ :: rest, .inr x => .inr (wholeSecondsOfCase rest x)
  | ⟨_, _, some _⟩ :: rest, .inr x => .inr (wholeSecondsOfCase rest x)
end

mutual
/-- A wire form of a value is one of the value at whole seconds. -/
theorem writes_wholeSeconds : ∀ (type : DataType) {x : type.Carrier} {v : Value},
    type.Writes x v → type.Writes (type.wholeSeconds x) v
  | .int64, _, _, h | .int, _, _, h | .int32, _, _, h | .bool, _, _, h | .float, _, _, h
  | .string, _, _, h | .char, _, _, h | .unit, _, _, h | .tree, _, _, h | .chain, _, _, h => h
  | .timestamp, t, _, h => by
    -- This is the only type for which anything happens.
    have hwritten : Value.timestamp t.wholeSecond.write = .timestamp t.write := by
      rw [t.write_wholeSecond]
    exact h.trans hwritten.symm
  | .list item, _, _, h | .array item, _, _, h => by
    obtain ⟨values, hv, hitems⟩ := h
    refine ⟨values, hv, List.forall₂_map_left_iff.2 ?_⟩
    exact hitems.imp fun _ _ hitem => writes_wholeSeconds item hitem
  | .boxed item, _, _, h => writes_wholeSeconds item h
  | .named _ _ item, _, _, h => writes_wholeSeconds item h
  | .option _, none, _, h => h
  | .option item, some _, _, h => by
    obtain ⟨w, hv, hw⟩ := h
    exact ⟨w, hv, writes_wholeSeconds item hw⟩
  | .pair first second, (_, _), _, h => by
    obtain ⟨a, b, hv, ha, hb⟩ := h
    exact ⟨a, b, hv, writes_wholeSeconds first ha, writes_wholeSeconds second hb⟩
  | .map _ key item, m, _, h => by
    obtain ⟨listed, entries, horder, hv, hentries⟩ := h
    -- Keys stay as they are, so the entries may be listed in the same order as before.
    refine ⟨_, entries, horder.map fun e => (e.1, item.wholeSeconds e.2), hv, ?_⟩
    refine List.forall₂_map_left_iff.2 ?_
    exact hentries.imp fun _ _ hentry => ⟨hentry.1, writes_wholeSeconds item hentry.2⟩
  | .record _ _ fields, _, _, h => by
    obtain ⟨entries, hv, hfields⟩ := h
    exact ⟨entries, hv, writesFields_wholeSeconds fields hfields⟩
  | .variant _ _ cases, _, _, h => writesCase_wholeSeconds cases h
theorem writesFields_wholeSeconds : ∀ (fields : List FieldType) {xs : FieldCarriers fields}
    {entries : List (String × Value)}, WritesFields fields xs entries →
      WritesFields fields (wholeSecondsOfFields fields xs) entries
  | [], _, _, h => h
  | ⟨_, _, type⟩ :: rest, (_, _), _, h => by
    obtain ⟨v, more, hentries, hv, hmore⟩ := h
    exact ⟨v, more, hentries, writes_wholeSeconds type hv, writesFields_wholeSeconds rest hmore⟩
theorem writesCase_wholeSeconds : ∀ (cases : List CaseType) {x : CaseCarriers cases} {v : Value},
    WritesCase cases x v → WritesCase cases (wholeSecondsOfCase cases x) v
  | ⟨_, _, none⟩ :: _, .inl _, _, h => h
  | ⟨_, _, some payload⟩ :: _, .inl _, _, h => by
    obtain ⟨w, hv, hw⟩ := h
    exact ⟨w, hv, writes_wholeSeconds payload hw⟩
  | ⟨_, _, none⟩ :: rest, .inr _, _, h | ⟨_, _, some _⟩ :: rest, .inr _, _, h =>
    writesCase_wholeSeconds rest h
end

/-- Whether a value can be sent: at whole seconds, it crosses without loss. Unlike `Lossless` this does not ask
that it is read back as it was. -/
def Sendable (type : DataType) (x : type.Carrier) : Prop :=
  type.Lossless (type.wholeSeconds x)

/-- Every moment of a year from 0 to 9999 can be sent, and no other. -/
theorem sendable_timestamp_iff {t : Timestamp} :
    DataType.timestamp.Sendable t ↔ 0 ≤ t.year ∧ t.year ≤ 9999 := by
  constructor
  · intro h
    exact ⟨h.1, h.2.1⟩
  · intro h
    refine ⟨h.1, h.2, ?_⟩
    show t.wholeNano = 0 ∨ t.wholeNano = nanosPerSecond
    -- The start of a second is all that is left, so the nanoseconds are settled.
    unfold Timestamp.wholeNano
    split
    · exact .inr rfl
    · exact .inl rfl

/-- **What is sent is read back but for parts of a second.** The value and the value at whole seconds have the
same wire forms, and of these the latter is read. -/
theorem decode_of_writes (type : DataType) {x : type.Carrier} {v : Value} (h : type.Sendable x)
    (hv : type.Writes x v) : type.decode v = .ok (type.wholeSeconds x) :=
  decode_of_spells type (spells_of_writes type h (writes_wholeSeconds type hv))

end DataType
end Wirecall
