/-!
# Maps in the order of their keys

A `SortedMap` is a list of entries with strictly ascending keys, so two maps with the same entries are
equal. `insertNew` adds an entry unless the key is there already, and `ofEntries` builds a map in which
the first of several entries with one key counts. Adding an entry keeps the order
(`ascending_addEntry`), which is what makes the operations land in the type.
-/

namespace Wirecall

/-- A finite map from `K` to `V`, its entries in strictly ascending order of keys. -/
structure SortedMap (K V : Type) [Ord K] where
  entries : List (K × V)
  ascending : entries.Pairwise fun a b => compare a.1 b.1 = .lt

namespace SortedMap

variable {K V : Type} [Ord K]

/-- The map without entries. -/
def empty : SortedMap K V :=
  ⟨[], .nil⟩

/-- The keys in ascending order. -/
def keys (m : SortedMap K V) : List K :=
  m.entries.map (·.1)

/-- The value of a key. -/
def get? (m : SortedMap K V) (key : K) : Option V :=
  (m.entries.find? fun e => compare key e.1 == .eq).map (·.2)

/-- Adds an entry at its place, unless there is one for the key. The recursion goes along the keys up to the
first that is not smaller. -/
def addEntry (key : K) (value : V) : List (K × V) → List (K × V)
  | [] => [(key, value)]
  | (k, v) :: rest =>
    match compare key k with
    | .lt => (key, value) :: (k, v) :: rest
    | .eq => (k, v) :: rest
    | .gt => (k, v) :: addEntry key value rest

theorem eq_or_mem_of_mem_addEntry {key : K} {value : V} {e : K × V} {entries : List (K × V)}
    (h : e ∈ addEntry key value entries) : e = (key, value) ∨ e ∈ entries := by
  induction entries with
  | nil => simpa [addEntry] using h
  | cons head rest ih =>
    rw [addEntry] at h
    split at h
    · simpa using h
    · exact .inr h
    · rcases List.mem_cons.1 h with rfl | h
      · exact .inr List.mem_cons_self
      · exact (ih h).imp_right (List.mem_cons_of_mem _)

variable [Std.TransOrd K]

theorem ascending_addEntry (key : K) (value : V) {entries : List (K × V)}
    (h : entries.Pairwise fun a b => compare a.1 b.1 = .lt) :
    (addEntry key value entries).Pairwise fun a b => compare a.1 b.1 = .lt := by
  induction entries with
  | nil => simp [addEntry]
  | cons head rest ih =>
    obtain ⟨k, v⟩ := head
    obtain ⟨hhead, hrest⟩ := List.pairwise_cons.1 h
    rw [addEntry]
    split
    next hlt =>
      refine List.pairwise_cons.2 ⟨fun e he => ?_, h⟩
      rcases List.mem_cons.1 he with rfl | he
      · exact hlt
      · exact Std.TransCmp.lt_trans hlt (hhead e he)
    next => exact h
    next hgt =>
      refine List.pairwise_cons.2 ⟨fun e he => ?_, ih hrest⟩
      rcases eq_or_mem_of_mem_addEntry he with rfl | he
      · exact Std.OrientedCmp.lt_of_gt hgt
      · exact hhead e he

/-- The map with an entry more, or the same map if the key has one. -/
def insertNew (m : SortedMap K V) (key : K) (value : V) : SortedMap K V :=
  ⟨addEntry key value m.entries, ascending_addEntry key value m.ascending⟩

/-- The map of some entries. Of several entries with one key the first counts. -/
def ofEntries (entries : List (K × V)) : SortedMap K V :=
  entries.foldl (fun m e => m.insertNew e.1 e.2) empty

end SortedMap
end Wirecall
