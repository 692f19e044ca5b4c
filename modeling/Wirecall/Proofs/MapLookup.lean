import Mathlib.Data.List.Sort
import Wirecall.SortedMap

/-!
# Looking keys up in sorted maps

A sorted map is determined by what it holds under each key (`SortedMap.ext_get?`), and building one
from a list of entries keeps the first entry of every key (`get?_ofEntries`). So the readers of
dictionaries can be described by lookups alone, without a word about the order of entries.

`first?` is the lookup in a plain list. Where no two entries share a key it is nothing but membership
(`first?_eq_some_iff`), hence blind to the order of the list (`first?_of_perm`): a map can be taken apart
and put together again in any order.
-/

namespace Wirecall.SortedMap

open Std (LawfulEqCmp)

variable {K V : Type} [Ord K]

/-- The value of the first of some entries with a key. -/
def first? (entries : List (K × V)) (key : K) : Option V :=
  (entries.find? fun e => compare key e.1 == .eq).map (·.2)

@[simp] theorem first?_nil (key : K) : first? ([] : List (K × V)) key = none := rfl

theorem first?_cons (k : K) (v : V) (rest : List (K × V)) (key : K) :
    first? ((k, v) :: rest) key = if compare key k = .eq then some v else first? rest key := by
  unfold first?
  rw [List.find?_cons]
  cases h : compare key k <;> simp

/-- A key below all keys of a list is not in the list. -/
theorem first?_eq_none_of_lt {key : K} {entries : List (K × V)}
    (h : ∀ e ∈ entries, compare key e.1 = .lt) : first? entries key = none := by
  induction entries with
  | nil => rfl
  | cons head rest ih =>
    obtain ⟨k, v⟩ := head
    -- The head is above the key, and so is all that comes after it.
    have hk : compare key k = .lt := h (k, v) List.mem_cons_self
    rw [first?_cons, hk, if_neg (by decide)]
    exact ih fun e he => h e (List.mem_cons_of_mem _ he)

@[simp] theorem get?_empty (key : K) : (empty : SortedMap K V).get? key = none := rfl

/-! ### Adding entries -/

section Adding

variable [Std.TransOrd K]

/-- An added entry shows under its key, unless there was one before. -/
theorem first?_addEntry {entries : List (K × V)}
    (ascending : entries.Pairwise fun a b => compare a.1 b.1 = .lt) (key : K) (value : V) (k : K) :
    first? (addEntry key value entries) k =
      (first? entries k).or (if compare k key = .eq then some value else none) := by
  induction entries with
  | nil => rw [addEntry, first?_cons, first?_nil, Option.none_or]
  | cons head rest ih =>
    obtain ⟨k₀, v₀⟩ := head
    obtain ⟨hhead, hrest⟩ := List.pairwise_cons.1 ascending
    rw [addEntry]
    split
    next hlt =>
      rw [first?_cons]
      split
      next heq =>
        -- The key of the new entry is below all others, so nothing was found under it.
        have below : ∀ e ∈ (k₀, v₀) :: rest, compare k e.1 = .lt := by
          intro e he
          refine Std.TransCmp.lt_of_eq_of_lt heq ?_
          rcases List.mem_cons.1 he with rfl | he
          · exact hlt
          · exact Std.TransCmp.lt_trans hlt (hhead e he)
        rw [first?_eq_none_of_lt below, Option.none_or]
      next => rw [Option.or_none]
    next heq =>
      rw [first?_cons]
      split
      -- The entry was there before, and it stays.
      next => rw [Option.some_or]
      next hne =>
        -- Under any other key the new one cannot show, as it was left out.
        have : compare k key ≠ .eq := fun h => hne (Std.TransCmp.eq_trans h heq)
        rw [if_neg this, Option.or_none]
    next =>
      -- The new entry goes behind the head, so the search through the rest decides.
      rw [first?_cons, first?_cons]
      split
      · rw [Option.some_or]
      · exact ih hrest

theorem get?_insertNew (m : SortedMap K V) (key : K) (value : V) (k : K) :
    (m.insertNew key value).get? k =
      (m.get? k).or (if compare k key = .eq then some value else none) :=
  first?_addEntry m.ascending key value k

/-- Entries added to a map one after the other show where the map has nothing. -/
theorem get?_foldl_insertNew (entries : List (K × V)) (m : SortedMap K V) (k : K) :
    (entries.foldl (fun m e => m.insertNew e.1 e.2) m).get? k
      = (m.get? k).or (first? entries k) := by
  induction entries generalizing m with
  | nil => rw [List.foldl_nil, first?_nil, Option.or_none]
  | cons head rest ih =>
    obtain ⟨key, value⟩ := head
    -- What the map has comes first, then the head, then the rest.
    rw [List.foldl_cons, ih, get?_insertNew, Option.or_assoc, first?_cons]
    split
    · rw [Option.some_or]
    · rw [Option.none_or]

/-- In the map of some entries the first entry of each key counts. -/
theorem get?_ofEntries (entries : List (K × V)) (k : K) :
    (ofEntries entries).get? k = first? entries k := by
  rw [ofEntries, get?_foldl_insertNew, get?_empty, Option.none_or]

end Adding

/-! ### Maps as sets of entries -/

variable [Std.LawfulEqOrd K]

/-- Where no two entries share a key, an entry is found under its key and nothing else is. -/
theorem first?_eq_some_iff {entries : List (K × V)}
    (distinct : entries.Pairwise fun a b => a.1 ≠ b.1) {k : K} {v : V} :
    first? entries k = some v ↔ (k, v) ∈ entries := by
  induction entries with
  | nil => simp
  | cons head rest ih =>
    obtain ⟨k₀, v₀⟩ := head
    obtain ⟨hhead, hrest⟩ := List.pairwise_cons.1 distinct
    rw [first?_cons, List.mem_cons]
    -- Under the key of the head the search ends there, and the key does not come again.
    by_cases h : k = k₀
    · subst h
      rw [if_pos (LawfulEqCmp.compare_eq_iff_eq.2 rfl)]
      have absent : (k, v) ∉ rest := fun hmem => hhead _ hmem rfl
      simp [absent, eq_comm]
    · rw [if_neg fun hc => h (LawfulEqCmp.compare_eq_iff_eq.1 hc), ih hrest]
      simp [h]

theorem distinct_keys (m : SortedMap K V) : m.entries.Pairwise fun a b => a.1 ≠ b.1 := by
  refine m.ascending.imp ?_
  intro a b hlt heq
  have hsame : compare a.1 b.1 = .eq := LawfulEqCmp.compare_eq_iff_eq.2 heq
  rw [hsame] at hlt
  cases hlt

theorem get?_eq_some_iff (m : SortedMap K V) {k : K} {v : V} :
    m.get? k = some v ↔ (k, v) ∈ m.entries :=
  first?_eq_some_iff m.distinct_keys

/-- The entries of a map are found under their keys in whatever order they are listed. -/
theorem first?_of_perm {m : SortedMap K V} {listed : List (K × V)} (h : listed.Perm m.entries)
    (k : K) : first? listed k = m.get? k := by
  -- That no two entries share a key does not depend on the order either.
  have distinct : listed.Pairwise fun a b => a.1 ≠ b.1 :=
    h.symm.pairwise m.distinct_keys fun hne => hne.symm
  ext v
  rw [first?_eq_some_iff distinct, get?_eq_some_iff, h.mem_iff]

variable [Std.TransOrd K]

/-- Two maps that hold the same under each key are the same map. -/
theorem ext_get? {m n : SortedMap K V} (h : ∀ k, m.get? k = n.get? k) : m = n := by
  -- Two lists that are ascending and have the same members are the same list.
  let below (a b : K × V) : Prop := compare a.1 b.1 = .lt
  have : Std.Irrefl below := ⟨fun a ha => by simp [below] at ha⟩
  have : Std.Antisymm below :=
    ⟨fun a b hab hba => absurd (Std.TransCmp.lt_trans hab hba) (by simp)⟩
  have entries : m.entries = n.entries := by
    refine List.Pairwise.eq_of_mem_iff (r := below) m.ascending n.ascending ?_
    rintro ⟨k, v⟩
    rw [← get?_eq_some_iff, ← get?_eq_some_iff, h]
  cases m
  cases n
  cases entries
  rfl

/-- A map is put together from some entries exactly when it holds the first entry of each key. -/
theorem ofEntries_eq_iff {entries : List (K × V)} {m : SortedMap K V} :
    ofEntries entries = m ↔ ∀ k, m.get? k = first? entries k := by
  constructor
  · rintro rfl k
    exact get?_ofEntries entries k
  · intro h
    apply ext_get?
    intro k
    rw [get?_ofEntries, h]

end Wirecall.SortedMap
