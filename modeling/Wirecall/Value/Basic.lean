import Wirecall.Number.Binary64

/-!
# Wire values

Everything that crosses a connection is a `Value`. A value does not describe itself: how many items a
sequence ought to have and what the keys of a dictionary mean is known only to the descriptor that it
is read against.

Two notions of sameness exist side by side, as for the numbers inside: equality, and `Value.agrees`,
which compares numbers by what they stand for. `Value.height` bounds how deep a value nests.
-/

namespace Wirecall

/-- A value on the wire. -/
inductive Value where
  | int (n : Int64)
  | int32 (n : Int32)
  | bool (b : Bool)
  | float (x : Binary64)
  | string (s : String)
  /-- A timestamp in its wire form; nothing is known about the text. -/
  | timestamp (text : String)
  /-- Lists, arrays, pairs, options and tags with a payload. -/
  | seq (items : List Value)
  /-- Entries in order. A key may repeat; readers take the first entry that matches. -/
  | dict (entries : List (String × Value))
  | null
deriving Inhabited

namespace Value

/-- The name of a value's outermost shape. -/
def kind : Value → String
  | .int _ => "int"
  | .int32 _ => "int32"
  | .bool _ => "bool"
  | .float _ => "float"
  | .string _ => "string"
  | .timestamp _ => "datetime"
  | .seq _ => "enum"
  | .dict _ => "dict"
  | .null => "null"

/-- The text of a string value. -/
def string? : Value → Option String
  | .string s => some s
  | _ => none

/-- The items of a sequence. -/
def items? : Value → Option (List Value)
  | .seq items => some items
  | _ => none

/-- The entries of a dictionary. -/
def entries? : Value → Option (List (String × Value))
  | .dict entries => some entries
  | _ => none

/-! ### Nesting -/

mutual
/-- How deep a value nests. The null value, which stands in for a payload that was left out, is lower
than every other value. -/
def height : Value → Nat
  | .null => 0
  | .seq items => heightItems items + 1
  | .dict entries => heightEntries entries + 1
  | .int _ | .int32 _ | .bool _ | .float _ | .string _ | .timestamp _ => 1
/-- The greatest height among some items. -/
def heightItems : List Value → Nat
  | [] => 0
  | v :: rest => max v.height (heightItems rest)
/-- The greatest height among the values of some entries. -/
def heightEntries : List (String × Value) → Nat
  | [] => 0
  | (_, v) :: rest => max v.height (heightEntries rest)
end

/-- An item is lower than its sequence. -/
theorem height_le_heightItems {v : Value} {items : List Value} (h : v ∈ items) :
    v.height ≤ heightItems items := by
  induction items with
  | nil => cases h
  | cons w rest ih =>
    rcases List.mem_cons.1 h with rfl | h
    · exact Nat.le_max_left ..
    · exact Nat.le_trans (ih h) (Nat.le_max_right ..)

/-- The value of an entry is lower than its dictionary. -/
theorem height_le_heightEntries {key : String} {v : Value} {entries : List (String × Value)}
    (h : (key, v) ∈ entries) : v.height ≤ heightEntries entries := by
  induction entries with
  | nil => cases h
  | cons e rest ih =>
    obtain ⟨k, w⟩ := e
    rcases List.mem_cons.1 h with h | h
    · cases h
      exact Nat.le_max_left ..
    · exact Nat.le_trans (ih h) (Nat.le_max_right ..)

/-! ### Sameness by what numbers stand for -/

mutual
/-- Whether two values are the same, their numbers compared by what they stand for. -/
def agrees : Value → Value → Bool
  | .int a, .int b => a == b
  | .int32 a, .int32 b => a == b
  | .bool a, .bool b => a == b
  | .float a, .float b => a.agrees b
  | .string a, .string b => a == b
  | .timestamp a, .timestamp b => a == b
  | .seq as, .seq bs => itemsAgree as bs
  | .dict as, .dict bs => entriesAgree as bs
  | .null, .null => true
  | _, _ => false
/-- Whether two lists of items agree one by one. -/
def itemsAgree : List Value → List Value → Bool
  | [], [] => true
  | a :: as, b :: bs => a.agrees b && itemsAgree as bs
  | _, _ => false
/-- Whether two lists of entries agree one by one, keys included. -/
def entriesAgree : List (String × Value) → List (String × Value) → Bool
  | [], [] => true
  | (j, a) :: as, (k, b) :: bs => j == k && a.agrees b && entriesAgree as bs
  | _, _ => false
end

end Value
end Wirecall
