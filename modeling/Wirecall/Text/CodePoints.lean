/-!
# Sets of characters

A property of characters that no formula describes is held as a list of inclusive ranges of code
points. `CodePoints.has` decides membership.
-/

namespace Wirecall.Text

/-- A set of characters as inclusive ranges of code points, in ascending order. -/
abbrev CodePoints := List (Nat × Nat)

/-- Whether the character lies in one of the ranges. -/
def CodePoints.has (set : CodePoints) (c : Char) : Bool :=
  set.any fun range => range.1 ≤ c.toNat && c.toNat ≤ range.2

end Wirecall.Text
