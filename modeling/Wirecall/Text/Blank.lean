import Wirecall.Text.CodePoints

/-!
# Blank characters

The characters with the property `White_Space`: what a reader of timestamps skips before a number.
-/

namespace Wirecall.Text

/-- Characters with the property `White_Space`. -/
def blanks : CodePoints :=
  [(0x0009, 0x000D), (0x0020, 0x0020), (0x0085, 0x0085), (0x00A0, 0x00A0), (0x1680, 0x1680),
   (0x2000, 0x200A), (0x2028, 0x2029), (0x202F, 0x202F), (0x205F, 0x205F), (0x3000, 0x3000)]

/-- Whether the character is blank. -/
def isBlank (c : Char) : Bool :=
  blanks.has c

/-- Drops the blanks in front of a text. -/
def skipBlanks (text : List Char) : List Char :=
  text.dropWhile isBlank

example : blanks.length = 10 ∧ isBlank '\u3000' = true ∧ isBlank '\u200b' = false := by decide

/-- Dropping blanks leaves a text that does not start with one alone. -/
theorem skipBlanks_cons_of_not_blank {c : Char} (rest : List Char) (h : isBlank c = false) :
    skipBlanks (c :: rest) = c :: rest := by
  simp [skipBlanks, h]

end Wirecall.Text
