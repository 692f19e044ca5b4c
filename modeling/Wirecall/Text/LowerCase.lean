import Wirecall.Text.CaseTable

/-!
# Lower-casing

Names and tags meet in lower case, so two spellings are the same name exactly when `lowerCase` sends
them to the same text. Every character is lowered by itself, except the capital sigma: at the end of
a word it becomes the final sigma. Whether it stands there is decided by its neighbours, looking
through characters that carry no case of their own.
-/

namespace Wirecall.Text

/-- The lower-case form of a character, whatever stands around it. Only the dotted capital I needs
two characters. -/
def lowerChar (c : Char) : List Char :=
  -- ASCII needs no table.
  if c.toNat < 0x80 then
    [if 'A' ≤ c ∧ c ≤ 'Z' then Char.ofNat (c.toNat + 0x20) else c]
  else if c = '\u0130' then
    ['i', '\u0307']
  else
    match lowerRuns.find? (·.covers c.toNat) with
    | some run => [Char.ofNat (c.toNat + run.offset).toNat]
    | none => [c]

/-- Whether the first character that is not looked through is a letter with case. -/
def startsCased (text : List Char) : Bool :=
  match text.dropWhile caseIgnorable.has with
  | c :: _ => cased.has c
  | [] => false

/-- Lowers the rest of a text whose first part, read backwards, is `before`. -/
def lowerFrom (before : List Char) : List Char → List Char
  | [] => []
  | c :: rest =>
    (if c = 'Σ' then [if startsCased before && !startsCased rest then 'ς' else 'σ']
      else lowerChar c) ++ lowerFrom (c :: before) rest

/-- A text in lower case. -/
def lowerCase (text : String) : String :=
  String.ofList (lowerFrom [] text.toList)

example : lowerCase "ΟΔΟΣ" = "οδος" := by decide +kernel
example : lowerCase "ΣΑΣ. Σ1İK" = "σας. σ1i\u0307k" := by decide +kernel

end Wirecall.Text
