import Wirecall.Number.FloatText
import Wirecall.Text.Quoted
import Wirecall.Value.Basic

/-!
# Values as text

How a value appears in a diagnostic. Strings are quoted; keys and timestamps are not.
-/

namespace Wirecall.Value

/-- Numbers are set plainly from 1e-4 up to but excluding 1e16. -/
def floatLayout : FloatLayout where
  plainFrom := -3
  plainTo := 16
  exponentMark := 'e'
  infinite := ['i', 'n', 'f']
  nan := ['N', 'a', 'N']

mutual
/-- A value as text. -/
def text : Value → String
  | .int n => String.ofList (Decimal.ofInt n.toInt)
  | .int32 n => String.ofList (Decimal.ofInt n.toInt) ++ "i32"
  | .bool b => if b then "true" else "false"
  | .float x => floatLayout.write x
  | .string s => Text.quote s
  | .timestamp text => "@" ++ text
  | .seq items => "[" ++ ", ".intercalate (itemTexts items) ++ "]"
  | .dict entries => "\x7b" ++ ", ".intercalate (entryTexts entries) ++ "\x7d"
  | .null => "null"
/-- The texts of some items. -/
def itemTexts : List Value → List String
  | [] => []
  | v :: rest => v.text :: itemTexts rest
/-- The texts of some entries. -/
def entryTexts : List (String × Value) → List String
  | [] => []
  | (key, v) :: rest => (key ++ ": " ++ v.text) :: entryTexts rest
end

example : (seq [.int32 7, .dict [("k", .string "v")], .null]).text
    = "[7i32, \x7bk: \"v\"\x7d, null]" := by decide

end Wirecall.Value
