import Wirecall.Text.VisibleTable

/-!
# Quoted text

The form in which a text appears inside a diagnostic: between double quotes, with everything that
would not show on the page written as an escape. `quote` writes it, `escape` is its rule for a single
character.
-/

namespace Wirecall.Text

/-- Whether a character has to be written by its code point: it has no shape, or it would attach to
the character before it. -/
def needsCode (c : Char) : Bool :=
  if c.toNat < 0x80 then c.toNat < 0x20 || c.toNat == 0x7F
  else extending.has c || invisible.has c

/-- The code point of a character between braces, in lower-case hexadecimal digits without leading
zeros. -/
def codeEscape (c : Char) : List Char :=
  ['\\', 'u', '\x7b'] ++ Nat.toDigits 16 c.toNat ++ ['\x7d']

/-- The written form of one character inside quotes. The single quote stands for itself. -/
def escape (c : Char) : List Char :=
  match c with
  | '"' => ['\\', '"']
  | '\\' => ['\\', '\\']
  | '\n' => ['\\', 'n']
  | '\r' => ['\\', 'r']
  | '\t' => ['\\', 't']
  | '\x00' => ['\\', '0']
  | c => if needsCode c then codeEscape c else [c]

/-- A text between double quotes. -/
def quote (text : String) : String :=
  String.ofList (['"'] ++ text.toList.flatMap escape ++ ['"'])

example : quote "it's \"ok\"" = "\"it's \\\"ok\\\"\"" := by decide
example : quote "ﾊﾟ\u3164" = "\"ﾊﾟ\\u\x7b3164\x7d\"" := by decide +kernel
example : quote "a\u0301\u00a0é" = "\"a\\u\x7b301\x7d\\u\x7ba0\x7dé\"" := by decide +kernel

end Wirecall.Text
