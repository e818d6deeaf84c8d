import Scriptlet.Text.Classes

/-!
# Quoted text

The form in which a text is shown when its value is inspected: between double quotes, on one line,
with every scalar that would not be seen, or would be seen as part of its neighbour, replaced by
an escape.
-/

namespace Scriptlet

namespace Quoted

/-- The code point of a scalar in lower-case hexadecimal, as in `\u{301}`. -/
def codePointEscape (c : Char) : List Char :=
  "\\u\x7b".toList ++ Nat.toDigits 16 c.toNat ++ "\x7d".toList

/-- How one scalar is written between the quotes.

A few have short escapes. The single quote needs none, because the text stands between double
quotes. -/
def escape (c : Char) : List Char :=
  match c with
  | '\x00' => ['\\', '0']
  | '\t' => ['\\', 't']
  | '\r' => ['\\', 'r']
  | '\n' => ['\\', 'n']
  | '"' => ['\\', '"']
  | '\\' => ['\\', '\\']
  | _ => if isExtending c || !isPrintable c then codePointEscape c else [c]

end Quoted

/-- The text between double quotes, on one line and with nothing hidden. -/
def quoted (text : String) : String :=
  String.ofList ('"' :: text.toList.flatMap Quoted.escape ++ ['"'])

end Scriptlet
