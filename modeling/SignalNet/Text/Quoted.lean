import SignalNet.Text.Printable

/-!
Contract: the quoted form of a text in messages.

A quoted text stands between double quotes. The quote, the backslash and the
usual line controls are written with a letter behind a backslash; everything else
that cannot be shown is written by its code point.
-/

set_option autoImplicit false

namespace SignalNet.Text

/-- A code point in lower-case hexadecimal between braces. -/
def codePoint (c : Char) : List Char :=
  ['\\', 'u', Char.ofNat 0x7b] ++ Nat.toDigits 16 c.toNat ++ [Char.ofNat 0x7d]

def quotedChar (c : Char) : List Char :=
  match c with
  | '"' => ['\\', '"']
  | '\\' => ['\\', '\\']
  | '\n' => ['\\', 'n']
  | '\r' => ['\\', 'r']
  | '\t' => ['\\', 't']
  | '\x00' => ['\\', '0']
  | _ => if isPrintable c then [c] else codePoint c

/-- The text between double quotes, with its special characters written out. -/
def quoted (text : String) : String :=
  String.ofList ('"' :: (text.toList.flatMap quotedChar ++ ['"']))

end SignalNet.Text
