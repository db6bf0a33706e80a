import Federation.Text.Hidden

/-!
# Quoted texts in messages

A text that a message quotes is written between quotes with an escape for everything that would not
show: the quote and the backslash, the control characters with a letter of their own, and any other
hidden character by its code point.
-/

namespace Federation.Text

/-- A number in lower case hexadecimal digits. -/
def hexText (n : Nat) : List Char :=
  Nat.toDigits 16 n

/-- A character as a quoted text shows it. -/
def quotedChar (c : Char) : List Char :=
  match c with
  | '"' => ['\\', '"']
  | '\\' => ['\\', '\\']
  | '\t' => ['\\', 't']
  | '\n' => ['\\', 'n']
  | '\r' => ['\\', 'r']
  | '\x00' => ['\\', '0']
  | c =>
    if c < ' ' || c == '\x7f' || (0x7F < c.toNat && isHidden c) then
      ['\\', 'u', '\x7b'] ++ hexText c.toNat ++ ['\x7d']
    else [c]

/-- A text between quotes. -/
def quoted (s : String) : String :=
  "\"" ++ String.ofList (s.toList.flatMap quotedChar) ++ "\""

end Federation.Text
