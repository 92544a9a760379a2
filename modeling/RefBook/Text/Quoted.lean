import RefBook.Unicode.Printable

/-! Texts quoted for a diagnostic: what would not show by itself is written as
an escape. -/

namespace RefBook.Text

/-- The lower case hexadecimal digits of a number. -/
def hexDigits (n : Nat) : List Char := Nat.toDigits 16 n

/-- One character between double quotes. -/
def quotedChar (c : Char) : List Char :=
  if c = '\x00' then ['\\', '0']
  else if c = '\t' then ['\\', 't']
  else if c = '\r' then ['\\', 'r']
  else if c = '\n' then ['\\', 'n']
  else if c = '\x22' then ['\\', '\x22']
  else if c = '\\' then ['\\', '\\']
  else if Unicode.isPrintable c then [c]
  else ['\\', 'u', '\x7b'] ++ hexDigits c.toNat ++ ['\x7d']

/-- The text between double quotes, with escapes where needed. -/
def quoted (t : List Char) : List Char :=
  '\x22' :: t.flatMap quotedChar ++ ['\x22']

end RefBook.Text
