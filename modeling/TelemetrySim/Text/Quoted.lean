import TelemetrySim.Text.Unprintable

/-!
Quoted names in messages. A quote and a backslash are escaped, tab, line feed, carriage return and
the null character have short forms, an unprintable character is shown by its number, and every
other character stands for itself.
-/

set_option autoImplicit false
set_option relaxedAutoImplicit false

namespace TelemetrySim.Text

/-- Lower-case hexadecimal digits without leading zeros. -/
def hexDigits (n : Nat) : List Char := Nat.toDigits 16 n

def quotedChar (c : Char) : List Char :=
  if c = '"' then ['\\', '"']
  else if c = '\\' then ['\\', '\\']
  else if c = '\t' then ['\\', 't']
  else if c = '\r' then ['\\', 'r']
  else if c = '\n' then ['\\', 'n']
  else if c = Char.ofNat 0 then ['\\', '0']
  else if isUnprintable c then ['\\', 'u', '\x7b'] ++ hexDigits c.toNat ++ ['\x7d']
  else [c]

/-- A name as messages show it, between quotes. -/
def quoted (s : String) : String :=
  String.ofList ('"' :: s.toList.flatMap quotedChar ++ ['"'])

end TelemetrySim.Text
