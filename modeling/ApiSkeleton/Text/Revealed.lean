import ApiSkeleton.Text.PropertyTable
import ApiSkeleton.Text.Quoted

namespace ApiSkeleton.Text

/-- A number in hexadecimal, without leading zeros. -/
def hexDigits (n : Nat) : List Char :=
  if _ : n < 16 then [hexDigit n] else hexDigits (n / 16) ++ [hexDigit (n % 16)]
termination_by n
decreasing_by omega

/-- What stands for one character. Quotes are escaped only where they would end the text. -/
def revealChar (c : Char) : List Char :=
  if c = '"' then ['\\', '"']
  else if c = '\\' then ['\\', '\\']
  else if c = '\n' then ['\\', 'n']
  else if c = '\r' then ['\\', 'r']
  else if c = '\t' then ['\\', 't']
  else if c = '\x00' then ['\\', '0']
  else if 32 ≤ c.toNat ∧ c.toNat < 127 then [c]
  else if inSpans graphemeExtendSpans c || (c != ' ' && inSpans invisibleSpans c) then
    ['\\', 'u', '\x7b'] ++ hexDigits c.toNat ++ ['\x7d']
  else [c]

/-- A text in quotes with nothing hidden. -/
def revealed (s : String) : String :=
  String.ofList ('"' :: (s.toList.flatMap revealChar ++ ['"']))

end ApiSkeleton.Text
