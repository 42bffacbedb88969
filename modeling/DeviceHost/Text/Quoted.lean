import DeviceHost.Numeral.Digits
import DeviceHost.Text.Shapeless

/-!
# Texts quoted in refusals

A refusal that shows a text puts it in quotation marks. The quotation mark and the backslash are
written with a backslash before them, four control characters have short escapes, and every other
shapeless character is given by its number in braces, in lower-case hexadecimal digits.
-/

namespace DeviceHost.Text

/-- The number of a character, as it is shown in place of the character. -/
def numberEscape (c : Char) : List Char :=
  ['\\', 'u', '{'] ++ (Numeral.hexDigits c.toNat) ++ ['}']

/-- A character inside quotation marks. -/
def escape (c : Char) : List Char :=
  if c = '"' then ['\\', '"']
  else if c = '\\' then ['\\', '\\']
  else if c = '\n' then ['\\', 'n']
  else if c = '\r' then ['\\', 'r']
  else if c = '\t' then ['\\', 't']
  else if c.toNat = 0 then ['\\', '0']
  else if isShapeless c then numberEscape c
  else [c]

/-- A text in quotation marks. -/
def quote (s : String) : String :=
  String.ofList ('"' :: (s.toList.flatMap escape ++ ['"']))

end DeviceHost.Text
