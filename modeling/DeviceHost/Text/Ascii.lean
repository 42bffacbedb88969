/-!
# Letter case, for ASCII only

Names of value types, truth values and the special floating point values are recognised without
regard to the case of their ASCII letters. No other character has a second form here: `İ` and `ı`
are not the letters `I` and `i`.
-/

namespace DeviceHost.Text

/-- The lower-case form of an ASCII capital letter; every other character is kept. -/
def lowerChar (c : Char) : Char :=
  if 'A' ≤ c ∧ c ≤ 'Z' then Char.ofNat (c.toNat + 32) else c

/-- A text with its ASCII capital letters in lower case. -/
def lower (cs : List Char) : List Char :=
  cs.map lowerChar

/-- Equality up to the case of ASCII letters. -/
def sameLetters (a b : String) : Bool :=
  lower a.toList == lower b.toList

end DeviceHost.Text
