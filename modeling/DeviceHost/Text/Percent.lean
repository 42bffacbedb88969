import DeviceHost.Numeral.Digits
import DeviceHost.Text.Utf8

/-!
# Percent encoding

A segment of a web address may hold any text: letters, digits and four other characters stand for
themselves, and every other octet of the text's UTF-8 form is written as `%` with two digits.

* `encode` — the segment of a text;
* `decode` — the octets of a segment; a `%` without two digits behind it stands for itself.
-/

namespace DeviceHost.Percent

/-- A character that stands for itself. -/
def isPlain (c : Char) : Bool :=
  ('0' ≤ c && c ≤ '9') || ('a' ≤ c && c ≤ 'z') || ('A' ≤ c && c ≤ 'Z') || c == '-' || c == '_' ||
    c == '.' || c == '~'

/-- An octet, written out. -/
def escape (b : UInt8) : List Char :=
  ['%', Numeral.hexDigitUpper (b.toNat / 16), Numeral.hexDigitUpper (b.toNat % 16)]

/-- A character of a segment. -/
def encodeChar (c : Char) : List Char :=
  if isPlain c then [c] else (Utf8.encodeChar c).flatMap escape

/-- The segment of a text. -/
def encode (cs : List Char) : List Char := cs.flatMap encodeChar

/-- The octets of a segment. -/
def decode : List Char → List UInt8
  | '%' :: a :: b :: r =>
    match Numeral.hexDigit? a, Numeral.hexDigit? b with
    | some x, some y => UInt8.ofNat (x * 16 + y) :: decode r
    | _, _ => Utf8.encodeChar '%' ++ decode (a :: b :: r)
  | c :: r => Utf8.encodeChar c ++ decode r
  | [] => []

/-- The text of a segment, if its octets are well-formed. -/
def text? (cs : List Char) : Option String := Utf8.text? (decode cs)

end DeviceHost.Percent
