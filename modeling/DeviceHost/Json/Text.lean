import DeviceHost.Json.Node
import DeviceHost.Table

/-!
# The text of a JSON document

Documents are written without blank space, members in the order in which they stand. Inside texts
only the quotation mark, the backslash and the control characters below U+0020 are escaped, with the
short escapes where there are any.

`Json.tidy` is a document with the members of each object sorted by name and, of repeated members,
only the last one: the form in which a refused value is shown.
-/

namespace DeviceHost.Json

/-- A character inside a text. -/
def escaped (c : Char) : List Char :=
  if c = '"' then ['\\', '"']
  else if c = '\\' then ['\\', '\\']
  else if c = '\x08' then ['\\', 'b']
  else if c = '\x0c' then ['\\', 'f']
  else if c = '\n' then ['\\', 'n']
  else if c = '\r' then ['\\', 'r']
  else if c = '\t' then ['\\', 't']
  else if c.toNat < 0x20 then
    ['\\', 'u', '0', '0', Numeral.hexDigitLower (c.toNat / 16),
      Numeral.hexDigitLower (c.toNat % 16)]
  else [c]

/-- A text in quotation marks. -/
def quoted (s : String) : List Char :=
  '"' :: (s.toList.flatMap escaped ++ ['"'])

mutual

/-- The characters of a document. -/
def chars : Json → List Char
  | .null => ['n', 'u', 'l', 'l']
  | .bool b => if b then ['t', 'r', 'u', 'e'] else ['f', 'a', 'l', 's', 'e']
  | .number n => n.chars
  | .string s => quoted s
  | .array items => '[' :: (itemsChars items ++ [']'])
  | .object members => '{' :: (membersChars members ++ ['}'])

/-- The items of an array, with commas between them. -/
def itemsChars : List Json → List Char
  | [] => []
  | [j] => j.chars
  | j :: r => j.chars ++ ',' :: itemsChars r

/-- The members of an object, with commas between them. -/
def membersChars : List (String × Json) → List Char
  | [] => []
  | [(k, j)] => quoted k ++ ':' :: j.chars
  | (k, j) :: r => quoted k ++ ':' :: (j.chars ++ ',' :: membersChars r)

end

/-- The text of a document. -/
def text (j : Json) : String := String.ofList j.chars

mutual

/-- A document with sorted members, of repeated ones only the last. -/
def tidy : Json → Json
  | .array items => .array (tidyItems items)
  | .object members => .object (Table.ofList (tidyMembers members)).toList
  | j => j

/-- The items of an array, tidied. -/
def tidyItems : List Json → List Json
  | [] => []
  | j :: r => j.tidy :: tidyItems r

/-- The members of an object, each tidied. -/
def tidyMembers : List (String × Json) → List (String × Json)
  | [] => []
  | (k, j) :: r => (k, j.tidy) :: tidyMembers r

end

/-- The value of the last member of a name, in an object. -/
def member? (name : String) : Json → Option Json
  | .object members => (members.reverse.find? fun m => m.1 == name).map Prod.snd
  | _ => none

/-- The characters of a text document. -/
def string? : Json → Option String
  | .string s => some s
  | _ => none

end DeviceHost.Json
