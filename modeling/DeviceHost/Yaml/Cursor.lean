/-!
# Places in a YAML text

What a YAML text means depends on columns, so its reader keeps a `Cursor`: the text that is still to
be read, and the line and column where it starts.

Every line break that is not one of U+2028 and U+2029 stands for a line feed, and control characters
may not occur at all; `prepare?` sees to both before anything is read.
-/

namespace DeviceHost.Yaml

/-- A line break of a prepared text. -/
def isBreak (c : Char) : Bool :=
  c == '\n' || c.toNat == 0x2028 || c.toNat == 0x2029

/-- A space or a tab. -/
def isBlank (c : Char) : Bool :=
  c == ' ' || c == '\t'

/-- Whether a text starts with a space, a tab or a line break, or is at its end. -/
def endsWord : List Char → Bool
  | [] => true
  | c :: _ => isBlank c || isBreak c

/-- A character that names are made of: ASCII letters and digits, `_` and `-`. -/
def isNameChar (c : Char) : Bool :=
  ('0' ≤ c && c ≤ '9') || ('a' ≤ c && c ≤ 'z') || ('A' ≤ c && c ≤ 'Z') || c == '_' || c == '-'

/-- Whether a character may occur in a text. -/
def isAllowed (c : Char) : Bool :=
  let n := c.toNat
  n == 0x09 || n == 0x0A || n == 0x0D || (0x20 ≤ n && n ≤ 0x7E) || n == 0x85 ||
    (0xA0 ≤ n && n ≤ 0xD7FF) || (0xE000 ≤ n && n ≤ 0xFFFD) || 0x10000 ≤ n

/-- A text with its line breaks made equal, in front of text that is already done. -/
def joinBreaks : List Char → List Char
  | '\r' :: '\n' :: r => '\n' :: joinBreaks r
  | c :: r => (if c == '\r' || c.toNat == 0x85 then '\n' else c) :: joinBreaks r
  | [] => []

/-- The text as the reader takes it, if no character is out of place. -/
def prepare? (cs : List Char) : Option (List Char) :=
  if cs.all isAllowed then some (joinBreaks cs) else none

/-- A place in a text. -/
structure Cursor where
  /-- the text from there on -/
  rest : List Char
  /-- the number of line breaks before it -/
  line : Nat
  /-- the number of characters before it in its line -/
  column : Nat
  deriving Repr, DecidableEq

namespace Cursor

/-- The place after one character, which is no line break. -/
def next (p : Cursor) : Cursor := ⟨p.rest.tail, p.line, p.column + 1⟩

/-- The place after some characters, none of which is a line break. -/
def skip (p : Cursor) (n : Nat) : Cursor := ⟨p.rest.drop n, p.line, p.column + n⟩

/-- The characters up to the first one that is not wanted, and the place of that one. -/
def span (p : Cursor) (wanted : Char → Bool) : List Char × Cursor :=
  let found := p.rest.takeWhile wanted
  (found, p.skip found.length)

/-- The place after a line break, if there is one here. -/
def skipBreak (p : Cursor) : Cursor :=
  match p.rest with
  | c :: r => if isBreak c then ⟨r, p.line + 1, 0⟩ else p
  | [] => p

end Cursor

/-- Whether a text starts with three equal characters that stand alone: `---` or `...`. -/
def startsWithMark (c : Char) : List Char → Bool
  | a :: b :: d :: r => a == c && b == c && d == c && endsWord r
  | _ => false

/-- Whether a line that starts here starts or ends a document. -/
def isDocumentMark (cs : List Char) : Bool :=
  startsWithMark '-' cs || startsWithMark '.' cs

end DeviceHost.Yaml
