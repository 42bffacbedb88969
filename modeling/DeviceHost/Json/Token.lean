import DeviceHost.Json.Number

/-!
# Lexemes of JSON documents

A document is read in two passes over its characters. The first one, here, finds the lexemes:
punctuation, words, numbers and texts, with blank space between them. It is a machine that takes one
character at a time, so it needs no look-ahead and its run over a document is a fold.

Some faults are left open, because a part of a document that nobody asks for is not checked for
them: a number may be too great, and a text may hold octets that are no UTF-8 or half of a surrogate
pair. Such a lexeme carries `none`. All other faults end the reading.
-/

namespace DeviceHost.Json

/-- A lexeme. -/
inductive Token
  | braceOpen
  | braceClose
  | bracketOpen
  | bracketClose
  | colon
  | comma
  | null
  | bool (b : Bool)
  /-- a number; `none` if it is too great -/
  | number (n : Option Number)
  /-- a text; `none` if it is no Unicode text -/
  | text (s : Option String)
  deriving Repr, DecidableEq

/-! ### Texts -/

/-- A unit of a text: a character, an escaped unit of UTF-16, or an octet that is no UTF-8. -/
inductive TextUnit
  | char (c : Char)
  | escaped (n : Nat)
  | stray
  deriving Repr, DecidableEq

/-- Whether a unit of UTF-16 is the first half of a pair. -/
def isHighHalf (n : Nat) : Bool := 0xD800 ≤ n && n ≤ 0xDBFF

/-- Whether a unit of UTF-16 is the second half of a pair. -/
def isLowHalf (n : Nat) : Bool := 0xDC00 ≤ n && n ≤ 0xDFFF

/-- The character of a pair of halves. -/
def pairChar (high low : Nat) : Char :=
  Char.ofNat (0x10000 + (high - 0xD800) * 0x400 + (low - 0xDC00))

/-- The characters of units of a text, given those found so far, last one first. A half of a pair
that is not followed by the other half stands for none. -/
def joinUnits : List Char → List TextUnit → Option (List Char)
  | acc, [] => some acc.reverse
  | acc, .char c :: r => joinUnits (c :: acc) r
  | _, .stray :: _ => none
  | acc, .escaped n :: r =>
    if isHighHalf n then
      match r with
      | .escaped m :: r' => if isLowHalf m then joinUnits (pairChar n m :: acc) r' else none
      | _ => none
    else if isLowHalf n then none
    else joinUnits (Char.ofNat n :: acc) r

/-- The lexeme of a text, from its units, last one first. -/
def Token.ofUnits (units : List TextUnit) : Token :=
  .text ((joinUnits [] units.reverse).map String.ofList)

/-! ### Scanning -/

/-- What is being scanned. -/
inductive Mode
  /-- between lexemes -/
  | gap
  /-- inside a word; its letters, last one first -/
  | word (letters : List Char)
  /-- inside a number; its characters, last one first -/
  | number (chars : List Char)
  /-- inside a text; its units, last one first -/
  | text (units : List TextUnit)
  /-- after a backslash inside a text -/
  | escape (units : List TextUnit)
  /-- inside the four digits of an escaped unit: how many are missing, and the value so far -/
  | unicode (missing : Nat) (n : Nat) (units : List TextUnit)
  /-- past a fault -/
  | failed
  deriving Repr, DecidableEq

/-- A scan under way: the lexemes found, last one first, and the mode. -/
structure Scan where
  /-- the lexemes found, last one first -/
  found : List Token
  /-- what is being scanned -/
  mode : Mode
  deriving Repr, DecidableEq

/-- A scan that met a fault. -/
def Scan.fail : Scan := ⟨[], .failed⟩

/-- Blank space of documents. -/
def isSpace (c : Char) : Bool := c == ' ' || c == '\t' || c == '\n' || c == '\r'

/-- A character that numbers are made of. -/
def isNumeric (c : Char) : Bool :=
  Numeral.isDigit c || c == '-' || c == '+' || c == '.' || c == 'e' || c == 'E'

/-- The lexeme of a word. -/
def Token.ofWord? (letters : List Char) : Option Token :=
  if letters = ['n', 'u', 'l', 'l'] then some .null
  else if letters = ['t', 'r', 'u', 'e'] then some (.bool true)
  else if letters = ['f', 'a', 'l', 's', 'e'] then some (.bool false)
  else none

/-- The lexeme of a number. -/
def Token.ofNumber? (chars : List Char) : Option Token :=
  (Literal.ofChars? chars).map fun l => .number l.number?

/-- The punctuation of a character. -/
def Token.ofPunctuation? (c : Char) : Option Token :=
  if c = '{' then some .braceOpen
  else if c = '}' then some .braceClose
  else if c = '[' then some .bracketOpen
  else if c = ']' then some .bracketClose
  else if c = ':' then some .colon
  else if c = ',' then some .comma
  else none

/-- Scan a character where a lexeme may begin. -/
def Scan.begin (found : List Token) (c : Char) : Scan :=
  if isSpace c then ⟨found, .gap⟩
  else if c = '"' then ⟨found, .text []⟩
  else match Token.ofPunctuation? c with
    | some t => ⟨t :: found, .gap⟩
    | none =>
      if Numeral.isDigit c || c == '-' then ⟨found, .number [c]⟩
      else if 'a' ≤ c ∧ c ≤ 'z' then ⟨found, .word [c]⟩
      else .fail

/-- The character that a letter after a backslash stands for. -/
def escapeChar? (c : Char) : Option Char :=
  if c = '"' then some '"'
  else if c = '\\' then some '\\'
  else if c = '/' then some '/'
  else if c = 'b' then some '\x08'
  else if c = 'f' then some '\x0c'
  else if c = 'n' then some '\n'
  else if c = 'r' then some '\r'
  else if c = 't' then some '\t'
  else none

/-- Scan one character; `none` is an octet that is no UTF-8, which only a text may hold. -/
def Scan.step (s : Scan) (o : Option Char) : Scan :=
  match s.mode, o with
  | .failed, _ => s
  | .text units, none => ⟨s.found, .text (.stray :: units)⟩
  | _, none => .fail
  | .gap, some c => .begin s.found c
  | .word letters, some c =>
    if 'a' ≤ c ∧ c ≤ 'z' then ⟨s.found, .word (c :: letters)⟩
    else match Token.ofWord? letters.reverse with
      | some t => .begin (t :: s.found) c
      | none => .fail
  | .number chars, some c =>
    if isNumeric c then ⟨s.found, .number (c :: chars)⟩
    else match Token.ofNumber? chars.reverse with
      | some t => .begin (t :: s.found) c
      | none => .fail
  | .text units, some c =>
    if c = '"' then ⟨.ofUnits units :: s.found, .gap⟩
    else if c = '\\' then ⟨s.found, .escape units⟩
    else if c.toNat < 0x20 then .fail
    else ⟨s.found, .text (.char c :: units)⟩
  | .escape units, some c =>
    if c = 'u' then ⟨s.found, .unicode 3 0 units⟩
    else match escapeChar? c with
      | some e => ⟨s.found, .text (.char e :: units)⟩
      | none => .fail
  | .unicode missing n units, some c =>
    match Numeral.hexDigit? c with
    | none => .fail
    | some d =>
      match missing with
      | 0 => ⟨s.found, .text (.escaped (n * 16 + d) :: units)⟩
      | m + 1 => ⟨s.found, .unicode m (n * 16 + d) units⟩

/-- The lexemes of a scan that has come to the end of a document. -/
def Scan.tokens? (s : Scan) : Option (List Token) :=
  match s.mode with
  | .gap => some s.found.reverse
  | .word letters => (Token.ofWord? letters.reverse).map fun t => (t :: s.found).reverse
  | .number chars => (Token.ofNumber? chars.reverse).map fun t => (t :: s.found).reverse
  | _ => none

/-- The lexemes of a document. -/
def Token.scan? (document : List (Option Char)) : Option (List Token) :=
  (document.foldl Scan.step ⟨[], .gap⟩).tokens?

end DeviceHost.Json
