import DeviceHost.Numeral.Digits

/-!
# Texts of TOML

A text stands in one or in three double quotes, where a backslash begins an escape, or in one or in
three single quotes, where every character stands for itself. Only in three quotes may a text hold
line breaks; one right after the opening quotes is left out, and up to two quotes may stand inside,
also in front of the closing ones.

The first half reads texts. The second half writes them, in the plainest form that can hold the
text.
-/

namespace DeviceHost.Toml

/-- A character that may stand for itself in a text or a comment: no control character but the
tab. -/
def isPlain (c : Char) : Bool :=
  c == '\t' || (0x20 ≤ c.toNat && c.toNat != 0x7F)

/-- The single quote. -/
def tick : Char := '\x27'

/-! ### Reading -/

/-- The character whose number is given by the first digits of a text, as many as are asked for. -/
def numbered? (count : Nat) (cs : List Char) : Option Char :=
  match (cs.take count).mapM Numeral.hexDigit? with
  | none => none
  | some ds =>
    let n := ds.foldl (fun n d => n * 16 + d) 0
    if ds.length = count ∧ n.isValidChar then some (Char.ofNat n) else none

/-- The character that an escape stands for, and how many characters the escape has after its
backslash. -/
def escape? : List Char → Option (Char × Nat)
  | [] => none
  | c :: r =>
    if c = 'b' then some ('\x08', 1)
    else if c = 't' then some ('\t', 1)
    else if c = 'n' then some ('\n', 1)
    else if c = 'f' then some ('\x0c', 1)
    else if c = 'r' then some ('\r', 1)
    else if c = '"' then some ('"', 1)
    else if c = '\\' then some ('\\', 1)
    else if c = 'u' then (numbered? 4 r).map fun d => (d, 5)
    else if c = 'U' then (numbered? 8 r).map fun d => (d, 9)
    else none

/-- The text up to the closing double quote, and what follows the quote. -/
def readBasic : List Char → Option (List Char × List Char)
  | [] => none
  | c :: r =>
    if c = '"' then some ([], r)
    else if c = '\\' then
      match escape? r with
      | none => none
      | some (d, n) => (readBasic (r.drop n)).map fun t => (d :: t.1, t.2)
    else if isPlain c then (readBasic r).map fun t => (c :: t.1, t.2)
    else none
  termination_by s => s.length
  decreasing_by all_goals simp only [List.length_drop, List.length_cons]; omega

/-- The text up to the closing single quote, and what follows the quote. -/
def readLiteral : List Char → Option (List Char × List Char)
  | [] => none
  | c :: r =>
    if c = tick then some ([], r)
    else if isPlain c then (readLiteral r).map fun t => (c :: t.1, t.2)
    else none

/-- How many equal characters a text starts with. -/
def runLength (c : Char) (cs : List Char) : Nat :=
  (cs.takeWhile (· == c)).length

/-- The length of a gap after a backslash: blanks, a line break, and all blanks and line breaks
after it. -/
def gap? (cs : List Char) : Option Nat :=
  match cs.dropWhile fun c => c == ' ' || c == '\t' with
  | '\n' :: _ => some (cs.takeWhile fun c => c == ' ' || c == '\t' || c == '\n').length
  | _ => none

/-- The text up to the closing three double quotes, and what follows them. -/
def readLongBasic : List Char → Option (List Char × List Char)
  | [] => none
  | c :: r =>
    if c = '"' then
      let n := runLength '"' (c :: r)
      if n < 3 then (readLongBasic r).map fun t => (c :: t.1, t.2)
      else if n ≤ 5 then some (List.replicate (n - 3) c, (c :: r).drop n)
      else none
    else if c = '\\' then
      match gap? r with
      | some n => readLongBasic (r.drop n)
      | none =>
        match escape? r with
        | none => none
        | some (d, n) => (readLongBasic (r.drop n)).map fun t => (d :: t.1, t.2)
    else if isPlain c ∨ c = '\n' then (readLongBasic r).map fun t => (c :: t.1, t.2)
    else none
  termination_by s => s.length
  decreasing_by all_goals simp only [List.length_drop, List.length_cons]; omega

/-- The text up to the closing three single quotes, and what follows them. -/
def readLongLiteral : List Char → Option (List Char × List Char)
  | [] => none
  | c :: r =>
    if c = tick then
      let n := runLength tick (c :: r)
      if n < 3 then (readLongLiteral r).map fun t => (c :: t.1, t.2)
      else if n ≤ 5 then some (List.replicate (n - 3) c, (c :: r).drop n)
      else none
    else if isPlain c ∨ c = '\n' then (readLongLiteral r).map fun t => (c :: t.1, t.2)
    else none

/-- A text without the line break that it starts with. -/
def dropBreak : List Char → List Char
  | '\n' :: r => r
  | r => r

/-- The text at the front of a text, and what follows it; nothing, if none starts there. -/
def readText (cs : List Char) : Option (List Char × List Char) :=
  match cs with
  | [] => none
  | c :: r =>
    if c = '"' then
      if 3 ≤ runLength c cs then readLongBasic (dropBreak (cs.drop 3)) else readBasic r
    else if c = tick then
      if 3 ≤ runLength c cs then readLongLiteral (dropBreak (cs.drop 3)) else readLiteral r
    else none

/-! ### Writing -/

/-- The length of the longest run of a character. -/
def longestRun (c : Char) : List Char → Nat
  | [] => 0
  | d :: r => max (runLength c (d :: r)) (longestRun c r)

/-- Whether a character cannot stand for itself in any text, line breaks and tabs apart. -/
def isControl (c : Char) : Bool :=
  !isPlain c && c != '\n'

/-- The forms in which a text can be written. -/
inductive Form
  /-- in double quotes -/
  | basic
  /-- in single quotes -/
  | literal
  /-- in three double quotes -/
  | longBasic
  /-- in three single quotes -/
  | longLiteral
  deriving Repr, DecidableEq

/-- Whether a form can hold a text without any escape but that of the tab. -/
def Form.suits (s : List Char) : Form → Bool
  | basic => !(s.any isControl) && !s.contains '\\' && !s.contains '"' && !s.contains '\n'
  | literal => !(s.any isControl) && !s.contains tick && !s.contains '\n'
  | longBasic => !(s.any isControl) && !s.contains '\\' && longestRun '"' s ≤ 2
  | longLiteral => !(s.any isControl) && longestRun tick s ≤ 2

/-- The form in which a text is written: the first one that suits, else the one that has escapes for
all that the text holds. -/
def Form.ofText (s : List Char) : Form :=
  if basic.suits s then basic
  else if literal.suits s then literal
  else if longBasic.suits s then longBasic
  else if longLiteral.suits s then longLiteral
  else if s.contains '\n' then longBasic
  else basic

/-- A character in double quotes, one or three; the double quote is another matter. -/
def escapeChar (long : Bool) (c : Char) : List Char :=
  if c = '\x08' then ['\\', 'b']
  else if c = '\t' then ['\\', 't']
  else if c = '\n' then (if long then [c] else ['\\', 'n'])
  else if c = '\x0c' then ['\\', 'f']
  else if c = '\r' then ['\\', 'r']
  else if c = '\\' then ['\\', '\\']
  else if isPlain c then [c]
  else
    ['\\', 'u', '0', '0', Numeral.hexDigitUpper (c.toNat / 16),
      Numeral.hexDigitUpper (c.toNat % 16)]

/-- A text in double quotes, after a number of double quotes that stand for themselves. In three
quotes two in a row may stand for themselves, in one quote none. -/
def writeBasic (long : Bool) (quotes : Nat) : List Char → List Char
  | [] => []
  | c :: r =>
    if c = '"' then
      if quotes < (if long then 2 else 0) then c :: writeBasic long (quotes + 1) r
      else '\\' :: c :: writeBasic long 0 r
    else escapeChar long c ++ writeBasic long 0 r

/-- A line break, if a text has any. -/
def leadBreak (s : List Char) : List Char :=
  if s.contains '\n' then ['\n'] else []

/-- A text in a form. -/
def Form.write (s : List Char) : Form → List Char
  | basic => '"' :: (writeBasic false 0 s ++ ['"'])
  | literal => tick :: (s ++ [tick])
  | longBasic => ['"', '"', '"'] ++ (leadBreak s ++ (writeBasic true 0 s ++ ['"', '"', '"']))
  | longLiteral => [tick, tick, tick] ++ (leadBreak s ++ (s ++ [tick, tick, tick]))

/-- A text as it is written. -/
def writeText (s : List Char) : List Char := (Form.ofText s).write s

end DeviceHost.Toml
