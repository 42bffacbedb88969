import DeviceHost.Yaml.Scalar

/-!
# Lexemes of YAML texts

Besides what is written in a text, its lexemes include some that are only implied by columns: where
a block collection starts and ends, and that a scalar is the key of a mapping, which shows only at
the colon behind it. So a scanner remembers where a key may have begun, and puts the lexeme there
once it meets the colon. Such a key must lie on one line and within 1024 characters.
-/

namespace DeviceHost.Yaml

/-- A lexeme. -/
inductive Token
  /-- the version of the language that a document is written in -/
  | version (major minor : Nat)
  /-- an abbreviation for the beginning of tags -/
  | tagHandle (handle : String)
  | documentStart
  | documentEnd
  | blockSequenceStart
  | blockMappingStart
  | blockEnd
  | flowSequenceStart
  | flowSequenceEnd
  | flowMappingStart
  | flowMappingEnd
  | blockEntry
  | flowEntry
  | key
  | value
  | alias (name : String)
  | anchor (name : String)
  /-- a tag, by the abbreviation that it begins with; empty if it is written in full -/
  | tag (handle : String)
  /-- a scalar, and whether it is plain -/
  | scalar (text : String) (plain : Bool)
  deriving Repr, DecidableEq

/-- A place where a key may have begun. -/
structure KeyMark where
  /-- how many lexemes there were before it -/
  count : Nat
  /-- its line -/
  line : Nat
  /-- its column -/
  column : Nat
  /-- whether there has to be a key, as it stands where the keys of the mapping stand -/
  required : Bool
  deriving Repr, DecidableEq

/-- A scan under way. -/
structure Scanner where
  /-- the place that is reached -/
  place : Cursor
  /-- the lexemes found, last one first -/
  tokens : List Token
  /-- the columns of the open block collections, innermost first -/
  indents : List Nat
  /-- where keys may have begun: inside each open bracket, innermost first, and outside of all -/
  marks : List (Option KeyMark)
  /-- whether a key may begin here -/
  keyAllowed : Bool
  deriving Repr, DecidableEq

namespace Scanner

/-- The scan of a prepared text, before its first character. -/
def start (cs : List Char) : Scanner := ⟨⟨cs, 0, 0⟩, [], [], [none], true⟩

/-- Whether the place is inside brackets. -/
def inFlow (s : Scanner) : Bool := 1 < s.marks.length

/-- The column of the innermost block collection, negative outside of all. -/
def indent (s : Scanner) : Int :=
  match s.indents with
  | n :: _ => n
  | [] => -1

/-- Add a lexeme. -/
def push (s : Scanner) (t : Token) : Scanner := { s with tokens := t :: s.tokens }

/-- Add a lexeme in front of all but the first `count` ones. -/
def insertAt (s : Scanner) (count : Nat) (t : Token) : Scanner :=
  let later := s.tokens.length - count
  { s with tokens := s.tokens.take later ++ t :: s.tokens.drop later }

/-- Go to another place. -/
def goTo (s : Scanner) (p : Cursor) : Scanner := { s with place := p }

/-- Say whether a key may begin next. -/
def allow (s : Scanner) (b : Bool) : Scanner := { s with keyAllowed := b }

/-! ### Gaps -/

/-- Pass over blanks, line breaks and comments. A byte order mark may begin a line. Tabs count as
blanks only where no key may begin; outside of brackets a key may begin after a line break. -/
def passGap (flow comment keyAllowed : Bool) (line column : Nat) : List Char → Cursor × Bool
  | [] => (⟨[], line, column⟩, keyAllowed)
  | c :: r =>
    if isBreak c then passGap flow false (keyAllowed || !flow) (line + 1) 0 r
    else if comment then passGap flow true keyAllowed line (column + 1) r
    else if c == ' ' || (c == '\t' && (flow || !keyAllowed)) ||
        (column == 0 && c.toNat == 0xFEFF) then
      passGap flow false keyAllowed line (column + 1) r
    else if c == '#' then passGap flow true keyAllowed line (column + 1) r
    else (⟨c :: r, line, column⟩, keyAllowed)

/-- Pass over what stands between lexemes. -/
def skipGap (s : Scanner) : Scanner :=
  let r := passGap s.inFlow false s.keyAllowed s.place.line s.place.column s.place.rest
  { s with place := r.1, keyAllowed := r.2 }

/-! ### Keys -/

/-- Whether a key that began at a mark could still end here. -/
def isLive (p : Cursor) (m : KeyMark) : Bool :=
  m.line == p.line && p.column ≤ m.column + 1024

/-- Give up the marks that are too far back; none of them may be required. -/
def dropStale (s : Scanner) : Option Scanner :=
  let isLost (o : Option KeyMark) : Bool :=
    (o.map fun m => m.required && !isLive s.place m).getD false
  if s.marks.any isLost then none
  else some { s with marks := s.marks.map fun o => o.filter (isLive s.place) }

/-- Give up the innermost mark; it may not be required. -/
def dropMark (s : Scanner) : Option Scanner :=
  match s.marks with
  | some m :: r => if m.required then none else some { s with marks := none :: r }
  | _ => some s

/-- Remember that a key may begin here. -/
def saveMark (s : Scanner) : Option Scanner :=
  if s.keyAllowed then
    let required := !s.inFlow && s.indent == (s.place.column : Int)
    (s.dropMark).map fun s =>
      { s with
        marks := some ⟨s.tokens.length, s.place.line, s.place.column, required⟩ :: s.marks.tail }
  else some s

/-! ### Indentation -/

/-- Whether a block collection of a column would be a new one. -/
def isDeeper (s : Scanner) (column : Nat) : Bool :=
  !s.inFlow && s.indent < (column : Int)

/-- Open a block collection at a column, if there is none yet. -/
def roll (s : Scanner) (column : Nat) (t : Token) : Scanner :=
  if s.isDeeper column then { s.push t with indents := column :: s.indents } else s

/-- Close the block collections that are deeper than a column; all of them for none. -/
def unrollFrom (tokens : List Token) (column : Option Nat) : List Nat → List Token × List Nat
  | [] => (tokens, [])
  | n :: r =>
    if (column.map fun k => decide (n ≤ k)).getD false then (tokens, n :: r)
    else unrollFrom (.blockEnd :: tokens) column r

/-- Close the block collections that are deeper than a column, outside of brackets. -/
def unroll (s : Scanner) (column : Option Nat) : Scanner :=
  if s.inFlow then s
  else
    let r := unrollFrom s.tokens column s.indents
    { s with tokens := r.1, indents := r.2 }

/-! ### Lexemes -/

/-- A lexeme of some characters. -/
def take (s : Scanner) (t : Token) (length : Nat) : Scanner :=
  (s.push t).goTo (s.place.skip length)

/-- The start or the end of a document. -/
def takeDocumentMark (s : Scanner) (t : Token) : Option Scanner :=
  ((s.unroll none).dropMark).map fun s => (s.allow false).take t 3

/-- An opening bracket. -/
def takeOpening (s : Scanner) (t : Token) : Option Scanner :=
  s.saveMark.map fun s => ({ s with marks := none :: s.marks }.allow true).take t 1

/-- A closing bracket. -/
def takeClosing (s : Scanner) (t : Token) : Option Scanner :=
  s.dropMark.map fun s =>
    let marks := if s.inFlow then s.marks.tail else s.marks
    ({ s with marks := marks }.allow false).take t 1

/-- A comma. -/
def takeComma (s : Scanner) : Option Scanner :=
  s.dropMark.map fun s => (s.allow true).take .flowEntry 1

/-- A hyphen that stands for an item. -/
def takeHyphen (s : Scanner) : Option Scanner :=
  if !s.inFlow && !s.keyAllowed then none
  else (s.roll s.place.column .blockSequenceStart).dropMark.map fun s =>
    (s.allow true).take .blockEntry 1

/-- A question mark that stands for a key. -/
def takeQuestion (s : Scanner) : Option Scanner :=
  if !s.inFlow && !s.keyAllowed then none
  else (s.roll s.place.column .blockMappingStart).dropMark.map fun s =>
    (s.allow (!s.inFlow)).take .key 1

/-- A colon that stands for a value: what began at the mark was a key. -/
def takeColon (s : Scanner) : Option Scanner :=
  match s.marks with
  | some m :: r =>
    let s := { s with marks := none :: r }.insertAt m.count .key
    let s := if s.isDeeper m.column then
        { s.insertAt m.count .blockMappingStart with indents := m.column :: s.indents }
      else s
    some ((s.allow false).take .value 1)
  | _ =>
    if !s.inFlow && !s.keyAllowed then none
    else
      let s := s.roll s.place.column .blockMappingStart
      some ((s.allow (!s.inFlow)).take .value 1)

/-- Whether a text may follow the name of an anchor or an alias. -/
def endsName : List Char → Bool
  | [] => true
  | c :: r => endsWord (c :: r) || "?:,]\x7d%@`".toList.contains c

/-- An anchor or an alias. -/
def takeName (s : Scanner) (make : String → Token) : Option Scanner :=
  s.saveMark.bind fun s =>
    let (name, p) := s.place.next.span isNameChar
    if name.isEmpty || !endsName p.rest then none
    else some (((s.allow false).push (make (String.ofList name))).goTo p)

/-! ### Tags -/

/-- A character of a tag that needs no escape. -/
def isTagChar (verbatim : Bool) (c : Char) : Bool :=
  isNameChar c || ";/?:@&=+$.!~*'()".toList.contains c ||
    (verbatim && (c == ',' || c == '[' || c == ']'))

/-- How many octets the UTF-8 form of a character has that starts with an octet. -/
def octetCount (n : Nat) : Nat :=
  if n < 0x80 then 1 else if n / 32 == 6 then 2 else if n / 16 == 14 then 3
  else if n / 8 == 30 then 4 else 0

/-- Read the characters of a tag: their number, after those that were read before, and the place
behind them. An octet is written as `%` with two digits; `owed` octets still belong to a character,
whose first one has been read. -/
def readTag (verbatim : Bool) (owed length : Nat) (line column : Nat) :
    List Char → Option (Nat × Cursor)
  | [] => if owed = 0 then some (length, ⟨[], line, column⟩) else none
  | '%' :: a :: b :: r =>
    match Numeral.hexDigit? a, Numeral.hexDigit? b with
    | some x, some y =>
      let n := x * 16 + y
      match owed with
      | k + 1 =>
        if n / 64 == 2 then readTag verbatim k (length + 1) line (column + 3) r else none
      | 0 =>
        match octetCount n with
        | k + 1 => readTag verbatim k (length + 1) line (column + 3) r
        | 0 => none
    | _, _ => none
  | c :: r =>
    if owed != 0 || c == '%' then none
    else if isTagChar verbatim c then readTag verbatim 0 (length + 1) line (column + 1) r
    else some (length, ⟨c :: r, line, column⟩)

/-- The abbreviation that a tag or a directive begins with: names between exclamation marks. -/
def readHandle (p : Cursor) : Option (List Char × Cursor) :=
  if p.rest.head? == some '!' then
    let (name, p) := p.next.span isNameChar
    if p.rest.head? == some '!' then some ('!' :: (name ++ ['!']), p.next)
    else some ('!' :: name, p)
  else none

/-- Whether a handle is closed by a second exclamation mark. -/
def isClosedHandle (h : List Char) : Bool := 1 < h.length && h.getLast? == some '!'

/-- A tag: in full between `<` and `>`, or an abbreviation and the rest. -/
def readWholeTag (p : Cursor) : Option (Token × Cursor) :=
  match p.rest with
  | _ :: '<' :: _ =>
    let p := p.skip 2
    match readTag true 0 0 p.line p.column p.rest with
    | none => none
    | some (n, p) =>
      if n = 0 || p.rest.head? != some '>' then none else some (.tag "", p.next)
  | _ =>
    match readHandle p with
    | none => none
    | some (handle, p) =>
      let head := if isClosedHandle handle then 0 else handle.length
      match readTag false 0 head p.line p.column p.rest with
      | none => none
      | some (n, p) =>
        if n = 0 then none
        else if isClosedHandle handle then some (.tag (String.ofList handle), p)
        else some (.tag (if n = 1 then "" else "!"), p)

/-- A tag, which blank space follows, or a comma inside brackets. -/
def takeTag (s : Scanner) : Option Scanner :=
  s.saveMark.bind fun s =>
    match readWholeTag s.place with
    | none => none
    | some (t, p) =>
      if endsWord p.rest || (s.inFlow && p.rest.head? == some ',') then
        some (((s.allow false).push t).goTo p)
      else none

/-! ### Directives -/

/-- A number of at most nine digits. -/
def readVersionNumber (p : Cursor) : Option (Nat × Cursor) :=
  let (ds, p) := p.span Numeral.isDigit
  if ds.isEmpty || 9 < ds.length then none
  else some (Numeral.value (ds.filterMap Numeral.digit?), p)

/-- The two numbers of a version. -/
def readVersion (p : Cursor) : Option (Token × Cursor) :=
  match readVersionNumber (p.span isBlank).2 with
  | none => none
  | some (major, p) =>
    if p.rest.head? == some '.' then
      (readVersionNumber p.next).map fun (minor, p) => (.version major minor, p)
    else none

/-- An abbreviation of tags and what it stands for. -/
def readTagDirective (p : Cursor) : Option (Token × Cursor) :=
  match readHandle (p.span isBlank).2 with
  | none => none
  | some (handle, p) =>
    let isAbbreviation := isClosedHandle handle || handle == ['!']
    if !isAbbreviation || !(p.rest.head?.map isBlank).getD false then none
    else
      let p := (p.span isBlank).2
      match readTag true 0 0 p.line p.column p.rest with
      | none => none
      | some (n, p) =>
        if n = 0 || !endsWord p.rest then none else some (.tagHandle (String.ofList handle), p)

/-- A directive, which has a line of its own. -/
def takeDirective (s : Scanner) : Option Scanner :=
  ((s.unroll none).dropMark).bind fun s =>
    let s := s.allow false
    let (name, p) := s.place.next.span isNameChar
    let body :=
      if name == "YAML".toList then readVersion p
      else if name == "TAG".toList then readTagDirective p
      else none
    if !endsWord p.rest then none
    else match body with
      | none => none
      | some (t, p) =>
        let p := (p.span isBlank).2
        let p := if p.rest.head? == some '#' then (p.span fun c => !isBreak c).2 else p
        match p.rest with
        | [] => some ((s.push t).goTo p)
        | c :: _ => if isBreak c then some ((s.push t).goTo p.skipBreak) else none

/-! ### Scalars -/

/-- A scalar that was read. -/
def pushScalar (s : Scanner) (text : List Char) (plain : Bool) (p : Cursor) : Scanner :=
  (s.push (.scalar (String.ofList text) plain)).goTo p

/-- A block of lines. -/
def takeBlock (s : Scanner) (folded : Bool) : Option Scanner :=
  s.dropMark.bind fun s =>
    (readBlockScalar folded s.indent s.place.next).map fun (text, p) =>
      (s.allow true).pushScalar text false p

/-- A quoted scalar. -/
def takeQuoted (s : Scanner) (quote : Char) : Option Scanner :=
  s.saveMark.bind fun s =>
    let p := s.place.next
    (readQuoted quote .text [] .none p.line p.column p.rest).map fun (text, p) =>
      (s.allow false).pushScalar text false p

/-- A plain scalar; after a line break a key may begin. -/
def takePlain (s : Scanner) : Option Scanner :=
  s.saveMark.bind fun s =>
    (readPlain s.inFlow (s.indent + 1) [] .none s.place.line s.place.column s.place.rest).map
      fun r => (s.allow r.broken).pushScalar r.text true r.after

/-- Whether a plain scalar may begin with a character, given the text after it. -/
def beginsPlain (flow : Bool) (c : Char) (r : List Char) : Bool :=
  if c == '-' then !(r.head?.map isBlank).getD false
  else if c == '?' || c == ':' then !flow && !endsWord r
  else !(isBlank c || ",[]\x7b\x7d#&*!|>'\"%@`".toList.contains c)

/-! ### The whole text -/

/-- Read the lexeme that begins with a character. -/
def takeToken (s : Scanner) (c : Char) (r : List Char) : Option Scanner :=
  let column := s.place.column
  if column == 0 && c == '%' then s.takeDirective
  else if column == 0 && startsWithMark '-' (c :: r) then s.takeDocumentMark .documentStart
  else if column == 0 && startsWithMark '.' (c :: r) then s.takeDocumentMark .documentEnd
  else if c == '[' then s.takeOpening .flowSequenceStart
  else if c == '\x7b' then s.takeOpening .flowMappingStart
  else if c == ']' then s.takeClosing .flowSequenceEnd
  else if c == '\x7d' then s.takeClosing .flowMappingEnd
  else if c == ',' then s.takeComma
  else if c == '-' && endsWord r then s.takeHyphen
  else if c == '?' && (s.inFlow || endsWord r) then s.takeQuestion
  else if c == ':' && (s.inFlow || endsWord r) then s.takeColon
  else if c == '*' then s.takeName .alias
  else if c == '&' then s.takeName .anchor
  else if c == '!' then s.takeTag
  else if c == '|' && !s.inFlow then s.takeBlock false
  else if c == '>' && !s.inFlow then s.takeBlock true
  else if c == '\'' || c == '"' then s.takeQuoted c
  else if beginsPlain s.inFlow c r then s.takePlain
  else none

/-- Close what is still open at the end of a text. -/
def finish (s : Scanner) : Option (List Token) :=
  (s.unroll none).dropMark.map fun s => s.tokens.reverse

/-- Read lexemes until the end of the text, at most `fuel` of them. -/
def run : Nat → Scanner → Option (List Token)
  | 0, _ => none
  | fuel + 1, s =>
    match s.skipGap.dropStale with
    | none => none
    | some s =>
      match s.place.rest with
      | [] => (s.unroll (some s.place.column)).finish
      | c :: r =>
        match (s.unroll (some s.place.column)).takeToken c r with
        | none => none
        | some s => run fuel s

end Scanner

/-- The lexemes of a text. Each of them has at least one character, so the text is long enough a
bound for their number. -/
def Token.scan? (cs : List Char) : Option (List Token) :=
  (prepare? cs).bind fun cs => Scanner.run (cs.length + 1) (.start cs)

end DeviceHost.Yaml
