import DeviceHost.Numeral.Digits
import DeviceHost.Yaml.Cursor

/-!
# Scalars of YAML texts

A scalar is plain, quoted, or a block of lines. Each kind is read by a machine that takes one
character at a time. Line breaks inside plain and quoted scalars are folded: one break becomes a
space, and of several the first one is dropped. Blanks around breaks do not count.
-/

namespace DeviceHost.Yaml

/-- The blanks and breaks since the last character of a scalar. -/
structure Pending where
  /-- blanks before the first break, last one first -/
  blanks : List Char
  /-- whether there is a break -/
  broken : Bool
  /-- the first break, unless it was escaped -/
  leading : Option Char
  /-- the other breaks, last one first -/
  trailing : List Char
  deriving Repr, DecidableEq

namespace Pending

/-- Nothing since the last character. -/
def none : Pending := ⟨[], false, Option.none, []⟩

/-- After an escaped break. -/
def escapedBreak : Pending := ⟨[], true, Option.none, []⟩

/-- One more blank. -/
def addBlank (p : Pending) (c : Char) : Pending :=
  if p.broken then p else { p with blanks := c :: p.blanks }

/-- One more break. -/
def addBreak (p : Pending) (c : Char) : Pending :=
  if p.broken then { p with trailing := c :: p.trailing }
  else ⟨[], true, some c, p.trailing⟩

/-- What is left of blanks and breaks between two characters, last one first. -/
def folded (p : Pending) : List Char :=
  if p.broken then
    match p.leading with
    | some '\n' => if p.trailing.isEmpty then [' '] else p.trailing
    | some c => p.trailing ++ [c]
    | Option.none => p.trailing
  else p.blanks

end Pending

/-! ### Plain scalars -/

/-- A plain scalar that has come to its end. -/
structure PlainScalar where
  /-- the text -/
  text : List Char
  /-- whether it was followed by a line break -/
  broken : Bool
  /-- the place after it and the blanks behind it -/
  after : Cursor
  deriving Repr, DecidableEq

/-- A character that ends a plain scalar inside brackets. -/
def isFlowMark (c : Char) : Bool :=
  c == ',' || c == '[' || c == ']' || c == '\x7b' || c == '\x7d'

/-- A character that may not follow a colon in a plain scalar inside brackets. -/
def isBarredAfterColon (c : Char) : Bool :=
  isFlowMark c || c == '?'

/-- Read a plain scalar: its characters so far, last one first, the blanks and breaks after them,
and the place that is reached. -/
def readPlain (flow : Bool) (indent : Int) (found : List Char) (pending : Pending)
    (line column : Nat) : List Char → Option PlainScalar
  | [] => some ⟨found.reverse, pending.broken, ⟨[], line, column⟩⟩
  | c :: r =>
    if isBlank c then
      if pending.broken && c == '\t' && (column : Int) < indent then none
      else readPlain flow indent found (pending.addBlank c) line (column + 1) r
    else if isBreak c then readPlain flow indent found (pending.addBreak c) (line + 1) 0 r
    else
      let resumes := pending.broken || !pending.blanks.isEmpty
      let done := some ⟨found.reverse, pending.broken, ⟨c :: r, line, column⟩⟩
      if resumes && ((!flow && (column : Int) < indent) || c == '#' ||
          (column == 0 && isDocumentMark (c :: r))) then done
      else if flow && c == ':' && (r.head?.map isBarredAfterColon).getD false then none
      else if (c == ':' && endsWord r) || (flow && isFlowMark c) then done
      else readPlain flow indent (c :: (pending.folded ++ found)) .none line (column + 1) r

/-! ### Quoted scalars -/

/-- Where the reader of a quoted scalar is. -/
inductive QuoteMode
  /-- among characters -/
  | text
  /-- after a backslash -/
  | escape
  /-- among the digits of an escape: how many are missing, and the value so far -/
  | digits (missing : Nat) (n : Nat)
  deriving Repr, DecidableEq

/-- The character of an escape of one letter. -/
def escapeChar? (c : Char) : Option Char :=
  match c with
  | '0' => some '\x00'
  | 'a' => some '\x07'
  | 'b' => some '\x08'
  | 't' | '\t' => some '\t'
  | 'n' => some '\n'
  | 'v' => some '\x0b'
  | 'f' => some '\x0c'
  | 'r' => some '\r'
  | 'e' => some '\x1b'
  | ' ' | '"' | '/' | '\\' => some c
  | 'N' => some (Char.ofNat 0x85)
  | '_' => some (Char.ofNat 0xA0)
  | 'L' => some (Char.ofNat 0x2028)
  | 'P' => some (Char.ofNat 0x2029)
  | _ => none

/-- How many digits follow the letter of an escape. -/
def escapeDigits? (c : Char) : Option Nat :=
  match c with
  | 'x' => some 2
  | 'u' => some 4
  | 'U' => some 8
  | _ => none

/-- Read a quoted scalar after its first quotation mark, up to the place after the last one. -/
def readQuoted (quote : Char) (mode : QuoteMode) (found : List Char) (pending : Pending)
    (line column : Nat) : List Char → Option (List Char × Cursor)
  | [] => none
  | c :: r =>
    match mode with
    | .digits missing n =>
      match Numeral.hexDigit? c with
      | none => none
      | some d =>
        let m := n * 16 + d
        match missing with
        | k + 2 => readQuoted quote (.digits (k + 1) m) found pending line (column + 1) r
        | _ =>
          if m.isValidChar then
            readQuoted quote .text (Char.ofNat m :: found) pending line (column + 1) r
          else none
    | .escape =>
      if isBreak c then readQuoted quote .text found .escapedBreak (line + 1) 0 r
      else match escapeChar? c with
        | some e => readQuoted quote .text (e :: found) pending line (column + 1) r
        | none =>
          match escapeDigits? c with
          | some k => readQuoted quote (.digits k 0) found pending line (column + 1) r
          | none => none
    | .text =>
      if isBlank c then readQuoted quote .text found (pending.addBlank c) line (column + 1) r
      else if isBreak c then readQuoted quote .text found (pending.addBreak c) (line + 1) 0 r
      else if column == 0 && isDocumentMark (c :: r) then none
      else
        let found := pending.folded ++ found
        if c == quote then
          match quote, r with
          | '\'', '\'' :: r' => readQuoted quote .text ('\'' :: found) .none line (column + 2) r'
          | _, _ => some (found.reverse, ⟨r, line, column + 1⟩)
        else if quote == '"' && c == '\\' then
          readQuoted quote .escape found .none line (column + 1) r
        else readQuoted quote .text (c :: found) .none line (column + 1) r

/-! ### Block scalars -/

/-- What becomes of the line breaks at the end of a block. -/
inductive Chomping
  /-- none is kept -/
  | strip
  /-- one is kept -/
  | clip
  /-- all are kept -/
  | keep
  deriving Repr, DecidableEq

/-- What the line that begins a block says about it. -/
structure BlockHeader where
  /-- whether lines are folded -/
  folded : Bool
  /-- what becomes of the last line breaks -/
  chomping : Chomping
  /-- the indentation, if it is given -/
  indentation : Option Nat
  deriving Repr, DecidableEq

/-- A block under way. -/
structure Block where
  /-- the characters so far, last one first -/
  found : List Char
  /-- the indentation of its lines; none before its first line that is not empty -/
  indent : Option Nat
  /-- the widest indentation of the empty lines so far -/
  widest : Nat
  /-- the break after the last line -/
  leading : Option Char
  /-- the breaks of the empty lines after it, last one first -/
  trailing : List Char
  /-- whether the last line starts with a blank -/
  startsBlank : Bool
  /-- whether the characters of a line are being read -/
  inLine : Bool
  deriving Repr, DecidableEq

/-- The characters of a block before a new line, last one first. -/
def Block.joined (b : Block) (folds : Bool) (blank : Bool) : List Char :=
  if folds && b.leading == some '\n' && !b.startsBlank && !blank then
    b.trailing ++ (if b.trailing.isEmpty then [' '] else []) ++ b.found
  else b.trailing ++ b.leading.toList ++ b.found

/-- The text of a finished block. -/
def Block.text (b : Block) (c : Chomping) : List Char :=
  match c with
  | .strip => b.found.reverse
  | .clip => (b.leading.toList ++ b.found).reverse
  | .keep => (b.trailing ++ b.leading.toList ++ b.found).reverse

/-- Read the lines of a block, which are indented at least by `least`. -/
def readBlock (folds : Bool) (least : Nat) (b : Block) (line column : Nat) :
    List Char → Option (Block × Cursor)
  | [] => some (b, ⟨[], line, column⟩)
  | c :: r =>
    if b.inLine then
      if isBreak c then
        readBlock folds least { b with leading := some c, trailing := [], inLine := false }
          (line + 1) 0 r
      else readBlock folds least { b with found := c :: b.found } line (column + 1) r
    else
      let before := (b.indent.map fun n => decide (column < n)).getD true
      if before && c == ' ' then readBlock folds least b line (column + 1) r
      else if before && c == '\t' then none
      else
        let widest := max b.widest column
        if isBreak c then
          readBlock folds least { b with widest := widest, trailing := c :: b.trailing }
            (line + 1) 0 r
        else
          let indent := b.indent.getD (max widest least)
          if column = indent then
            let blank := isBlank c
            readBlock folds least
              { b with
                found := c :: b.joined folds blank, indent := some indent, leading := none,
                trailing := [], startsBlank := blank, inLine := true }
              line (column + 1) r
          else some ({ b with indent := some indent }, ⟨c :: r, line, column⟩)

/-- The indentation that a digit gives; zero is not allowed. -/
def indentationDigit? (c : Char) : Option Nat :=
  (Numeral.digit? c).filter fun d => d != 0

/-- The chomping that a sign gives. -/
def chompingSign? (c : Char) : Option Chomping :=
  if c == '+' then some .keep else if c == '-' then some .strip else none

/-- Read the line that begins a block, after its first character: a sign and a digit in either
order, and then nothing but blanks and a comment. -/
def readHeader (folded : Bool) (p : Cursor) : Option (BlockHeader × Cursor) :=
  let (header, p) : Option BlockHeader × Cursor :=
    match p.rest with
    | a :: r =>
      match chompingSign? a with
      | some chomping =>
        match r with
        | b :: _ =>
          if Numeral.isDigit b then
            ((indentationDigit? b).map fun n => ⟨folded, chomping, some n⟩, p.skip 2)
          else (some ⟨folded, chomping, none⟩, p.skip 1)
        | [] => (some ⟨folded, chomping, none⟩, p.skip 1)
      | none =>
        if Numeral.isDigit a then
          match (r.head?).bind chompingSign? with
          | some chomping =>
            ((indentationDigit? a).map fun n => ⟨folded, chomping, some n⟩, p.skip 2)
          | none => ((indentationDigit? a).map fun n => ⟨folded, .clip, some n⟩, p.skip 1)
        else (some ⟨folded, .clip, none⟩, p)
    | [] => (some ⟨folded, .clip, none⟩, p)
  let p := (p.span isBlank).2
  let p := if p.rest.head? == some '#' then (p.span fun c => !isBreak c).2 else p
  match header, p.rest with
  | none, _ => none
  | some h, [] => some (h, p)
  | some h, c :: _ => if isBreak c then some (h, p.skipBreak) else none

/-- Read a block after its first character; `indent` is the indentation of the collection around it,
negative outside of all. -/
def readBlockScalar (folded : Bool) (indent : Int) (p : Cursor) : Option (List Char × Cursor) :=
  match readHeader folded p with
  | none => none
  | some (h, p) =>
    let given := h.indentation.map fun n => indent.toNat + n
    let start : Block := ⟨[], given, 0, none, [], false, false⟩
    match readBlock h.folded (max 1 (indent + 1).toNat) start p.line p.column p.rest with
    | none => none
    | some (b, p) => some (b.text h.chomping, p)

end DeviceHost.Yaml
