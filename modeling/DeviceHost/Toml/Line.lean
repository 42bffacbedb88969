import DeviceHost.Toml.Key
import DeviceHost.Toml.Word

/-!
# Lines of TOML

A file is a sequence of lines: empty ones, entries, and the headers of tables and of sequences of
tables. An entry may go over several lines of text, because arrays and texts in three quotes may.
Any line may end in a comment.

Line breaks are line feeds here; `joinBreaks` sees to that before anything is read.
-/

namespace DeviceHost.Toml

/-- What reads a thing at the front of a text, and gives it with the text after it. -/
abbrev Reader (α : Type) : Type := List Char → Option (α × List Char)

/-! ### Values -/

/-- A text without the blanks, line breaks and comments at its front; `comment` says whether it
starts inside a comment. -/
def skipGap : Bool → List Char → List Char
  | _, [] => []
  | false, c :: r =>
    if c == ' ' || c == '\t' || c == '\n' then skipGap false r
    else if c == '#' then skipGap true r
    else c :: r
  | true, c :: r =>
    if c == '\n' then skipGap false r
    else if isPlain c then skipGap true r
    else c :: r

/-- The items of an array and the text after its closing bracket. Before each item and after the
last one there may be gaps, and after the last one a comma. -/
def readItems {α : Type} (read : Reader α) (cs : List Char) : Option (List α × List Char) :=
  match skipGap false cs with
  | ']' :: r => some ([], r)
  | start =>
    match read start with
    | none => none
    | some (x, r) =>
      match skipGap false r with
      | ',' :: r =>
        if _h : r.length < cs.length then
          (readItems read r).map fun t => (x :: t.1, t.2)
        else none
      | ']' :: r => some ([x], r)
      | _ => none
  termination_by cs.length

/-- A key and its value. -/
def readEntry (read : Reader Value) (cs : List Char) : Option (Entry × List Char) :=
  match readKey cs with
  | some (k, '=' :: r) =>
    (read (skipBlanks r)).map fun t => (⟨k.1, k.2, t.1⟩, skipBlanks t.2)
  | _ => none

/-- The entries of a table in braces, of which there is at least one, and the text after its closing
brace. -/
def readMembers (read : Reader Value) (cs : List Char) : Option (List Entry × List Char) :=
  match readEntry read cs with
  | some (e, ',' :: r) =>
    if _h : r.length < cs.length then
      (readMembers read r).map fun t => (e :: t.1, t.2)
    else none
  | some (e, '\x7d' :: r) => some ([e], r)
  | _ => none
  termination_by cs.length

/-- A table in braces, from after its opening brace. -/
def readBraces (read : Reader Value) (cs : List Char) : Option (Value × List Char) :=
  match skipBlanks cs with
  | '\x7d' :: r => some (.table .inline [], r)
  | start =>
    match readMembers read start with
    | none => none
    | some (es, r) => (addEntries [] es).map fun t => (.table .inline t, r)

/-- A value that is no array and no table. -/
def readScalar : Reader Value := fun cs =>
  match cs with
  | [] => none
  | c :: _ =>
    if c = '"' ∨ c = tick then
      (readText cs).map fun t => (.text (String.ofList t.1), t.2)
    else readWord cs

/-- A value in which arrays and tables are nested at most so deep. -/
def readValue : Nat → Reader Value
  | 0, cs => readScalar cs
  | _ + 1, [] => none
  | depth + 1, c :: r =>
    if c = '[' then (readItems (readValue depth) r).map fun t => (.array t.1, t.2)
    else if c = '\x7b' then readBraces (readValue depth) r
    else readScalar (c :: r)

/-! ### Lines -/

/-- A line. -/
inductive Line
  /-- there is nothing but a comment on it -/
  | blank
  /-- an entry of the table whose header came last -/
  | entry (e : Entry)
  /-- the header of a table -/
  | header (path : List String) (key : String)
  /-- the header of the next table of a sequence -/
  | element (path : List String) (key : String)
  deriving Repr

/-- The text after the end of a line, if nothing but blanks and a comment stand before it. -/
def lineEnd? (cs : List Char) : Option (List Char) :=
  match skipBlanks cs with
  | [] => some []
  | '\n' :: r => some r
  | '#' :: r =>
    match r.dropWhile isPlain with
    | [] => some []
    | '\n' :: r => some r
    | _ => none
  | _ => none

/-- What comes first on a line, and the text after it. -/
def readStart (cs : List Char) : Option (Line × List Char) :=
  match skipBlanks cs with
  | [] => some (.blank, [])
  | '\n' :: r => some (.blank, '\n' :: r)
  | '#' :: r => some (.blank, '#' :: r)
  | '[' :: '[' :: r =>
    match readKey r with
    | some (k, ']' :: ']' :: r) => some (.element k.1 k.2, r)
    | _ => none
  | '[' :: r =>
    match readKey r with
    | some (k, ']' :: r) => some (.header k.1 k.2, r)
    | _ => none
  | r => (readEntry (readValue (depthLimit - 1)) r).map fun t => (.entry t.1, t.2)

/-- A line and the text after it. -/
def readLine (cs : List Char) : Option (Line × List Char) :=
  match readStart cs with
  | none => none
  | some (l, r) => (lineEnd? r).map fun r => (l, r)

/-- The lines of a text. -/
def readLines (cs : List Char) : Option (List Line) :=
  if cs.isEmpty then some []
  else
    match readLine cs with
    | none => none
    | some (l, r) =>
      if _h : r.length < cs.length then (readLines r).map (l :: ·) else none
  termination_by cs.length

end DeviceHost.Toml
