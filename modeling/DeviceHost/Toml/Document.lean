import DeviceHost.Toml.Line

/-!
# Documents of TOML

A document is made of sections. The entries before the first header belong to the outermost table;
every header starts a section, whose entries go into the table that the header names.

* `Document.ofLines` — lines in sections;
* `Document.table?` — what the document says, if no part of it contradicts another;
* `table?` — what a text says.

The other half writes a `Sheet`: sections of plain values, each with a header, one after the other.
-/

namespace DeviceHost.Toml

/-- A header with the entries that follow it. -/
structure Section where
  /-- whether the section is the next table of a sequence -/
  repeated : Bool
  /-- the parts of the key before the last one -/
  path : List String
  /-- the last part of the key -/
  key : String
  /-- the entries -/
  entries : List Entry
  deriving Repr

/-- A document. -/
structure Document where
  /-- the entries before the first header -/
  preamble : List Entry
  /-- the sections -/
  sections : List Section
  deriving Repr

/-- The sections that lines form. -/
def Document.ofLines : List Line → Document
  | [] => ⟨[], []⟩
  | l :: ls =>
    let d := ofLines ls
    match l with
    | .blank => d
    | .entry e => ⟨e :: d.preamble, d.sections⟩
    | .header path key => ⟨[], ⟨false, path, key, d.preamble⟩ :: d.sections⟩
    | .element path key => ⟨[], ⟨true, path, key, d.preamble⟩ :: d.sections⟩

/-- Put the table of a section in its place. A header may name a table that only lies on the way to
others, or a new one; the header of a sequence names a sequence, or a new one. -/
def Section.place (s : Section) (es : Entries) : Option Entries :=
  match s.repeated, es.lookup s.key with
  | false, none =>
    (addEntries [] s.entries).map fun t => assign s.key (.table .headed t) es
  | false, some (.table .implied begun) =>
    (addEntries begun s.entries).map fun t => assign s.key (.table .headed t) es
  | true, none =>
    (addEntries [] s.entries).map fun t => assign s.key (.tables [t]) es
  | true, some (.tables elements) =>
    (addEntries [] s.entries).map fun t => assign s.key (.tables (elements ++ [t])) es
  | _, some _ => none

/-- Add a section to the outermost table. -/
def addSection (es : Entries) (s : Section) : Option Entries :=
  amend .toHeader (fun _ inner => s.place inner) s.path .headed es

/-- The outermost table of a document. -/
def Document.table? (d : Document) : Option Entries :=
  match addEntries [] d.preamble with
  | none => none
  | some es => d.sections.foldlM addSection es

/-- A text in which every carriage return before a line feed is left out. -/
def joinBreaks : List Char → List Char
  | '\r' :: '\n' :: r => '\n' :: joinBreaks r
  | c :: r => c :: joinBreaks r
  | [] => []

/-- A text without the mark of byte order at its front. -/
def dropMark : List Char → List Char
  | '\ufeff' :: r => r
  | r => r

/-- The table that a text describes. -/
def table? (cs : List Char) : Option Entries :=
  match readLines (joinBreaks (dropMark cs)) with
  | none => none
  | some ls => (Document.ofLines ls).table?

/-! ### Writing -/

/-- A value that is written. -/
inductive Plain
  /-- a text -/
  | text (s : String)
  /-- a natural number -/
  | natural (n : Nat)
  /-- a truth value -/
  | flag (b : Bool)
  deriving Repr, DecidableEq

/-- The text of a value. -/
def Plain.write : Plain → List Char
  | text s => writeText s.toList
  | natural n => Numeral.digits n
  | flag true => ['t', 'r', 'u', 'e']
  | flag false => ['f', 'a', 'l', 's', 'e']

/-- The value that is written. -/
def Plain.value : Plain → Value
  | text s => .text s
  | natural n => .integer n
  | flag b => .flag b

/-- Sections by their names, each with its entries. -/
abbrev Sheet : Type := List (String × List (String × Plain))

/-- The line of an entry. -/
def writeEntry (e : String × Plain) : List Char :=
  writeKey e.1.toList ++ ([' ', '=', ' '] ++ (e.2.write ++ ['\n']))

/-- The lines of a section. -/
def writeSection (s : String × List (String × Plain)) : List Char :=
  '[' :: (writeKey s.1.toList ++ ([']', '\n'] ++ s.2.flatMap writeEntry))

/-- The text of sections, with an empty line between two of them. -/
def Sheet.write : Sheet → List Char
  | [] => []
  | [s] => writeSection s
  | s :: ss => writeSection s ++ ('\n' :: write ss)

end DeviceHost.Toml
