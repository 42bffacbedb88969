import DeviceHost.Numeral.Floating

/-!
# Values of TOML

What a configuration file says is a table of values. How a table came to be is kept with it, because
the rules on adding to a table that exists already depend on it:

* a table in braces is complete;
* a table with a header of its own takes sub-tables from other headers, but no dotted keys;
* a table that only lies on the way to others takes both.

`amend` changes the table that a path leads to, and is the only place where these rules stand.
-/

namespace DeviceHost.Toml

/-- How a table came to be. -/
inductive Origin
  /-- it stands in braces -/
  | inline
  /-- it has a header, or it is the outermost table -/
  | headed
  /-- it lies on the way to the table of a header -/
  | implied
  /-- it lies on the way to the value of a dotted key -/
  | dotted
  deriving Repr, DecidableEq

/-- A value. -/
inductive Value
  /-- a text -/
  | text (s : String)
  /-- an integer of 64 bits -/
  | integer (i : Int)
  /-- a floating point number -/
  | float (x : Numeral.Floating .double)
  /-- a truth value -/
  | flag (b : Bool)
  /-- a date, a time of day, or both, in its normal form -/
  | moment (s : String)
  /-- a sequence in brackets -/
  | array (items : List Value)
  /-- a table -/
  | table (origin : Origin) (entries : List (String × Value))
  /-- a sequence of tables, each with a header -/
  | tables (elements : List (List (String × Value)))
  deriving Repr

instance : Inhabited Value := ⟨.flag false⟩

/-- The entries of a table, in the order in which their keys first occurred. -/
abbrev Entries : Type := List (String × Value)

/-- Give a key a value, in the place of the value that it has, or at the end. -/
def assign (k : String) (v : Value) : Entries → Entries
  | [] => [(k, v)]
  | e :: es => if e.1 = k then (k, v) :: es else e :: assign k v es

/-- What a path is for. -/
inductive Way
  /-- it leads to the table of a header -/
  | toHeader
  /-- it leads to the value of a key -/
  | toKey
  deriving Repr, DecidableEq

/-- How a table comes to be that a path makes on its way. -/
def Way.origin : Way → Origin
  | toHeader => .implied
  | toKey => .dotted

/-- Whether a path may lead through a table. -/
def Way.passes : Way → Origin → Bool
  | _, .inline => false
  | toHeader, _ => true
  | toKey, o => o != .headed

/-- Change the table that a path leads to. Tables that are missing on the way are made; a sequence
of tables stands for its last table. -/
def amend (way : Way) (change : Origin → Entries → Option Entries) :
    List String → Origin → Entries → Option Entries
  | [], o, es => change o es
  | k :: ks, _, es =>
    match es.lookup k with
    | none =>
      (amend way change ks way.origin []).map fun inner => assign k (.table way.origin inner) es
    | some (.table o inner) =>
      if way.passes o then
        (amend way change ks o inner).map fun inner => assign k (.table o inner) es
      else none
    | some (.tables elements) =>
      match elements.getLast? with
      | some inner =>
        (amend way change ks .headed inner).map fun inner =>
          assign k (.tables (elements.dropLast ++ [inner])) es
      | none => none
    | some _ => none

/-- The value of a key that may be dotted. -/
structure Entry where
  /-- the parts of the key before the last one -/
  path : List String
  /-- the last part of the key -/
  key : String
  /-- the value -/
  value : Value
  deriving Repr

/-- Add an entry to a table. The table that holds the value in the end must have been made by a
dotted key exactly if this key is dotted, and a key may have one value only. -/
def addEntry (es : Entries) (e : Entry) : Option Entries :=
  amend .toKey
    (fun o inner =>
      if (o == .dotted) == e.path.isEmpty || (inner.lookup e.key).isSome then none
      else some (inner ++ [(e.key, e.value)]))
    e.path .headed es

/-- Add entries to a table, one after the other. -/
def addEntries (es : Entries) (added : List Entry) : Option Entries :=
  added.foldlM addEntry es

end DeviceHost.Toml
