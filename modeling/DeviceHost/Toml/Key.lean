import DeviceHost.Toml.Quoted

/-!
# Keys of TOML

A part of a key is a bare name of ASCII letters, digits, `_` and `-`, or a text in one pair of
quotes. Dots join parts, and blanks may stand around a part. A key of eighty parts or more is
refused.
-/

namespace DeviceHost.Toml

/-- A character of bare names. -/
def isBare (c : Char) : Bool :=
  Numeral.isDigit c || ('a' ≤ c && c ≤ 'z') || ('A' ≤ c && c ≤ 'Z') || c == '_' || c == '-'

/-- A text without the blanks at its front. -/
def skipBlanks (cs : List Char) : List Char :=
  cs.dropWhile fun c => c == ' ' || c == '\t'

/-- One part of a key, and the text after it. -/
def readPart (cs : List Char) : Option (List Char × List Char) :=
  match cs with
  | [] => none
  | c :: r =>
    if c = '"' then readBasic r
    else if c = tick then readLiteral r
    else if isBare c then some (cs.takeWhile isBare, cs.dropWhile isBare)
    else none

/-- The parts of a key, and the text after it and the blanks that follow it. -/
def readParts (cs : List Char) : Option (List String × List Char) :=
  match readPart (skipBlanks cs) with
  | none => none
  | some (k, r) =>
    match skipBlanks r with
    | '.' :: r =>
      if _h : r.length < cs.length then
        (readParts r).map fun t => (String.ofList k :: t.1, t.2)
      else none
    | r => some ([String.ofList k], r)
  termination_by cs.length

/-- Keys have fewer parts than this, and arrays and tables are nested less deeply. -/
def depthLimit : Nat := 80

/-- A key, as the parts before the last one and the last one, and the text after it and the blanks
that follow it. -/
def readKey (cs : List Char) : Option ((List String × String) × List Char) :=
  match readParts cs with
  | none => none
  | some (parts, r) =>
    match parts.getLast? with
    | none => none
    | some k => if parts.length < depthLimit then some ((parts.dropLast, k), r) else none

/-- A key of one part as it is written: as a bare name if possible, and else in quotes. -/
def writeKey (s : List Char) : List Char :=
  if !s.isEmpty && s.all isBare then s
  else if Form.basic.suits s then Form.basic.write s
  else if Form.literal.suits s then Form.literal.write s
  else Form.basic.write s

end DeviceHost.Toml
