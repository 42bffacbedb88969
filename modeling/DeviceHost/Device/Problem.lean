import DeviceHost.Json.Node
import DeviceHost.Text.Quoted
import DeviceHost.Value.Basic

/-!
# What can be wrong with a device document

A document is read member by member, in the order in which its members stand, and the first problem
ends the reading. This module lists the problems and their wording.
-/

namespace DeviceHost

open Json

/-- The first problem of a document. -/
inductive Problem
  /-- it is no JSON document -/
  | malformed
  /-- a record has no member of this name, and needs one -/
  | missingField (name : String)
  /-- a record has two members of this name -/
  | duplicateField (name : String)
  /-- a text is none of the words that may stand in its place -/
  | unknownVariant (given : String) (expected : List String)
  /-- a text is the name of no value type -/
  | unknownValueType (name : String)
  /-- a value of one kind stands where another kind is wanted -/
  | wrongKind (found : Node) (expected : String)
  /-- a record is given by an array that ends before a member that it needs; `before` is the number
  of members before that one -/
  | tooShort (before : Nat) (title : String) (members : Nat)
  /-- a record is given by an array with more items than it has members -/
  | tooLong
  /-- a word is given by something that is neither a text nor an object of one member -/
  | expectedWord

/-- The wording of a choice of words. -/
def choiceText : List String → String
  | [a, b] => s!"`{a}` or `{b}`"
  | words => "one of " ++ ", ".intercalate (words.map fun w => s!"`{w}`")

/-- What a value is, in words; none if it has a fault. -/
def describe? : Node → Option String
  | .null => some "null"
  | .bool b => some (if b then "boolean `true`" else "boolean `false`")
  | .number n => n.map fun
    | .integer i => s!"integer `{Numeral.intText i}`"
    | .real x => s!"floating point `{(Number.real x).text}`"
  | .string s => s.map fun t => s!"string {Text.quote t}"
  | .array _ => some "sequence"
  | .object _ => some "map"

/-- The wording for a document that is no JSON. -/
def malformedText : String := "malformed JSON"

/-- The wording of a problem. -/
def Problem.message : Problem → String
  | malformed => malformedText
  | missingField f => s!"missing field `{f}`"
  | duplicateField f => s!"duplicate field `{f}`"
  | unknownVariant v expected => s!"unknown variant `{v}`, expected {choiceText expected}"
  | unknownValueType v => ValueType.unknownMessage v
  | wrongKind found expected =>
    match describe? found with
    | some what => s!"invalid type: {what}, expected {expected}"
    | none => malformedText
  | tooShort n title members =>
    let noun := if members = 1 then "element" else "elements"
    s!"invalid length {n}, expected struct {title} with {members} {noun}"
  | tooLong => "trailing characters"
  | expectedWord => "expected value"

end DeviceHost
