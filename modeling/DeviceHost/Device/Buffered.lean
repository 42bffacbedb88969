import DeviceHost.Device.Basic
import DeviceHost.Json.Node

/-!
# Values out of the buffer

An entry of a list of devices may be anything, so it is not read as a device where it stands in the
document. It is put into a buffer first, as a generic value, with all its members in their order,
those of one name too. Then the device is looked for in the buffer, and if it is not there, the
entry is passed over.

A generic value is a `Json`. The readers here look into it as a whole: the document around it has
been read by then. They answer with a value or with none, since what is wrong with an entry is told
to nobody.
-/

namespace DeviceHost.Json

variable {α : Type}

/-- The text that a value is. -/
def asText? : Json → Option String
  | .string s => some s
  | _ => none

/-- The truth value that a value is. -/
def asBool? : Json → Option Bool
  | .bool b => some b
  | _ => none

/-- The list that a value is, if all its items are what they should be. -/
def asList? (item : Json → Option α) : Json → Option (List α)
  | .array items => items.mapM item
  | _ => none

/-- The table that a value is, filled member by member: of members with the same name the last one
stays. -/
def asTable? : Json → Option (Table String)
  | .object members =>
    members.foldlM (fun t m => m.2.asText?.map fun v => t.insert m.1 v) Table.empty
  | _ => none

/-- One of several words: a text, or an object whose only member is named by the word and null. That
there is one member only is seen before its name is looked at. -/
def asVariant? (words : List (String × α)) : Json → Option α
  | .string s => words.lookup s
  | .object [(k, .null)] => words.lookup k
  | _ => none

/-- The value type that a value names. -/
def asValueType? (j : Json) : Option ValueType :=
  j.asText?.bind ValueType.ofName?

/-- The protocols that a value holds, one for each member, also for members of the same name. -/
def asProtocols? : Json → Option (List Protocol)
  | .null => some []
  | .object members => members.mapM fun m => m.2.asTable?.map fun t => ⟨m.1, t⟩
  | _ => none

end DeviceHost.Json
