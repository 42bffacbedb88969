import DeviceHost.Yaml.Node

/-!
# The name of a profile document

Profiles are kept as YAML documents, of which the service needs only the name: the scalar under the
key `name` of the mapping at the top. All that has to hold of the rest is that the text is
well-formed and that the keys of this mapping are scalars.
-/

namespace DeviceHost

open Yaml

/-- The name among the entries of a mapping, given the one found so far. -/
def nameAmong (found : Option String) : List (Node × Node) → Option String
  | [] => some (found.getD "")
  | (.scalar k _, v) :: r =>
    if k = "name" then
      match found, v with
      | none, .scalar text _ => nameAmong (some text) r
      | _, _ => none
    else nameAmong found r
  | _ :: _ => none

/-- The name of a profile document, empty if it has none; nothing if it is not well-formed. -/
def profileName? (yaml : List Char) : Option String :=
  match Node.read? yaml with
  | none => none
  | some none => some ""
  | some (some (.mapping entries)) => nameAmong none entries
  | some (some n) => if n.isVoid then some "" else none

end DeviceHost
