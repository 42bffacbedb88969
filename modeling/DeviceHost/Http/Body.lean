import DeviceHost.Http.Refusal

/-!
# Bodies of requests

The authority reports a change with a document that names the device; the method says what has
happened. A caller writes values with a document that has a member for each resource.

* `notification` — what the authority reports;
* `writeValues` — the values that a caller writes.
-/

namespace DeviceHost.Http

/-- What a method reports of a device. -/
def changeOf? (method : String) : Option Change :=
  if method = "POST" ∨ method = "PUT" then some .upsert
  else if method = "DELETE" then some .delete
  else none

/-- A text member of a document, the last one of its name. -/
def textMember? (name : String) (j : Json) : Option String :=
  (j.member? name).bind Json.string?

/-- The notification that a method and a body stand for. Of a body that is no document only that is
said; what the parser has against it, which follows after a colon, is not modelled. -/
def notification (method : String) (body : String) : Except Refusal Notification :=
  match Json.ofText? body with
  | none => .error ⟨.badRequest, "Callback body is not JSON"⟩
  | some j =>
    match textMember? "type" j with
    | none => .error ⟨.badRequest, "Callback is missing 'type'"⟩
    | some kind =>
      if kind ≠ "DEVICE" then
        .error ⟨.notImplemented, s!"Callbacks of type '{kind}' are not supported"⟩
      else
        match (textMember? "id" j).filter fun id => id != "" with
        | none => .error ⟨.badRequest, "Callback is missing 'id'"⟩
        | some id =>
          match changeOf? method with
          | none => .error ⟨.notImplemented, s!"Callback method {method} is not supported"⟩
          | some c => .ok ⟨c, id⟩

/-- The text of a value that may be written: a text, a number or a truth value. -/
def scalarText? : Json → Option String
  | .string s => some s
  | .number n => some n.text
  | .bool b => some (Value.boolText b)
  | _ => none

/-- The texts of members, up to the first one that may not be written. -/
def scalarMembers : List (String × Json) → Except Refusal (List (String × String))
  | [] => .ok []
  | (k, v) :: r =>
    match scalarText? v with
    | some s => (scalarMembers r).map ((k, s) :: ·)
    | none =>
      .error ⟨.badRequest,
        s!"Value for '{k}' must be a string, number or boolean, got {v.tidy.text}"⟩

/-- The values that a body gives to resources; of members with the same name the last one counts. Of
a body that is no document only that is said, without the words of the parser after the colon. -/
def writeValues (body : String) : Except Refusal (Table String) :=
  match Json.ofText? body with
  | none => .error ⟨.badRequest, "Invalid JSON"⟩
  | some (.object members) =>
    (scalarMembers (Table.ofList members).toList).map .ofList
  | some _ => .error ⟨.badRequest, "Body must be a JSON object"⟩

end DeviceHost.Http
