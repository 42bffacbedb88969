import DeviceHost.Http.Address
import DeviceHost.Http.Body
import DeviceHost.Http.Endpoint
import DeviceHost.Text.Percent
import DeviceHost.Text.Quoted

/-!
# The HTTP server

Callers read and write devices over HTTP, and the authority sends its notifications so. This module
says which paths and methods there are, and what each request leads to.

A request is looked at from outside to inside, and the first trouble is reported: a body that is too
long, a path that leads nowhere, a method that the path does not have, a part of the path that is no
text, a body that is no text, and what the service itself refuses.
-/

namespace DeviceHost.Http

/-- A request. -/
structure Request where
  /-- the method -/
  method : String
  /-- the address: a path, possibly after a scheme and a host, and a query if any -/
  address : String
  /-- the body -/
  body : List UInt8

/-- The content of a reply. -/
inductive Content
  | empty
  | text (s : String)
  | json (j : Json)

/-- A reply. -/
structure Reply where
  /-- the status -/
  status : Nat
  /-- the type of the content -/
  contentType : Option String
  /-- the methods of the path, if the one of the request is not among them -/
  allow : Option String
  /-- the content -/
  content : Content

namespace Reply

/-- A reply without content. -/
def ofStatus (status : Nat) : Reply := ⟨status, none, none, .empty⟩

/-- A reply with a text. -/
def ofText (status : Nat) (s : String) : Reply :=
  ⟨status, some "text/plain; charset=utf-8", none, .text s⟩

/-- A reply with a document. -/
def ofJson (status : Nat) (j : Json) : Reply := ⟨status, some "application/json", none, .json j⟩

/-- The reply of a refusal. -/
def ofRefusal (r : Refusal) : Reply := .ofJson r.status r.json

/-- A reply without its content. -/
def stripped (r : Reply) : Reply := { r with content := .empty }

end Reply

/-! ### Paths -/

/-- The greatest length of a body. -/
def bodyLimit : Nat := 1024 * 1024

/-- Where a path leads. The parts of a device's path are still encoded. -/
inductive Route
  | ping
  | callback
  | discovery
  /-- a command of a device that is given by its identifier -/
  | byId (id command : String)
  /-- a command of a device that is given by its name -/
  | byName (name command : String)
  deriving Repr, DecidableEq

/-- Where segments lead. The last one may not be empty. -/
def Route.ofSegments? : List String → Option Route
  | ["api", "v1", "ping"] => some .ping
  | ["api", "v1", "callback"] => some .callback
  | ["api", "v1", "discovery"] => some .discovery
  | ["api", "v1", "device", "name", n, c] => if c = "" then none else some (.byName n c)
  | ["api", "v1", "device", i, c] => if c = "" then none else some (.byId i c)
  | _ => none

/-- The methods of a route, as a reply gives them; none if it takes all. -/
def Route.methods : Route → Option (List String)
  | ping => some ["GET", "HEAD"]
  | callback => none
  | discovery => some ["POST"]
  | byId .. => some ["GET", "HEAD", "PUT"]
  | byName .. => some ["GET", "HEAD", "PUT"]

/-- Whether a route takes a method. -/
def Route.takes (r : Route) (method : String) : Bool :=
  (r.methods.map fun ms => ms.contains method).getD true

/-- The methods of a route, as a list in a reply. -/
def Route.allow (r : Route) : Option String := r.methods.map fun ms => ",".intercalate ms

/-- A part of a path, decoded. -/
def readPart (name part : String) : Except String String :=
  match Percent.text? part.toList with
  | some s => .ok s
  | none => .error s!"Invalid URL: Invalid UTF-8 in `{name}`"

/-- The device and the command of a path, decoded. -/
def readParts (first : String) (device command : String) : Except String (String × String) :=
  match readPart first device, readPart "command" command with
  | .ok d, .ok c => .ok (d, c)
  | .error e, _ => .error e
  | _, .error e => .error e

/-- The text of a body. -/
def readBody (body : List UInt8) : Except String String :=
  match Utf8.text? body with
  | some s => .ok s
  | none =>
    let what := ((Utf8.flaw? body).map fun f => f.message).getD ""
    .error s!"Request body didn't contain valid UTF-8: {what}"

/-! ### What requests lead to -/

/-- What is new about a reply to a reading: its identifier and its time, in milliseconds. -/
structure Stamp where
  /-- the identifier of the reply -/
  id : String
  /-- the time of the reply -/
  origin : Int

variable {δ α : Type}

/-- The document of a reading of a device. -/
def readingsJson (stamp : Stamp) (d : Device) (rs : List Reading) : Json :=
  .object [("id", .string stamp.id), ("device", .string d.name),
    ("origin", .number (.integer stamp.origin)), ("readings", .array (rs.map Reading.json))]

/-- Who the service is. -/
def ping (s : Service δ α) : Reply :=
  .ofJson 200 (.object [("service", .string s.config.service.name),
    ("version", .string s.config.service.version)])

/-- Begin a search for devices. -/
def discover (s : Service δ α) : Service.Act δ α Reply := do
  match ← s.beginDiscovery with
  | .error e => return .ofRefusal (.ofService e)
  | .ok () => return .ofStatus 202

/-- A report as the log shows it. -/
def reportText : Report → String
  | .stored .created => "Stored(Created)"
  | .stored .updatedLocally => "Stored(UpdatedLocally)"
  | .stored .updatedRemoteOnly => "Stored(UpdatedRemoteOnly)"
  | .removed => "Removed"
  | .notPresent => "NotPresent"
  | .ownershipLost owner present =>
    "OwnershipLost \x7b " ++
      s!"owner: {Text.quote owner}, was_present: {Value.boolText present}" ++ " \x7d"
  | .dropped reason => s!"Dropped({Text.quote reason})"

/-- Take a notification of the authority. -/
def callback (s : Service δ α) (method body : String) : Service.Act δ α Reply :=
  match notification method body with
  | .error r => do
    Service.log .warn s!"Rejected callback: {r.message}"
    return .ofRefusal r
  | .ok n => do
    match ← s.notify n with
    | .error e => return .ofRefusal (.ofService e)
    | .ok r =>
      Service.log .debug s!"Callback handled: {reportText r}"
      return .ofStatus 200

/-- Read a command of a device. -/
def readCommand (s : Service δ α) (stamp : Stamp) (k : DeviceKey) (command : String) :
    Service.Act δ α Reply := do
  match ← s.read k command with
  | .error e => return .ofRefusal (.ofService e)
  | .ok (d, rs) => return .ofJson 200 (readingsJson stamp d rs)

/-- Write a command of a device. -/
def writeCommand (s : Service δ α) (k : DeviceKey) (command body : String) :
    Service.Act δ α Reply :=
  match writeValues body with
  | .error r => return .ofRefusal r
  | .ok values => do
    match ← s.write k command values with
    | .error e => return .ofRefusal (.ofService e)
    | .ok () => return .ofStatus 200

/-- Read or write a command of a device. -/
def command (s : Service δ α) (stamp : Stamp) (r : Request) (k : DeviceKey) (command : String) :
    Service.Act δ α Reply :=
  if r.method = "PUT" then
    match readBody r.body with
    | .error e => return .ofText 400 e
    | .ok body => writeCommand s k command body
  else readCommand s stamp k command

/-- Carry out a request whose path and method are right. -/
def carryOut (s : Service δ α) (stamp : Stamp) (r : Request) : Route → Service.Act δ α Reply
  | .ping => return ping s
  | .discovery => discover s
  | .callback =>
    match readBody r.body with
    | .error e => return .ofText 400 e
    | .ok body => callback s r.method body
  | .byId i c =>
    match readParts "id" i c with
    | .error e => return .ofText 400 e
    | .ok (i, c) => command s stamp r (.id i) c
  | .byName n c =>
    match readParts "name" n c with
    | .error e => return .ofText 400 e
    | .ok (n, c) => command s stamp r (.name n) c

/-- The reply to a body that is too long. -/
def tooLong : Reply := .ofText 413 "length limit exceeded"

/-- Whether the reply of a route to a method goes without its content. -/
def goesBare (route : Route) (method : String) : Bool :=
  method == "HEAD" && route.methods.isSome

/-- Answer a request. -/
def handle (s : Service δ α) (stamp : Stamp) (r : Request) : Service.Act δ α Reply :=
  let isLong := bodyLimit < r.body.length
  match Route.ofSegments? (segments r.address) with
  | none => return if isLong then tooLong else .ofStatus 404
  | some route => do
    if !route.takes r.method then
      return { (if isLong then tooLong else .ofStatus 405) with allow := route.allow }
    else
      let reply ← if isLong then pure tooLong else carryOut s stamp r route
      return if goesBare route r.method then reply.stripped else reply

/-! ### Listening -/

/-- Listen at an address of the machine, which is shown as `shown`, until the server is told to end;
say whether the machine has the address. -/
def serve (address shown : String) : Service.Act δ α Bool :=
  if ((Endpoint.read? address).map Endpoint.isLocal).getD false then do
    Service.log .info s!"Listening on {shown}"
    Service.log .info "Server shutdown complete"
    return true
  else return false

end DeviceHost.Http
