import DeviceHost.Authority
import DeviceHost.Http.Address
import DeviceHost.Text.Percent

/-!
# The metadata authority over HTTP

Each kind of inquiry has an address of its own, below which the record asked for is named by one
segment. The transport that carries requests and replies is left open: it has a state of its own,
and either brings a reply or says why there is none.
-/

namespace DeviceHost.Client

open Http

/-- A text as one segment of a path. -/
def segment (s : String) : String := String.ofList (Percent.encode s.toList)

/-- The path of an inquiry. -/
def path : Inquiry → String
  | .device id => "/api/v1/device/" ++ segment id
  | .devicesOf service => "/api/v1/device/servicename/" ++ segment service
  | .profile name => "/api/v1/deviceprofile/name/" ++ segment name
  | .upload _ => "/api/v1/deviceprofile/upload"

/-- The address of an inquiry to the authority at a base address. -/
def url (base : String) (q : Inquiry) : String := base ++ path q

/-- What is sent. -/
structure Sent where
  /-- the method -/
  method : String
  /-- the path -/
  target : String
  /-- the type of the body -/
  contentType : Option String
  /-- the body -/
  body : List UInt8
  deriving Repr, DecidableEq

/-- What is sent for an inquiry. -/
def request (base : String) (q : Inquiry) : Sent :=
  let target := resolvedPath (url base q)
  match q with
  | .upload yaml => ⟨"POST", target, some "application/x-yaml", Utf8.ofString yaml⟩
  | _ => ⟨"GET", target, none, []⟩

/-- What comes back. -/
inductive Received
  /-- nothing, for a reason -/
  | nothing (reason : String)
  /-- a reply with a status and a body -/
  | reply (status : Nat) (body : List UInt8)
  deriving Repr, DecidableEq

/-- What carries requests and replies, with a state of type `τ`. -/
structure Transport (τ : Type) where
  /-- send a request -/
  send : Sent → τ → Received × τ

/-- A transport that brings no replies. -/
def Transport.broken (reason : String) : Transport Unit := ⟨fun _ s => (.nothing reason, s)⟩

/-- What the status of a reply to an inquiry means. Only a record that is asked for can be
missing. -/
def checkReply (base : String) (q : Inquiry) (status : Nat) : Except AuthorityError Unit :=
  match q with
  | .device id => checkStatus status (url base q) id
  | .devicesOf service => checkStatus status (url base q) service
  | .profile name => checkStatus status (url base q) name
  | .upload _ => if isSuccess status then .ok () else .error (.status status (url base q))

/-- The body of a good reply. -/
def accept (base : String) (q : Inquiry) : Received → Except AuthorityError (List UInt8)
  | .nothing reason => .error (.request reason)
  | .reply status body => (checkReply base q status).map fun _ => body

/-- The authority at a base address. -/
def authority {τ : Type} (base : String) (t : Transport τ) : Authority τ where
  answer q s :=
    let r := t.send (request base q) s
    (accept base q r.1, r.2)

end DeviceHost.Client
