import DeviceHost.Activity
import DeviceHost.Device.Decode
import DeviceHost.Event

/-!
# The metadata authority

The authority knows which devices there are, which service each belongs to, and the profiles. The
service asks it; every request is left in the trace before it is sent, and every answer is either
the body of a good response or a failure.
-/

namespace DeviceHost

/-- Why the authority did not give what it was asked for. -/
inductive AuthorityError
  /-- it knows nothing of that name -/
  | notFound (what : String)
  /-- the request did not come through -/
  | request (reason : String)
  /-- it answered with another status than success -/
  | status (code : Nat) (url : String)
  /-- its answer is not what was asked for -/
  | decode (problem : Problem)

/-- The wording of a failure. -/
def AuthorityError.message : AuthorityError → String
  | notFound what => s!"Not found in metadata: {what}"
  | request reason => s!"Metadata request failed: {reason}"
  | status code url => s!"Metadata returned {Numeral.natText code} for {url}"
  | decode p => s!"Failed to decode metadata response: {p.message}"

/-- Whether a status code stands for success. -/
def isSuccess (code : Nat) : Bool := 200 ≤ code && code ≤ 299

/-- What the status of a response means, for a request for `what` at `url`. -/
def checkStatus (code : Nat) (url what : String) : Except AuthorityError Unit :=
  if code = 404 then .error (.notFound what)
  else if isSuccess code then .ok ()
  else .error (.status code url)

/-- An authority, whose own state is of type `α`: what it answers. -/
structure Authority (α : Type) where
  /-- the body of the response to a request, or a failure -/
  answer : Inquiry → α → Except AuthorityError (List UInt8) × α

namespace Authority

variable {α : Type}

/-- Send a request. -/
def ask (a : Authority α) (q : Inquiry) : Activity Event α (Except AuthorityError (List UInt8)) :=
  fun s =>
    let r := a.answer q s
    ⟨r.1, r.2, [.asked q]⟩

/-- Send a request and read the response. -/
def askFor {β : Type} (a : Authority α) (q : Inquiry)
    (read : List UInt8 → Except Problem β) : Activity Event α (Except AuthorityError β) := do
  match ← a.ask q with
  | .error e => return .error e
  | .ok body =>
    match read body with
    | .ok b => return .ok b
    | .error p => return .error (.decode p)

/-- Fetch the definition of a device. -/
def fetchDevice (a : Authority α) (id : String) : Activity Event α (Except AuthorityError Device) :=
  a.askFor (.device id) Device.decode

/-- Fetch a profile. -/
def fetchProfile (a : Authority α) (name : String) :
    Activity Event α (Except AuthorityError Profile) :=
  a.askFor (.profile name) Profile.decode

/-- What is written to the log about an entry that is no device. -/
def skipped (position : Nat) : Event :=
  .line .warn s!"Skipping invalid device at index {Numeral.natText position} in metadata response"

/-- Fetch the devices of a service. Entries that are no devices are passed over. -/
def fetchDevices (a : Authority α) (service : String) :
    Activity Event α (Except AuthorityError (List Device)) := do
  match ← a.askFor (.devicesOf service) Device.decodeEntries with
  | .error e => return .error e
  | .ok entries =>
    Activity.emitAll ((skippedPositions entries).map skipped)
    return .ok (entries.filterMap id)

/-- Hand a new profile over, as a YAML document. The body of the response does not matter. -/
def upload (a : Authority α) (yaml : String) : Activity Event α (Except AuthorityError Unit) := do
  match ← a.ask (.upload yaml) with
  | .error e => return .error e
  | .ok _ => return .ok ()

end Authority

end DeviceHost
