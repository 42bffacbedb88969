import DeviceHost.Driver.Basic
import DeviceHost.Json.Text
import DeviceHost.Value.Text

/-!
# Commands

A caller reads or writes a device by the name of a command of its profile, or of a single resource.
The command stands for a list of resources; the driver is called once for all of them, and what it
returns is checked: one value for each request, each of a type that it may produce.

* `resolve` — the resources of a command;
* `get`, `put` — a batch of requests to a device;
* `read`, `write` — a command of a device.
-/

namespace DeviceHost

/-- Why a command is not carried out. -/
inductive CommandError
  /-- there is no such device -/
  | deviceNotFound (key : String)
  /-- the device has no such command -/
  | commandNotFound (device command : String)
  /-- the device is locked -/
  | deviceLocked (device : String)
  /-- the resource may not be read -/
  | notReadable (resource : String)
  /-- the resource may not be written -/
  | notWritable (resource : String)
  /-- the value for a resource is missing or unreadable -/
  | invalidValue (resource reason : String)
  /-- there are not as many values as requests -/
  | lengthMismatch (requests values : Nat)
  /-- the driver failed -/
  | driver (e : DriverError)
  /-- the driver returned what it may not return -/
  | driverContract (what : String)
  deriving Repr, DecidableEq

/-- The wording of an error. -/
def CommandError.message : CommandError → String
  | deviceNotFound k => s!"Device not found: {k}"
  | commandNotFound d c => s!"Command '{c}' not found on device {d}"
  | deviceLocked d => s!"Device {d} is locked"
  | notReadable r => s!"Resource '{r}' is not readable"
  | notWritable r => s!"Resource '{r}' is not writable"
  | invalidValue r reason => s!"Invalid value for '{r}': {reason}"
  | lengthMismatch n m => s!"{Numeral.natText n} requests but {Numeral.natText m} values"
  | driver e => s!"Driver failure: {e.message}"
  | driverContract w => s!"Driver contract violation: {w}"

/-- A value read from a resource. -/
structure Reading where
  /-- the name of the resource -/
  resource : String
  /-- the value -/
  value : Value
  deriving DecidableEq

/-- The document of a reading. -/
def Reading.json (r : Reading) : Json :=
  .object [("name", .string r.resource), ("value", .string r.value.text),
    ("valueType", .string r.value.type.name)]

namespace Command

/-! ### Resolution -/

/-- What a command is wanted for. -/
inductive Access
  | read
  | write
  deriving Repr, DecidableEq

/-- The resources that a command names for an access. -/
def Access.names : Access → ProfileCommand → List String
  | read, c => c.get
  | write, c => c.set

/-- Whether a resource allows an access. -/
def Access.allowed : Access → Resource → Bool
  | read, r => r.mode.readable
  | write, r => r.mode.writable

/-- The refusal of an access. -/
def Access.denied : Access → String → CommandError
  | read, name => .notReadable name
  | write, name => .notWritable name

/-- The names that a command stands for: those of the profile's command, or the name itself if it is
that of a resource. -/
def namesOf? (p : Profile) (a : Access) (command : String) : Option (List String) :=
  match p.command? command with
  | some c => some (a.names c)
  | none => if (p.resource? command).isSome then some [command] else none

/-- The resource of a name, if it allows the access; `unknown` is the error if there is none. -/
def pick (p : Profile) (a : Access) (unknown : CommandError) (name : String) :
    Except CommandError Resource :=
  match p.resource? name with
  | none => .error unknown
  | some r => if a.allowed r then .ok r else .error (a.denied name)

/-- The resources of names, up to the first one that is not to be had. -/
def pickAll (p : Profile) (a : Access) (unknown : CommandError) :
    List String → Except CommandError (List Resource)
  | [] => .ok []
  | n :: ns =>
    match pick p a unknown n with
    | .error e => .error e
    | .ok r => (pickAll p a unknown ns).map (r :: ·)

/-- The resources of a command, in order; there is at least one. -/
def resolve (d : Device) (command : String) (a : Access) : Except CommandError (List Resource) :=
  let unknown := CommandError.commandNotFound d.name command
  match namesOf? d.profile a command with
  | none => .error unknown
  | some names =>
    match pickAll d.profile a unknown names with
    | .error e => .error e
    | .ok [] => .error (a.denied command)
    | .ok rs => .ok rs

/-- What is asked of the driver for a resource of the profile. -/
def requestOf (r : Resource) : ResourceRequest := ⟨r.name, r.attributes, some r.valueType⟩

/-! ### Batches -/

variable {δ : Type}

/-- What a driver is told about a device. -/
def targetOf (d : Device) : Target := ⟨d.name, d.protocols⟩

/-- Check what a driver returned: as many values as requests, and only types that it may produce. -/
def checkValues (supports : ValueType → Bool) (requests : List ResourceRequest)
    (values : List Value) : Except CommandError (List Value) :=
  if values.length ≠ requests.length then
    let got := Numeral.natText values.length
    let wanted := Numeral.natText requests.length
    .error (.driverContract s!"{got} values returned for {wanted} requests")
  else
    match values.find? fun v => !supports v.type with
    | some bad => .error (.driverContract s!"unsupported result type {bad.type.name}")
    | none => .ok values

/-- What is written to the log when the driver fails. -/
def failureText (driver operation device : String) (e : DriverError) : String :=
  s!"Driver {driver} {operation} on {device} failed: {e.message}"

/-- Read a batch of requests from a device. A locked device is not read, and nothing is done for no
requests. -/
def get (dr : Driver δ) (d : Device) (requests : List ResourceRequest) :
    Activity Event δ (Except CommandError (List Value)) := do
  if !d.admin.isEnabled then return .error (.deviceLocked d.name)
  else if requests.isEmpty then return .ok []
  else
    Activity.emit (.line .debug s!"get {Numeral.natText requests.length} resources from {d.name}")
    match ← dr.callGet (targetOf d) requests with
    | .error e =>
      Activity.emit (.line .error (failureText dr.name "get" d.name e))
      return .error (.driver e)
    | .ok values =>
      let s ← Activity.state
      return checkValues (dr.supports s) requests values

/-- Write a batch of values to a device, one for each request. A locked device is not written, and
nothing is done for no requests. -/
def put (dr : Driver δ) (d : Device) (requests : List ResourceRequest) (values : List Value) :
    Activity Event δ (Except CommandError Unit) := do
  if requests.length ≠ values.length then
    return .error (.lengthMismatch requests.length values.length)
  else if !d.admin.isEnabled then return .error (.deviceLocked d.name)
  else if requests.isEmpty then return .ok ()
  else
    Activity.emit (.line .debug s!"put {Numeral.natText requests.length} resources to {d.name}")
    match ← dr.callPut (targetOf d) requests values with
    | .error e =>
      Activity.emit (.line .error (failureText dr.name "put" d.name e))
      return .error (.driver e)
    | .ok () => return .ok ()

/-! ### Commands -/

/-- The readings of resources, given their values. -/
def readingsOf (rs : List Resource) (vs : List Value) : List Reading :=
  (rs.zip vs).map fun p => ⟨p.1.name, p.2⟩

/-- Read a command of a device. -/
def read (dr : Driver δ) (d : Device) (command : String) :
    Activity Event δ (Except CommandError (List Reading)) :=
  match resolve d command .read with
  | .error e => return .error e
  | .ok rs => do
    match ← get dr d (rs.map requestOf) with
    | .error e => return .error e
    | .ok vs => return .ok (readingsOf rs vs)

/-- The value for a resource, from the texts that a caller gives. -/
def valueFor (texts : Table String) (r : Resource) : Except CommandError Value :=
  match texts.get? r.name with
  | none => .error (.invalidValue r.name "missing value")
  | some raw =>
    match Value.parse r.valueType raw with
    | .ok v => .ok v
    | .error e => .error (.invalidValue r.name e.message)

/-- The values for resources, up to the first one that is missing or unreadable. -/
def valuesFor (texts : Table String) : List Resource → Except CommandError (List Value)
  | [] => .ok []
  | r :: rs =>
    match valueFor texts r with
    | .error e => .error e
    | .ok v => (valuesFor texts rs).map (v :: ·)

/-- Write a command of a device; every resource of the command needs a text. -/
def write (dr : Driver δ) (d : Device) (command : String) (texts : Table String) :
    Activity Event δ (Except CommandError Unit) :=
  match resolve d command .write with
  | .error e => return .error e
  | .ok rs =>
    match valuesFor texts rs with
    | .error e => return .error e
    | .ok vs => put dr d (rs.map requestOf) vs

end Command

end DeviceHost
