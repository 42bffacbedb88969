import DeviceHost.Command
import DeviceHost.Config.Basic
import DeviceHost.Profile.Folder
import DeviceHost.Reconcile

/-!
# The service

The service hosts one driver and keeps a copy of the devices that the metadata authority assigns
to it. It is started and stopped; while it runs, it takes notifications of the authority and
commands of its callers.

A start prepares the driver, hands over the profiles of the profile folder, and loads the devices;
the listener is not told of these. If anything goes wrong after the driver is prepared, the driver
is stopped again. A start has two halves, `begin` and `complete`, because another start may come
between them; only one of the two then succeeds.
-/

namespace DeviceHost

/-- A service: its configuration, and who it works with. -/
structure Service (δ α : Type) where
  /-- the configuration -/
  config : Config
  /-- the driver -/
  driver : Driver δ
  /-- the authority -/
  authority : Authority α
  /-- the folder of profiles, as the next start finds it; there is none if the configuration names
  none -/
  folder : Option Folder

/-- Why the service does not do what it is asked to do. -/
inductive ServiceError
  /-- the driver could not be prepared -/
  | driverInit (e : DriverError)
  /-- the devices could not be loaded -/
  | initialSync (e : AuthorityError)
  /-- the profiles could not be handed over -/
  | profiles (e : FolderError)
  /-- it runs already -/
  | alreadyStarted
  /-- it does not run -/
  | notRunning
  /-- a search for devices is under way -/
  | discoveryInProgress
  /-- the listener is not taken -/
  | hooks (e : RegistryError)
  /-- the command is not carried out -/
  | command (e : CommandError)

/-- The wording of an error. -/
def ServiceError.message : ServiceError → String
  | driverInit e => s!"Driver initialization failed: {e.message}"
  | initialSync e => s!"Initial device sync failed: {e.message}"
  | profiles e => s!"Device profile upload failed: {e.message}"
  | alreadyStarted => "Service already started"
  | notRunning => "Service is not running"
  | discoveryInProgress => "Discovery already in progress"
  | hooks e => e.message
  | command e => e.message

/-- How a caller names a device. -/
inductive DeviceKey
  | id (id : String)
  | name (name : String)
  deriving Repr, DecidableEq

/-- A key as refusals show it. -/
def DeviceKey.text : DeviceKey → String
  | id i => i
  | name n => s!"name:{n}"

namespace Service

/-- What a service holds while it works. -/
structure State (δ α : Type) where
  /-- its devices -/
  store : Store
  /-- the listener -/
  listeners : Registry
  /-- the profiles it has met -/
  cache : ProfileCache
  /-- whether it runs -/
  running : Bool
  /-- whether a search for devices is under way -/
  discovering : Bool
  /-- the state of the driver -/
  driver : δ
  /-- the state of the authority -/
  authority : α

variable {δ α : Type}

/-- A new service. -/
def State.initial (driver : δ) (authority : α) : State δ α :=
  ⟨.empty, .empty, .empty, false, false, driver, authority⟩

/-- The driver's part. -/
def driverPart : Part (State δ α) δ := ⟨State.driver, fun d s => { s with driver := d }⟩

/-- The authority's part. -/
def authorityPart : Part (State δ α) α := ⟨State.authority, fun a s => { s with authority := a }⟩

/-- The part of the profile cache. -/
def profilesPart : Part (State δ α) (Profiles α) :=
  ⟨fun s => ⟨s.cache, s.authority⟩, fun p s =>
    { s with cache := p.cache, authority := p.authority }⟩

/-- The part that reconciliation works on. -/
def sitePart : Part (State δ α) (Site δ α) :=
  ⟨fun s => ⟨s.store, s.listeners, s.driver, s.authority⟩, fun p s =>
    { s with
      store := p.store, listeners := p.listeners, driver := p.driver, authority := p.authority }⟩

/-- What a service does. -/
abbrev Act (δ α β : Type) : Type := Activity Event (State δ α) β

/-- A line of the log. -/
def log (level : Level) (text : String) : Act δ α Unit := Activity.emit (.line level text)

/-- The name of the service. -/
def name (s : Service δ α) : String := s.config.service.name

/-- Who takes part in reconciliation. -/
def parties (s : Service δ α) : Parties δ α := ⟨s.name, s.driver, s.authority⟩

/-- The service when it finds this in the folder of profiles that its configuration names. Each
start looks there anew, and without such a name it does not look. -/
def finding (s : Service δ α) (content : FolderContent) : Service δ α :=
  { s with folder := s.config.service.profilesDir.map fun path => ⟨path, content⟩ }

/-! ### Listeners -/

/-- Take a listener, unless the service has started before. -/
def register (l : Listener) : Act δ α (Except ServiceError Unit) := do
  let st ← Activity.state
  match st.listeners.register l with
  | .ok r =>
    Activity.modify fun st => { st with listeners := r }
    return .ok ()
  | .error e =>
    Activity.emit (.logged Registry.refusal)
    return .error (.hooks e)

/-! ### Start and stop -/

/-- The first half of a start: prepare the driver, unless the service runs. -/
def begin (s : Service δ α) : Act δ α (Except ServiceError Unit) := do
  let st ← Activity.state
  if st.running then return .error .alreadyStarted
  else
    log .info s!"Starting device service '{s.name}' with driver {s.driver.name}"
    match ← (s.driver.callInit s.name s.config.driver).on driverPart with
    | .error e => return .error (.driverInit e)
    | .ok () => return .ok ()

/-- Hand over the profiles of the folder, if there is one. -/
def uploadProfiles (s : Service δ α) : Act δ α (Except ServiceError Unit) :=
  match s.folder with
  | none => return .ok ()
  | some f => do
    match ← (Profiles.uploadFolder s.authority f).on profilesPart with
    | .error e => return .error (.profiles e)
    | .ok n =>
      log .info s!"Uploaded {Numeral.natText n} device profiles"
      return .ok ()

/-- What is written to the log about a device of another owner. -/
def foreign (d : Device) : Event :=
  .line .warn s!"Metadata listed device {d.id} owned by '{d.service}', skipping"

/-- Load the devices that belong to the service, and remember their profiles. -/
def load (s : Service δ α) (listed : List Device) : Act δ α Nat := do
  let owned := listed.filter fun d => d.isOwnedBy s.name
  Activity.emitAll ((listed.filter fun d => !d.isOwnedBy s.name).map foreign)
  Activity.emitAll ((Store.moves .empty owned).map fun m => Reconcile.moved m.1 m.2.1 m.2.2)
  Activity.modify fun st =>
    { st with
      store := .ofList owned, cache := owned.foldl (fun c d => c.remember d.profile) st.cache }
  return (Store.ofList owned).size

/-- Hand over the profiles and load the devices; say how many there are. -/
def sync (s : Service δ α) : Act δ α (Except ServiceError Nat) := do
  match ← s.uploadProfiles with
  | .error e => return .error e
  | .ok () =>
    match ← (s.authority.fetchDevices s.name).on authorityPart with
    | .error e => return .error (.initialSync e)
    | .ok listed =>
      let n ← s.load listed
      return .ok n

/-- Stop the driver after a start that went wrong. -/
def rollBack (s : Service δ α) : Act δ α Unit := do
  match ← (s.driver.callStop true).on driverPart with
  | .ok () => return ()
  | .error e => log .warn s!"Driver {s.driver.name} failed to stop: {e.message}"

/-- The second half of a start: load the devices and run, unless the service runs by now. -/
def complete (s : Service δ α) : Act δ α (Except ServiceError Unit) := do
  match ← s.sync with
  | .error e =>
    s.rollBack
    return .error e
  | .ok n =>
    let st ← Activity.state
    Activity.modify fun st => { st with listeners := st.listeners.close, running := true }
    if st.running then return .error .alreadyStarted
    else
      log .info s!"Device service '{s.name}' started with {Numeral.natText n} devices"
      return .ok ()

/-- Start the service. -/
def start (s : Service δ α) : Act δ α (Except ServiceError Unit) := do
  match ← s.begin with
  | .error e => return .error e
  | .ok () => s.complete

/-- Start the service twice at the same time: both starts prepare the driver before one of them goes
on. -/
def startTwice (s : Service δ α) :
    Act δ α (Except ServiceError Unit × Except ServiceError Unit) := do
  let first ← s.begin
  let second ← s.begin
  let first ← match first with
    | .ok () => s.complete
    | .error e => pure (.error e)
  let second ← match second with
    | .ok () => s.complete
    | .error e => pure (.error e)
  return (first, second)

/-- Stop the service. The driver is told; whatever it answers, no device is kept. -/
def stop (s : Service δ α) (force : Bool) : Act δ α (Except ServiceError Unit) := do
  let st ← Activity.state
  if !st.running then return .error .notRunning
  else
    Activity.modify fun st => { st with running := false }
    log .info s!"Stopping device service '{s.name}' (force: {Value.boolText force})"
    match ← (s.driver.callStop force).on driverPart with
    | .error e => log .error s!"Driver {s.driver.name} failed to stop: {e.message}"
    | .ok () => pure ()
    Activity.modify fun st => { st with store := .empty, cache := .empty }
    return .ok ()

/-! ### Notifications -/

/-- The word for a change in the log. -/
def changeWord : Change → String
  | .upsert => "Upsert"
  | .delete => "Delete"

/-- Remember the profile of a device that has just been stored. -/
def rememberProfile (id : String) (r : Report) : Act δ α Unit :=
  Activity.modify fun st =>
    match r, st.store.get? id with
    | .stored _, some d => { st with cache := st.cache.remember d.profile }
    | _, _ => st

/-- Handle a notification of the authority. -/
def notify (s : Service δ α) (n : Notification) : Act δ α (Except ServiceError Report) := do
  let st ← Activity.state
  if !st.running then return .error .notRunning
  else
    log .debug s!"Lifecycle notification {changeWord n.change} for device {n.id}"
    let r ← (Reconcile.handle s.parties n).on sitePart
    rememberProfile n.id r
    return .ok r

/-! ### Look-ups -/

/-- A profile, fetched from the authority if it has not been met. -/
def profile (s : Service δ α) (name : String) : Act δ α (Except AuthorityError Profile) :=
  (Profiles.get s.authority name).on profilesPart

/-- The device of a key. -/
def device? (st : State δ α) : DeviceKey → Option Device
  | .id i => st.store.get? i
  | .name n => st.store.find? n

/-! ### Commands -/

/-- The device of a key, if the service runs and has it. -/
def commandDevice (st : State δ α) (k : DeviceKey) : Except ServiceError Device :=
  if !st.running then .error .notRunning
  else match device? st k with
    | none => .error (.command (.deviceNotFound k.text))
    | some d => .ok d

/-- Read a command of a device. -/
def read (s : Service δ α) (k : DeviceKey) (command : String) :
    Act δ α (Except ServiceError (Device × List Reading)) := do
  let st ← Activity.state
  match commandDevice st k with
  | .error e => return .error e
  | .ok d =>
    match ← (Command.read s.driver d command).on driverPart with
    | .error e => return .error (.command e)
    | .ok rs => return .ok (d, rs)

/-- Write a command of a device. -/
def write (s : Service δ α) (k : DeviceKey) (command : String) (texts : Table String) :
    Act δ α (Except ServiceError Unit) := do
  let st ← Activity.state
  match commandDevice st k with
  | .error e => return .error e
  | .ok d =>
    match ← (Command.write s.driver d command texts).on driverPart with
    | .error e => return .error (.command e)
    | .ok () => return .ok ()

/-- Read a batch of requests from a device, whether or not the service runs. -/
def getBatch (s : Service δ α) (id : String) (requests : List ResourceRequest) :
    Act δ α (Except CommandError (List Value)) := do
  let st ← Activity.state
  match st.store.get? id with
  | none => return .error (.deviceNotFound id)
  | some d => (Command.get s.driver d requests).on driverPart

/-- Write a batch of values to a device, whether or not the service runs. -/
def putBatch (s : Service δ α) (id : String) (requests : List ResourceRequest)
    (values : List Value) : Act δ α (Except CommandError Unit) := do
  let st ← Activity.state
  match st.store.get? id with
  | none => return .error (.deviceNotFound id)
  | some d => (Command.put s.driver d requests values).on driverPart

/-! ### Search for devices -/

/-- Begin a search for devices, which goes on by itself. There is only one at a time. -/
def beginDiscovery (s : Service δ α) : Act δ α (Except ServiceError Unit) := do
  let st ← Activity.state
  if !st.running then return .error .notRunning
  else if st.discovering then return .error .discoveryInProgress
  else
    Activity.modify fun st => { st with discovering := true }
    log .info s!"Discovery started on driver {s.driver.name}"
    Activity.emit (.called .discover)
    return .ok ()

/-- What the driver does in a search that has begun. How the search ends is settled here, and told
when it is over. -/
def search (s : Service δ α) : Act δ α (Except DriverError Unit) :=
  (s.driver.discover.relabel .logged).on driverPart

/-- The end of a search, with its outcome. Another one may begin after it. -/
def endDiscovery (outcome : Except DriverError Unit) : Act δ α Unit := do
  match outcome with
  | .ok () => log .info "Discovery finished"
  | .error e => log .error s!"Discovery failed: {e.message}"
  Activity.modify fun st => { st with discovering := false }

end Service

end DeviceHost
