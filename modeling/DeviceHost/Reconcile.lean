import DeviceHost.Authority
import DeviceHost.Driver.Basic
import DeviceHost.Listener
import DeviceHost.Store

/-!
# Reconciliation

The authority notifies the service that a device has been put in or changed, or deleted. The
notification names only the device, so the service fetches its definition and decides what has
happened: the device has come to the service, has changed, has moved to another service, or does not
concern it. The store, the listener and the driver are told accordingly.
-/

namespace DeviceHost

/-- What has happened to a device at the authority. -/
inductive Change
  /-- it was put in or changed -/
  | upsert
  /-- it was deleted -/
  | delete
  deriving Repr, DecidableEq

/-- A notification of the authority. -/
structure Notification where
  /-- what has happened -/
  change : Change
  /-- the identifier of the device -/
  id : String
  deriving Repr, DecidableEq

/-- What a notification has led to. -/
inductive Report
  /-- the device belongs to the service and is in the store -/
  | stored (outcome : PutOutcome)
  /-- the device was deleted and is no longer in the store -/
  | removed
  /-- the device was deleted, but was not in the store -/
  | notPresent
  /-- the device belongs to another service; whether it was in the store -/
  | ownershipLost (owner : String) (wasPresent : Bool)
  /-- nothing could be done -/
  | dropped (reason : String)
  deriving Repr, DecidableEq

/-- What reconciliation works on. -/
structure Site (δ α : Type) where
  /-- the devices of the service -/
  store : Store
  /-- the listener -/
  listeners : Registry
  /-- the state of the driver -/
  driver : δ
  /-- the state of the authority -/
  authority : α

/-- Who takes part in reconciliation. -/
structure Parties (δ α : Type) where
  /-- the name of the service -/
  service : String
  /-- the driver -/
  driver : Driver δ
  /-- the authority -/
  authority : Authority α

namespace Reconcile

variable {δ α : Type}

/-- The driver's part. -/
def driverPart : Part (Site δ α) δ := ⟨Site.driver, fun d s => { s with driver := d }⟩

/-- The authority's part. -/
def authorityPart : Part (Site δ α) α := ⟨Site.authority, fun a s => { s with authority := a }⟩

/-- Tell the listener. -/
def tell (c : ListenerCall) : Activity Event (Site δ α) Unit := do
  let s ← Activity.state
  Activity.emitAll (s.listeners.tell c)

/-- A line of the log. -/
def log (level : Level) (text : String) : Activity Event (Site δ α) Unit :=
  Activity.emit (.line level text)

/-- What is written to the log when a name moves from one device to another. -/
def moved (name before now : String) : Event :=
  .line .warn s!"Device name '{name}' moved from id {before} to id {now}"

/-- Put a device into the store. -/
def put (d : Device) : Activity Event (Site δ α) PutOutcome := do
  let s ← Activity.state
  Activity.emitAll ((s.store.displaced? d).toList.map fun before => moved d.name before d.id)
  Activity.modify fun s => { s with store := (s.store.put d).2 }
  return (s.store.put d).1

/-- Take a device out of the store. -/
def remove (id : String) : Activity Event (Site δ α) (Option Device) := do
  let s ← Activity.state
  Activity.modify fun s => { s with store := (s.store.remove id).2 }
  return (s.store.remove id).1

/-- Have the driver give up its connection; a failure is only written to the log. -/
def disconnect (p : Parties δ α) (t : Target) : Activity Event (Site δ α) Unit := do
  match ← (p.driver.callDisconnect t.protocols).on driverPart with
  | .ok () => return ()
  | .error e =>
    log .warn s!"Driver {p.driver.name} failed to disconnect device {t.name}: {e.message}"

/-- What the listener and the driver are told of a device. -/
def targetOf (d : Device) : Target := ⟨d.name, d.protocols⟩

/-- A device was deleted. -/
def delete (p : Parties δ α) (id : String) : Activity Event (Site δ α) Report := do
  match ← remove id with
  | none =>
    log .debug s!"Delete for unknown device {id}, ignoring"
    return .notPresent
  | some d =>
    log .info s!"Device {d.name} ({id}) deleted"
    tell (.removed (targetOf d))
    disconnect p (targetOf d)
    return .removed

/-- A device belongs to another service. -/
def release (p : Parties δ α) (d : Device) : Activity Event (Site δ α) Report := do
  match ← remove d.id with
  | none =>
    log .debug s!"Device {d.id} belongs to service '{d.service}', ignoring"
    return .ownershipLost d.service false
  | some _ =>
    log .info s!"Device {d.name} ({d.id}) moved to service '{d.service}'"
    tell (.removed (targetOf d))
    disconnect p (targetOf d)
    return .ownershipLost d.service true

/-- A device belongs to the service. -/
def adopt (d : Device) : Activity Event (Site δ α) Report := do
  let outcome ← put d
  match outcome with
  | .created =>
    log .info s!"Device {d.name} ({d.id}) added"
    tell (.added (targetOf d) d.admin)
  | .updatedLocally =>
    log .info s!"Device {d.name} ({d.id}) updated"
    tell (.updated (targetOf d) d.admin)
  | .updatedRemoteOnly => log .debug s!"Device {d.name} ({d.id}) metadata refreshed"
  return .stored outcome

/-- A device was put in or changed. -/
def upsert (p : Parties δ α) (id : String) : Activity Event (Site δ α) Report := do
  match ← (p.authority.fetchDevice id).on authorityPart with
  | .error e =>
    log .warn s!"Dropping update for device {id}: {e.message}"
    return .dropped e.message
  | .ok d =>
    if d.id ≠ id then
      log .warn s!"Metadata returned device {d.id} for requested id {id}, dropping"
      return .dropped s!"id mismatch: {d.id}"
    else if d.isOwnedBy p.service then adopt d
    else release p d

/-- Handle a notification. -/
def handle (p : Parties δ α) (n : Notification) : Activity Event (Site δ α) Report :=
  match n.change with
  | .delete => delete p n.id
  | .upsert => upsert p n.id

end Reconcile

end DeviceHost
