import DeviceHost.Activity
import DeviceHost.Event

/-!
# Drivers

A driver speaks the protocol of its devices. The service tells it only what it needs to reach a
device: the device's name and protocols. Reads and writes come in batches, and a driver answers a
batch as a whole: one value for each request, in their order, or a failure.

Every call is left in the trace before the driver acts on it.
-/

namespace DeviceHost

/-- Why a driver fails. -/
inductive DriverError
  /-- its settings or the attributes of a resource are wrong -/
  | configuration (text : String)
  /-- there is no connection -/
  | connection (text : String)
  /-- the exchange went wrong -/
  | communication (text : String)
  /-- it does not handle the resource -/
  | unsupportedResource (name : String)
  /-- it took too long -/
  | timeout
  /-- it has been stopped -/
  | stopped
  /-- anything else -/
  | other (text : String)
  deriving Repr, DecidableEq

/-- The wording of a failure. -/
def DriverError.message : DriverError → String
  | configuration t => s!"Configuration error: {t}"
  | connection t => s!"Connection error: {t}"
  | communication t => s!"Communication error: {t}"
  | unsupportedResource n => s!"Unsupported resource: {n}"
  | timeout => "Timeout"
  | stopped => "Driver stopped"
  | other t => s!"Driver error: {t}"

/-- What a driver does when it is called, with a state of its own of type `δ`; it may write to the
log. -/
abbrev DriverAct (δ β : Type) : Type := Activity LogLine δ (Except DriverError β)

/-- A driver, whose own state is of type `δ`. -/
structure Driver (δ : Type) where
  /-- its name, as the log gives it -/
  name : String
  /-- prepare for a service, with the settings of the driver -/
  init : String → Table String → DriverAct δ Unit
  /-- look for new devices -/
  discover : DriverAct δ Unit
  /-- read resources of a device -/
  get : Target → List ResourceRequest → DriverAct δ (List Value)
  /-- write resources of a device -/
  put : Target → List ResourceRequest → List Value → DriverAct δ Unit
  /-- give up the connection to a device -/
  disconnect : List Protocol → DriverAct δ Unit
  /-- shut down, without waiting if forced -/
  stop : Bool → DriverAct δ Unit
  /-- whether it may produce values of a type -/
  supports : δ → ValueType → Bool

/-- What a driver does that has nothing to do. -/
def DriverAct.idle {δ : Type} : DriverAct δ Unit := Activity.pure (.ok ())

namespace Driver

variable {δ : Type}

/-- Call a driver: the call, then what it writes to the log. -/
def traced {β : Type} (c : DriverCall) (m : DriverAct δ β) :
    Activity Event δ (Except DriverError β) := do
  Activity.emit (.called c)
  m.relabel .logged

/-- Prepare the driver. -/
def callInit (d : Driver δ) (service : String) (settings : Table String) :
    Activity Event δ (Except DriverError Unit) :=
  traced (.init service settings) (d.init service settings)

/-- Read resources. -/
def callGet (d : Driver δ) (t : Target) (rs : List ResourceRequest) :
    Activity Event δ (Except DriverError (List Value)) :=
  traced (.get t rs) (d.get t rs)

/-- Write resources. -/
def callPut (d : Driver δ) (t : Target) (rs : List ResourceRequest) (vs : List Value) :
    Activity Event δ (Except DriverError Unit) :=
  traced (.put t rs vs) (d.put t rs vs)

/-- Give up a connection. -/
def callDisconnect (d : Driver δ) (ps : List Protocol) :
    Activity Event δ (Except DriverError Unit) :=
  traced (.disconnect ps) (d.disconnect ps)

/-- Shut the driver down. -/
def callStop (d : Driver δ) (force : Bool) : Activity Event δ (Except DriverError Unit) :=
  traced (.stop force) (d.stop force)

end Driver

end DeviceHost
