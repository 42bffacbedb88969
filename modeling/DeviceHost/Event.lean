import DeviceHost.Device.Basic

/-!
# Events

Everything that a service does to the world around it: requests to the metadata authority, calls of
the driver, calls of the listener, and lines of the log.
-/

namespace DeviceHost

/-! ### The log -/

/-- How much a line of the log matters. -/
inductive Level
  | debug
  | info
  | warn
  | error
  deriving Repr, DecidableEq

/-- The word for a level. -/
def Level.name : Level → String
  | debug => "DEBUG"
  | info => "INFO"
  | warn => "WARN"
  | error => "ERROR"

/-- A line of the log. -/
structure LogLine where
  /-- how much it matters -/
  level : Level
  /-- what it says -/
  text : String
  deriving Repr, DecidableEq

/-! ### The metadata authority -/

/-- A request to the metadata authority. -/
inductive Inquiry
  /-- the definition of a device -/
  | device (id : String)
  /-- the devices of a service -/
  | devicesOf (service : String)
  /-- a profile -/
  | profile (name : String)
  /-- to keep a new profile, given as a YAML document -/
  | upload (yaml : String)
  deriving Repr, DecidableEq

/-! ### The driver -/

/-- What is asked of the driver for one resource. -/
structure ResourceRequest where
  /-- the name of the resource -/
  resource : String
  /-- the attributes that the profile gives it -/
  attributes : Table String
  /-- its declared type, if it was found in a profile -/
  valueType : Option ValueType
  deriving Repr, DecidableEq

/-- A device, as far as a driver is told about it. -/
structure Target where
  /-- the name of the device -/
  name : String
  /-- the protocols that it is reached over -/
  protocols : List Protocol
  deriving Repr, DecidableEq

/-- A call of the driver. -/
inductive DriverCall
  /-- prepare for a service, with the driver's settings -/
  | init (service : String) (settings : Table String)
  /-- look for new devices -/
  | discover
  /-- read resources of a device -/
  | get (target : Target) (requests : List ResourceRequest)
  /-- write resources of a device -/
  | put (target : Target) (requests : List ResourceRequest) (values : List Value)
  /-- give up the connection to a device -/
  | disconnect (protocols : List Protocol)
  /-- shut down -/
  | stop (force : Bool)
  deriving DecidableEq

/-! ### The listener -/

/-- A call of the listener. -/
inductive ListenerCall
  /-- a device has come to the service -/
  | added (target : Target) (admin : AdminState)
  /-- the protocols of a device have changed -/
  | updated (target : Target) (admin : AdminState)
  /-- a device has left the service -/
  | removed (target : Target)
  deriving Repr, DecidableEq

/-! ### All of them -/

/-- Something that a service does. -/
inductive Event
  /-- a line of the log -/
  | logged (line : LogLine)
  /-- a request to the authority -/
  | asked (inquiry : Inquiry)
  /-- a call of the driver -/
  | called (call : DriverCall)
  /-- a call of the listener of a name -/
  | told (listener : String) (call : ListenerCall)
  deriving DecidableEq

/-- A line of the log, as an event. -/
def Event.line (level : Level) (text : String) : Event := .logged ⟨level, text⟩

end DeviceHost
