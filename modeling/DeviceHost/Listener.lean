import DeviceHost.Event

/-!
# Listeners

An application may have one listener told of devices that come to the service, change or leave it.
A later registration replaces an earlier one, until the service has started for the first time;
after that none is taken.
-/

namespace DeviceHost

/-- Someone who is told of the devices of the service. -/
structure Listener where
  /-- the name under which its calls appear in the trace -/
  name : String
  /-- what it writes to the log when it is told something -/
  lines : ListenerCall → List LogLine

/-- A listener that writes nothing to the log. -/
def Listener.ofName (name : String) : Listener := ⟨name, fun _ => []⟩

/-- Why a listener is not taken. -/
inductive RegistryError
  /-- the service has started already -/
  | alreadyStarted
  deriving Repr, DecidableEq

/-- The wording of a refusal. -/
def RegistryError.message : RegistryError → String
  | alreadyStarted => "Lifecycle hooks must be registered before the service starts"

/-- The place of the one listener. -/
structure Registry where
  /-- the listener, if there is one -/
  listener? : Option Listener
  /-- whether no listener is taken any more -/
  closed : Bool

namespace Registry

/-- A registry without a listener. -/
def empty : Registry := ⟨none, false⟩

instance : Inhabited Registry := ⟨empty⟩

/-- Take a listener. -/
def register (r : Registry) (l : Listener) : Except RegistryError Registry :=
  if r.closed then .error .alreadyStarted else .ok { r with listener? := some l }

/-- Take no more listeners. -/
def close (r : Registry) : Registry := { r with closed := true }

/-- What happens when the listener is told something: its call, and what it writes to the log. -/
def tell (r : Registry) (c : ListenerCall) : List Event :=
  match r.listener? with
  | none => []
  | some l => .told l.name c :: (l.lines c).map .logged

/-- What is written to the log when a listener is refused. -/
def refusal : LogLine :=
  ⟨.warn, "Lifecycle hooks can only be registered before the service starts"⟩

end Registry

end DeviceHost
