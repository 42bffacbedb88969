import DeviceHost.Driver.Basic
import DeviceHost.Listener
import DeviceHost.Value.Text

/-!
# The template driver

A starting point for drivers: it writes every call to the log, with the protocols and attributes
that it was given, and answers every request with the same text. It is also a listener, which writes
to the log what it is told.
-/

namespace DeviceHost.Template

/-- A line of the log for developers. -/
def note (text : String) : LogLine := ⟨.debug, text⟩

/-- The lines about protocols and their properties. -/
def protocolLines (ps : List Protocol) : List LogLine :=
  ps.flatMap fun p =>
    note s!" [{p.name}] protocol:" :: p.properties.toList.map fun e => note s!"    {e.1} = {e.2}"

/-- The lines about the attributes of a request. -/
def attributeLines (r : ResourceRequest) : List LogLine :=
  r.attributes.toList.map fun e => note s!"    {e.1} = {e.2}"

/-- The lines about preparing the driver. -/
def initLines (settings : Table String) : List LogLine :=
  note "Init" :: settings.toList.map fun e => note s!"  config {e.1} = {e.2}"

/-- The lines about reading resources. -/
def getLines (t : Target) (requests : List ResourceRequest) : List LogLine :=
  note s!"GET on device {t.name}:" :: protocolLines t.protocols ++
    requests.zipIdx.flatMap fun e =>
      note s!"  Requested reading {Numeral.natText e.2} ({e.1.resource}):" :: attributeLines e.1

/-- The lines about writing resources. -/
def putLines (t : Target) (requests : List ResourceRequest) (values : List Value) : List LogLine :=
  note s!"PUT on device {t.name}:" :: protocolLines t.protocols ++
    (requests.zip values).zipIdx.flatMap fun e =>
      note s!"  Requested device write {Numeral.natText e.2} ({e.1.1.resource}):" ::
        attributeLines e.1.1 ++ [note s!"  Value: {e.1.2.text} ({e.1.2.type.name})"]

/-- What every request is answered with. -/
def answer : Value := .string "Template result"

/-- Write lines to the log and answer. -/
def noting {β : Type} (lines : List LogLine) (b : β) : DriverAct Unit β :=
  fun s => ⟨.ok b, s, lines⟩

/-- The driver; it has no state. -/
def driver : Driver Unit where
  name := "template"
  init _ settings := noting (initLines settings) ()
  discover := noting [note "Discovery requested"] ()
  get t requests := noting (getLines t requests) (requests.map fun _ => answer)
  put t requests values := noting (putLines t requests values) ()
  disconnect ps := noting (note "Disconnect:" :: protocolLines ps) ()
  stop force := noting [note s!"Stop (force: {Value.boolText force})"] ()
  supports _ t := t == .string

/-- What the listener writes to the log. -/
def listenerLines : ListenerCall → List LogLine
  | .added t admin => note s!"Device {t.name} added ({admin.name})" :: protocolLines t.protocols
  | .updated t admin => note s!"Device {t.name} updated ({admin.name})" :: protocolLines t.protocols
  | .removed t => note s!"Device {t.name} removed" :: protocolLines t.protocols

/-- The listener. -/
def listener : Listener := ⟨"template", listenerLines⟩

end DeviceHost.Template
