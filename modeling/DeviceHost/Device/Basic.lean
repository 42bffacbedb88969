import DeviceHost.Table
import DeviceHost.Value.Basic

/-!
# Devices

The records that the metadata authority keeps about a device: who owns it, over which protocols it
is reached, and its profile, which lists the resources it offers and the commands that read or write
several resources at once.

The order of the protocols is part of a device, and a protocol name may occur twice; the properties
of a protocol and the attributes of a resource are unordered.
-/

namespace DeviceHost

/-- The administrative state of a device. -/
inductive AdminState
  /-- commands are carried out -/
  | unlocked
  /-- commands are refused -/
  | locked
  deriving Repr, DecidableEq, Inhabited

/-- The operating state last reported to the authority. -/
inductive OperatingState
  | enabled
  | disabled
  deriving Repr, DecidableEq, Inhabited

/-- A protocol that a device is reached over. -/
structure Protocol where
  /-- the name of the protocol -/
  name : String
  /-- how the device is addressed -/
  properties : Table String
  deriving Repr, DecidableEq

/-- Which access a resource allows. -/
inductive AccessMode
  | readOnly
  | writeOnly
  | readWrite
  deriving Repr, DecidableEq, Inhabited

/-- A named data point of a device. -/
structure Resource where
  /-- the name of the resource -/
  name : String
  /-- what it is, in words -/
  description : String
  /-- what the driver needs to know to reach it -/
  attributes : Table String
  /-- the declared type of its values -/
  valueType : ValueType
  /-- which access it allows -/
  mode : AccessMode
  deriving Repr, DecidableEq

/-- A command: resources that are read or written together. -/
structure ProfileCommand where
  /-- the name of the command -/
  name : String
  /-- the resources that it reads, in order -/
  get : List String
  /-- the resources that it writes, in order -/
  set : List String
  deriving Repr, DecidableEq

/-- What a class of devices offers. -/
structure Profile where
  /-- the name of the profile; empty for a device without one -/
  name : String
  /-- the resources -/
  resources : List Resource
  /-- the commands -/
  commands : List ProfileCommand
  deriving Repr, DecidableEq

/-- A reading of one resource that is to be taken by itself, from time to time. -/
structure AutoEvent where
  /-- the resource to be read -/
  resource : String
  /-- how often, such as `10s` -/
  frequency : String
  /-- whether only a changed value is passed on -/
  onChange : Bool
  deriving Repr, DecidableEq

/-- A device. -/
structure Device where
  /-- the identifier given by the authority; it never changes -/
  id : String
  /-- the name -/
  name : String
  /-- what it is, in words -/
  description : String
  /-- labels for searching -/
  labels : List String
  /-- the administrative state -/
  admin : AdminState
  /-- the operating state -/
  operating : OperatingState
  /-- the name of the service that owns it -/
  service : String
  /-- the protocols that it is reached over, in order -/
  protocols : List Protocol
  /-- what it offers -/
  profile : Profile
  /-- its automatic readings -/
  autoEvents : List AutoEvent
  deriving Repr, DecidableEq

/-! ### States and modes -/

/-- The word for an administrative state. -/
def AdminState.name : AdminState → String
  | unlocked => "UNLOCKED"
  | locked => "LOCKED"

/-- Whether commands are carried out. -/
def AdminState.isEnabled : AdminState → Bool
  | unlocked => true
  | locked => false

/-- The word for an operating state. -/
def OperatingState.name : OperatingState → String
  | enabled => "ENABLED"
  | disabled => "DISABLED"

/-- The word for an access mode. -/
def AccessMode.name : AccessMode → String
  | readOnly => "R"
  | writeOnly => "W"
  | readWrite => "RW"

/-- Whether values may be read. -/
def AccessMode.readable : AccessMode → Bool
  | writeOnly => false
  | _ => true

/-- Whether values may be written. -/
def AccessMode.writable : AccessMode → Bool
  | readOnly => false
  | _ => true

/-! ### Making devices -/

/-- A protocol without properties. -/
def Protocol.ofName (name : String) : Protocol := ⟨name, .empty⟩

/-- Give a protocol a property. -/
def Protocol.withProperty (p : Protocol) (key value : String) : Protocol :=
  { p with properties := p.properties.insert key value }

/-- A resource that may be read and written. -/
def Resource.ofName (name : String) (type : ValueType) : Resource :=
  ⟨name, "", .empty, type, .readWrite⟩

/-- Give a resource an attribute. -/
def Resource.withAttribute (r : Resource) (key value : String) : Resource :=
  { r with attributes := r.attributes.insert key value }

/-- Set the access mode of a resource. -/
def Resource.withMode (r : Resource) (m : AccessMode) : Resource :=
  { r with mode := m }

/-- A profile without resources and commands. -/
def Profile.ofName (name : String) : Profile := ⟨name, [], []⟩

/-- The profile of a device that has none. -/
def Profile.absent : Profile := .ofName ""

/-- Add a resource at the end. -/
def Profile.withResource (p : Profile) (r : Resource) : Profile :=
  { p with resources := p.resources ++ [r] }

/-- Add a command at the end. -/
def Profile.withCommand (p : Profile) (c : ProfileCommand) : Profile :=
  { p with commands := p.commands ++ [c] }

/-- An automatic reading that passes every value on. -/
def AutoEvent.ofResource (resource frequency : String) : AutoEvent := ⟨resource, frequency, false⟩

namespace Device

/-- An unlocked, enabled device of a service, with nothing else. -/
def ofName (id name service : String) : Device :=
  ⟨id, name, "", [], .unlocked, .enabled, service, [], .absent, []⟩

/-- Add a protocol at the end. -/
def withProtocol (d : Device) (p : Protocol) : Device :=
  { d with protocols := d.protocols ++ [p] }

/-- Set the administrative state. -/
def withAdmin (d : Device) (s : AdminState) : Device :=
  { d with admin := s }

/-- Set the profile. -/
def withProfile (d : Device) (p : Profile) : Device :=
  { d with profile := p }

/-- Set the description. -/
def withDescription (d : Device) (text : String) : Device :=
  { d with description := text }

/-- Add a label at the end. -/
def withLabel (d : Device) (label : String) : Device :=
  { d with labels := d.labels ++ [label] }

/-- Add an automatic reading at the end. -/
def withAutoEvent (d : Device) (e : AutoEvent) : Device :=
  { d with autoEvents := d.autoEvents ++ [e] }

end Device

/-! ### Questions about devices -/

/-- The value of a property. -/
def Protocol.property? (p : Protocol) (key : String) : Option String :=
  p.properties.get? key

/-- The first resource of a name. -/
def Profile.resource? (p : Profile) (name : String) : Option Resource :=
  p.resources.find? fun r => r.name == name

/-- The first command of a name. -/
def Profile.command? (p : Profile) (name : String) : Option ProfileCommand :=
  p.commands.find? fun c => c.name == name

namespace Device

/-- Whether the device belongs to a service. -/
def isOwnedBy (d : Device) (service : String) : Bool :=
  d.service == service

/-- Whether two devices have the same protocols: names, properties and order. -/
def sameProtocols (a b : Device) : Bool :=
  a.protocols == b.protocols

/-- The first protocol of a name. -/
def protocol? (d : Device) (name : String) : Option Protocol :=
  d.protocols.find? fun p => p.name == name

theorem sameProtocols_iff {a b : Device} :
    a.sameProtocols b = true ↔ a.protocols = b.protocols := by
  simp [sameProtocols]

end Device

end DeviceHost
