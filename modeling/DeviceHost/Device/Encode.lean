import DeviceHost.Device.Basic
import DeviceHost.Json.Text

/-!
# Devices as JSON documents

Every member of a record is written, in the order in which the record declares it. The protocols
become an object whose members stand in the order of the protocols; unordered properties are written
in the order of their names.
-/

namespace DeviceHost

/-- An object of texts. -/
def Table.json (t : Table String) : Json :=
  .object (t.toList.map fun e => (e.1, .string e.2))

/-- The document of a resource. -/
def Resource.json (r : Resource) : Json :=
  .object [("name", .string r.name), ("description", .string r.description),
    ("attributes", r.attributes.json), ("valueType", .string r.valueType.name),
    ("readWrite", .string r.mode.name)]

/-- The document of a command. -/
def ProfileCommand.json (c : ProfileCommand) : Json :=
  .object [("name", .string c.name), ("get", .array (c.get.map .string)),
    ("set", .array (c.set.map .string))]

/-- The document of a profile. -/
def Profile.json (p : Profile) : Json :=
  .object [("name", .string p.name), ("deviceResources", .array (p.resources.map Resource.json)),
    ("deviceCommands", .array (p.commands.map ProfileCommand.json))]

/-- The document of an automatic reading. -/
def AutoEvent.json (e : AutoEvent) : Json :=
  .object [("resource", .string e.resource), ("frequency", .string e.frequency),
    ("onChange", .bool e.onChange)]

/-- The object of a list of protocols. -/
def protocolsJson (ps : List Protocol) : Json :=
  .object (ps.map fun p => (p.name, p.properties.json))

/-- The document of a device. -/
def Device.json (d : Device) : Json :=
  .object [("id", .string d.id), ("name", .string d.name), ("description", .string d.description),
    ("labels", .array (d.labels.map .string)), ("adminState", .string d.admin.name),
    ("operatingState", .string d.operating.name),
    ("service", .object [("name", .string d.service)]), ("protocols", protocolsJson d.protocols),
    ("profile", d.profile.json), ("autoEvents", .array (d.autoEvents.map AutoEvent.json))]

end DeviceHost
