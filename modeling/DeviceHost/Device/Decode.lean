import DeviceHost.Device.Buffered
import DeviceHost.Device.Encode
import DeviceHost.Device.Schema
import DeviceHost.Text.Utf8

/-!
# Devices from JSON documents

The schemas of the records, and the readers of the three kinds of answers of the authority: a
device, a profile, and a list of devices. A device or a profile is read straight from the document,
with the first problem told. The entries of a list are buffered, and those that are no devices are
passed over.
-/

namespace DeviceHost

open Json

/-! ### Plain values -/

/-- A text. -/
def readText : Node → Except Problem String
  | .string (some s) => .ok s
  | .string none => .error .malformed
  | n => .error (.wrongKind n "a string")

/-- A truth value. -/
def readBool : Node → Except Problem Bool
  | .bool b => .ok b
  | n => .error (.wrongKind n "a boolean")

/-- The values of items, in order. -/
def readItems {α : Type} (item : Node → Except Problem α) : List Node → Except Problem (List α)
  | [] => .ok []
  | n :: r =>
    match item n with
    | .ok a => (readItems item r).map (a :: ·)
    | .error e => .error e

/-- A list of values. -/
def readList {α : Type} (item : Node → Except Problem α) : Node → Except Problem (List α)
  | .array items => readItems item items
  | n => .error (.wrongKind n "a sequence")

/-- Members whose values are texts, in order. -/
def readTextMembers : List (Option String × Node) → Except Problem (List (String × String))
  | [] => .ok []
  | (none, _) :: _ => .error .malformed
  | (some k, n) :: r =>
    match readText n with
    | .ok v => (readTextMembers r).map ((k, v) :: ·)
    | .error e => .error e

/-- An object of texts; of members with the same name the last one counts. -/
def readTable : Node → Except Problem (Table String)
  | .object members => (readTextMembers members).map .ofList
  | n => .error (.wrongKind n "a map")

/-- The value that a word stands for. -/
def readWord {α : Type} (words : List (String × α)) (s : String) : Except Problem α :=
  match words.find? fun w => w.1 == s with
  | some w => .ok w.2
  | none => .error (.unknownVariant s (words.map Prod.fst))

/-- One of several words, given as a text or as an object of one member that is null. -/
def readVariant {α : Type} (words : List (String × α)) : Node → Except Problem α
  | .string (some s) => readWord words s
  | .string none => .error .malformed
  | .object ((some k, n) :: r) =>
    match readWord words k with
    | .error e => .error e
    | .ok a =>
      match n with
      | .null => if r.isEmpty then .ok a else .error .expectedWord
      | n => .error (.wrongKind n "unit")
  | .object ((none, _) :: _) => .error .malformed
  | _ => .error .expectedWord

/-- A value type. -/
def readValueType (n : Node) : Except Problem ValueType :=
  match readText n with
  | .error e => .error e
  | .ok s =>
    match ValueType.ofName? s with
    | some t => .ok t
    | none => .error (.unknownValueType s)

/-! ### Resources -/

/-- The words for the ways of access. -/
def AccessMode.words : List (String × AccessMode) :=
  [("R", readOnly), ("W", writeOnly), ("RW", readWrite)]

/-- The fields of a resource. -/
inductive ResourceField
  | name
  | description
  | attributes
  | valueType
  | readWrite
  deriving DecidableEq

/-- The schema of resources. -/
def Resource.schema : Schema Resource where
  title := "DeviceResource"
  Field := ResourceField
  decEq := inferInstance
  fields := [.name, .description, .attributes, .valueType, .readWrite]
  mem_fields f := by cases f <;> simp
  name
    | .name => "name"
    | .description => "description"
    | .attributes => "attributes"
    | .valueType => "valueType"
    | .readWrite => "readWrite"
  otherName? _ := none
  Content
    | .name => String
    | .description => String
    | .attributes => Table String
    | .valueType => ValueType
    | .readWrite => AccessMode
  readField
    | .name => readText
    | .description => readText
    | .attributes => readTable
    | .valueType => readValueType
    | .readWrite => readVariant AccessMode.words
  bufferedField?
    | .name => Json.asText?
    | .description => Json.asText?
    | .attributes => Json.asTable?
    | .valueType => Json.asValueType?
    | .readWrite => Json.asVariant? AccessMode.words
  default?
    | .name => none
    | .description => some ""
    | .attributes => some (Table.empty : Table String)
    | .valueType => none
    | .readWrite => some AccessMode.readWrite
  make v := ⟨v .name, v .description, v .attributes, v .valueType, v .readWrite⟩

/-! ### Commands -/

/-- The fields of a command. -/
inductive CommandField
  | name
  | get
  | set
  deriving DecidableEq

/-- The schema of commands. -/
def ProfileCommand.schema : Schema ProfileCommand where
  title := "ProfileCommand"
  Field := CommandField
  decEq := inferInstance
  fields := [.name, .get, .set]
  mem_fields f := by cases f <;> simp
  name
    | .name => "name"
    | .get => "get"
    | .set => "set"
  otherName? _ := none
  Content
    | .name => String
    | .get => List String
    | .set => List String
  readField
    | .name => readText
    | .get => readList readText
    | .set => readList readText
  bufferedField?
    | .name => Json.asText?
    | .get => Json.asList? Json.asText?
    | .set => Json.asList? Json.asText?
  default?
    | .name => none
    | .get => some ([] : List String)
    | .set => some ([] : List String)
  make v := ⟨v .name, v .get, v .set⟩

/-! ### Profiles -/

/-- The fields of a profile. -/
inductive ProfileField
  | name
  | resources
  | commands
  deriving DecidableEq

/-- The schema of profiles. -/
def Profile.schema : Schema Profile where
  title := "DeviceProfile"
  Field := ProfileField
  decEq := inferInstance
  fields := [.name, .resources, .commands]
  mem_fields f := by cases f <;> simp
  name
    | .name => "name"
    | .resources => "deviceResources"
    | .commands => "deviceCommands"
  otherName? _ := none
  Content
    | .name => String
    | .resources => List Resource
    | .commands => List ProfileCommand
  readField
    | .name => readText
    | .resources => readList Resource.schema.read
    | .commands => readList ProfileCommand.schema.read
  bufferedField?
    | .name => Json.asText?
    | .resources => Json.asList? Resource.schema.ofBuffered?
    | .commands => Json.asList? ProfileCommand.schema.ofBuffered?
  default?
    | .name => some ""
    | .resources => some ([] : List Resource)
    | .commands => some ([] : List ProfileCommand)
  make v := ⟨v .name, v .resources, v .commands⟩

/-! ### Automatic readings -/

/-- The fields of an automatic reading. -/
inductive AutoEventField
  | resource
  | frequency
  | onChange
  deriving DecidableEq

/-- The schema of automatic readings. -/
def AutoEvent.schema : Schema AutoEvent where
  title := "AutoEvent"
  Field := AutoEventField
  decEq := inferInstance
  fields := [.resource, .frequency, .onChange]
  mem_fields f := by cases f <;> simp
  name
    | .resource => "resource"
    | .frequency => "frequency"
    | .onChange => "onChange"
  otherName? _ := none
  Content
    | .resource => String
    | .frequency => String
    | .onChange => Bool
  readField
    | .resource => readText
    | .frequency => readText
    | .onChange => readBool
  bufferedField?
    | .resource => Json.asText?
    | .frequency => Json.asText?
    | .onChange => Json.asBool?
  default?
    | .resource => none
    | .frequency => some ""
    | .onChange => some false
  make v := ⟨v .resource, v .frequency, v .onChange⟩

/-! ### Owners -/

/-- The fields of a reference to a service. -/
inductive OwnerField
  | name
  deriving DecidableEq

/-- The schema of references to services, of which only the name is kept. -/
def ownerSchema : Schema String where
  title := "ServiceRef"
  Field := OwnerField
  decEq := inferInstance
  fields := [.name]
  mem_fields f := by cases f; simp
  name _ := "name"
  otherName? _ := none
  Content _ := String
  readField _ := readText
  bufferedField? _ := Json.asText?
  default? _ := none
  make v := v .name

/-! ### Protocols -/

/-- Members that are protocols, in order; a name may occur twice. -/
def readProtocolMembers : List (Option String × Node) → Except Problem (List Protocol)
  | [] => .ok []
  | (none, _) :: _ => .error .malformed
  | (some k, n) :: r =>
    match readTable n with
    | .ok t => (readProtocolMembers r).map (⟨k, t⟩ :: ·)
    | .error e => .error e

/-- The protocols of a device: an object, or null if there are none. -/
def readProtocols : Node → Except Problem (List Protocol)
  | .null => .ok []
  | .object members => readProtocolMembers members
  | n => .error (.wrongKind n "an object of protocol name to property object")

/-! ### Devices -/

/-- The words for the administrative states. -/
def AdminState.words : List (String × AdminState) :=
  [("UNLOCKED", unlocked), ("LOCKED", locked)]

/-- The words for the operating states. -/
def OperatingState.words : List (String × OperatingState) :=
  [("ENABLED", enabled), ("DISABLED", disabled)]

/-- The fields of a device. -/
inductive DeviceField
  | id
  | name
  | description
  | labels
  | adminState
  | operatingState
  | service
  | protocols
  | profile
  | autoEvents
  deriving DecidableEq

/-- The schema of devices. -/
def Device.schema : Schema Device where
  title := "Device"
  Field := DeviceField
  decEq := inferInstance
  fields := [.id, .name, .description, .labels, .adminState, .operatingState, .service, .protocols,
    .profile, .autoEvents]
  mem_fields f := by cases f <;> simp
  name
    | .id => "id"
    | .name => "name"
    | .description => "description"
    | .labels => "labels"
    | .adminState => "adminState"
    | .operatingState => "operatingState"
    | .service => "service"
    | .protocols => "protocols"
    | .profile => "profile"
    | .autoEvents => "autoEvents"
  otherName?
    | .autoEvents => some "autoevents"
    | _ => none
  Content
    | .id => String
    | .name => String
    | .description => String
    | .labels => List String
    | .adminState => AdminState
    | .operatingState => OperatingState
    | .service => String
    | .protocols => List Protocol
    | .profile => Profile
    | .autoEvents => List AutoEvent
  readField
    | .id => readText
    | .name => readText
    | .description => readText
    | .labels => readList readText
    | .adminState => readVariant AdminState.words
    | .operatingState => readVariant OperatingState.words
    | .service => ownerSchema.read
    | .protocols => readProtocols
    | .profile => Profile.schema.read
    | .autoEvents => readList AutoEvent.schema.read
  bufferedField?
    | .id => Json.asText?
    | .name => Json.asText?
    | .description => Json.asText?
    | .labels => Json.asList? Json.asText?
    | .adminState => Json.asVariant? AdminState.words
    | .operatingState => Json.asVariant? OperatingState.words
    | .service => ownerSchema.ofBuffered?
    | .protocols => Json.asProtocols?
    | .profile => Profile.schema.ofBuffered?
    | .autoEvents => Json.asList? AutoEvent.schema.ofBuffered?
  default?
    | .id => none
    | .name => none
    | .description => some ""
    | .labels => some ([] : List String)
    | .adminState => some AdminState.unlocked
    | .operatingState => some OperatingState.enabled
    | .service => some ""
    | .protocols => some ([] : List Protocol)
    | .profile => some Profile.absent
    | .autoEvents => some ([] : List AutoEvent)
  make v := ⟨v .id, v .name, v .description, v .labels, v .adminState, v .operatingState,
    v .service, v .protocols, v .profile, v .autoEvents⟩

/-! ### Answers of the authority -/

/-- Read a record from the octets of a document. A document that is no JSON throughout is reported
as such, unless its faults lie only in members that are skipped and nothing else is wrong. -/
def Schema.decode {α : Type} (s : Schema α) (body : List UInt8) : Except Problem α :=
  match Node.read? (Utf8.decode body) with
  | none => .error .malformed
  | some n =>
    match s.read n with
    | .ok a => .ok a
    | .error e => if n.json?.isSome then .error e else .error .malformed

/-- Read a device. -/
def Device.decode (body : List UInt8) : Except Problem Device := Device.schema.decode body

/-- Read a profile. -/
def Profile.decode (body : List UInt8) : Except Problem Profile := Profile.schema.decode body

/-- The entries of a list of devices: a device, or nothing for an entry that is none. Each entry is
put into the buffer, which takes any generic value, and the device is looked for there. -/
def Device.decodeEntries (body : List UInt8) : Except Problem (List (Option Device)) :=
  match Node.read? (Utf8.decode body) with
  | none => .error .malformed
  | some n =>
    match n.json? with
    | none => .error .malformed
    | some .null => .ok []
    | some (.array buffered) => .ok (buffered.map Device.schema.ofBuffered?)
    | some _ => .error (.wrongKind n "a sequence")

/-- The positions of the entries that are no devices. -/
def skippedPositions (entries : List (Option Device)) : List Nat :=
  entries.zipIdx.filterMap fun e => if e.1.isNone then some e.2 else none

/-- Read a device from a text. -/
def Device.ofText (s : String) : Except Problem Device := Device.decode (Utf8.ofString s)

/-- Read a profile from a text. -/
def Profile.ofText (s : String) : Except Problem Profile := Profile.decode (Utf8.ofString s)

end DeviceHost
