import DeviceHost.Config.Basic
import DeviceHost.Text.Utf8
import DeviceHost.Toml.Document

/-!
# The text of a configuration

A configuration is written as TOML, with a section for each of its parts. A part that is not given
has its standard, and so has a field; what no part knows is ignored. A part may also be given as an
array of its fields in their order, of which the last ones may be missing. A date in the place of a
part gives none of its fields.

* `Config.ofText?` — the configuration that a text describes;
* `Config.write` — the text of a configuration, the settings of the driver in any order;
* `Config.text` — the one of these texts with the settings in the order of their names;
* `Config.load` — a file, the environment and the checks, in this order.
-/

namespace DeviceHost

/-! ### Reading -/

/-- How the value of a field is found, by its name or by its position. -/
abbrev Fields : Type := String → Nat → Option Toml.Value

/-- The fields that a value gives. -/
def Fields.ofValue? : Toml.Value → Option Fields
  | .table _ es => some fun name _ => es.lookup name
  | .array items => some fun _ i => items[i]?
  | .moment _ => some fun _ _ => none
  | _ => none

namespace Fields

/-- The text in a field. -/
def text? (f : Fields) (name : String) (i : Nat) (standard : String) : Option String :=
  match f name i with
  | none => some standard
  | some (.text s) => some s
  | some _ => none

/-- The number of a range in a field. -/
def number? (f : Fields) (name : String) (i limit standard : Nat) : Option Nat :=
  match f name i with
  | none => some standard
  | some (.integer (.ofNat n)) => if n < limit then some n else none
  | some _ => none

/-- The truth value in a field. -/
def flag? (f : Fields) (name : String) (i : Nat) (standard : Bool) : Option Bool :=
  match f name i with
  | none => some standard
  | some (.flag b) => some b
  | some _ => none

/-- The text in a field that has no standard. -/
def optionalText? (f : Fields) (name : String) (i : Nat) : Option (Option String) :=
  match f name i with
  | none => some none
  | some (.text s) => some (some s)
  | some _ => none

end Fields

/-- The identity and the address that fields give. -/
def ServiceSection.ofFields? (f : Fields) : Option ServiceSection := do
  let name ← f.text? "name" 0 standard.name
  let host ← f.text? "host" 1 standard.host
  let port ← f.number? "port" 2 UInt16.size standard.port.toNat
  let version ← f.text? "version" 3 standard.version
  let profilesDir ← f.optionalText? "profiles_dir" 4
  return ⟨name, host, UInt16.ofNat port, version, profilesDir⟩

/-- The place of the authority that fields give. -/
def MetadataSection.ofFields? (f : Fields) : Option MetadataSection := do
  let host ← f.text? "host" 0 standard.host
  let port ← f.number? "port" 1 UInt16.size standard.port.toNat
  let timeoutMs ← f.number? "timeout_ms" 2 UInt64.size standard.timeoutMs.toNat
  return ⟨host, UInt16.ofNat port, UInt64.ofNat timeoutMs⟩

/-- The way of writing the log that fields give. -/
def LoggingSection.ofFields? (f : Fields) : Option LoggingSection := do
  let level ← f.text? "level" 0 standard.level
  let json ← f.flag? "json" 1 standard.json
  return ⟨level, json⟩

/-- The key under which a date is known that stands in the place of the settings of the driver. -/
def momentKey : String := "$__toml_private_datetime"

/-- The texts that entries give, if all of their values are texts. -/
def texts? : Toml.Entries → Option (List (String × String))
  | [] => some []
  | (k, .text s) :: es => (texts? es).map ((k, s) :: ·)
  | _ :: _ => none

/-- The settings of the driver that a value gives. -/
def driverSettings? : Toml.Value → Option (Table String)
  | .table _ es => (texts? es).map Table.ofList
  | .moment m => some (Table.ofList [(momentKey, m)])
  | _ => none

/-- A part that a table gives, if it can be read, or its standard. -/
def part? {α : Type} (es : Toml.Entries) (name : String) (standard : α)
    (read : Toml.Value → Option α) : Option α :=
  match es.lookup name with
  | none => some standard
  | some v => read v

/-- The configuration that a table describes. -/
def Config.ofTable? (es : Toml.Entries) : Option Config := do
  let service ← part? es "service" .standard fun v => Fields.ofValue? v >>= ServiceSection.ofFields?
  let metadata ← part? es "metadata" .standard fun v =>
    Fields.ofValue? v >>= MetadataSection.ofFields?
  let driver ← part? es "driver" .empty driverSettings?
  let logging ← part? es "logging" .standard fun v => Fields.ofValue? v >>= LoggingSection.ofFields?
  return ⟨service, metadata, driver, logging⟩

/-- The configuration that a text describes. -/
def Config.ofText? (s : String) : Except ConfigError Config :=
  match Toml.table? s.toList >>= ofTable? with
  | some c => .ok c
  | none => .error .unparsable

/-! ### Writing -/

/-- The sections of a configuration. The settings of the driver are unordered, so `settings` says in
which order they are written. -/
def Config.sheet (c : Config) (settings : List (String × String)) : Toml.Sheet := [
  ("service", [
    ("name", .text c.service.name),
    ("host", .text c.service.host),
    ("port", .natural c.service.port.toNat),
    ("version", .text c.service.version)] ++
    c.service.profilesDir.toList.map fun dir => ("profiles_dir", .text dir)),
  ("metadata", [
    ("host", .text c.metadata.host),
    ("port", .natural c.metadata.port.toNat),
    ("timeout_ms", .natural c.metadata.timeoutMs.toNat)]),
  ("driver", settings.map fun e => (e.1, .text e.2)),
  ("logging", [
    ("level", .text c.logging.level),
    ("json", .flag c.logging.json)])]

/-- The text of a configuration, with the settings of the driver in the order of `settings`. It is
empty if the time for a request is no integer of TOML. -/
def Config.write (c : Config) (settings : List (String × String)) : String :=
  if c.metadata.timeoutMs.toNat ≤ (Numeral.Range.signed 64).above then
    String.ofList (c.sheet settings).write
  else ""

/-- One of the texts of a configuration: the one with the settings in the order of their names. -/
def Config.text (c : Config) : String := c.write c.driver.toList

/-! ### Loading -/

/-- A file with a configuration. -/
structure ConfigFile where
  /-- where it is -/
  path : String
  /-- its content, or why it cannot be read -/
  content : Except String (List UInt8)

/-- The configuration that a file describes. -/
def Config.ofFile? (file : ConfigFile) : Except ConfigError Config :=
  match file.content with
  | .error reason => .error (.unreadable file.path reason)
  | .ok bytes =>
    match Utf8.text? bytes with
    | none => .error (.unreadable file.path "stream did not contain valid UTF-8")
    | some s => ofText? s

/-- The configuration of a file, if there is one, with the values of the environment, if it breaks
no rule. -/
def Config.load (file : Option ConfigFile) (env : Config.Environment) : Except ConfigError Config :=
  match file.elim (.ok .standard) ofFile? with
  | .error e => .error e
  | .ok c =>
    match c.override env with
    | .error e => .error e
    | .ok c => c.validate

end DeviceHost
