import DeviceHost.Numeral.Integer
import DeviceHost.Table
import DeviceHost.Text.Blank

/-!
# Configuration

Who the service is and where it listens, where the metadata authority is found, the settings of the
driver, and the log. Every part has a default. Variables of the environment override single fields;
after that the configuration is checked.
-/

namespace DeviceHost

/-- Identity and address of the service. -/
structure ServiceSection where
  /-- the name of the service; it owns the devices that give exactly this name -/
  name : String
  /-- the host that it listens on -/
  host : String
  /-- the port that it listens on -/
  port : UInt16
  /-- the version that it reports -/
  version : String
  /-- where the profiles are that are handed to the authority at the start -/
  profilesDir : Option String
  deriving Repr, DecidableEq

/-- Where the metadata authority is found. -/
structure MetadataSection where
  /-- its host, possibly with a scheme -/
  host : String
  /-- its port -/
  port : UInt16
  /-- how long a request may take, in milliseconds -/
  timeoutMs : UInt64
  deriving Repr, DecidableEq

/-- How the log is written. -/
structure LoggingSection where
  /-- which lines are written -/
  level : String
  /-- whether lines are JSON documents -/
  json : Bool
  deriving Repr, DecidableEq

/-- A configuration. -/
structure Config where
  /-- the service itself -/
  service : ServiceSection
  /-- the authority -/
  metadata : MetadataSection
  /-- the settings of the driver -/
  driver : Table String
  /-- the log -/
  logging : LoggingSection
  deriving Repr, DecidableEq

/-- The version of this program. -/
def programVersion : String := "0.3.0"

/-- The service, where nothing else is said. -/
def ServiceSection.standard : ServiceSection :=
  ⟨"device-service", "127.0.0.1", 49990, programVersion, none⟩

/-- The authority, where nothing else is said. -/
def MetadataSection.standard : MetadataSection := ⟨"localhost", 48081, 5000⟩

/-- The log, where nothing else is said. -/
def LoggingSection.standard : LoggingSection := ⟨"info", false⟩

/-- The configuration where nothing else is said. -/
def Config.standard : Config := ⟨.standard, .standard, .empty, .standard⟩

instance : Inhabited Config := ⟨.standard⟩

/-- Why there is no configuration. -/
inductive ConfigError
  /-- the file cannot be read -/
  | unreadable (path reason : String)
  /-- the text is no configuration; what the parser has against it is not modelled -/
  | unparsable
  /-- a variable of the environment has a value that does not fit -/
  | invalidVariable (name value : String)
  /-- the configuration is of no use -/
  | invalid (reason : String)
  deriving Repr, DecidableEq

/-- The wording of an error, without the words of the parser that follow on those for an unparsable
text. -/
def ConfigError.message : ConfigError → String
  | unreadable path reason => s!"Failed to read config file {path}: {reason}"
  | unparsable => "Failed to parse config"
  | invalidVariable name value => s!"Invalid value '{value}' for {name}"
  | invalid reason => s!"Invalid configuration: {reason}"

namespace Config

/-! ### Addresses -/

/-- A text without the slashes at its end. -/
def withoutSlashes (s : String) : String :=
  String.ofList ((s.toList.reverse.dropWhile fun c => c == '/').reverse)

/-- Whether a host comes with the scheme of a web address. -/
def hasScheme (host : String) : Bool :=
  host.startsWith "http://" || host.startsWith "https://"

/-- The address of the authority, which is the beginning of every request to it. -/
def baseUrl (c : Config) : String :=
  let host := withoutSlashes c.metadata.host
  let port := Numeral.natText c.metadata.port.toNat
  if hasScheme host then s!"{host}:{port}" else s!"http://{host}:{port}"

/-- The address that the service listens on. -/
def listenAddress (c : Config) : String :=
  s!"{c.service.host}:{Numeral.natText c.service.port.toNat}"

/-! ### The environment -/

/-- The values of the variables of the environment. -/
abbrev Environment : Type := String → Option String

/-- The port that a variable gives, if it is set. -/
def portFrom (env : Environment) (name : String) (now : UInt16) : Except ConfigError UInt16 :=
  match env name with
  | none => .ok now
  | some v =>
    match (Numeral.Range.unsigned 16).parse v.toList with
    | .ok n => .ok (UInt16.ofNat n.toNat)
    | .error _ => .error (.invalidVariable name v)

/-- The truth value that a variable gives, if it is set. -/
def flagFrom (env : Environment) (name : String) (now : Bool) : Except ConfigError Bool :=
  match env name with
  | none => .ok now
  | some v =>
    if v = "true" then .ok true
    else if v = "false" then .ok false
    else .error (.invalidVariable name v)

/-- The configuration with the values of the variables that are set. -/
def override (c : Config) (env : Environment) : Except ConfigError Config :=
  match portFrom env "DEVSVC_PORT" c.service.port with
  | .error e => .error e
  | .ok port =>
    match portFrom env "DEVSVC_METADATA_PORT" c.metadata.port with
    | .error e => .error e
    | .ok metadataPort =>
      match flagFrom env "DEVSVC_LOG_JSON" c.logging.json with
      | .error e => .error e
      | .ok json =>
        .ok {
          service := {
            name := (env "DEVSVC_SERVICE_NAME").getD c.service.name
            host := (env "DEVSVC_HOST").getD c.service.host
            port := port
            version := c.service.version
            profilesDir := (env "DEVSVC_PROFILES_DIR").or c.service.profilesDir }
          metadata := {
            host := (env "DEVSVC_METADATA_HOST").getD c.metadata.host
            port := metadataPort
            timeoutMs := c.metadata.timeoutMs }
          driver := c.driver
          logging := { level := c.logging.level, json := json } }

/-! ### Checks -/

/-- Whether nothing but blanks is in a text. -/
def isBlankText (s : String) : Bool := s.toList.all Text.isBlank

/-- The first rule that a configuration breaks. -/
def flaw? (c : Config) : Option String :=
  if isBlankText c.service.name then some "service name must not be empty"
  else if c.service.port = 0 then some "service port must not be 0"
  else if isBlankText c.metadata.host then some "metadata host must not be empty"
  else none

/-- The configuration, if it breaks no rule. -/
def validate (c : Config) : Except ConfigError Config :=
  match c.flaw? with
  | some reason => .error (.invalid reason)
  | none => .ok c

end Config

end DeviceHost
