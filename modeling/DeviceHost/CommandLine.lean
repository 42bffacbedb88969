import DeviceHost.Config.Text
import DeviceHost.Driver.Random
import DeviceHost.Driver.Template
import DeviceHost.Service

/-!
# The command line

The program prints its configuration, or it runs the service with one of its two drivers. `read?`
takes the arguments apart, and `run` does what they ask for. Everything outside of the program is a
parameter of `run`: the environment, the files, and the authority.

Arguments are read from left to right. An option that has a value takes it from the same argument or
from the next one, no option may be repeated, and a request for help or for the version ends the
reading.
-/

namespace DeviceHost.CommandLine

/-! ### Arguments -/

/-- The drivers that come with the program. -/
inductive DriverKind
  /-- random numbers and a switch -/
  | random
  /-- a starting point for other drivers -/
  | template
  deriving Repr, DecidableEq

/-- The driver of a name. -/
def DriverKind.ofName? (name : String) : Option DriverKind :=
  if name = "random" then some .random
  else if name = "template" then some .template
  else none

/-- The port that a text gives. -/
def port? (s : String) : Option UInt16 :=
  match (Numeral.Range.signed 64).parse s.toList with
  | .ok (.ofNat n) => if n < UInt16.size then some (UInt16.ofNat n) else none
  | _ => none

/-- An option. -/
structure Choice where
  /-- its long name -/
  long : String
  /-- its letter -/
  letter : Option Char
  /-- which values it takes; an option without values has none -/
  accepts : Option (String → Bool)

/-- The option for more lines in the log. -/
def verboseChoice : Choice := ⟨"verbose", some 'v', none⟩

/-- The option for help. -/
def helpChoice : Choice := ⟨"help", some 'h', none⟩

/-- The option for the version. -/
def versionChoice : Choice := ⟨"version", some 'V', none⟩

/-- The option for the file with the configuration. -/
def configChoice : Choice := ⟨"config", some 'c', some fun s => s != ""⟩

/-- The options before the command. -/
def generalChoices : List Choice := [verboseChoice, helpChoice, versionChoice]

/-- The options of the command that prints the configuration. -/
def printChoices : List Choice := [configChoice, verboseChoice, helpChoice]

/-- The options of the command that runs the service. -/
def serveChoices : List Choice := [
  configChoice,
  ⟨"name", some 'n', some fun _ => true⟩,
  ⟨"port", some 'p', some fun s => (port? s).isSome⟩,
  ⟨"driver", none, some fun s => (DriverKind.ofName? s).isSome⟩,
  verboseChoice, helpChoice]

/-- Why the reading of arguments ends early. -/
inductive Halt
  /-- the arguments are wrong -/
  | misuse
  /-- help is asked for -/
  | help
  /-- the version is asked for -/
  | version
  deriving Repr, DecidableEq

/-- The options that are given, by their long names, with their values. -/
abbrev Given : Type := List (String × String)

/-- Note an option, unless it is given already, or has a value that it does not take. -/
def note (given : Given) (c : Choice) (value : String) : Except Halt Given :=
  if (given.lookup c.long).isSome then .error .misuse
  else if (c.accepts.getD fun _ => true) value then .ok (given ++ [(c.long, value)])
  else .error .misuse

/-- Note an option without values. -/
def noteFlag (given : Given) (c : Choice) : Except Halt Given :=
  if c.long = "help" then .error .help
  else if c.long = "version" then .error .version
  else note given c ""

/-- Whether an argument cannot be the value of the option before it. -/
def looksLikeOption (s : String) : Bool := s.startsWith "-" && s != "-"

/-- What one argument says about options: some of them are given, and the last one may still lack
its value. -/
structure Told where
  /-- the options that are given -/
  given : Given
  /-- the option whose value is the next argument -/
  open? : Option Choice

/-- What an argument says that starts with two hyphens, here left out. -/
def readLong (choices : List Choice) (given : Given) (word : List Char) : Except Halt Told :=
  let name := String.ofList (word.takeWhile fun c => c != '=')
  match choices.find? fun c => c.long == name with
  | none => .error .misuse
  | some c =>
    match word.dropWhile fun c => c != '=' with
    | [] =>
      if c.accepts.isSome then .ok ⟨given, some c⟩
      else (noteFlag given c).map fun g => ⟨g, none⟩
    | _ :: value =>
      if c.accepts.isSome then (note given c (String.ofList value)).map fun g => ⟨g, none⟩
      else .error .misuse

/-- What an argument says that starts with one hyphen, here left out: it is a row of letters, of
which the first one that takes a value takes the others. -/
def readLetters (choices : List Choice) (given : Given) : List Char → Except Halt Told
  | [] => .ok ⟨given, none⟩
  | l :: ls =>
    match choices.find? fun c => c.letter == some l with
    | none => .error .misuse
    | some c =>
      if c.accepts.isSome then
        match ls with
        | [] => .ok ⟨given, some c⟩
        | '=' :: value => (note given c (String.ofList value)).map fun g => ⟨g, none⟩
        | value => (note given c (String.ofList value)).map fun g => ⟨g, none⟩
      else
        match noteFlag given c with
        | .error h => .error h
        | .ok g => readLetters choices g ls

/-- The options at the front of arguments, and the first other argument with all that follow it. -/
def readOptions (choices : List Choice) :
    Given → Option Choice → List String → Except Halt (Given × List String)
  | given, none, [] => .ok (given, [])
  | _, some _, [] => .error .misuse
  | given, some c, a :: as =>
    if looksLikeOption a then .error .misuse
    else
      match note given c a with
      | .error h => .error h
      | .ok g => readOptions choices g none as
  | given, none, a :: as =>
    match a.toList with
    | ['-', '-'] => if as.isEmpty then .ok (given, []) else .error .misuse
    | '-' :: '-' :: word =>
      match readLong choices given word with
      | .error h => .error h
      | .ok t => readOptions choices t.given t.open? as
    | '-' :: l :: ls =>
      match readLetters choices given (l :: ls) with
      | .error h => .error h
      | .ok t => readOptions choices t.given t.open? as
    | _ => .ok (given, a :: as)

/-- What the program is asked to do. -/
inductive Request
  /-- print the configuration -/
  | print (file : Option String)
  /-- run the service -/
  | serve (file : Option String) (name : Option String) (port : Option UInt16) (driver : DriverKind)
  deriving Repr, DecidableEq

/-- The request of a command and its arguments. -/
def readCommand (command : String) (arguments : List String) : Except Halt Request :=
  if command = "config" then
    match readOptions printChoices [] none arguments with
    | .error h => .error h
    | .ok (given, []) => .ok (.print (given.lookup "config"))
    | .ok _ => .error .misuse
  else if command = "serve" then
    match readOptions serveChoices [] none arguments with
    | .error h => .error h
    | .ok (given, []) =>
      .ok (.serve (given.lookup "config") (given.lookup "name") ((given.lookup "port").bind port?)
        (((given.lookup "driver").bind DriverKind.ofName?).getD .random))
    | .ok _ => .error .misuse
  else if command = "help" then
    .error (if arguments.all ["config", "serve", "help"].contains && arguments.length ≤ 1 then .help
      else .misuse)
  else .error .misuse

/-- The request of the arguments of the program. -/
def read? (arguments : List String) : Except Halt Request :=
  match readOptions generalChoices [] none arguments with
  | .error h => .error h
  | .ok (_, []) => .error .misuse
  | .ok (_, command :: rest) => readCommand command rest

/-! ### Requests -/

/-- What the program finds around it; its inquiries go to an authority with a state of type `α`. -/
structure Surroundings (α : Type) where
  /-- the environment -/
  environment : Config.Environment
  /-- the content of a file, or why it cannot be read -/
  content : String → Except String (List UInt8)
  /-- the folder at a path -/
  folder : String → Folder
  /-- the authority at a base address -/
  authority : String → Authority α
  /-- the state of the authority -/
  start : α

/-- How the program ends. -/
inductive Finish
  /-- it has printed a text -/
  | printed (text : String)
  /-- it has failed -/
  | failed (message : String)
  /-- its arguments are wrong -/
  | misused
  /-- the service has started, and takes requests at an address -/
  | serving (address : String)
  deriving Repr, DecidableEq

/-- The code that the end of the program is reported with. -/
def Finish.code : Finish → UInt32
  | printed _ => 0
  | failed _ => 1
  | misused => 2
  | serving _ => 0

variable {α : Type}

/-- The configuration of the file that is named, if one is, and of the environment. -/
def Surroundings.config (w : Surroundings α) (file : Option String) : Except ConfigError Config :=
  Config.load (file.map fun path => ⟨path, w.content path⟩) w.environment

/-- Start the service with a driver. -/
def Surroundings.started (w : Surroundings α) (c : Config) : DriverKind → Except ServiceError Unit
  | .random =>
    let s : Service (Random.State Nat) α :=
      ⟨c, Random.driver Random.congruential, w.authority c.baseUrl,
        c.service.profilesDir.map w.folder⟩
    (s.start (.initial ⟨false, 1⟩ w.start)).value
  | .template =>
    let s : Service Unit α :=
      ⟨c, Template.driver, w.authority c.baseUrl, c.service.profilesDir.map w.folder⟩
    let listening := (Service.register Template.listener (.initial () w.start)).state
    (s.start listening).value

/-- Run the service with a configuration. -/
def Surroundings.serve (w : Surroundings α) (c : Config) (driver : DriverKind) : Finish :=
  match w.started c driver with
  | .error _ => .failed s!"Failed to start device service '{c.service.name}'"
  | .ok () => .serving c.listenAddress

/-- A configuration with the name and the port of the command line, where they are given. -/
def withOptions (c : Config) (name : Option String) (port : Option UInt16) : Config :=
  { c with service := { c.service with
      name := name.getD c.service.name
      port := port.getD c.service.port } }

/-- Do what the program is asked to do. -/
def Surroundings.run (w : Surroundings α) : Request → Finish
  | .print file =>
    match w.config file with
    | .error _ => .failed "Failed to load configuration"
    | .ok c => .printed c.text
  | .serve file name port driver =>
    match w.config file with
    | .error _ => .failed "Failed to load configuration"
    | .ok c =>
      match (withOptions c name port).validate with
      | .error e => .failed e.message
      | .ok c => w.serve c driver

/-- The name of the program and its version. -/
def versionText : String := s!"devsvc {programVersion}\n"

/-- How the program is used. -/
def helpText : String :=
  "Usage: devsvc [-v] config [-c <file>]\n" ++
  "       devsvc [-v] serve [-c <file>] [-n <name>] [-p <port>] [--driver random|template]\n" ++
  "       devsvc -V | -h\n"

/-- How the program ends if its arguments are no request. -/
def Halt.finish : Halt → Finish
  | misuse => .misused
  | help => .printed helpText
  | version => .printed versionText

/-- How the program ends with its arguments. -/
def Surroundings.finish (w : Surroundings α) (arguments : List String) : Finish :=
  match read? arguments with
  | .error h => h.finish
  | .ok r => w.run r

/-- The file that a request names. -/
def Request.file : Request → Option String
  | print file => file
  | serve file _ _ _ => file

end DeviceHost.CommandLine
