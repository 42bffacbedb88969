import DeviceHost.CommandLine
import DeviceHost.Http.Client

/-!
# The program

It looks at its arguments, its environment and the file that it is told to read, and leaves
everything else to `CommandLine`. It has no transport to the metadata authority and opens no port:
who embeds the library brings both.
-/

namespace DeviceHost.Program

/-- The variables of the environment that a configuration looks at. -/
def variableNames : List String :=
  ["DEVSVC_SERVICE_NAME", "DEVSVC_HOST", "DEVSVC_PORT", "DEVSVC_METADATA_HOST",
    "DEVSVC_METADATA_PORT", "DEVSVC_PROFILES_DIR", "DEVSVC_LOG_JSON"]

/-- The variables that are set, with their values. -/
def readEnvironment : IO Config.Environment := do
  let mut found : List (String × String) := []
  for name in variableNames do
    if let some value ← IO.getEnv name then found := (name, value) :: found
  let settings := found
  return fun name => settings.lookup name

/-- The content of a file, or why it cannot be read. -/
def readContent (path : String) : IO (Except String (List UInt8)) := do
  try
    let content ← IO.FS.readBinFile path
    return .ok content.toList
  catch e =>
    return .error (toString e)

end DeviceHost.Program

open DeviceHost DeviceHost.Program in
/-- Do what the arguments ask for. -/
def main (arguments : List String) : IO UInt32 := do
  let environment ← readEnvironment
  let content ← match CommandLine.read? arguments with
    | .ok request =>
      match request.file with
      | some path => readContent path
      | none => pure (.error "no file is named")
    | .error _ => pure (.error "no file is named")
  let around : CommandLine.Surroundings Unit := {
    environment := environment
    content := fun _ => content
    folder := fun path => ⟨path, .error "folders are not read"⟩
    authority := fun base => Client.authority base (.broken "no transport")
    start := () }
  let finish := around.finish arguments
  match finish with
  | .printed text => IO.print text
  | .failed message => IO.eprintln s!"Error: {message}"
  | .misused => IO.eprint CommandLine.helpText
  | .serving address => IO.println s!"Listening on {address}"
  return finish.code
