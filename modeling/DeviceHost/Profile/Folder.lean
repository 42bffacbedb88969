import DeviceHost.Profile.Cache
import DeviceHost.Profile.Name

/-!
# Folders of profiles

A folder may hold profiles as YAML documents. When the service starts, those that the authority does
not know are handed over to it, file by file in the order of their names, up to the first failure.
So the same name is never handed over twice, and a profile that is known already is left alone.
-/

namespace DeviceHost

/-- The name of a file, as octets; it need not be a text. -/
abbrev FileName : Type := List UInt8

/-- The octets of a file, or why it cannot be read. -/
abbrev FileContent : Type := Except String (List UInt8)

/-- Something in a folder. -/
inductive FolderEntry
  /-- a file, with what reading it comes to -/
  | file (content : FileContent)
  /-- another folder, or anything else that is no file -/
  | folder
  deriving Repr

/-- What is in a folder, by name, or why the folder cannot be read. -/
abbrev FolderContent : Type := Except String (List (FileName × FolderEntry))

/-- A folder, as it was found. -/
structure Folder where
  /-- where it is -/
  path : String
  /-- what was found in it -/
  entries : FolderContent

/-- Why profiles could not be handed over. -/
inductive FolderError
  /-- the folder cannot be read -/
  | directory (path reason : String)
  /-- a file cannot be read -/
  | unreadable (path reason : String)
  /-- a file is no YAML document with a name; what the parser has against it is not modelled -/
  | unparsable (path : String)
  /-- a profile has no name -/
  | missingName (path : String)
  /-- the authority refused -/
  | authority (e : AuthorityError)

/-- The wording of a failure, without the words of the parser that follow on those for an unparsable
file. -/
def FolderError.message : FolderError → String
  | directory path reason => s!"Cannot read profiles directory {path}: {reason}"
  | unreadable path reason => s!"Failed to read profile {path}: {reason}"
  | unparsable path => s!"Failed to parse profile {path}"
  | missingName path => s!"No device profile name found in {path}"
  | authority e => e.message

/-- The path of something in a folder. -/
def joinPath (folder name : String) : String :=
  if name.startsWith "/" then name
  else if folder = "" || folder.endsWith "/" then folder ++ name
  else folder ++ "/" ++ name

/-- The path of a file in a folder, as it is shown. -/
def filePath (folder : String) (name : FileName) : String :=
  joinPath folder (Utf8.shown name)

/-- The part of a file's name after its last point, unless there is nothing before the point. -/
def extension? (name : FileName) : Option (List UInt8) :=
  let backwards := name.reverse
  match backwards.dropWhile fun b => b != 0x2E with
  | [] => none
  | [_] => none
  | _ :: _ => some (backwards.takeWhile fun b => b != 0x2E).reverse

/-- Whether a file's name says that it holds a YAML document. -/
def isYamlName (name : FileName) : Bool :=
  ((extension? name).bind Utf8.chars?).map Text.lower == some "yaml".toList

/-- What is in a folder, each name once: of several entries of one name the last one. -/
def latest : List (FileName × FolderEntry) → List (FileName × FolderEntry)
  | [] => []
  | e :: es => if es.any fun e' => e'.1 == e.1 then latest es else e :: latest es

/-- An entry that is a file with a YAML document. -/
def yamlFile? (e : FileName × FolderEntry) : Option (FileName × FileContent) :=
  match e.2 with
  | .file content => if isYamlName e.1 then some (e.1, content) else none
  | .folder => none

/-- Put a file in its place by the octets of its name. -/
def placeFile (f : FileName × FileContent) :
    List (FileName × FileContent) → List (FileName × FileContent)
  | [] => [f]
  | g :: gs => if f.1 ≤ g.1 then f :: g :: gs else g :: placeFile f gs

/-- The files of a folder that hold YAML documents, in the order of the octets of their names. -/
def yamlFiles (entries : List (FileName × FolderEntry)) : List (FileName × FileContent) :=
  ((latest entries).filterMap yamlFile?).foldr placeFile []

/-- The text of a profile document and its name. -/
def readProfile (path : String) (content : FileContent) : Except FolderError (String × String) :=
  match content with
  | .error reason => .error (.unreadable path reason)
  | .ok bytes =>
    match Utf8.chars? bytes with
    | none => .error (.unreadable path "stream did not contain valid UTF-8")
    | some cs =>
      match profileName? cs with
      | none => .error (.unparsable path)
      | some name =>
        if name = "" then .error (.missingName path) else .ok (String.ofList cs, name)

namespace Profiles

variable {α : Type}

/-- Hand one profile over, unless the authority knows it; say whether that was necessary. -/
def uploadFile (a : Authority α) (path : String) (content : FileContent) :
    Activity Event (Profiles α) (Except FolderError Bool) :=
  match readProfile path content with
  | .error e => return .error e
  | .ok (yaml, name) => do
    Activity.emit (.line .debug s!"Checking existence of device profile {name}")
    match ← get a name with
    | .ok _ =>
      Activity.emit (.line .info s!"Device profile {name} already exists: skipped")
      return .ok false
    | .error (.notFound _) =>
      Activity.emit (.line .info s!"Uploading device profile from {path}")
      match ← (a.upload yaml).on authorityPart with
      | .error e => return .error (.authority e)
      | .ok () =>
        match ← get a name with
        | .error e => return .error (.authority e)
        | .ok _ => return .ok true
    | .error e => return .error (.authority e)

/-- Hand the profiles of files over, after `count` others, up to the first failure. -/
def uploadFiles (a : Authority α) (folder : String) (count : Nat) :
    List (FileName × FileContent) → Activity Event (Profiles α) (Except FolderError Nat)
  | [] => return .ok count
  | f :: fs => do
    match ← uploadFile a (filePath folder f.1) f.2 with
    | .error e => return .error e
    | .ok isNew => uploadFiles a folder (if isNew then count + 1 else count) fs

/-- Hand over the profiles of a folder that the authority does not know; say how many there were. -/
def uploadFolder (a : Authority α) (f : Folder) :
    Activity Event (Profiles α) (Except FolderError Nat) :=
  match f.entries with
  | .error reason => return .error (.directory f.path reason)
  | .ok entries => do
    Activity.emit (.line .info s!"Processing device profiles from {f.path}")
    uploadFiles a f.path 0 (yamlFiles entries)

end Profiles

end DeviceHost
