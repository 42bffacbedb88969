import DeviceHost.Profile.Folder

/-!
# Trees of files

A tree holds the files and folders below a root. A path is followed from the root part by part: an
empty part and `.` stay, `..` goes up, and a file ends the path. Nothing is known of what lies
outside of the root: the folders there are taken to be empty, and everything else to be missing.

* `FileTree.find` — what is at a path;
* `FileTree.folder` — the folder at a path, or why there is none;
* `FileTree.content` — the content of the file at a path, or why there is none.
-/

namespace DeviceHost

/-- Something in a tree. All files can be read, and all names are texts. -/
inductive FileTree.Entry
  /-- a file, with its octets -/
  | file (content : List UInt8)
  /-- a folder -/
  | folder
  deriving Repr, DecidableEq

/-- What is found of an entry in the folder that it is in. -/
def FileTree.Entry.found : FileTree.Entry → FolderEntry
  | file content => .file (.ok content)
  | folder => .folder

/-- Files and folders below a root. -/
structure FileTree where
  /-- the path of the root -/
  root : String
  /-- what is below the root, by the names that lead to it -/
  entries : List (List String × FileTree.Entry)

/-- What a path leads to. -/
inductive Found
  /-- a folder below the root, or the root itself, by the names that lead to it -/
  | folder (names : List String)
  /-- a folder outside of the root -/
  | outside
  /-- a file, with its octets -/
  | file (content : List UInt8)
  deriving Repr, DecidableEq

namespace FileTree

/-- Why a path leads nowhere. -/
def missing : String := "No such file or directory (os error 2)"

/-- Why a path does not go on after a file. -/
def notFolder : String := "Not a directory (os error 20)"

/-- Why a folder cannot be read as a file. -/
def isFolder : String := "Is a directory (os error 21)"

/-- Why a part of a path cannot be a name. -/
def tooLong : String := "File name too long (os error 36)"

/-- Why a path with the character zero cannot be followed. -/
def withZero : String := "file name contained an unexpected NUL byte"

/-- The parts of a path. -/
def parts (path : String) : List String := path.splitOn "/"

/-- Whether a part of a path stays where it is. -/
def stays (part : String) : Bool := part == "" || part == "."

/-- The folder above a folder. -/
def above (names : List String) : Found :=
  if names.isEmpty then .outside else .folder names.dropLast

/-- Follow the parts of a path. -/
def follow (t : FileTree) : Found → List String → Except String Found
  | here, [] => .ok here
  | .file _, _ :: _ => .error notFolder
  | .outside, p :: ps =>
    if stays p || p == ".." then follow t .outside ps else .error missing
  | .folder names, p :: ps =>
    if stays p then follow t (.folder names) ps
    else if p == ".." then follow t (above names) ps
    else if 255 < p.utf8ByteSize then .error tooLong
    else
      match t.entries.lookup (names ++ [p]) with
      | none => .error missing
      | some .folder => follow t (.folder (names ++ [p])) ps
      | some (.file content) => follow t (.file content) ps

/-- What is at a path: below the root if the path begins with it, and outside if the path begins
with a slash. -/
def find (t : FileTree) (path : String) : Except String Found :=
  let ps := parts path
  let start := parts t.root
  if path.toList.any fun c => c.toNat = 0 then .error withZero
  else if start.isPrefixOf ps then t.follow (.folder []) (ps.drop start.length)
  else if ps.head? = some "" then t.follow .outside ps
  else .error missing

/-- What is in a folder below the root, by name. -/
def within (t : FileTree) (names : List String) : List (FileName × FolderEntry) :=
  t.entries.filterMap fun e =>
    if e.1.dropLast = names then
      e.1.getLast?.map fun name => (Utf8.ofString name, e.2.found)
    else none

/-- The folder at a path. -/
def folder (t : FileTree) (path : String) : Folder :=
  ⟨path,
    match t.find path with
    | .error reason => .error reason
    | .ok (.file _) => .error notFolder
    | .ok .outside => .ok []
    | .ok (.folder names) => .ok (t.within names)⟩

/-- The content of the file at a path. -/
def content (t : FileTree) (path : String) : Except String (List UInt8) :=
  match t.find path with
  | .error reason => .error reason
  | .ok (.file content) => .ok content
  | .ok _ => .error isFolder

end FileTree

end DeviceHost
