import KubeOverlay.Ordered
import KubeOverlay.Path
/-!
# File trees

Directories and files as a value, and the walk along a path through them. Every name on the way but
the last must be that of a directory; a file is read as bytes or as text.
-/
namespace KubeOverlay

/-- Why a file cannot be read or written. -/
inductive FileFault where
  | notFound
  | notADirectory
  | isADirectory
  /-- A name or the path is longer than the system allows. -/
  | tooLong
  /-- A NUL character is in the path. -/
  | nulInPath
  | notText
deriving DecidableEq, Repr

def FileFault.message : FileFault → String
  | .notFound => "No such file or directory (os error 2)"
  | .notADirectory => "Not a directory (os error 20)"
  | .isADirectory => "Is a directory (os error 21)"
  | .tooLong => "File name too long (os error 36)"
  | .nulInPath => "file name contained an unexpected NUL byte"
  | .notText => "stream did not contain valid UTF-8"

inductive FileTree where
  | file (content : ByteArray)
  | directory (entries : List (String × FileTree))

namespace FileTree

instance : Inhabited FileTree := ⟨.directory []⟩

/-- The number of bytes that a name may have. -/
def maxNameSize : Nat := 255

/-- What names lead to from a tree, given the directories above it, the nearest first. The top is
its own parent. -/
def walk (above : List FileTree) (here : FileTree) : List String → Except FileFault FileTree
  | [] => .ok here
  | name :: rest =>
    match here with
    | .file _ => .error .notADirectory
    | .directory entries =>
      if name == "" || name == "." then walk above here rest
      else if name == ".." then
        match above with
        | [] => walk [] here rest
        | up :: above => walk above up rest
      else if maxNameSize < name.utf8ByteSize then .error .tooLong
      else
        match Ordered.find? name entries with
        | none => .error .notFound
        | some t => walk (here :: above) t rest

/-- The tree with another one at the end of some names. Directories are made on the way, and what is
in the way is replaced. -/
def put (content : FileTree) : List String → FileTree → FileTree
  | [], _ => content
  | name :: rest, t =>
    let entries := match t with
      | .directory entries => entries
      | .file _ => []
    let below := (Ordered.find? name entries).getD (.directory [])
    .directory (Ordered.insert name (put content rest below) entries)

end FileTree

/-- A file tree and the directory in it at which relative paths start. -/
structure FileSystem where
  top : FileTree
  /-- The names that lead to the directory from the top. -/
  workingDirectory : List String

namespace FileSystem

/-- The names that a path takes from the top. -/
def fullNames (files : FileSystem) (path : String) : List String :=
  if Path.isAbsolute path then Path.names path else files.workingDirectory ++ Path.names path

/-- The number of bytes that a path may have. -/
def maxPathSize : Nat := 4095

/-- Refuses a path that no file can have. -/
def checkPath (path : String) : Except FileFault Unit :=
  if path.toList.contains '\x00' then .error .nulInPath
  else if path == "" then .error .notFound
  else if maxPathSize < path.utf8ByteSize then .error .tooLong
  else .ok ()

/-- What stands at a path. -/
def lookup (files : FileSystem) (path : String) : Except FileFault FileTree := do
  checkPath path
  files.top.walk [] (files.fullNames path)

def pathExists (files : FileSystem) (path : String) : Bool := (files.lookup path).toBool

/-- The bytes of a file. -/
def readBytes (files : FileSystem) (path : String) : Except FileFault ByteArray := do
  match ← files.lookup path with
  | .file content => return content
  | .directory _ => throw .isADirectory

/-- The text of a file in UTF-8. -/
def readText (files : FileSystem) (path : String) : Except FileFault String := do
  match String.fromUTF8? (← files.readBytes path) with
  | some text => return text
  | none => throw .notText

/-! ## Writing -/

/-- Follows names from a place, given by its names from the top, and makes the directories that are
missing. -/
def makeDirectories (files : FileSystem) (place : List String) :
    List String → Except FileFault (FileSystem × List String)
  | [] => .ok (files, place)
  | name :: rest =>
    if name == ".." then makeDirectories files place.dropLast rest
    else
      let next := place ++ [name]
      match files.top.walk [] next with
      | .ok (.directory _) => makeDirectories files next rest
      | .ok (.file _) => .error .notADirectory
      | .error .notFound =>
        makeDirectories { files with top := FileTree.put (.directory []) next files.top } next rest
      | .error fault => .error fault

/-- Writes a file, in place of the one that is there. The directories above it are made. -/
def write (files : FileSystem) (path : String) (content : ByteArray) :
    Except FileFault FileSystem := do
  checkPath path
  let start := if Path.isAbsolute path then [] else files.workingDirectory
  let steps := Path.steps path
  let (files, place) ← files.makeDirectories start steps.dropLast
  match Path.fileName? path with
  | some name =>
    let target := place ++ [name]
    match files.top.walk [] target with
    | .ok (.directory _) => throw .isADirectory
    | .ok (.file _) | .error .notFound =>
      if Path.endsOpen path then throw .isADirectory
      else return { files with top := FileTree.put (.file content) target files.top }
    | .error fault => throw fault
  | none => throw .isADirectory

end FileSystem

end KubeOverlay
