/-!
# Paths

Paths are texts in which slashes separate names. Joining keeps what is written; only the walk
through a file tree gives dots a meaning.
-/
namespace KubeOverlay.Path

def isAbsolute (path : String) : Bool := path.toList.head? == some '/'

/-- A path inside a directory. An absolute path stands for itself, and an empty one puts a slash
after the directory. -/
def join (directory path : String) : String :=
  if isAbsolute path || directory == "" then path
  else if directory.toList.getLast? == some '/' then directory ++ path
  else directory ++ "/" ++ path

/-- The names between the slashes, with empty ones where slashes meet or stand at an end. -/
def names (path : String) : List String := (path.toList.splitOn '/').map String.ofList

/-- The names that count: neither empty nor the dot for the directory itself. -/
def steps (path : String) : List String := (names path).filter fun n => n != "" && n != "."

/-- The name at the end of a path; `..` is no name. -/
def fileName? (path : String) : Option String := (steps path).getLast?.filter (· != "..")

/-- Whether a name at the end is followed by a slash or a dot. -/
def endsOpen (path : String) : Bool := (names path).getLast?.any fun n => n == "" || n == "."

end KubeOverlay.Path
