import KubeOverlay.Command
/-!
# The program

Takes from the disk what a call needs, makes the call and does what comes of it: prints, writes the
output file and ends with the exit code.
-/
namespace KubeOverlay.Command

/-- What stands at a path of the disk. What is there and cannot be read is taken for a directory. -/
def onDisk (path : String) : IO (Option FileTree) := do
  try
    return some (.file (← IO.FS.readBinFile path))
  catch
    | .noFileOrDirectory .. => return none
    | _ => return some (.directory [])

/-- Adds what stands on the way along names from a place of the disk. -/
def fetchNames (files : FileSystem) (place : List String) : List String → IO FileSystem
  | [] => return files
  | name :: rest =>
    if name == "" || name == "." then fetchNames files place rest
    else if name == ".." then fetchNames files place.dropLast rest
    else do
      let place := place ++ [name]
      let put (t : FileTree) : FileSystem := { files with top := FileTree.put t place files.top }
      match files.top.walk [] place with
      | .ok (.directory _) => fetchNames files place rest
      | .ok (.file _) => return files
      | .error _ =>
        match ← onDisk ("/" ++ "/".intercalate place) with
        | some (.directory entries) => fetchNames (put (.directory entries)) place rest
        | some (.file content) => return put (.file content)
        | none => return files

/-- Adds what stands on the way to a path of the disk. -/
def fetch (files : FileSystem) (path : String) : IO FileSystem :=
  match FileSystem.checkPath path with
  | .ok _ => fetchNames files [] (files.fullNames path)
  | .error _ => return files

/-- Adds the manifest of a directory, all that it lists and, for so many levels, its bases. -/
def fetchApplication : (levels : Nat) → FileSystem → String → IO FileSystem
  | levels, files, directory => do
    let files ← fetch files (Path.join directory Manifest.fileName)
    match Application.load files directory with
    | .error _ => return files
    | .ok app =>
      let files ← app.listedFiles.foldlM fetch files
      match levels with
      | 0 => return files
      | levels + 1 =>
        app.manifest.bases.foldlM
          (fun files base => fetchApplication levels files (Path.join directory base)) files

/-- What a call needs of the disk. -/
def fetchFor (files : FileSystem) : Invocation → IO FileSystem
  | .run action directory _ => do
    let files ← fetchApplication Manifest.maxBaseDepth files directory
    match action with
    | .build (some output) => fetch files output
    | _ => return files
  | _ => return files

/-- Writes a file of an outcome to the disk. -/
def store (outcome : Outcome) (path : String) : IO Unit := do
  match outcome.files.readBytes path with
  | .error _ => return
  | .ok content =>
    let above := "/".intercalate (Path.names path).dropLast
    unless above == "" do IO.FS.createDirAll above
    IO.FS.writeBinFile path content

/-- Prints what an outcome says after its file is written. The exit code tells whether it was. -/
def deliver (outcome : Outcome) : IO UInt32 := do
  try
    if let some path := outcome.written then store outcome path
    IO.print outcome.stdout
    IO.eprint outcome.stderr
    return outcome.exit.toUInt32
  catch fault =>
    IO.eprintln ("Error: IO error: " ++ toString fault)
    return fileFailure.toUInt32

end KubeOverlay.Command

open KubeOverlay in
def main (arguments : List String) : IO UInt32 := do
  let environment ← IO.getEnv Command.outputVariable
  let directory ← IO.currentDir
  let files ← Command.fetch ⟨.directory [], Path.steps directory.toString⟩ "."
  let files ← Command.fetchFor files (Command.read environment false arguments)
  Command.deliver (Command.call files environment arguments)
