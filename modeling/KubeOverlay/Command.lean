import KubeOverlay.Application
import KubeOverlay.Command.Arguments
/-!
# The command line

What the program does when it is called: it builds an application and prints its resources or writes
them to a file, or it describes an application. The outcome is what is printed, the files afterwards
and the exit code.
-/
namespace KubeOverlay.Command

/-! ## Exit codes -/

def success : Nat := 0

def misuseCode : Nat := 2

/-- A pass, a generator or a patch failed. -/
def buildFailure : Nat := 3

/-- A manifest or a resource file is missing or invalid. -/
def manifestFailure : Nat := 4

/-- A file cannot be read or written. -/
def fileFailure : Nat := 5

/-- The exit code of an error, by its root cause. -/
def exitCode (e : BuildError) : Nat :=
  match e.rootCause with
  | .manifest (.unreadable _) => fileFailure
  | .manifest _ => manifestFailure
  | .resource .notAMap => manifestFailure
  | .resource .malformedYaml => manifestFailure
  | .resource (.invalidDocument ..) => manifestFailure
  | _ => buildFailure

/-! ## Outcomes -/

/-- What a call of the program leaves. -/
structure Outcome where
  exit : Nat
  stdout : String := ""
  stderr : String := ""
  files : FileSystem
  /-- The file that was written. -/
  written : Option String := none

/-- The outcome of an error after something was printed. -/
def failed (files : FileSystem) (stdout : String) (e : BuildError) : Outcome :=
  { exit := exitCode e, stdout, stderr := "Error: " ++ e.message ++ "\n", files }

/-! ## Building -/

/-- Prints the resources of an application or writes them to a file. -/
def build (files : FileSystem) (app : Application) (output : Option String) (debug : Bool) :
    Outcome :=
  let trace := if debug then "DEBUG Loaded manifest from " ++ app.directory ++ "\n" else ""
  match app.resources files with
  | .error e => failed files "" e
  | .ok c =>
    match output with
    | none => { exit := success, stdout := c.encode, stderr := trace, files }
    | some path =>
      match files.write path c.encode.toUTF8 with
      | .error fault =>
        { exit := fileFailure
          stderr := "Error: IO error: " ++ path ++ ": " ++ fault.message ++ "\n"
          files }
      | .ok files =>
        { exit := success
          stderr := trace ++ "✓ Wrote " ++ toString c.size ++ " resource(s) to " ++ path ++ "\n"
          files
          written := some path }

/-! ## Describing -/

/-- A headline underlined in its length. -/
def headline (title : String) : List String :=
  [title, String.ofList (List.replicate title.length '='), ""]

/-- A list under its title after a blank line; there is nothing to see of an empty one. -/
def listing (title : String) (lines : List String) : List String :=
  if lines.isEmpty then [] else ["", title ++ ":"] ++ lines

/-- The lines about a manifest. -/
def manifestLines (app : Application) : List String :=
  let m := app.manifest
  let pairs (entries : List (String × String)) : List String :=
    entries.map fun e => "  " ++ e.1 ++ ": " ++ e.2
  let dashed (items : List String) : List String := items.map ("  - " ++ ·)
  headline (m.name.getD app.directory) ++
    (if m.namePrefix == "" then [] else ["Name Prefix: " ++ m.namePrefix]) ++
    listing "Labels" (pairs m.objectLabels) ++
    listing "Annotations" (pairs m.objectAnnotations) ++
    listing "Resources" (dashed m.resources) ++
    listing "Bases" (dashed m.bases) ++
    listing "Patches" (dashed m.patches) ++
    listing "Generators" (dashed (m.configMaps.map ("ConfigMap " ++ ·.name) ++
      m.secrets.map ("Secret " ++ ·.name)))

/-- The line about a resource: its kind and its name, and what the name has become. -/
def resourceLine (e : Identity × Resource) : String :=
  let name := e.2.name?.getD ""
  "  - " ++ e.1.type.kind ++ " " ++ e.1.name ++ (if name == e.1.name then "" else " -> " ++ name)

def unlines (lines : List String) : String := String.join (lines.map (· ++ "\n"))

/-- Prints what a manifest says and, if asked for, the resources built from it. -/
def describe (files : FileSystem) (app : Application) (all : Bool) : Outcome :=
  let about := unlines (manifestLines app)
  if all then
    match app.resources files with
    | .error e => failed files about e
    | .ok c =>
      { exit := success
        stdout := about ++ unlines (["", "Output:"] ++ c.entries.map resourceLine)
        files }
  else { exit := success, stdout := about, files }

/-! ## Calls -/

/-- The version that is printed. -/
def versionNumber : String := "0.1.0"

def usage : String :=
  unlines ["Compose Kubernetes manifests from bases, patches and generators", "",
    "Usage: " ++ programName ++ " [--debug] build [-o <OUTPUT>] [PATH]",
    "       " ++ programName ++ " [--debug] show [--all] [PATH]"]

/-- Does what the arguments ask for. -/
def perform (files : FileSystem) : Invocation → Outcome
  | .misuse => { exit := misuseCode, stderr := usage, files }
  | .help => { exit := success, stdout := usage, files }
  | .version program =>
    { exit := success, stdout := program ++ " " ++ versionNumber ++ "\n", files }
  | .run action directory debug =>
    match Application.load files directory with
    | .error e => failed files "" (.manifest e)
    | .ok app =>
      match action with
      | .build output => build files app output debug
      | .describe all => describe files app all

/-- The variable of the environment that names an output file. -/
def outputVariable : String := "KINFLATE_OUTPUT"

/-- A call of the program with arguments and the output file of the environment. -/
def call (files : FileSystem) (environment : Option String) (arguments : List String) : Outcome :=
  perform files (read environment false arguments)

end KubeOverlay.Command
