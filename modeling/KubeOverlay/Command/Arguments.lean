/-!
# Arguments of the command line

What a list of arguments asks for. Arguments are read from the left; the first that is out of place
makes all of them a misuse, unless the version or the help was asked for before it.
-/
namespace KubeOverlay.Command

/-- What is done with an application. -/
inductive Action where
  /-- Builds it and prints the resources or writes them to a file. -/
  | build (output : Option String)
  /-- Describes it, and with `all` its resources too. -/
  | describe (all : Bool)
deriving DecidableEq, Repr

/-- What a list of arguments asks for. -/
inductive Invocation where
  | run (action : Action) (directory : String) (debug : Bool)
  | version (program : String)
  | help
  | misuse
deriving DecidableEq, Repr

/-- The two commands. -/
inductive Subcommand where
  | build | describe
deriving DecidableEq, Repr

/-- The word for a command. -/
def Subcommand.word : Subcommand → String
  | .build => "build"
  | .describe => "show"

/-- The name of the program. -/
def programName : String := "kinflate"

/-- Why the reading of arguments ends early. -/
inductive Interruption where
  | version | help | misuse
deriving DecidableEq, Repr

/-- The arguments of a command that were read. -/
structure Options where
  debug : Bool := false
  all : Bool := false
  directory : Option String := none
  output : Option String := none
deriving DecidableEq, Repr

namespace Options

/-- A directory, which is given once and not empty. -/
def setDirectory (o : Options) (directory : String) : Except Interruption Options :=
  if o.directory.isSome || directory == "" then .error .misuse
  else .ok { o with directory := some directory }

/-- An output file, which is given once and not empty. -/
def setOutput (o : Options) (output : String) : Except Interruption Options :=
  if o.output.isSome || output == "" then .error .misuse
  else .ok { o with output := some output }

def setDebug (o : Options) : Except Interruption Options :=
  if o.debug then .error .misuse else .ok { o with debug := true }

def setAll (o : Options) : Except Interruption Options :=
  if o.all then .error .misuse else .ok { o with all := true }

end Options

/-- Whether an argument is a flag or ends the flags. A hyphen alone is neither. -/
def isFlag (argument : String) : Bool :=
  argument.toList.head? == some '-' && argument != "-"

/-- A long flag without its hyphens: the name, and the value after an equals sign if there is one.
-/
def splitFlag (flag : List Char) : String × Option String :=
  match flag.span (· != '=') with
  | (name, _ :: value) => (String.ofList name, some (String.ofList value))
  | (name, []) => (String.ofList name, none)

/-- The arguments of a command. After two hyphens all are directories. -/
def readOptions (sub : Subcommand) : (flagsAllowed : Bool) → Options → List String →
    Except Interruption Options
  | _, o, [] => .ok o
  | false, o, argument :: rest => do
    readOptions sub false (← o.setDirectory argument) rest
  | true, o, argument :: rest =>
    match argument.toList with
    | ['-', '-'] => readOptions sub false o rest
    | '-' :: '-' :: flag =>
      match sub, splitFlag flag, rest with
      | _, ("debug", none), rest => do readOptions sub true (← o.setDebug) rest
      | .describe, ("all", none), rest => do readOptions sub true (← o.setAll) rest
      | .build, ("output", some value), rest => do readOptions sub true (← o.setOutput value) rest
      | .build, ("output", none), value :: rest =>
        if isFlag value then .error .misuse
        else do readOptions sub true (← o.setOutput value) rest
      | _, ("version", none), _ => .error .version
      | _, ("help", none), _ => .error .help
      | _, _, _ => .error .misuse
    | '-' :: letter :: value =>
      match sub, letter, value, rest with
      | .build, 'o', [], value :: rest =>
        if isFlag value then .error .misuse
        else do readOptions sub true (← o.setOutput value) rest
      | .build, 'o', [], [] => .error .misuse
      | .build, 'o', '=' :: value, rest => do
        readOptions sub true (← o.setOutput (String.ofList value)) rest
      | .build, 'o', value, rest => do
        readOptions sub true (← o.setOutput (String.ofList value)) rest
      | _, 'V', _, _ => .error .version
      | _, 'h', _, _ => .error .help
      | _, _, _, _ => .error .misuse
    | _ => do readOptions sub true (← o.setDirectory argument) rest

/-- What a command is asked to do. Without an output file the one of the environment is taken, which
must not be empty; without a directory it is the working directory. -/
def invocationOf (sub : Subcommand) (debug : Bool) (environment : Option String)
    (arguments : List String) : Invocation :=
  match readOptions sub true {} arguments with
  | .error .version => .version (programName ++ "-" ++ sub.word)
  | .error .help => .help
  | .error .misuse => .misuse
  | .ok o =>
    let directory := o.directory.getD "."
    match sub with
    | .describe => .run (.describe o.all) directory (debug || o.debug)
    | .build =>
      match o.output.or environment with
      | some "" => .misuse
      | output => .run (.build output) directory (debug || o.debug)

/-- What the arguments of the program ask for, given whether the debug flag was read and the output
file of the environment. -/
def read (environment : Option String) : (debug : Bool) → List String → Invocation
  | _, [] => .misuse
  | debug, argument :: rest =>
    if argument == "build" then invocationOf .build debug environment rest
    else if argument == "show" then invocationOf .describe debug environment rest
    else if argument == "help" then
      if rest == [] || [["build"], ["show"], ["help"]].contains rest then .help else .misuse
    else if argument == "--debug" then if debug then .misuse else read environment true rest
    else if argument == "--version" || "-V".toList.isPrefixOf argument.toList then
      .version programName
    else if argument == "--help" || "-h".toList.isPrefixOf argument.toList then .help
    else .misuse

end KubeOverlay.Command
