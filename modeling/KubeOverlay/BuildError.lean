import KubeOverlay.Resource
import KubeOverlay.Manifest
/-!
# Build errors

What can go wrong when an application is built, with the fields and resources in which it did. The
outermost error gives the code and the help of a message, the root cause what really happened.
-/
namespace KubeOverlay

/-- Why a generator gives nothing. -/
inductive GeneratorFault where
  /-- A text without an equals sign. -/
  | notAPair (text : String)
  /-- A file source that ends in no name. -/
  | namelessSource (source : String)
  | unreadable (path : String) (fault : FileFault)
  | invalidKey (key : String)
  | duplicateKey (key : String)
deriving DecidableEq, Repr

def GeneratorFault.message : GeneratorFault → String
  | .notAPair text => "'" ++ text ++ "' is not KEY=VALUE"
  | .namelessSource source => "invalid file source '" ++ source ++ "'"
  | .unreadable path fault => "cannot read " ++ path ++ ": " ++ fault.message
  | .invalidKey key => "invalid key '" ++ key ++ "'"
  | .duplicateKey key => "duplicate key '" ++ key ++ "'"

inductive BuildError where
  | resource (e : ResourceError)
  | manifest (e : ManifestError)
  /-- A value along a path has the wrong shape. -/
  | typeMismatch (path expected : String) (found : Kind)
  /-- An edit failed at a field. -/
  | atField (path : String) (e : BuildError)
  /-- A pass failed on a resource. -/
  | inResource (id : Identity) (e : BuildError)
  /-- Several resources answer to a name that is referred to. -/
  | ambiguousReference (name : String) (candidates : List Identity)
  /-- A patch is for a resource that is not there. -/
  | patchTargetNotFound (id : Identity)
  | unknownDirective (path directive : String)
  | generator (name : String) (fault : GeneratorFault)
  | invalidPath (reason : String)
deriving DecidableEq, Repr

namespace BuildError

def message : BuildError → String
  | .resource e => e.message
  | .manifest e => e.message
  | .typeMismatch path expected found =>
    "expected " ++ expected ++ " at `" ++ path ++ "`, found " ++ found.name
  | .atField path e => "at `" ++ path ++ "`: " ++ e.message
  | .inResource id e => id.display ++ ": " ++ e.message
  | .ambiguousReference name candidates =>
    "reference '" ++ name ++ "' is ambiguous, it matches: " ++
      "; ".intercalate (candidates.map Identity.display)
  | .patchTargetNotFound id => "patch target not found: " ++ id.display
  | .unknownDirective path directive =>
    "merge failed at `" ++ path ++ "`: unknown $patch directive '" ++ directive ++ "'"
  | .generator name fault => "generator '" ++ name ++ "': " ++ fault.message
  | .invalidPath reason => "invalid path config: " ++ reason

/-- The code of a diagnostic. -/
def code : BuildError → String
  | .resource _ => "kinflate::core"
  | .manifest _ => "kinflate::core"
  | .typeMismatch .. => "kinflate::field::type_mismatch"
  | .atField .. => "kinflate::field::mutation"
  | .inResource .. => "kinflate::transform"
  | .ambiguousReference .. => "kinflate::reference::ambiguous"
  | .patchTargetNotFound _ => "kinflate::overlay::target_not_found"
  | .unknownDirective .. => "kinflate::overlay::merge"
  | .generator .. => "kinflate::generator"
  | .invalidPath _ => "kinflate::config::path"

/-- What a diagnostic advises. -/
def help? : BuildError → Option String
  | .ambiguousReference .. => some "qualify the reference path config with a group and version"
  | .patchTargetNotFound _ =>
    some "patches are matched by apiVersion, kind and metadata.name of a base resource"
  | _ => none

/-- The error itself, without the field and the resource in which it came up. -/
def rootCause : BuildError → BuildError
  | .atField _ e => e.rootCause
  | .inResource _ e => e.rootCause
  | e => e

end BuildError

end KubeOverlay
