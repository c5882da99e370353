/-!
# YAML tokens

What a YAML text is made of. The starts and ends of block collections are tokens too: they stand
where the indentation changes.
-/
namespace KubeOverlay.Yaml

inductive Token where
  /-- `%YAML` with a version. -/
  | version (major minor : Nat)
  /-- `%TAG` with a handle and what it stands for. -/
  | handle (name expansion : String)
  | documentStart
  | documentEnd
  | blockSequenceStart
  | blockMappingStart
  | blockEnd
  | flowSequenceStart
  | flowSequenceEnd
  | flowMappingStart
  | flowMappingEnd
  | blockEntry
  | flowEntry
  | key
  | value
  | alias (name : String)
  | anchor (name : String)
  /-- A tag by its handle, which is empty for a verbatim tag, and its suffix. -/
  | tag (handle suffix : String)
  | scalar (text : String) (plain : Bool)
  | streamEnd
deriving DecidableEq, Repr

end KubeOverlay.Yaml
