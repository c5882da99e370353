import KubeOverlay.BuildError
import KubeOverlay.Json
/-!
# Strategic merge

A patch is merged onto a document: maps key by key, null removing a key, and some lists element by
element, where a key identifies the elements. Every other value replaces what was there. A map in a
patch can say under `$patch` that it removes its target or replaces it as a whole; nothing of that
stays in the result.
-/
namespace KubeOverlay.Patch

/-- The key that identifies the elements of a list field in the resources of a type. -/
def mergeKey? (type : GroupVersionKind) (field : String) : Option String :=
  if ["containers", "initContainers", "ephemeralContainers", "volumes", "env",
      "imagePullSecrets"].contains field then some "name"
  else if ["volumeMounts", "volumeDevices"].contains field then some "mountPath"
  else if field == "ports" then some (if type.kind == "Service" then "port" else "containerPort")
  else none

/-! ## Directives -/

/-- The key under which a map of a patch holds a directive. -/
def directiveKey : String := "$patch"

def directive? (fields : Fields) : Option String :=
  (Ordered.find? directiveKey fields).bind Document.string?

/-- Whether a value of a patch removes its target. -/
def isDelete : Document → Bool
  | .map fields => directive? fields == some "delete"
  | _ => false

mutual
/-- A value of a patch without directives at any depth. -/
def strip : Document → Document
  | .list items => .list (stripItems items)
  | .map fields => .map (stripFields fields)
  | .null => .null
  | .bool b => .bool b
  | .number n => .number n
  | .string s => .string s

/-- Elements without directives. -/
def stripItems : List Document → List Document
  | [] => []
  | d :: rest => strip d :: stripItems rest

/-- Fields without directives. -/
def stripFields : List (String × Document) → List (String × Document)
  | [] => []
  | (key, d) :: rest =>
    if key == directiveKey then stripFields rest else (key, strip d) :: stripFields rest
end

/-! ## Elements with keys -/

/-- Whether all elements are maps with a key. -/
def allKeyed (key : String) (items : List Document) : Bool :=
  items.all fun d => (d.field? key).isSome

/-- Whether an element has a value under a key, or like it has none. -/
def hasKeyValue (key : String) (value : Option Document) (d : Document) : Bool :=
  match d.field? key, value with
  | some a, some b => a.equal b
  | none, none => true
  | _, _ => false

/-- The value of a key as it is shown in a path. -/
def keyText : Option Document → String
  | some (.string s) => s
  | some d => Json.write d
  | none => "?"

/-- The path of a field. -/
def fieldPath (path key : String) : String := if path == "" then key else path ++ "." ++ key

/-- The path of an element. -/
def itemPath (path key : String) (value : Option Document) : String :=
  path ++ "[" ++ key ++ "=" ++ keyText value ++ "]"

/-! ## Merging -/

mutual
/-- A value of a patch merged onto a value in a field, if it stands in one, at a path. -/
def mergeValue (type : GroupVersionKind) (field : Option String) (path : String) :
    (patch : Document) → (base : Document) → Except BuildError Document
  | .map fields, .map base =>
    match directive? fields with
    | some "replace" => .ok (.map (stripFields fields))
    | some "delete" | some "merge" | none => do return .map (← mergeFields type path fields base)
    | some other => .error (.unknownDirective path other)
  | .list items, .list base =>
    let key := field.bind (mergeKey? type)
    match key.filter (fun key => allKeyed key base && allKeyed key items) with
    | some key => do return .list (← mergeItems type field path key items base)
    | none => .ok (.list (stripItems (items.filter (!isDelete ·))))
  | patch, _ => .ok (strip patch)

/-- The fields of a map of a patch merged onto those of a map. -/
def mergeFields (type : GroupVersionKind) (path : String) :
    (patch : List (String × Document)) → (base : Fields) → Except BuildError Fields
  | [], base => .ok base
  | (key, d) :: rest, base =>
    if key == directiveKey then mergeFields type path rest base
    else if d.kind == .null || isDelete d then mergeFields type path rest (Ordered.erase key base)
    else
      match Ordered.find? key base with
      | some b => do
        let merged ← mergeValue type (some key) (fieldPath path key) d b
        mergeFields type path rest (Ordered.insert key merged base)
      | none => mergeFields type path rest (Ordered.insert key (strip d) base)

/-- The elements of a list of a patch merged onto those of a list, by a key. -/
def mergeItems (type : GroupVersionKind) (field : Option String) (path key : String) :
    (patch : List Document) → (base : List Document) → Except BuildError (List Document)
  | [], base => .ok base
  | d :: rest, base =>
    let value := d.field? key
    if isDelete d then
      mergeItems type field path key rest (base.filter (!hasKeyValue key value ·))
    else
      match base.findIdx? (hasKeyValue key value) with
      | some index => do
        let target := (base[index]?).getD .null
        let merged ← mergeValue type field (itemPath path key value) d target
        mergeItems type field path key rest (base.set index merged)
      | none => mergeItems type field path key rest (base ++ [strip d])
end

/-- A patch merged onto the object of a resource of a type. -/
def merge (type : GroupVersionKind) (base patch : Document) : Except BuildError Document :=
  mergeValue type none "" patch base

end KubeOverlay.Patch
