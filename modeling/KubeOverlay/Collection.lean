import KubeOverlay.Progress
import KubeOverlay.Resource
import KubeOverlay.Yaml.Read
import KubeOverlay.Yaml.Write
/-!
# Collections of resources

Resources in the order of their keys. A key is the identity with which a resource came in; passes
edit contents and never keys, so a resource is still found under the name it was declared with.
Collections are read from and written to streams of YAML documents.
-/
namespace KubeOverlay

/-- Resources by ascending key. -/
structure Collection where
  entries : List (Identity × Resource)
  ascending : Ordered.Ascending entries

namespace Collection

def empty : Collection := ⟨[], Ordered.ascending_nil⟩

instance : Inhabited Collection := ⟨empty⟩

def size (c : Collection) : Nat := c.entries.length

def isEmpty (c : Collection) : Bool := c.entries.isEmpty

def ids (c : Collection) : List Identity := c.entries.map (·.1)

def find? (id : Identity) (c : Collection) : Option Resource := Ordered.find? id c.entries

def contains (id : Identity) (c : Collection) : Bool := Ordered.contains id c.entries

/-- Puts a resource under a key, in place of the one that is there. -/
def put (id : Identity) (r : Resource) (c : Collection) : Collection :=
  ⟨Ordered.insert id r c.entries, Ordered.ascending_insert id r c.entries c.ascending⟩

def erase (id : Identity) (c : Collection) : Collection :=
  ⟨Ordered.erase id c.entries, Ordered.ascending_erase id c.entries c.ascending⟩

/-- Adds a resource under a key that is not taken. -/
def insert (id : Identity) (r : Resource) (c : Collection) : Except ResourceError Collection :=
  if c.contains id then .error (.duplicate id) else .ok (c.put id r)

/-- Adds a resource under its own identity. -/
def add (r : Resource) (c : Collection) : Except ResourceError Collection := do
  c.insert (← r.identity?) r

/-- Adds the resources of another collection, up to the first whose key is taken. -/
def merge (c other : Collection) : Progress ResourceError Collection :=
  Progress.sequence (fun e c => .ofExcept c (c.insert e.1 e.2)) other.entries c

/-- Equal keys with equal resources. -/
def equal (a b : Collection) : Bool :=
  a.size == b.size &&
    (a.entries.zip b.entries).all (fun e => e.1.1 == e.2.1 && e.1.2.equal e.2.2)

/-! ## Editing contents -/

/-- Edits the resources of entries in order, up to the first that is stopped. -/
def editEntries {ε : Type} (f : Identity → Resource → Progress ε Resource) :
    List (Identity × Resource) → Progress ε (List (Identity × Resource))
  | [] => .done []
  | (id, r) :: rest =>
    let p := f id r
    match p.error? with
    | some e => .stopped ((id, p.reached) :: rest) e
    | none => (editEntries f rest).map ((id, p.reached) :: ·)

theorem keys_editEntries {ε : Type} (f : Identity → Resource → Progress ε Resource)
    (entries : List (Identity × Resource)) :
    (editEntries f entries).reached.map (·.1) = entries.map (·.1) := by
  induction entries with
  | nil => rfl
  | cons e rest ih =>
    obtain ⟨id, r⟩ := e
    simp only [editEntries]
    split
    · simp [Progress.stopped]
    · simp [Progress.map, ih]

theorem ascending_of_keys {a b : List (Identity × Resource)} (same : a.map (·.1) = b.map (·.1))
    (ascending : Ordered.Ascending b) : Ordered.Ascending a := by
  have keys : ∀ l : List (Identity × Resource),
      Ordered.Ascending l ↔ (l.map (·.1)).Pairwise (fun x y => compare x y = .lt) := fun l => by
    simp [Ordered.Ascending, List.pairwise_map]
  rw [keys] at ascending ⊢
  rwa [same]

/-- Edits the resources in key order, up to the first that is stopped. The keys stay. -/
def edit {ε : Type} (f : Identity → Resource → Progress ε Resource) (c : Collection) :
    Progress ε Collection :=
  let p := editEntries f c.entries
  ⟨⟨p.reached, ascending_of_keys (keys_editEntries f c.entries) c.ascending⟩, p.error?⟩

/-! ## Streams -/

/-- Adds the documents of a stream from an index on. Null documents count but add nothing. -/
def addDocuments (index : Nat) :
    List (Option Document) → Collection → Except ResourceError Collection
  | [], c => .ok c
  | none :: _, _ => .error .malformedYaml
  | some .null :: rest, c => addDocuments (index + 1) rest c
  | some d :: rest, c =>
    match (Resource.mk d false).identity? with
    | .error cause => .error (.invalidDocument index cause)
    | .ok id =>
      match c.insert id ⟨d, false⟩ with
      | .error e => .error e
      | .ok c => addDocuments (index + 1) rest c

/-- The resources of a stream of YAML documents. -/
def decode (text : String) : Except ResourceError Collection :=
  addDocuments 0 (Yaml.documents text) empty

/-- The stream of YAML documents of the resources in key order. -/
def encode (c : Collection) : String :=
  "---\n".intercalate (c.entries.map fun e => Yaml.write e.2.object)

end Collection

end KubeOverlay
