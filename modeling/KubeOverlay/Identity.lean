import KubeOverlay.Ordered
/-!
# Types and identities of resources

A resource type is a group, a version and a kind; a resource is identified by its type and its name.
Both are totally ordered in agreement with equality: types by what is displayed of them, and types
that display alike by their parts; identities by type, then by name.
-/
namespace KubeOverlay

/-- A resource type. As a selector, an empty part stands for any. -/
structure GroupVersionKind where
  group : String
  version : String
  kind : String
deriving DecidableEq, Repr

namespace GroupVersionKind

/-- The selector of a kind in any group and version. -/
def ofKind (kind : String) : GroupVersionKind := ⟨"", "", kind⟩

/-- An `apiVersion` is a group and a version around the first slash, or a version of the core
group, whose name is empty. -/
def ofApiVersion (apiVersion kind : String) : GroupVersionKind :=
  let chars := apiVersion.toList
  match chars.dropWhile (· ≠ '/') with
  | _ :: version => ⟨String.ofList (chars.takeWhile (· ≠ '/')), String.ofList version, kind⟩
  | [] => ⟨"", apiVersion, kind⟩

def apiVersion (type : GroupVersionKind) : String :=
  if type.group = "" then type.version else type.group ++ "/" ++ type.version

def display (type : GroupVersionKind) : String :=
  type.group ++ "/" ++ type.version ++ ", Kind=" ++ type.kind

/-- Every part of the selector is empty or the type's own. -/
def isSelectedBy (type selector : GroupVersionKind) : Bool :=
  (selector.group == "" || selector.group == type.group) &&
    (selector.version == "" || selector.version == type.version) &&
    (selector.kind == "" || selector.kind == type.kind)

/-! ## Order -/

/-- By what is displayed, then by group, version and kind. -/
instance : Ord GroupVersionKind where
  compare := compareLex (compareOn display)
    (compareLex (compareOn group) (compareLex (compareOn version) (compareOn kind)))

instance : Std.TransOrd GroupVersionKind :=
  inferInstanceAs (Std.TransCmp (compareLex (compareOn display)
    (compareLex (compareOn group) (compareLex (compareOn version) (compareOn kind)))))

theorem eq_of_compare {a b : GroupVersionKind} (h : compare a b = .eq) : a = b := by
  have h : compareLex (compareOn display) (compareLex (compareOn group)
      (compareLex (compareOn version) (compareOn kind))) a b = .eq := h
  simp only [compareLex_eq_eq, compareOn] at h
  obtain ⟨_, hg, hv, hk⟩ := h
  cases a
  cases b
  simp only [mk.injEq]
  exact ⟨Std.LawfulEqCmp.eq_of_compare hg, Std.LawfulEqCmp.eq_of_compare hv,
    Std.LawfulEqCmp.eq_of_compare hk⟩

instance : Std.LawfulEqOrd GroupVersionKind where
  eq_of_compare := eq_of_compare

end GroupVersionKind

/-- What a resource is known by: its type and its name. -/
structure Identity where
  type : GroupVersionKind
  name : String
deriving DecidableEq, Repr

namespace Identity

def display (id : Identity) : String :=
  id.type.display ++ ", Name=" ++ id.name

/-- By type, then by name. -/
instance : Ord Identity where
  compare := compareLex (compareOn type) (compareOn name)

instance : Std.TransOrd Identity :=
  inferInstanceAs (Std.TransCmp (compareLex (compareOn type) (compareOn name)))

theorem eq_of_compare {a b : Identity} (h : compare a b = .eq) : a = b := by
  have h : compareLex (compareOn type) (compareOn name) a b = .eq := h
  simp only [compareLex_eq_eq, compareOn] at h
  cases a
  cases b
  simp only [mk.injEq]
  exact ⟨Std.LawfulEqCmp.eq_of_compare h.1, Std.LawfulEqCmp.eq_of_compare h.2⟩

instance : Std.LawfulEqOrd Identity where
  eq_of_compare := eq_of_compare

end Identity

end KubeOverlay
