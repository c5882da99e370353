import KubeOverlay.FieldPath
/-!
# Path rules

A path rule says where in the resources of a type a pass acts. The tables of this module are the
ones that a build uses: where names stand, where labels and annotations go, and where resources are
referred to by name.
-/
namespace KubeOverlay

/-- A path in the resources of a type, or of all types. -/
structure PathRule where
  selector : Option GroupVersionKind
  path : FieldPath
  /-- Whether what is missing of the path is created. -/
  create : Bool
deriving DecidableEq, Repr

namespace PathRule

/-- A rule whose path has keys, none of them empty. -/
def make (selector : Option GroupVersionKind) (path : FieldPath) (create : Bool) :
    Except BuildError PathRule :=
  if path.isEmpty then .error (.invalidPath "path must not be empty")
  else if path.contains "" then .error (.invalidPath ("empty segment in `" ++ path.dotted ++ "`"))
  else .ok ⟨selector, path, create⟩

/-- A rule of a path that is written with dots. -/
def parse (selector : Option GroupVersionKind) (dotted : String) (create : Bool) :
    Except BuildError PathRule :=
  make selector (dotted.splitOn ".") create

/-- Whether a rule is for the resources of a type. -/
def appliesTo (rule : PathRule) (type : GroupVersionKind) : Bool :=
  rule.selector.all type.isSelectedBy

/-- A rule for resources of any type. -/
def everywhere (path : FieldPath) (create : Bool) : PathRule := ⟨none, path, create⟩

/-- A rule for a kind in any group and version. -/
def ofKind (kind : String) (path : FieldPath) (create : Bool) : PathRule :=
  ⟨some (.ofKind kind), path, create⟩

/-! ## Kinds -/

/-- The kinds with a pod template at `spec.template`. -/
def templatedKinds : List String :=
  ["Deployment", "ReplicaSet", "DaemonSet", "StatefulSet", "Job", "ReplicationController"]

/-- The kinds that own their pods by the labels at `spec.selector.matchLabels`. -/
def selectingKinds : List String := ["Deployment", "ReplicaSet", "DaemonSet", "StatefulSet"]

/-! ## Names, labels and annotations -/

/-- Where the names of resources stand. -/
def names : List PathRule := [everywhere ["metadata", "name"] false]

/-- Where labels go: to resources and pod templates, and to the selectors that must still select
them. -/
def labels : List PathRule :=
  [everywhere ["metadata", "labels"] true,
    ofKind "Service" ["spec", "selector"] true,
    ofKind "ReplicationController" ["spec", "selector"] true] ++
  selectingKinds.map (ofKind · ["spec", "selector", "matchLabels"] true) ++
  templatedKinds.map (ofKind · ["spec", "template", "metadata", "labels"] true) ++
  [ofKind "Job" ["spec", "selector", "matchLabels"] false,
    ofKind "CronJob" ["spec", "jobTemplate", "metadata", "labels"] true,
    ofKind "CronJob" ["spec", "jobTemplate", "spec", "selector", "matchLabels"] false,
    ofKind "CronJob" ["spec", "jobTemplate", "spec", "template", "metadata", "labels"] true,
    ofKind "PodDisruptionBudget" ["spec", "selector", "matchLabels"] false,
    ofKind "NetworkPolicy" ["spec", "podSelector", "matchLabels"] false]

/-- Where annotations go: to resources and pod templates. -/
def annotations : List PathRule :=
  [everywhere ["metadata", "annotations"] true] ++
  templatedKinds.map (ofKind · ["spec", "template", "metadata", "annotations"] true) ++
  [ofKind "CronJob" ["spec", "jobTemplate", "metadata", "annotations"] true,
    ofKind "CronJob" ["spec", "jobTemplate", "spec", "template", "metadata", "annotations"] true]

/-- The rules of paths in a pod spec, for all kinds that hold one. -/
def inPodSpecs (paths : List FieldPath) : List PathRule :=
  paths.flatMap fun path =>
    [ofKind "Pod" ("spec" :: path) false] ++
    templatedKinds.map (ofKind · (["spec", "template", "spec"] ++ path) false) ++
    [ofKind "CronJob" (["spec", "jobTemplate", "spec", "template", "spec"] ++ path) false]

end PathRule

/-! ## References -/

/-- Where resources that a selector selects are referred to by name. -/
structure ReferenceRule where
  selector : GroupVersionKind
  rules : List PathRule
deriving DecidableEq, Repr

namespace ReferenceRule

open PathRule (ofKind inPodSpecs)

/-- Where the resources of a kind are referred to by name. -/
def toKind (kind : String) (rules : List PathRule) : ReferenceRule := ⟨.ofKind kind, rules⟩

/-- Where resources refer to others by name. -/
def references : List ReferenceRule :=
  [toKind "ConfigMap" (inPodSpecs
      [["volumes", "configMap", "name"],
        ["volumes", "projected", "sources", "configMap", "name"],
        ["containers", "env", "valueFrom", "configMapKeyRef", "name"],
        ["initContainers", "env", "valueFrom", "configMapKeyRef", "name"],
        ["containers", "envFrom", "configMapRef", "name"],
        ["initContainers", "envFrom", "configMapRef", "name"]]),
    toKind "Secret" (inPodSpecs
      [["volumes", "secret", "secretName"],
        ["volumes", "projected", "sources", "secret", "name"],
        ["containers", "env", "valueFrom", "secretKeyRef", "name"],
        ["initContainers", "env", "valueFrom", "secretKeyRef", "name"],
        ["containers", "envFrom", "secretRef", "name"],
        ["initContainers", "envFrom", "secretRef", "name"],
        ["imagePullSecrets", "name"]] ++
      [ofKind "Ingress" ["spec", "tls", "secretName"] false,
        ofKind "ServiceAccount" ["imagePullSecrets", "name"] false,
        ofKind "ServiceAccount" ["secrets", "name"] false]),
    toKind "Service"
      [ofKind "Ingress" ["spec", "backend", "serviceName"] false,
        ofKind "Ingress" ["spec", "rules", "http", "paths", "backend", "serviceName"] false,
        ofKind "Ingress" ["spec", "rules", "http", "paths", "backend", "service", "name"] false,
        ofKind "StatefulSet" ["spec", "serviceName"] false],
    toKind "ServiceAccount" (inPodSpecs [["serviceAccountName"]] ++
      [ofKind "RoleBinding" ["subjects", "name"] false,
        ofKind "ClusterRoleBinding" ["subjects", "name"] false]),
    toKind "PersistentVolumeClaim" (inPodSpecs
      [["volumes", "persistentVolumeClaim", "claimName"]]),
    toKind "Role" [ofKind "RoleBinding" ["roleRef", "name"] false],
    toKind "ClusterRole"
      [ofKind "RoleBinding" ["roleRef", "name"] false,
        ofKind "ClusterRoleBinding" ["roleRef", "name"] false],
    toKind "Deployment"
      [ofKind "HorizontalPodAutoscaler" ["spec", "scaleTargetRef", "name"] false]]

end ReferenceRule

end KubeOverlay
