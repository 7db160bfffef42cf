import ClusterWatch.Cluster.Metadata

/-!
# Workloads

Deployments, daemon sets and stateful sets: objects that run pods made from a template. A template
refers to configs from its volumes and from the environments of its containers.
-/

namespace ClusterWatch

/-- A source of environment variables of a container; a source may name a config map, a
secret, or neither. -/
structure EnvSource where
  /-- The name of the config map that the source takes all keys of. -/
  configMap : Option String
  /-- The name of the secret that the source takes all keys of. -/
  secret : Option String
  deriving DecidableEq, Repr, Inhabited

/-- An environment variable of a container, by the configs that its value is a key of. -/
structure EnvVariable where
  /-- The name of the config map that holds the value. -/
  configMap : Option String
  /-- The name of the secret that holds the value. -/
  secret : Option String
  deriving DecidableEq, Repr, Inhabited

/-- A container of a template. -/
structure Container where
  /-- The names of its ports, for those that have one. -/
  portNames : List String
  /-- The sources of environment variables. -/
  envFrom : List EnvSource
  /-- The environment variables. -/
  env : List EnvVariable
  deriving DecidableEq, Repr, Inhabited

/-- A volume of a template, by the configs that it shows as files. -/
structure TemplateVolume where
  /-- The name of the config map that the volume shows. -/
  configMap : Option String
  /-- The name of the secret that the volume shows. -/
  secret : Option String
  deriving DecidableEq, Repr, Inhabited

/-- The template from which a workload makes its pods. -/
structure PodTemplate where
  /-- The annotations of the pods. -/
  annotations : Option TextMap
  /-- The containers. -/
  containers : List Container
  /-- The containers that run before the others. -/
  initContainers : List Container
  /-- The volumes. -/
  volumes : List TemplateVolume
  deriving DecidableEq, Repr, Inhabited

/-- The object that describes a workload of any kind. -/
structure WorkloadObject where
  /-- The metadata. -/
  metadata : Metadata
  /-- The template, if the workload is specified at all. -/
  template : Option PodTemplate
  deriving DecidableEq, Repr, Inhabited

instance : ClusterObject WorkloadObject := ⟨WorkloadObject.metadata⟩

/-- The kinds of workloads. -/
inductive WorkloadKind where
  /-- Deployments. -/
  | deployment
  /-- Daemon sets. -/
  | daemonSet
  /-- Stateful sets. -/
  | statefulSet
  deriving DecidableEq, Repr, Inhabited

/-- The name of a kind of workloads. -/
def WorkloadKind.name : WorkloadKind → String
  | .deployment => "Deployment"
  | .daemonSet => "DaemonSet"
  | .statefulSet => "StatefulSet"

/-- The name under which the API server collects the workloads of a kind. -/
def WorkloadKind.plural : WorkloadKind → String
  | .deployment => "deployments"
  | .daemonSet => "daemonsets"
  | .statefulSet => "statefulsets"

/-- The kind of workloads of that name. -/
def WorkloadKind.ofName? (name : String) : Option WorkloadKind :=
  [.deployment, .daemonSet, .statefulSet].find? fun (kind : WorkloadKind) => kind.name = name

/-- The place of a kind of workloads in their order. -/
def WorkloadKind.rank : WorkloadKind → Nat
  | .deployment => 0
  | .daemonSet => 1
  | .statefulSet => 2

/-- What identifies a workload within a namespace. -/
structure WorkloadKey where
  /-- The kind of the workload. -/
  kind : WorkloadKind
  /-- The name of the workload. -/
  name : String
  deriving DecidableEq, Repr, Inhabited

/-- By kind and then by name. -/
instance : Ord WorkloadKey :=
  ⟨compareLex (compareOn (·.kind.rank)) (compareOn WorkloadKey.name)⟩

instance : Std.TransOrd WorkloadKey :=
  inferInstanceAs
    (Std.TransCmp (compareLex (compareOn fun k => k.kind.rank) (compareOn WorkloadKey.name)))

instance : Std.LawfulEqOrd WorkloadKey where
  eq_of_compare {x y} h := by
    have h : compareLex (compareOn fun k => k.kind.rank) (compareOn WorkloadKey.name) x y = .eq := h
    rw [compareLex_eq_eq] at h
    obtain ⟨hkind, hname⟩ := h
    obtain ⟨xkind, xname⟩ := x
    obtain ⟨ykind, yname⟩ := y
    simp only [compareOn, Std.LawfulEqCmp.compare_eq_iff_eq] at hkind hname
    cases xkind <;> cases ykind <;> simp_all [WorkloadKind.rank]

/-- The text of a key: kind and name, joined by a slash. -/
def WorkloadKey.text (key : WorkloadKey) : String :=
  key.kind.name ++ "/" ++ key.name

/-- The annotation by which a workload asks to be rolled out when its configs change. -/
def updateOnConfigChange : String := "update-on-config-change"

/-- The value of that annotation which asks for it. -/
def updateOnConfigChangeEnabled : String := "true"

/-- The annotation of a template that holds the hash of the configs it refers to. -/
def configHashKey : String := "config-hash"

/-- A workload: its kind and the object that describes it. -/
structure Workload where
  /-- The kind of the workload. -/
  kind : WorkloadKind
  /-- The object that describes the workload. -/
  object : WorkloadObject
  deriving DecidableEq, Repr, Inhabited

namespace Workload

/-- The metadata of a workload. -/
def metadata (workload : Workload) : Metadata :=
  workload.object.metadata

/-- The name of a workload. -/
def name (workload : Workload) : String :=
  workload.metadata.name.getD ""

/-- The namespace of a workload. -/
def ns (workload : Workload) : String :=
  workload.metadata.nsText

/-- The key of a workload within its namespace. -/
def key (workload : Workload) : WorkloadKey :=
  ⟨workload.kind, workload.name⟩

/-- The template of a workload. -/
def template (workload : Workload) : Option PodTemplate :=
  workload.object.template

/-- The annotations of the pods that a workload makes. -/
def templateAnnotations (workload : Workload) : Option TextMap :=
  workload.template.bind (·.annotations)

/-- Whether a workload asks to be rolled out when its configs change. -/
def isOptedIn (workload : Workload) : Bool :=
  workload.metadata.annotation? updateOnConfigChange = some updateOnConfigChangeEnabled

/-- The config hash that the template of a workload carries. -/
def configHash? (workload : Workload) : Option String :=
  workload.templateAnnotations.bind (·[configHashKey]?)

end Workload

end ClusterWatch
