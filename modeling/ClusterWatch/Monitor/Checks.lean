import ClusterWatch.Alert
import ClusterWatch.Cluster.Stores
import ClusterWatch.Monitor.Sample
import ClusterWatch.Storage.Projection

/-!
# Threshold checks

The three checks of the monitor, on the cluster as a whole, on each node, and on each namespace. A
check reads the cached objects, the reported usage and the storage, and yields an alert for every
breached threshold.
-/

namespace ClusterWatch

/-- What the metrics interface reports; none where it cannot be read. -/
structure MetricsReport where
  /-- The usage of the nodes by name. -/
  nodes : Option (Std.ExtTreeMap String Usage)
  /-- The usage of the pods. -/
  pods : Option (List PodUsage)
  deriving DecidableEq

/-- What the checks read. -/
structure ClusterState where
  /-- The cached objects. -/
  stores : Stores
  /-- The reported usage. -/
  metrics : MetricsReport
  /-- The volumes, claims and pods that mount them. -/
  storage : StorageIndex
  /-- The usage sample of the mount points. -/
  sample : UsageSample

/-- The checks of the monitor. -/
inductive Check where
  /-- Of the cluster as a whole. -/
  | cluster
  /-- Of each node. -/
  | node
  /-- Of each namespace. -/
  | perNamespace
  deriving DecidableEq, Repr

/-- The name of a check. -/
def Check.name : Check → String
  | .cluster => "cluster"
  | .node => "node"
  | .perNamespace => "namespace"

/-- All checks. -/
def Check.all : List Check := [.cluster, .node, .perNamespace]

/-- Whether a pod is running. -/
def Pod.isRunning (pod : Pod) : Bool :=
  pod.phase = some "Running"

/-- The alert that a breach raises about an object. -/
def Breach.alert (breach : Breach) (kind ns name about : String) : Alert :=
  ⟨kind, ns, name, about ++ breach.message, .thresholdExceeded⟩

namespace ClusterState

/-- The sample of a node. -/
def nodeSample (state : ClusterState) (node : Node) : Sample :=
  let name := ClusterObject.name node
  let running := (state.stores.podsOnNode name).filter Pod.isRunning
  let usage := (state.metrics.nodes.bind (·[name]?)).getD .zero
  Sample.ofNode node usage (UInt64.ofNat running.length)

/-- The samples of the cached nodes by name. -/
def nodeSamples (state : ClusterState) : Std.ExtTreeMap String Sample :=
  state.stores.nodes.toList.foldl
    (fun samples node => samples.insert (ClusterObject.name node) (state.nodeSample node)) ∅

/-- The sample of the cluster: all nodes together. -/
def clusterSample (state : ClusterState) : Sample :=
  Sample.sum (state.nodeSamples.toList.map (·.2))

/-- The breach of the storage threshold by a class, as an alert. -/
def classAlert? (thresholds : Thresholds) (name : String) (total : StorageTotal) : Option Alert :=
  (thresholds.check? .storage total.used total.total).map fun breach =>
    breach.alert "Cluster" "" "cluster" s!"storage class {name}: "

/-- The alerts about the cluster: its own dimensions, and the storage of each class. -/
def clusterAlerts (state : ClusterState) (thresholds : Thresholds) : List Alert :=
  (state.clusterSample.breaches thresholds).map (·.alert "Cluster" "" "cluster" "") ++
    (state.storage.classTotals state.sample).toList.filterMap fun (name, total) =>
      classAlert? thresholds name total

/-- The alerts about the nodes, by name. -/
def nodeAlerts (state : ClusterState) (thresholds : Thresholds) : List Alert :=
  state.nodeSamples.toList.flatMap fun (name, sample) =>
    (sample.breaches thresholds).map (·.alert "Node" "" name "")

/-- The limit that the quotas of a namespace set under a key: the smallest of those that
name the key. -/
def quotaLimit? (state : ClusterState) (ns key : String)
    (limitOf : Resources → String → UInt64) :
    Option UInt64 :=
  let limits := (state.stores.resourceQuotas.within ns).filterMap fun quota =>
    if quota.hard.contains key then some (limitOf quota.hard key) else none
  limits.foldl
    (fun (smallest : Option UInt64) limit => some ((smallest.map (min · limit)).getD limit)) none

/-- Whether a running pod of that namespace and name is cached. -/
def hasRunningPod (state : ClusterState) (ns name : String) : Bool :=
  state.stores.pods.toList.any fun pod =>
    pod.isRunning && ClusterObject.ns pod = ns && ClusterObject.name pod = name

/-- The reported usage of the running pods of a namespace together. -/
def namespaceUsage (state : ClusterState) (ns : String) : Usage :=
  Usage.sum (((state.metrics.pods.getD []).filter fun pod =>
    pod.ns = ns && state.hasRunningPod ns pod.name).map PodUsage.usage)

/-- The storage of all classes together. -/
def clusterStorage (state : ClusterState) : UInt64 :=
  ((state.storage.classTotals state.sample).toList.map (·.2.total)).foldl (· + ·) 0

/-- The breach of the storage threshold by a volume that a pod mounts, as an alert. -/
def chainAlert? (thresholds : Thresholds) (ns : String) (chain : VolumeChain) : Option Alert :=
  (thresholds.check? .storage chain.used chain.total).map fun breach =>
    breach.alert "Pod" ns chain.pod s!"volume {chain.volume} (claim {chain.claim}): "

/-- The breaches of a namespace. Its limits are those of its quotas, and of the cluster where
they set none. -/
def namespaceBreaches (state : ClusterState) (thresholds : Thresholds) (ns : String) :
    List Breach :=
  let used := state.namespaceUsage ns
  let cluster := state.clusterSample
  let cpu := (state.quotaLimit? ns "limits.cpu" Quantity.cpuMillisOf).getD cluster.cpu
  let memory := (state.quotaLimit? ns "limits.memory" Quantity.bytesOf).getD cluster.memory
  let storage :=
    (state.quotaLimit? ns "requests.storage" Quantity.bytesOf).getD state.clusterStorage
  [thresholds.check? .cpu used.cpuMillis cpu,
    thresholds.check? .memory used.memoryBytes memory,
    thresholds.check? .storage (state.storage.namespaceUsed state.sample ns) storage].filterMap id

/-- The alerts about one namespace and about the volumes that its pods mount. -/
def alertsWithin (state : ClusterState) (thresholds : Thresholds) (ns : String) : List Alert :=
  (state.namespaceBreaches thresholds ns).map (·.alert "Namespace" "" ns "") ++
    (state.storage.volumeChains state.sample ns).filterMap (chainAlert? thresholds ns)

/-- The alerts about the cached namespaces. -/
def namespaceAlerts (state : ClusterState) (thresholds : Thresholds) : List Alert :=
  (state.stores.namespaces.toList.map ClusterObject.name).flatMap (state.alertsWithin thresholds)

/-- The alerts that a check yields. -/
def alerts (state : ClusterState) (thresholds : Thresholds) : Check → List Alert
  | .cluster => state.clusterAlerts thresholds
  | .node => state.nodeAlerts thresholds
  | .perNamespace => state.namespaceAlerts thresholds

/-- How often a check reads the usage sample: once for the storage classes, and in the check of the
namespaces twice more for each of them. -/
def sampleReads (state : ClusterState) : Check → Nat
  | .cluster => 1
  | .node => 0
  | .perNamespace => 1 + 2 * state.stores.namespaces.toList.length

end ClusterState

end ClusterWatch
