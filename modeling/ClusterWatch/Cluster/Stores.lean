import ClusterWatch.Cluster.Config
import ClusterWatch.Cluster.Kind
import ClusterWatch.Cluster.Resource
import ClusterWatch.Cluster.Store
import ClusterWatch.Cluster.Workload

/-!
# The cached cluster

One store for each kind of objects, and the questions that the agent asks of them together.
-/

namespace ClusterWatch

/-- The caches of all kinds of objects. -/
structure Stores where
  /-- Namespaces. -/
  namespaces : Store Namespace
  /-- Nodes. -/
  nodes : Store Node
  /-- Pods. -/
  pods : Store Pod
  /-- Services. -/
  services : Store Service
  /-- Endpoints. -/
  endpoints : Store Endpoints
  /-- Ingresses. -/
  ingresses : Store Ingress
  /-- Config maps. -/
  configMaps : Store ConfigMap
  /-- Secrets. -/
  secrets : Store Secret
  /-- Deployments. -/
  deployments : Store WorkloadObject
  /-- Daemon sets. -/
  daemonSets : Store WorkloadObject
  /-- Stateful sets. -/
  statefulSets : Store WorkloadObject
  /-- Persistent volumes. -/
  persistentVolumes : Store PersistentVolume
  /-- Claims to persistent volumes. -/
  persistentVolumeClaims : Store PersistentVolumeClaim
  /-- Replica sets. -/
  replicaSets : Store ReplicaSet
  /-- Resource quotas. -/
  resourceQuotas : Store ResourceQuota

/-- An event of the watch on one of the kinds. -/
inductive Observation where
  /-- On namespaces. -/
  | namespaces (event : WatchEvent Namespace)
  /-- On nodes. -/
  | nodes (event : WatchEvent Node)
  /-- On pods. -/
  | pods (event : WatchEvent Pod)
  /-- On services. -/
  | services (event : WatchEvent Service)
  /-- On endpoints. -/
  | endpoints (event : WatchEvent Endpoints)
  /-- On ingresses. -/
  | ingresses (event : WatchEvent Ingress)
  /-- On config maps. -/
  | configMaps (event : WatchEvent ConfigMap)
  /-- On secrets. -/
  | secrets (event : WatchEvent Secret)
  /-- On deployments. -/
  | deployments (event : WatchEvent WorkloadObject)
  /-- On daemon sets. -/
  | daemonSets (event : WatchEvent WorkloadObject)
  /-- On stateful sets. -/
  | statefulSets (event : WatchEvent WorkloadObject)
  /-- On persistent volumes. -/
  | persistentVolumes (event : WatchEvent PersistentVolume)
  /-- On claims to persistent volumes. -/
  | persistentVolumeClaims (event : WatchEvent PersistentVolumeClaim)
  /-- On replica sets. -/
  | replicaSets (event : WatchEvent ReplicaSet)
  /-- On resource quotas. -/
  | resourceQuotas (event : WatchEvent ResourceQuota)

namespace Stores

/-- Stores without objects. -/
def empty : Stores :=
  ⟨.empty, .empty, .empty, .empty, .empty, .empty, .empty, .empty, .empty, .empty, .empty,
    .empty, .empty, .empty, .empty⟩

/-- The stores after an event of a watch. -/
def observe (stores : Stores) : Observation → Stores
  | .namespaces event => { stores with namespaces := stores.namespaces.observe event }
  | .nodes event => { stores with nodes := stores.nodes.observe event }
  | .pods event => { stores with pods := stores.pods.observe event }
  | .services event => { stores with services := stores.services.observe event }
  | .endpoints event => { stores with endpoints := stores.endpoints.observe event }
  | .ingresses event => { stores with ingresses := stores.ingresses.observe event }
  | .configMaps event => { stores with configMaps := stores.configMaps.observe event }
  | .secrets event => { stores with secrets := stores.secrets.observe event }
  | .deployments event => { stores with deployments := stores.deployments.observe event }
  | .daemonSets event => { stores with daemonSets := stores.daemonSets.observe event }
  | .statefulSets event => { stores with statefulSets := stores.statefulSets.observe event }
  | .persistentVolumes event =>
    { stores with persistentVolumes := stores.persistentVolumes.observe event }
  | .persistentVolumeClaims event =>
    { stores with persistentVolumeClaims := stores.persistentVolumeClaims.observe event }
  | .replicaSets event => { stores with replicaSets := stores.replicaSets.observe event }
  | .resourceQuotas event => { stores with resourceQuotas := stores.resourceQuotas.observe event }

/-- Whether every store has seen a complete listing. -/
def ready (stores : Stores) : Bool :=
  stores.namespaces.ready && stores.nodes.ready && stores.pods.ready && stores.services.ready &&
    stores.endpoints.ready && stores.ingresses.ready && stores.configMaps.ready &&
      stores.secrets.ready &&
    stores.deployments.ready && stores.daemonSets.ready && stores.statefulSets.ready &&
    stores.persistentVolumes.ready && stores.persistentVolumeClaims.ready &&
      stores.replicaSets.ready &&
    stores.resourceQuotas.ready

/-- The version of the object of that kind and name, if it is cached; the inner value is none for an
object that carries no version. -/
def version? (stores : Stores) (kind : ResourceKind) (ns name : String) : Option (Option String) :=
  let versionIn {α : Type} [ClusterObject α] (store : Store α) : Option (Option String) :=
    (store.get? ns name).map fun object => (ClusterObject.metadata object).resourceVersion
  match kind with
  | .namespaces => versionIn stores.namespaces
  | .nodes => versionIn stores.nodes
  | .pods => versionIn stores.pods
  | .services => versionIn stores.services
  | .endpoints => versionIn stores.endpoints
  | .ingresses => versionIn stores.ingresses
  | .configMaps => versionIn stores.configMaps
  | .secrets => versionIn stores.secrets
  | .deployments => versionIn stores.deployments
  | .daemonSets => versionIn stores.daemonSets
  | .statefulSets => versionIn stores.statefulSets
  | .persistentVolumes => versionIn stores.persistentVolumes
  | .persistentVolumeClaims => versionIn stores.persistentVolumeClaims
  | .replicaSets => versionIn stores.replicaSets
  | .resourceQuotas => versionIn stores.resourceQuotas

/-- The cached config that a reference from a namespace leads to. -/
def config? (stores : Stores) (ns : String) (ref : ConfigRef) : Option Config :=
  match ref.kind with
  | .configMap => (stores.configMaps.get? ns ref.name).map .configMap
  | .secret => (stores.secrets.get? ns ref.name).map .secret

/-- The cached workload of that key in a namespace. -/
def workload? (stores : Stores) (ns : String) (key : WorkloadKey) : Option Workload :=
  let store := match key.kind with
    | .deployment => stores.deployments
    | .daemonSet => stores.daemonSets
    | .statefulSet => stores.statefulSets
  (store.get? ns key.name).map fun object => ⟨key.kind, object⟩

/-- Whether a pod carries every label of a selector. -/
def isSelected (selector : TextMap) (pod : Pod) : Bool :=
  selector.toList.all fun (key, value) => pod.metadata.labels[key]? = some value

/-- The pods of a namespace that a selector matches; an empty selector matches none. -/
def podsMatching (stores : Stores) (ns : String) (selector : TextMap) : List Pod :=
  if selector.isEmpty then [] else (stores.pods.within ns).filter (isSelected selector)

/-- The pods that run on a node. -/
def podsOnNode (stores : Stores) (node : String) : List Pod :=
  stores.pods.toList.filter fun pod => pod.nodeName = some node

end Stores

end ClusterWatch
