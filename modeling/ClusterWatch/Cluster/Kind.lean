/-!
# Kinds of objects

The kinds of objects that the agent watches. Changes of most of them are published; replica sets and
quotas are only cached.
-/

namespace ClusterWatch

/-- A kind of objects. -/
inductive ResourceKind where
  /-- Namespaces. -/
  | namespaces
  /-- Nodes. -/
  | nodes
  /-- Pods. -/
  | pods
  /-- Services. -/
  | services
  /-- Endpoints. -/
  | endpoints
  /-- Ingresses. -/
  | ingresses
  /-- Config maps. -/
  | configMaps
  /-- Secrets. -/
  | secrets
  /-- Deployments. -/
  | deployments
  /-- Daemon sets. -/
  | daemonSets
  /-- Stateful sets. -/
  | statefulSets
  /-- Persistent volumes. -/
  | persistentVolumes
  /-- Claims to persistent volumes. -/
  | persistentVolumeClaims
  /-- Replica sets. -/
  | replicaSets
  /-- Resource quotas. -/
  | resourceQuotas
  deriving DecidableEq, Repr, Inhabited

namespace ResourceKind

/-- The name of a kind in object manifests. -/
def name : ResourceKind → String
  | .namespaces => "Namespace"
  | .nodes => "Node"
  | .pods => "Pod"
  | .services => "Service"
  | .endpoints => "Endpoints"
  | .ingresses => "Ingress"
  | .configMaps => "ConfigMap"
  | .secrets => "Secret"
  | .deployments => "Deployment"
  | .daemonSets => "DaemonSet"
  | .statefulSets => "StatefulSet"
  | .persistentVolumes => "PersistentVolume"
  | .persistentVolumeClaims => "PersistentVolumeClaim"
  | .replicaSets => "ReplicaSet"
  | .resourceQuotas => "ResourceQuota"

/-- The kinds whose changes are published, in their order. -/
def published : List ResourceKind :=
  [.namespaces, .nodes, .pods, .services, .endpoints, .ingresses, .configMaps,
    .secrets, .deployments, .daemonSets, .statefulSets, .persistentVolumes, .persistentVolumeClaims]

/-- All kinds: those whose changes are published, and then those that are only cached. -/
def all : List ResourceKind :=
  published ++ [.replicaSets, .resourceQuotas]

/-- The kind of that name. -/
def ofName? (name : String) : Option ResourceKind :=
  all.find? (·.name = name)

end ResourceKind

end ClusterWatch
