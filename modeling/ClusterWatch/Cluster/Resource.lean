import ClusterWatch.Cluster.Metadata
import ClusterWatch.Quantity

/-!
# Cluster resources

The other objects that the agent reads, with the fields that it reads of them: namespaces, nodes,
pods, services and their endpoints, ingresses, replica sets, volumes and their claims, and quotas.
-/

namespace ClusterWatch

/-- A namespace. -/
structure Namespace where
  /-- The metadata. -/
  metadata : Metadata
  deriving DecidableEq, Repr, Inhabited

instance : ClusterObject Namespace := ⟨Namespace.metadata⟩

/-- An address of a node. -/
structure NodeAddress where
  /-- What the address is good for. -/
  type : String
  /-- The address itself. -/
  address : String
  deriving DecidableEq, Repr, Inhabited

/-- A node. -/
structure Node where
  /-- The metadata. -/
  metadata : Metadata
  /-- The addresses from which the pods of the node take theirs. -/
  podCidr : Option String
  /-- The addresses of the node. -/
  addresses : List NodeAddress
  /-- What the node offers to pods. -/
  allocatable : Resources
  deriving DecidableEq, Repr, Inhabited

instance : ClusterObject Node := ⟨Node.metadata⟩

/-- A pod. -/
structure Pod where
  /-- The metadata. -/
  metadata : Metadata
  /-- The node that the pod runs on. -/
  nodeName : Option String
  /-- The names of the claims that its volumes mount, for those that mount one. -/
  claimNames : List String
  /-- How far its life has got. -/
  phase : Option String
  deriving DecidableEq, Repr, Inhabited

instance : ClusterObject Pod := ⟨Pod.metadata⟩

/-- A service. -/
structure Service where
  /-- The metadata. -/
  metadata : Metadata
  /-- The labels that its pods carry. -/
  selector : TextMap
  /-- Its address within the cluster. -/
  clusterIp : Option String
  deriving DecidableEq, Repr, Inhabited

instance : ClusterObject Service := ⟨Service.metadata⟩

/-- What an endpoint address stands for. -/
structure TargetRef where
  /-- The kind of the target. -/
  kind : Option String
  /-- The name of the target. -/
  name : Option String
  deriving DecidableEq, Repr, Inhabited

/-- A group of endpoint addresses, by the targets of those that have one. -/
structure EndpointSubset where
  /-- The targets of the addresses that are ready. -/
  ready : List TargetRef
  /-- The targets of the addresses that are not. -/
  notReady : List TargetRef
  deriving DecidableEq, Repr, Inhabited

/-- The endpoints of a service. -/
structure Endpoints where
  /-- The metadata. -/
  metadata : Metadata
  /-- The groups of addresses. -/
  subsets : List EndpointSubset
  deriving DecidableEq, Repr, Inhabited

instance : ClusterObject Endpoints := ⟨Endpoints.metadata⟩

/-- The service port that an ingress path leads to. -/
structure BackendPort where
  /-- The number of the port. -/
  number : Option Int
  /-- The name of the port. -/
  name : Option String
  deriving DecidableEq, Repr, Inhabited

/-- The service that an ingress path leads to. -/
structure ServiceBackend where
  /-- The name of the service. -/
  name : String
  /-- The port of the service. -/
  port : Option BackendPort
  deriving DecidableEq, Repr, Inhabited

/-- A path of an ingress. -/
structure HttpPath where
  /-- The path itself. -/
  path : Option String
  /-- The service that the path leads to, if it leads to one. -/
  service : Option ServiceBackend
  deriving DecidableEq, Repr, Inhabited

/-- A host of an ingress, with its paths. -/
structure HttpHost where
  /-- The name of the host. -/
  host : Option String
  /-- The paths under that host. -/
  paths : List HttpPath
  deriving DecidableEq, Repr, Inhabited

/-- An ingress. -/
structure Ingress where
  /-- The metadata. -/
  metadata : Metadata
  /-- Its hosts. -/
  hosts : List HttpHost
  deriving DecidableEq, Repr, Inhabited

instance : ClusterObject Ingress := ⟨Ingress.metadata⟩

/-- A replica set. -/
structure ReplicaSet where
  /-- The metadata. -/
  metadata : Metadata
  deriving DecidableEq, Repr, Inhabited

instance : ClusterObject ReplicaSet := ⟨ReplicaSet.metadata⟩

/-- A reference from a volume to the claim that it is bound to. -/
structure ClaimRef where
  /-- The namespace of the claim. -/
  ns : Option String
  /-- The name of the claim. -/
  name : Option String
  deriving DecidableEq, Repr, Inhabited

/-- A condition on the labels of a node. -/
structure MatchExpression where
  /-- The label that the condition is about. -/
  key : String
  /-- How the label is compared with the values. -/
  operator : String
  /-- The values. -/
  values : List String
  deriving DecidableEq, Repr, Inhabited

/-- A persistent volume. -/
structure PersistentVolume where
  /-- The metadata. -/
  metadata : Metadata
  /-- What the volume offers. -/
  capacity : Resources
  /-- The class of storage that the volume belongs to. -/
  storageClass : Option String
  /-- The claim that the volume is bound to. -/
  claimRef : Option ClaimRef
  /-- The node selector terms of its required affinity, each with its conditions. -/
  nodeTerms : List (List MatchExpression)
  deriving DecidableEq, Repr, Inhabited

instance : ClusterObject PersistentVolume := ⟨PersistentVolume.metadata⟩

/-- A claim to a persistent volume. -/
structure PersistentVolumeClaim where
  /-- The metadata. -/
  metadata : Metadata
  /-- The name of the volume that the claim is bound to. -/
  volumeName : Option String
  deriving DecidableEq, Repr, Inhabited

instance : ClusterObject PersistentVolumeClaim := ⟨PersistentVolumeClaim.metadata⟩

/-- A quota on what a namespace may ask for. -/
structure ResourceQuota where
  /-- The metadata. -/
  metadata : Metadata
  /-- The limits by resource name. -/
  hard : Resources
  deriving DecidableEq, Repr, Inhabited

instance : ClusterObject ResourceQuota := ⟨ResourceQuota.metadata⟩

end ClusterWatch
