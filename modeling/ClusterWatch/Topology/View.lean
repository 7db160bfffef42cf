import ClusterWatch.Cluster.Stores
import ClusterWatch.Sorting
import ClusterWatch.Topology.Ingress
import ClusterWatch.Topology.Owner

/-!
# Service views

What is shown of a service: the workloads behind it, with their pods and the states of the pods. A
view is assembled from the cached pods that the selector of the service matches.
-/

namespace ClusterWatch

/-- A pod of a workload. -/
structure PodView where
  /-- The name of the pod. -/
  name : String
  /-- The state of the pod. -/
  state : String
  deriving DecidableEq, Repr, Inhabited

/-- A workload behind a service. -/
structure WorkloadView where
  /-- The name of the workload. -/
  name : String
  /-- The kind of the workload. -/
  kind : String
  /-- Its pods, by name. -/
  pods : List PodView
  deriving DecidableEq, Repr, Inhabited

/-- A service with the workloads behind it. -/
structure ServiceView where
  /-- The name of the service. -/
  name : String
  /-- The namespace of the service. -/
  ns : String
  /-- The workloads, by kind and name. -/
  workloads : List WorkloadView
  deriving DecidableEq, Repr, Inhabited

/-- A rule by which traffic reaches services from outside. -/
structure OuterServiceView where
  /-- The name of the ingress. -/
  name : String
  /-- The address at which the traffic enters. -/
  entryPoint : String
  /-- The protocol of the traffic. -/
  protocol : Protocol
  /-- The services that the traffic reaches, by path. -/
  services : Std.ExtTreeMap String ServiceView
  deriving DecidableEq, Repr

/-- The state of a pod: how far its life has got, or that it is on its way out. -/
def Pod.state (pod : Pod) : String :=
  if pod.metadata.deleting then "Terminating" else pod.phase.getD "Unknown"

/-- What is shown of a pod. -/
def Pod.view (pod : Pod) : PodView :=
  ⟨ClusterObject.name pod, pod.state⟩

/-- The name of the pod that an endpoint target is, if it is a pod. -/
def TargetRef.podName? (target : TargetRef) : Option String :=
  if target.kind = some "Pod" then target.name else none

/-- The names of the pods that endpoints lead to, ready or not. -/
def Endpoints.podNames (endpoints : Endpoints) : Std.ExtTreeSet String :=
  .ofList ((endpoints.subsets.flatMap fun subset => subset.ready ++ subset.notReady).filterMap
    TargetRef.podName?)

namespace ServiceView

/-- The pods that are listed with an owner, in the order of their names. -/
def podsOf (owned : List (WorkloadRef × PodView)) (owner : WorkloadRef) : List PodView :=
  sortedBy (fun one other => one.name ≤ other.name) ((owned.filter (·.1 = owner)).map (·.2))

/-- The workloads of pods that are listed with their owners: each owner once, in order,
with its pods. -/
def groupByOwner (owned : List (WorkloadRef × PodView)) : List WorkloadView :=
  let owners : Std.ExtTreeSet WorkloadRef := .ofList (owned.map (·.1))
  owners.toList.map fun owner => ⟨owner.name, owner.kind, podsOf owned owner⟩

/-- The pods of a namespace that a selector matches and whose owner is known, with their owners. -/
def ownedPods (stores : Stores) (ns : String) (selector : TextMap) :
    List (WorkloadRef × PodView) :=
  (stores.podsMatching ns selector).filterMap fun pod =>
    (pod.owner? (stores.replicaSets.get? ns)).map fun owner => (owner, pod.view)

/-- The view of a service as the cached pods make it. -/
def assemble (stores : Stores) (service : Service) : ServiceView :=
  let ns := ClusterObject.ns service
  ⟨ClusterObject.name service, ns, groupByOwner (ownedPods stores ns service.selector)⟩

/-- The names of the pods in a view. -/
def podNames (view : ServiceView) : List String :=
  view.workloads.flatMap fun workload => workload.pods.map (·.name)

/-- The pods with the state of the first pod of that name replaced. -/
def replaceState (name state : String) : List PodView → List PodView
  | [] => []
  | pod :: rest =>
    if pod.name = name then ⟨pod.name, state⟩ :: rest else pod :: replaceState name state rest

/-- The view with the state of a pod replaced in every workload that shows it. -/
def setPodState (view : ServiceView) (name state : String) : ServiceView :=
  { view with workloads := view.workloads.map fun workload =>
      { workload with pods := replaceState name state workload.pods } }

/-- The view without a pod, and without the workloads that have no pod then. -/
def removePod (view : ServiceView) (name : String) : ServiceView :=
  { view with workloads := (view.workloads.map fun workload =>
      { workload with pods := workload.pods.filter (·.name ≠ name) }).filter (!·.pods.isEmpty) }

end ServiceView

end ClusterWatch
