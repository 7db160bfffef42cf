import ClusterWatch.Cluster.Stores
import ClusterWatch.Mesh.Frame
import ClusterWatch.Number.Binary64

/-!
# Asking the mesh controller

Which workloads are part of the service mesh, and what the mesh controller reports of them: the
statistics of their requests and the connections between them. A question is a request whose body is
a frame, and so is the answer; a failure that the controller reports goes before its answer.
-/

namespace ClusterWatch

/-- Whether a pod template makes its pods part of the service mesh: by its annotation, or by the
port of the mesh proxy on one of its containers. -/
def PodTemplate.isMeshed (template : PodTemplate) : Bool :=
  (template.annotations.bind (·["linkerd.io/inject"]?)) = some "enabled" ||
    template.containers.any fun container => container.portNames.contains "linkerd-admin"

/-- Why asking the mesh controller fails. -/
inductive MeshError where
  /-- The request did not succeed. -/
  | http
  /-- The reply is no frame with a message. -/
  | frame (error : FrameError)
  /-- The controller reports a failure. -/
  | remote (message : String)
  deriving DecidableEq, Repr

/-- The text that reports an error. -/
def MeshError.message : MeshError → String
  | .http => "mesh controller request failed"
  | .frame error => error.message
  | .remote message => s!"mesh controller error: {message}"

/-- A request to the mesh controller. -/
structure MeshRequest where
  /-- The path after the base address. -/
  path : String
  /-- The body. -/
  body : Bytes
  deriving DecidableEq, Repr

/-- What a request to the mesh controller comes to: none if there is no connection, and else the
status and the body of the reply. -/
abbrev MeshExchange := Option (Nat × Bytes)

/-- The statistics of a workload. -/
structure MeshStat where
  /-- Its namespace. -/
  ns : String
  /-- Its kind. -/
  kind : String
  /-- Its name. -/
  name : String
  /-- The number of its pods in the mesh. -/
  meshedPods : UInt64
  /-- The number of its running pods. -/
  runningPods : UInt64
  /-- The number of its failed pods. -/
  failedPods : UInt64
  /-- The part of its requests that succeeded, if there were any. -/
  successRate : Option Binary64
  /-- The latency in milliseconds that half of the requests keep. -/
  latencyMsP50 : UInt64
  /-- The latency in milliseconds that 95 of 100 requests keep. -/
  latencyMsP95 : UInt64
  /-- The latency in milliseconds that 99 of 100 requests keep. -/
  latencyMsP99 : UInt64
  deriving DecidableEq, Repr

/-- A connection between two workloads. -/
structure MeshEdge where
  /-- Where it starts. -/
  src : String
  /-- Where it ends. -/
  dst : String
  /-- The identity of the client. -/
  clientId : String
  /-- The identity of the server. -/
  serverId : String
  /-- Why there is no identity. -/
  noIdentityMsg : String
  deriving DecidableEq, Repr

namespace Mesh

/-- The selection of all resources of a type in a namespace. -/
def selection (ns type : String) : ResourceSelection :=
  ⟨some ⟨ns, type, ""⟩, ""⟩

/-- The request for the statistics of the resources of a type in a namespace. -/
def statSummaryRequest (ns type timeWindow : String) : MeshRequest :=
  ⟨"/api/v1/StatSummary",
    Frame.encode (⟨some (selection ns type), timeWindow, false, false⟩ : StatSummaryRequest)⟩

/-- The request for the connections between the resources of a type in a namespace. -/
def edgesRequest (ns type : String) : MeshRequest :=
  ⟨"/api/v1/Edges", Frame.encode (⟨some (selection ns type)⟩ : EdgesRequest)⟩

/-- The message that a reply holds; a status from 400 up is no success. -/
def reply {α : Type} [WireMessage α] : MeshExchange → Except MeshError α
  | none => .error .http
  | some (status, body) =>
    if 400 ≤ status then .error .http
    else
      match Frame.decode body with
      | .ok message => .ok message
      | .error error => .error (.frame error)

/-- The statistics in a row of a reply. -/
def stat (row : StatRow) : MeshStat :=
  let resource := row.resource.getD WireMessage.blank
  let stats := row.stats.getD WireMessage.blank
  let requests := stats.successCount + stats.failureCount
  { ns := resource.ns
    kind := resource.type
    name := resource.name
    meshedPods := row.meshedPodCount
    runningPods := row.runningPodCount
    failedPods := row.failedPodCount
    successRate :=
      if requests = 0 then none
      else some ((Binary64.ofNat stats.successCount.toNat).div (.ofNat requests.toNat))
    latencyMsP50 := stats.latencyMsP50
    latencyMsP95 := stats.latencyMsP95
    latencyMsP99 := stats.latencyMsP99 }

/-- The statistics that a reply reports. -/
def stats (exchange : MeshExchange) : Except MeshError (List MeshStat) := do
  let response : StatSummaryResponse ← reply exchange
  match response.error with
  | some error => .error (.remote error.error)
  | none =>
    let tables := (response.ok.map StatSummaryOk.statTables).getD []
    let groups := tables.filterMap StatTable.podGroup
    .ok ((groups.flatMap PodGroup.rows).map stat)

/-- The text that names a resource: type and name, joined by a slash; empty for none. -/
def label : Option MeshResource → String
  | some resource => resource.type ++ "/" ++ resource.name
  | none => ""

/-- The connections that a reply reports. -/
def edges (exchange : MeshExchange) : Except MeshError (List MeshEdge) := do
  let response : EdgesResponse ← reply exchange
  match response.error with
  | some error => .error (.remote error.error)
  | none =>
    let edges := (response.ok.map EdgesOk.edges).getD []
    .ok (edges.map fun edge =>
      ⟨label edge.src, label edge.dst, edge.clientId, edge.serverId, edge.noIdentityMsg⟩)

/-- The names of the deployments of a namespace that are part of the mesh. -/
def deployments (stores : Stores) (ns : String) : List String :=
  (stores.deployments.within ns).filterMap fun deployment =>
    match deployment.template with
    | some template => if template.isMeshed then deployment.metadata.name else none
    | none => none

/-- The statistics of the deployments that are part of the mesh. -/
def meshedOnly (stores : Stores) (ns : String) (stats : List MeshStat) : List MeshStat :=
  stats.filter fun stat => (deployments stores ns).contains stat.name

end Mesh

end ClusterWatch
