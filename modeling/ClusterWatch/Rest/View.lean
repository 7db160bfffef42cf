import ClusterWatch.Agent.Query
import ClusterWatch.Json.Fields
import ClusterWatch.Number.Shortest

/-!
# Views in JSON

The JSON form of everything that is read of the agent. Members without a value are left out.
-/

namespace ClusterWatch

/-- A pod of a workload. -/
def PodView.toJson (view : PodView) : Json :=
  .obj [("name", .str view.name), ("state", .str view.state)]

/-- A workload behind a service. -/
def WorkloadView.toJson (view : WorkloadView) : Json :=
  .obj [("name", .str view.name), ("kind", .str view.kind),
    ("pods", .arr (view.pods.map PodView.toJson))]

/-- A service with the workloads behind it. -/
def ServiceView.toJson (view : ServiceView) : Json :=
  .obj [("name", .str view.name), ("namespace", .str view.ns),
    ("workloads", .arr (view.workloads.map WorkloadView.toJson))]

/-- A rule by which services are reached from outside. -/
def OuterServiceView.toJson (view : OuterServiceView) : Json :=
  .obj [("name", .str view.name), ("entryPoint", .str view.entryPoint),
    ("protocol", .str view.protocol.name), ("services", .ofMap ServiceView.toJson view.services)]

/-- A volume. -/
def VolumeView.toJson (view : VolumeView) : Json :=
  .obj ([("name", .str view.name), ("storageClass", .str view.storageClass)] ++
    Json.optionalMember "node" view.node ++ Json.optionalMember "pvc" view.claim ++
    [("total", .ofUInt64 view.total), ("used", .ofUInt64 view.used), ("free", .ofUInt64 view.free),
      ("pods", .ofTexts view.pods)])

/-- A disk. -/
def DiskInfo.toJson (disk : DiskInfo) : Json :=
  .obj [("size", .ofUInt64 disk.size), ("parted", .bool disk.parted),
    ("filesystem", .str disk.filesystem), ("mountpoint", .str disk.mountpoint)]

/-- The disks of a node. -/
def Disks.toJson (disks : Disks) : Json :=
  .ofMap DiskInfo.toJson disks

namespace NetworkIndex

/-- The addresses of the nodes. -/
def nodesJson (index : NetworkIndex) : Json :=
  .arr (index.nodes.toList.map fun (name, ip) => .obj [("name", .str name), ("ip", .str ip)])

/-- The address ranges of the pods. -/
def podsJson (index : NetworkIndex) : Json :=
  .arr (index.pods.toList.map fun (node, cidr) => .obj [("node", .str node), ("cidr", .str cidr)])

/-- The addresses of the services. -/
def servicesJson (index : NetworkIndex) : Json :=
  .arr (index.services.toList.map fun (service, ip) =>
    .obj [("namespace", .str service.ns), ("name", .str service.name), ("clusterIp", .str ip)])

end NetworkIndex

/-- The statistics of a workload, with its success rate written as given. -/
def MeshStat.toJson (rate : Binary64 → Json) (stat : MeshStat) : Json :=
  .obj ([("namespace", .str stat.ns), ("kind", .str stat.kind), ("name", .str stat.name),
      ("meshedPods", .ofUInt64 stat.meshedPods), ("runningPods", .ofUInt64 stat.runningPods),
      ("failedPods", .ofUInt64 stat.failedPods)] ++
    (stat.successRate.map fun x => ("successRate", rate x)).toList ++
    [("latencyMsP50", .ofUInt64 stat.latencyMsP50), ("latencyMsP95", .ofUInt64 stat.latencyMsP95),
      ("latencyMsP99", .ofUInt64 stat.latencyMsP99)])

/-- A connection in the mesh. -/
def MeshEdge.toJson (edge : MeshEdge) : Json :=
  .obj ([("src", .str edge.src), ("dst", .str edge.dst), ("clientId", .str edge.clientId),
      ("serverId", .str edge.serverId)] ++
    Json.optionalMember "noIdentityMsg"
      (if edge.noIdentityMsg = "" then none else some edge.noIdentityMsg))

end ClusterWatch
