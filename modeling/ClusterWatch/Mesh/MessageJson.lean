import ClusterWatch.Json.Fields
import ClusterWatch.Mesh.Message

/-!
# Messages in JSON

The JSON form of the messages of the mesh controller. Its members are named like the fields. On
reading, a missing text is empty, a missing number zero, a missing truth value false, a missing
list empty, and a missing message absent; on writing, every field has its member, and an absent
message is `null`.
-/

namespace ClusterWatch

namespace MeshResource

/-- A resource from its JSON form. -/
def ofJson (json : Json) : MeshResource :=
  ⟨json.textAt "namespace", json.textAt "type", json.textAt "name"⟩

/-- A resource in its JSON form. -/
def toJson (m : MeshResource) : Json :=
  .obj [("namespace", .str m.ns), ("type", .str m.type), ("name", .str m.name)]

end MeshResource

namespace ResourceSelection

/-- A selection from its JSON form. -/
def ofJson (json : Json) : ResourceSelection :=
  ⟨json.optionAt MeshResource.ofJson "resource", json.textAt "label_selector"⟩

/-- A selection in its JSON form. -/
def toJson (m : ResourceSelection) : Json :=
  .obj [("resource", .ofOption MeshResource.toJson m.resource),
    ("label_selector", .str m.labelSelector)]

end ResourceSelection

namespace ResourceError

/-- A failure from its JSON form. -/
def ofJson (json : Json) : ResourceError :=
  ⟨json.optionAt MeshResource.ofJson "resource", json.textAt "error"⟩

/-- A failure in its JSON form. -/
def toJson (m : ResourceError) : Json :=
  .obj [("resource", .ofOption MeshResource.toJson m.resource), ("error", .str m.error)]

end ResourceError

namespace StatSummaryRequest

/-- A request for statistics from its JSON form. -/
def ofJson (json : Json) : StatSummaryRequest :=
  ⟨json.optionAt ResourceSelection.ofJson "selector", json.textAt "time_window",
    json.truthAt "skip_stats", json.truthAt "tcp_stats"⟩

/-- A request for statistics in its JSON form. -/
def toJson (m : StatSummaryRequest) : Json :=
  .obj [("selector", .ofOption ResourceSelection.toJson m.selector),
    ("time_window", .str m.timeWindow), ("skip_stats", .bool m.skipStats),
    ("tcp_stats", .bool m.tcpStats)]

end StatSummaryRequest

namespace BasicStats

/-- Counts and latencies from their JSON form. -/
def ofJson (json : Json) : BasicStats :=
  ⟨json.uint64At "success_count", json.uint64At "failure_count", json.uint64At "latency_ms_p50",
    json.uint64At "latency_ms_p95", json.uint64At "latency_ms_p99"⟩

/-- Counts and latencies in their JSON form. -/
def toJson (m : BasicStats) : Json :=
  .obj [("success_count", .ofUInt64 m.successCount), ("failure_count", .ofUInt64 m.failureCount),
    ("latency_ms_p50", .ofUInt64 m.latencyMsP50), ("latency_ms_p95", .ofUInt64 m.latencyMsP95),
    ("latency_ms_p99", .ofUInt64 m.latencyMsP99)]

end BasicStats

namespace StatRow

/-- The statistics of a resource from their JSON form. -/
def ofJson (json : Json) : StatRow where
  resource := json.optionAt MeshResource.ofJson "resource"
  timeWindow := json.textAt "time_window"
  meshedPodCount := json.uint64At "meshed_pod_count"
  runningPodCount := json.uint64At "running_pod_count"
  stats := json.optionAt BasicStats.ofJson "stats"
  failedPodCount := json.uint64At "failed_pod_count"

/-- The statistics of a resource in their JSON form. -/
def toJson (m : StatRow) : Json :=
  .obj [("resource", .ofOption MeshResource.toJson m.resource), ("time_window", .str m.timeWindow),
    ("meshed_pod_count", .ofUInt64 m.meshedPodCount),
    ("running_pod_count", .ofUInt64 m.runningPodCount),
    ("stats", .ofOption BasicStats.toJson m.stats),
    ("failed_pod_count", .ofUInt64 m.failedPodCount)]

end StatRow

namespace StatTable

/-- A group of statistics from its JSON form. -/
def groupOfJson (json : Json) : PodGroup :=
  ⟨(json.itemsAt "rows").map StatRow.ofJson⟩

/-- A group of statistics in its JSON form. -/
def groupToJson (m : PodGroup) : Json :=
  .obj [("rows", .arr (m.rows.map StatRow.toJson))]

/-- A table from its JSON form. -/
def ofJson (json : Json) : StatTable :=
  ⟨json.optionAt groupOfJson "pod_group"⟩

/-- A table in its JSON form. -/
def toJson (m : StatTable) : Json :=
  .obj [("pod_group", .ofOption groupToJson m.podGroup)]

end StatTable

namespace StatSummaryResponse

/-- The tables of a reply from their JSON form. -/
def okOfJson (json : Json) : StatSummaryOk :=
  ⟨(json.itemsAt "stat_tables").map StatTable.ofJson⟩

/-- The tables of a reply in their JSON form. -/
def okToJson (m : StatSummaryOk) : Json :=
  .obj [("stat_tables", .arr (m.statTables.map StatTable.toJson))]

/-- A reply from its JSON form. -/
def ofJson (json : Json) : StatSummaryResponse :=
  ⟨json.optionAt okOfJson "ok", json.optionAt ResourceError.ofJson "error"⟩

/-- A reply in its JSON form. -/
def toJson (m : StatSummaryResponse) : Json :=
  .obj [("ok", .ofOption okToJson m.ok), ("error", .ofOption ResourceError.toJson m.error)]

end StatSummaryResponse

namespace EdgesRequest

/-- A request for connections from its JSON form. -/
def ofJson (json : Json) : EdgesRequest :=
  ⟨json.optionAt ResourceSelection.ofJson "selector"⟩

/-- A request for connections in its JSON form. -/
def toJson (m : EdgesRequest) : Json :=
  .obj [("selector", .ofOption ResourceSelection.toJson m.selector)]

end EdgesRequest

namespace Edge

/-- A connection from its JSON form. -/
def ofJson (json : Json) : Edge :=
  ⟨json.optionAt MeshResource.ofJson "src", json.optionAt MeshResource.ofJson "dst",
    json.textAt "client_id", json.textAt "server_id", json.textAt "no_identity_msg"⟩

/-- A connection in its JSON form. -/
def toJson (m : Edge) : Json :=
  .obj [("src", .ofOption MeshResource.toJson m.src), ("dst", .ofOption MeshResource.toJson m.dst),
    ("client_id", .str m.clientId), ("server_id", .str m.serverId),
    ("no_identity_msg", .str m.noIdentityMsg)]

end Edge

namespace EdgesResponse

/-- The connections of a reply from their JSON form. -/
def okOfJson (json : Json) : EdgesOk :=
  ⟨(json.itemsAt "edges").map Edge.ofJson⟩

/-- The connections of a reply in their JSON form. -/
def okToJson (m : EdgesOk) : Json :=
  .obj [("edges", .arr (m.edges.map Edge.toJson))]

/-- A reply from its JSON form. -/
def ofJson (json : Json) : EdgesResponse :=
  ⟨json.optionAt okOfJson "ok", json.optionAt ResourceError.ofJson "error"⟩

/-- A reply in its JSON form. -/
def toJson (m : EdgesResponse) : Json :=
  .obj [("ok", .ofOption okToJson m.ok), ("error", .ofOption ResourceError.toJson m.error)]

end EdgesResponse

end ClusterWatch
