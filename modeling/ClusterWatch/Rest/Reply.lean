import ClusterWatch.Rest.Route
import ClusterWatch.Rest.View

/-!
# Replies over HTTP

How requests are answered. Everything can only be read: a path that is not known is not found, and a
method other than `GET` and `HEAD` is not allowed on one that is. A `HEAD` request is answered like
a `GET` request without the body.
-/

namespace ClusterWatch

/-- The body of a reply. -/
inductive ReplyBody where
  /-- Nothing. -/
  | nothing
  /-- A plain text. -/
  | text (text : String)
  /-- A JSON value. -/
  | json (value : Json)
  deriving BEq, Repr

/-- A reply. -/
structure Reply where
  /-- The status. -/
  status : Nat
  /-- The media type of the body, empty for none. -/
  contentType : String
  /-- The body. -/
  body : ReplyBody
  deriving BEq, Repr

namespace Reply

/-- The reply to a path that is not known. -/
def notFound : Reply := ⟨404, "", .nothing⟩

/-- The reply to a method that is not allowed. -/
def notAllowed : Reply := ⟨405, "", .nothing⟩

/-- The reply to a namespace whose encoding is not valid. -/
def invalidEncoding : Reply :=
  ⟨400, "text/plain; charset=utf-8", .text "Invalid UTF-8 in `ns`"⟩

/-- A JSON value. -/
def ofJson (value : Json) : Reply := ⟨200, "application/json", .json value⟩

/-- The reply where the mesh controller could not be asked. -/
def badGateway (error : MeshError) : Reply :=
  ⟨502, "application/json", .json (.obj [("error", .str error.message)])⟩

/-- The reply without its body. -/
def withoutBody (reply : Reply) : Reply :=
  { reply with body :=
      match reply.body with
      | .text _ => .text ""
      | _ => .nothing }

end Reply

/-- The type of resources that the mesh controller is asked about. -/
def meshResourceType : String := "deployment"

/-- How HTTP requests are answered: what the mesh statistics are about, and how numbers that are not
whole are written. -/
structure RestSettings where
  /-- The time that mesh statistics are about. -/
  meshTimeWindow : String
  /-- The JSON form of a number. -/
  rate : Binary64 → Json

namespace Agent

/-- The statistics of the deployments of a namespace that are part of the mesh. -/
def meshStats (agent : Agent) (surroundings : Surroundings)
    (settings : RestSettings) (ns : String) : Reply :=
  let request := Mesh.statSummaryRequest ns meshResourceType settings.meshTimeWindow
  match Mesh.stats (surroundings.mesh request) with
  | .ok stats =>
    .ofJson (.arr ((Mesh.meshedOnly agent.stores ns stats).map (MeshStat.toJson settings.rate)))
  | .error error => .badGateway error

/-- The connections between the deployments of a namespace. -/
def meshEdges (surroundings : Surroundings) (ns : String) : Reply :=
  match Mesh.edges (surroundings.mesh (Mesh.edgesRequest ns meshResourceType)) with
  | .ok edges => .ofJson (.arr (edges.map MeshEdge.toJson))
  | .error error => .badGateway error

/-- What is read of a namespace. -/
def readNamespace (agent : Agent) (surroundings : Surroundings)
    (settings : RestSettings) (ns : String) :
    NamespaceResource → Reply
  | .innerServices => .ofJson (.arr ((agent.topology.innerServices ns).map ServiceView.toJson))
  | .outerServices => .ofJson (.arr ((agent.topology.outerServices ns).map OuterServiceView.toJson))
  | .meshStats => agent.meshStats surroundings settings ns
  | .edges => meshEdges surroundings ns

/-- What is read under a route. -/
def read (agent : Agent) (surroundings : Surroundings) (settings : RestSettings) :
    Route → Answer Reply
  | .health => ⟨agent, [], ⟨200, "text/plain; charset=utf-8", .text "ok"⟩⟩
  | .metrics =>
    ⟨agent, [],
      ⟨200, "text/plain; version=0.0.4",
        .text (String.join (agent.metrics.lines.map (· ++ "\n")))⟩⟩
  | .storageClasses =>
    (agent.classes surroundings).map fun classes =>
      .ofJson (.ofMap (fun views => .arr (views.map VolumeView.toJson)) classes)
  | .blockDevices =>
    (agent.disks surroundings).map fun disks => .ofJson (.ofMap Disks.toJson disks)
  | .nodeNetworks => ⟨agent, [], .ofJson agent.network.nodesJson⟩
  | .podNetworks => ⟨agent, [], .ofJson agent.network.podsJson⟩
  | .serviceNetworks => ⟨agent, [], .ofJson agent.network.servicesJson⟩
  | .within resource encodedNs =>
    ⟨agent, [],
      match Text.percentDecode? encodedNs with
      | some ns => agent.readNamespace surroundings settings ns resource
      | none => .invalidEncoding⟩

/-- The reply to an HTTP request. -/
def reply (agent : Agent) (surroundings : Surroundings) (settings : RestSettings)
    (method target : String) :
    Answer Reply :=
  match Route.ofTarget? target with
  | none => ⟨agent, [], .notFound⟩
  | some route =>
    if method = "GET" then agent.read surroundings settings route
    else if method = "HEAD" then (agent.read surroundings settings route).map Reply.withoutBody
    else ⟨agent, [], .notAllowed⟩

end Agent

end ClusterWatch
