import ClusterWatch.Cluster.Resource

/-!
# Ingress records

Where traffic enters the cluster: rules, each with an entry point and paths that lead to services,
collected in a record per ingress name. Rules for HTTP come from ingress objects, rules for the
transport protocols from their configs.
-/

namespace ClusterWatch

/-- The protocols by which traffic enters. -/
inductive Protocol where
  /-- HTTP, by host name and path. -/
  | http
  /-- TCP, by port. -/
  | tcp
  /-- UDP, by port. -/
  | udp
  deriving DecidableEq, Repr, Inhabited

/-- The name of a protocol. -/
def Protocol.name : Protocol → String
  | .http => "http"
  | .tcp => "tcp"
  | .udp => "udp"

/-- A path that leads to a service. -/
structure IngressPath where
  /-- The path itself. -/
  path : String
  /-- The name of the service. -/
  serviceName : String
  /-- The port of the service, by number or by name. -/
  servicePort : String
  deriving DecidableEq, Repr, Inhabited

/-- A rule of an ingress: a place where traffic enters, and where it goes from there. -/
structure IngressRule where
  /-- The host name, for HTTP. -/
  host : String
  /-- The port. -/
  port : UInt16
  /-- The protocol. -/
  protocol : Protocol
  /-- The paths. -/
  paths : List IngressPath
  deriving DecidableEq, Repr, Inhabited

/-- The address at which the traffic of a rule enters. -/
def IngressRule.entryPoint (rule : IngressRule) : String :=
  match rule.protocol with
  | .http => "http://" ++ rule.host
  | protocol => protocol.name ++ ":" ++ toString rule.port.toNat

/-- Whether a rule has a path to a service. -/
def IngressRule.targets (rule : IngressRule) (service : String) : Bool :=
  rule.paths.any (·.serviceName = service)

/-- The rules under one ingress name. -/
structure IngressRecord where
  /-- The name of the ingress. -/
  name : String
  /-- The rules, in order. -/
  rules : List IngressRule
  deriving DecidableEq, Repr, Inhabited

/-- Whether some rule of a record has a path to a service. -/
def IngressRecord.targets (record : IngressRecord) (service : String) : Bool :=
  record.rules.any (·.targets service)

/-- The port on which HTTP traffic enters. -/
def httpPort : UInt16 := 80

/-- The text of a backend port: its number, or else its name. -/
def BackendPort.text (port : BackendPort) : String :=
  (port.number.map toString <|> port.name).getD ""

/-- The path to a service that an ingress object describes, if it leads to one. -/
def HttpPath.toIngressPath? (path : HttpPath) : Option IngressPath :=
  path.service.map fun service =>
    ⟨path.path.getD "/", service.name, (service.port.map BackendPort.text).getD ""⟩

/-- The rules that an ingress object describes, one for each of its hosts. -/
def Ingress.httpRules (ingress : Ingress) : List IngressRule :=
  ingress.hosts.map fun host =>
    ⟨host.host.getD "", httpPort, .http, host.paths.filterMap HttpPath.toIngressPath?⟩

end ClusterWatch
