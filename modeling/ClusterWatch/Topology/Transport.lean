import ClusterWatch.Cluster.Metadata
import ClusterWatch.Text.Blank
import ClusterWatch.Text.Numeral
import ClusterWatch.Topology.Ingress

/-!
# Transport entries

The entries of the configs for TCP and UDP: a listen port as the key, and `namespace/service:port`
as the value. The errors are judged in a fixed order: the listen port, the two separators, empty
names, and last the port of the service.
-/

namespace ClusterWatch

/-- An entry that leads a listen port to the port of a service. -/
structure TransportEntry where
  /-- The listen port. -/
  port : UInt16
  /-- The namespace of the service. -/
  ns : String
  /-- The name of the service. -/
  service : String
  /-- The port of the service. -/
  servicePort : UInt16
  /-- The protocol. -/
  protocol : Protocol
  deriving DecidableEq, Repr, Inhabited

/-- Why a key and a value are no transport entry. -/
inductive TransportEntryError where
  /-- The key is no port number. -/
  | invalidListenPort (listen : String)
  /-- The value has no slash. -/
  | missingNamespace (target : String)
  /-- The value has no colon after its first slash. -/
  | missingPort (target : String)
  /-- The port of the service is no port number. -/
  | invalidTargetPort (target : String)
  /-- The namespace or the name of the service is empty. -/
  | emptyName (target : String)
  deriving DecidableEq, Repr

/-- The text that reports an error. -/
def TransportEntryError.message : TransportEntryError → String
  | .invalidListenPort listen => s!"invalid listen port '{listen}'"
  | .missingNamespace target =>
    s!"target '{target}' is missing a namespace ('<namespace>/<service>:<port>')"
  | .missingPort target => s!"target '{target}' is missing a port ('<namespace>/<service>:<port>')"
  | .invalidTargetPort target => s!"invalid target port in '{target}'"
  | .emptyName target => s!"empty namespace or service in '{target}'"

/-- What stands before and after the first occurrence of a character. -/
def splitFirst? (c : Char) : List Char → Option (List Char × List Char)
  | [] => none
  | d :: rest =>
    if d = c then some ([], rest) else (splitFirst? c rest).map fun (before, after) =>
      (d :: before, after)

namespace TransportEntry

/-- A port number, with an optional plus sign. -/
def readPort? (cs : List Char) : Option UInt16 :=
  (Text.readUnsigned? (UInt16.size - 1) cs).map UInt16.ofNat

/-- The entry that a key and a value make. -/
def parse (protocol : Protocol) (listen target : String) :
    Except TransportEntryError TransportEntry :=
  match readPort? (Text.trimChars listen.toList) with
  | none => .error (.invalidListenPort listen)
  | some port =>
    match splitFirst? '/' (Text.trimChars target.toList) with
    | none => .error (.missingNamespace target)
    | some (ns, rest) =>
      match splitFirst? ':' rest with
      | none => .error (.missingPort target)
      | some (service, servicePort) =>
        if ns.isEmpty || service.isEmpty then .error (.emptyName target)
        else
          match readPort? servicePort with
          | none => .error (.invalidTargetPort target)
          | some servicePort =>
            .ok ⟨port, String.ofList ns, String.ofList service, servicePort, protocol⟩

/-- The entries of a config, in the order of its keys; malformed ones are dropped. -/
def parseAll (protocol : Protocol) (data : TextMap) : List TransportEntry :=
  data.toList.filterMap fun (listen, target) => (parse protocol listen target).toOption

/-- The key of an entry. -/
def key (entry : TransportEntry) : String :=
  toString entry.port.toNat

/-- The value of an entry. -/
def value (entry : TransportEntry) : String :=
  entry.ns ++ "/" ++ entry.service ++ ":" ++ toString entry.servicePort.toNat

/-- The config that holds the entries; of entries with one listen port the last one stays. -/
def format (entries : List TransportEntry) : TextMap :=
  entries.foldl (fun data entry => data.insert entry.key entry.value) ∅

/-- The rule that an entry stands for. -/
def rule (entry : TransportEntry) : IngressRule :=
  ⟨"", entry.port, entry.protocol, [⟨"", entry.service, toString entry.servicePort.toNat⟩]⟩

/-- The records that the entries of a namespace make: one for each service, under the name
of the service. -/
def recordsWithin (entries : List TransportEntry) (ns : String) :
    Std.ExtTreeMap String IngressRecord :=
  entries.foldl (fun records entry =>
    if entry.ns = ns then
      records.insert entry.service
        ⟨entry.service,
          ((records[entry.service]?.map IngressRecord.rules).getD []) ++ [entry.rule]⟩
    else records) ∅

/-- The records that entries make, by namespace and service. -/
def toIngresses (entries : List TransportEntry) :
    Std.ExtTreeMap String (Std.ExtTreeMap String IngressRecord) :=
  entries.foldl
    (fun namespaces entry => namespaces.insert entry.ns (recordsWithin entries entry.ns)) ∅

end TransportEntry

/-- The protocol whose entries a config map of that name holds. -/
def Protocol.ofConfigName? (name : String) : Option Protocol :=
  if name = "tcp-services" then some .tcp
  else if name = "udp-services" then some .udp
  else none

end ClusterWatch
