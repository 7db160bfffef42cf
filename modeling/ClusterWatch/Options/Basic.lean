import ClusterWatch.Cluster.Config
import ClusterWatch.Options.SocketAddress

/-!
# Options of the agent

The options that the agent is started with. Each has a flag, an environment variable and a default;
the flag goes before the variable, and the variable before the default.

Arguments are read one after another. The value of a flag follows it, or stands behind an equals
sign; an argument that looks like a flag is never taken for a value. A value is judged when the next
flag begins or when the arguments end, and a flag that is given twice is refused then.
-/

namespace ClusterWatch

/-- The options of the agent. -/
structure Options where
  /-- How long a usage sample is good, in seconds. -/
  cacheTime : Nat
  /-- The time between two rounds of checks, in seconds. -/
  checkInterval : Nat
  /-- The port of the node agents. -/
  nodeAgentPort : Nat
  /-- How many node agents are asked at a time. -/
  nodeAgentConcurrency : Nat
  /-- The address that the agent listens on. -/
  listen : SocketAddress
  /-- The base address of the mesh controller. -/
  meshApi : String
  /-- The time that mesh statistics are about. -/
  meshTimeWindow : String
  /-- The name of the agent's own pod. -/
  podName : String
  /-- The namespace of the agent's own pod. -/
  podNs : String
  deriving DecidableEq, Repr, Inhabited

/-- Why the options cannot be used. -/
inductive OptionsError where
  /-- A value is not one that the option takes. -/
  | valueValidation
  /-- There is no such flag, or no flag at all. -/
  | unknownArgument
  /-- A flag lacks its value. -/
  | missingValue
  /-- A flag is given twice. -/
  | conflict
  /-- A flag that takes no value is given one. -/
  | unneededValue
  /-- The help is asked for. -/
  | helpRequested
  /-- The version is asked for. -/
  | versionRequested
  deriving DecidableEq, Repr

/-- The options that take a value. -/
inductive Flag where
  /-- How long a usage sample is good. -/
  | cacheTime
  /-- The time between two rounds of checks. -/
  | checkInterval
  /-- The port of the node agents. -/
  | nodeAgentPort
  /-- How many node agents are asked at a time. -/
  | nodeAgentConcurrency
  /-- The address that the agent listens on. -/
  | listen
  /-- The base address of the mesh controller. -/
  | meshApi
  /-- The time that mesh statistics are about. -/
  | meshTimeWindow
  /-- The name of the agent's own pod. -/
  | podName
  /-- The namespace of the agent's own pod. -/
  | podNs
  deriving DecidableEq, Repr

namespace Flag

/-- All of them. -/
def all : List Flag :=
  [.cacheTime, .checkInterval, .nodeAgentPort, .nodeAgentConcurrency, .listen, .meshApi,
    .meshTimeWindow, .podName, .podNs]

/-- The flag on the command line, without the dashes. -/
def long : Flag → String
  | .cacheTime => "cache-time"
  | .checkInterval => "check-interval"
  | .nodeAgentPort => "node-agent-port"
  | .nodeAgentConcurrency => "node-agent-concurrency"
  | .listen => "listen"
  | .meshApi => "linkerd-api"
  | .meshTimeWindow => "mesh-time-window"
  | .podName => "pod-name"
  | .podNs => "pod-namespace"

/-- The environment variable. -/
def environmentVariable : Flag → String
  | .cacheTime => "CACHE_TIME"
  | .checkInterval => "CHECK_INTERVAL"
  | .nodeAgentPort => "NODE_AGENT_PORT"
  | .nodeAgentConcurrency => "NODE_AGENT_CONCURRENCY"
  | .listen => "LISTEN_ADDRESS"
  | .meshApi => "LINKERD_API_URL"
  | .meshTimeWindow => "MESH_TIME_WINDOW"
  | .podName => "POD_NAME"
  | .podNs => "POD_NAMESPACE"

/-- The flag of that name. -/
def ofLong? (name : String) : Option Flag :=
  all.find? (·.long = name)

end Flag

namespace Options

/-- The options where nothing is given. -/
def default : Options where
  cacheTime := 60
  checkInterval := 30
  nodeAgentPort := 8090
  nodeAgentConcurrency := 8
  listen := .v4 [0, 0, 0, 0] 8080
  meshApi := "http://linkerd-controller-api.linkerd.svc.cluster.local:8085"
  meshTimeWindow := "1m"
  podName := "cluster-agent"
  podNs := reservedNamespace

/-- An unsigned number of 64 bits. -/
def readCount? (value : String) : Option Nat :=
  Text.readUnsigned? (UInt64.size - 1) value.toList

/-- A port number; it may carry any sign that leaves it a port number. -/
def readPort? (value : String) : Option Nat :=
  (Text.readSigned? 9223372036854775807 value.toList).bind fun (n : Int) =>
    if 0 ≤ n ∧ n < UInt16.size then some n.toNat else none

/-- The options with the value of one replaced, if it is one that the option takes. -/
def set? (options : Options) (flag : Flag) (value : String) : Option Options :=
  match flag with
  | .cacheTime => (readCount? value).map ({ options with cacheTime := · })
  | .checkInterval =>
    ((readCount? value).filter (1 ≤ ·)).map ({ options with checkInterval := · })
  | .nodeAgentPort => (readPort? value).map ({ options with nodeAgentPort := · })
  | .nodeAgentConcurrency => (readCount? value).map ({ options with nodeAgentConcurrency := · })
  | .listen => (SocketAddress.ofText? value).map ({ options with listen := · })
  | .meshApi => some { options with meshApi := value }
  | .meshTimeWindow => some { options with meshTimeWindow := value }
  | .podName => some { options with podName := value }
  | .podNs => some { options with podNs := value }

/-- How long a usage sample is good, in milliseconds. -/
def cacheTtlMs (options : Options) : Nat := options.cacheTime * 1000

/-- The time between two rounds of checks, in milliseconds. -/
def checkIntervalMs (options : Options) : Nat := options.checkInterval * 1000

end Options

namespace Arguments

/-- The arguments that have been read so far. -/
structure Progress where
  /-- The options by the flags that have been judged. -/
  options : Options
  /-- Those flags. -/
  given : List Flag
  /-- The last flag that has not been judged yet, with its value if there is one by now. -/
  pending : Option (Flag × Option String)

/-- A flag with its value judged: the value must be there, the flag must be new, and the value must
be one that the option takes, in this order. -/
def Progress.judge (progress : Progress) (flag : Flag) (value : Option String) :
    Except OptionsError Progress :=
  match value with
  | none => .error .missingValue
  | some value =>
    if progress.given.contains flag then .error .conflict
    else
      match progress.options.set? flag value with
      | some options => .ok ⟨options, flag :: progress.given, none⟩
      | none => .error .valueValidation

/-- The pending flag judged, if there is one. -/
def Progress.settle (progress : Progress) : Except OptionsError Progress :=
  match progress.pending with
  | some (flag, value) => progress.judge flag value
  | none => .ok progress

/-- The name and the attached value of an argument that begins with two dashes. -/
def splitLong (cs : List Char) : String × Option String :=
  match cs.dropWhile (· ≠ '=') with
  | _ :: value => (String.ofList (cs.takeWhile (· ≠ '=')), some (String.ofList value))
  | [] => (String.ofList cs, none)

/-- Read a long flag. -/
def Progress.readLong (progress : Progress) (name : String) (attached : Option String) :
    Except OptionsError Progress :=
  let display := if name = "help" then some OptionsError.helpRequested
    else if name = "version" then some OptionsError.versionRequested
    else none
  match display, Flag.ofLong? name, attached with
  | some _, _, some _ => .error .unneededValue
  | some request, _, none => progress.settle.bind fun _ => .error request
  | none, some flag, some value =>
    progress.settle.bind fun progress => progress.judge flag (some value)
  | none, some flag, none =>
    progress.settle.bind fun progress => .ok { progress with pending := some (flag, none) }
  | none, none, _ => .error .unknownArgument

/-- Read an argument that begins with one dash. -/
def Progress.readShort (progress : Progress) (letter : Char) : Except OptionsError Progress :=
  if letter = 'h' then progress.settle.bind fun _ => .error .helpRequested
  else if letter = 'V' then progress.settle.bind fun _ => .error .versionRequested
  else .error .unknownArgument

/-- Read all arguments. What follows a lone double dash can only be something that is not known. -/
def read (progress : Progress) : List String → Except OptionsError Progress
  | [] => progress.settle
  | argument :: rest =>
    match argument.toList with
    | ['-', '-'] => if rest.isEmpty then progress.settle else .error .unknownArgument
    | '-' :: '-' :: cs =>
      let (name, attached) := splitLong cs
      match progress.readLong name attached with
      | .ok progress => read progress rest
      | .error error => .error error
    | '-' :: letter :: _ =>
      match progress.readShort letter with
      | .ok progress => read progress rest
      | .error error => .error error
    | _ =>
      match progress.pending with
      | some (flag, none) => read { progress with pending := some (flag, some argument) } rest
      | _ => .error .unknownArgument

/-- The environment variables of the flags that are not given. -/
def readEnvironment (progress : Progress) (environment : String → Option String) :
    Except OptionsError Options :=
  Flag.all.foldlM (fun options flag =>
    if progress.given.contains flag then .ok options
    else
      match environment flag.environmentVariable with
      | none => .ok options
      | some value =>
        match options.set? flag value with
        | some options => .ok options
        | none => .error .valueValidation) progress.options

/-- The options that arguments and environment variables set. -/
def parse (arguments : List String) (environment : String → Option String) :
    Except OptionsError Options :=
  (read ⟨.default, [], none⟩ arguments).bind fun progress =>
    readEnvironment progress environment

end Arguments

end ClusterWatch
