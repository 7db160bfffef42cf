import ClusterWatch.Network
import ClusterWatch.NodeAgent.Pool

/-!
# The directory of node agents

Where the agent on each node is called, and what it can be asked. A node without an address
cannot be called.
-/

namespace ClusterWatch

/-- The questions that a node agent answers. -/
inductive AgentQuestion where
  /-- Which disks the node has. -/
  | disks
  /-- How full its mount points are. -/
  | usage
  deriving DecidableEq, Repr

namespace AgentQuestion

/-- The name under which calls with a question are counted. -/
def name : AgentQuestion → String
  | .disks => "disks_info"
  | .usage => "block_used_size"

/-- The path that a question is put to. -/
def path : AgentQuestion → String
  | .disks => "/v1/disks"
  | .usage => "/v1/blockusedsize"

end AgentQuestion

/-- An agent that can be called. -/
structure AgentTarget where
  /-- The node that the agent runs on. -/
  node : String
  /-- The base address of the agent. -/
  base : String
  deriving DecidableEq, Repr

namespace AgentTarget

/-- The address that a question is put to; slashes at the end of the base address do not count. -/
def url (target : AgentTarget) (question : AgentQuestion) : String :=
  String.ofList ((target.base.toList.reverse.dropWhile (· = '/')).reverse) ++ question.path

end AgentTarget

/-- The agent on a node: it listens on the address of the node. -/
def Node.agentTarget (port : Nat) (node : Node) : Except AgentError AgentTarget :=
  let name := ClusterObject.name node
  match node.ip?.filter (· ≠ "") with
  | some ip => .ok ⟨name, "http://" ++ ip ++ ":" ++ toString port⟩
  | none => .error (.missingAddress name)

/-- The agents on the given nodes. -/
def agentDirectory (port : Nat) (nodes : List Node) : List (Except AgentError AgentTarget) :=
  nodes.map (Node.agentTarget port)

/-- The call to an agent of the directory, given how long the exchange takes and what it comes to.
One that cannot be called fails at once. -/
def AgentCall.ofTarget {τ : Type} (decode : Bytes → Option τ) (delay : Nat)
    (exchange : AgentExchange) :
    Except AgentError AgentTarget → AgentCall τ
  | .ok target => ⟨target.node, delay, exchange.answer target.node decode⟩
  | .error error => ⟨error.node, 0, .error error⟩

end ClusterWatch
