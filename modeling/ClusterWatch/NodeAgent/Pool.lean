import ClusterWatch.Alert
import ClusterWatch.NodeAgent.Reply

/-!
# Asking all node agents

The agents of all nodes are asked the same question, a limited number of them at a time. The answers
come in whatever order the calls are completed. Every call that fails raises one alert about its
node, and the other answers are not affected by it. Times are in milliseconds.
-/

namespace ClusterWatch

/-- Why a call to a node agent fails. -/
inductive AgentError where
  /-- The call has taken too long. -/
  | timeout (node : String) (seconds : Nat)
  /-- The node has no address to call. -/
  | missingAddress (node : String)
  /-- There is no connection to the agent, or it broke. -/
  | transport (node : String)
  /-- The agent answered with an HTTP status that is no success. -/
  | httpStatus (node : String) (status : Nat)
  /-- The agent answered with something that is not the expected JSON. -/
  | undecodable (node : String)
  deriving DecidableEq, Repr

namespace AgentError

/-- The node that a failed call was made to. -/
def node : AgentError → String
  | .timeout node _ | .missingAddress node | .transport node | .httpStatus node _
    | .undecodable node => node

/-- The text that reports a failed call. -/
def message : AgentError → String
  | .timeout node seconds => s!"node agent on {node} timed out after {seconds}s"
  | .missingAddress node => s!"node {node} has no reachable address"
  | .transport node => s!"node agent on {node} unreachable"
  | .httpStatus node status => s!"node agent on {node} returned HTTP {status}"
  | .undecodable node => s!"node agent on {node} sent an undecodable reply"

/-- The alert that a failed call raises. -/
def alert (error : AgentError) : Alert :=
  ⟨"Node", "", error.node, error.message, .nodeAgentUnavailable⟩

end AgentError

/-- What an HTTP request to an agent comes to. -/
inductive AgentExchange where
  /-- There is no connection, or it broke. -/
  | unreachable
  /-- A reply with its status and body. -/
  | reply (status : Nat) (body : Bytes)
  deriving DecidableEq, Repr

/-- The answer that an exchange with the agent of a node amounts to. -/
def AgentExchange.answer {τ : Type} (node : String) (decode : Bytes → Option τ) :
    AgentExchange → Except AgentError τ
  | .unreachable => .error (.transport node)
  | .reply status body =>
    if 200 ≤ status ∧ status < 300 then
      match decode body with
      | some value => .ok value
      | none => .error (.undecodable node)
    else .error (.httpStatus node status)

/-- The time after which a call is given up; an answer that comes at that very moment
still counts. -/
def agentTimeout : Nat := 10000

/-- A call to the agent of a node: how long it takes, and what it comes to if it is not given up. -/
structure AgentCall (τ : Type) where
  /-- The node. -/
  node : String
  /-- How long the answer takes. -/
  delay : Nat
  /-- The answer. -/
  answer : Except AgentError τ

namespace AgentCall

variable {τ : Type}

/-- How long the call takes at most. -/
def duration (call : AgentCall τ) : Nat :=
  min call.delay agentTimeout

/-- What the call comes to: the answer of its node, unless it takes too long. -/
def result (call : AgentCall τ) : Except AgentError (String × τ) :=
  if agentTimeout < call.delay then .error (.timeout call.node (agentTimeout / 1000))
  else call.answer.map fun value => (call.node, value)

end AgentCall

namespace FanOut

variable {τ : Type}

/-- The first of the running calls that ends at the earliest time, and the other ones. -/
def nextDone? :
    List (Nat × AgentCall τ) → Option ((Nat × AgentCall τ) × List (Nat × AgentCall τ))
  | [] => none
  | run :: rest =>
    match nextDone? rest with
    | none => some (run, rest)
    | some (other, others) =>
      if run.1 ≤ other.1 then some (run, rest) else some (other, run :: others)

/-- The calls in the order of their completion: `running` holds those in progress with the times at
which they end, and as many of the `waiting` ones are started as the width leaves room for. -/
def order (width : Nat) (fuel now : Nat) (running : List (Nat × AgentCall τ))
    (waiting : List (AgentCall τ)) :
    List (AgentCall τ) :=
  match fuel with
  | 0 => []
  | fuel + 1 =>
    let room := width - running.length
    let started := (waiting.take room).map fun call => (now + call.duration, call)
    match nextDone? (running ++ started) with
    | none => []
    | some ((time, call), rest) => call :: order width fuel time rest (waiting.drop room)

/-- The calls in the order of their completion, with at most `width` of them, but at least
one, at a time. -/
def completionOrder (width : Nat) (calls : List (AgentCall τ)) : List (AgentCall τ) :=
  order (max width 1) calls.length 0 [] calls

/-- What asking all agents yields. -/
structure Outcome (τ : Type) where
  /-- The answers with their nodes, in the order in which they came. -/
  values : List (String × τ)
  /-- The failures, in the order in which they came. -/
  failures : List AgentError

/-- The answers and the failures of calls, in the order in which they were completed. -/
def collect (completed : List (AgentCall τ)) : Outcome τ :=
  ⟨completed.filterMap fun call => call.result.toOption,
    completed.filterMap fun call =>
      match call.result with
      | .ok _ => none
      | .error error => some error⟩

/-- Make all calls, with at most `width` of them, but at least one, at a time. -/
def run (width : Nat) (calls : List (AgentCall τ)) : Outcome τ :=
  collect (completionOrder width calls)

/-- The alerts that the failures raise. -/
def Outcome.alerts (outcome : Outcome τ) : List Alert :=
  outcome.failures.map AgentError.alert

/-- The answers by node. -/
def Outcome.byNode (outcome : Outcome τ) : Std.ExtTreeMap String τ :=
  outcome.values.foldl (fun map (node, value) => map.insert node value) ∅

/-- The usage sample that the answers of all nodes make together. -/
def Outcome.sample (outcome : Outcome UsageSample) : UsageSample :=
  UsageSample.merge (outcome.values.map (·.2))

end FanOut

end ClusterWatch
