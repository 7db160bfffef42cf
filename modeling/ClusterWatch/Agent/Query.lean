import ClusterWatch.Agent.Basic

/-!
# Asking the agent

The questions that need the node agents: for disks, for usage, and for whatever is told from a usage
sample. A usage sample is taken from the cache while it is good. An answer comes with the agent
afterwards and with the alerts that failed calls have raised.
-/

namespace ClusterWatch

/-- An answer of the agent. -/
structure Answer (α : Type) where
  /-- The agent afterwards. -/
  agent : Agent
  /-- The alerts that have been raised. -/
  alerts : List Alert
  /-- The answer itself. -/
  value : α

/-- The same answer in another form. -/
def Answer.map {α β : Type} (f : α → β) (answer : Answer α) : Answer β :=
  ⟨answer.agent, answer.alerts, f answer.value⟩

/-- Whether a call has been made at all, rather than failed for want of an address. -/
def AgentCall.isMade {τ : Type} (call : AgentCall τ) : Bool :=
  match call.answer with
  | .error (.missingAddress _) => false
  | _ => true

namespace Agent

/-- The calls with a question counted, and those of them that failed. -/
def countCalls {τ : Type} (agent : Agent) (question : AgentQuestion) (calls : List (AgentCall τ))
    (failures : List AgentError) : Agent :=
  let timed := (calls.filter AgentCall.isMade).foldl
    (fun metrics call => metrics.nodeAgentRequest question.name call.duration) agent.metrics
  { agent with metrics :=
      failures.foldl (fun metrics error => metrics.nodeAgentFailure error.node) timed }

/-- All node agents asked one question. -/
def ask {τ : Type} (agent : Agent) (question : AgentQuestion) (calls : List (AgentCall τ)) :
    Answer (FanOut.Outcome τ) :=
  let outcome := FanOut.run agent.width calls
  ⟨(agent.countCalls question calls outcome.failures).countAlerts outcome.alerts,
    outcome.alerts, outcome⟩

/-- The disks of the nodes whose agents answer. -/
def disks (agent : Agent) (surroundings : Surroundings) : Answer (Std.ExtTreeMap String Disks) :=
  (agent.ask .disks surroundings.diskCalls).map FanOut.Outcome.byNode

/-- The cached usage sample while it is good, and else a new one. -/
def sample (agent : Agent) (surroundings : Surroundings) : Answer UsageSample :=
  match agent.cache.fresh? surroundings.now with
  | some sample => ⟨agent, [], sample⟩
  | none =>
    let answer := agent.ask .usage surroundings.usageCalls
    let reading := agent.cache.read surroundings.now answer.value.sample
    ⟨{ answer.agent with cache := reading.cache, metrics := answer.agent.metrics.cacheRefresh },
      answer.alerts, reading.sample⟩

/-- The usage sample read as often as given; what is read last counts, and nothing read is an empty
sample. -/
def samples (agent : Agent) (surroundings : Surroundings) : Nat → Answer UsageSample
  | 0 => ⟨agent, [], ∅⟩
  | n + 1 =>
    let before := agent.samples surroundings n
    let last := before.agent.sample surroundings
    ⟨last.agent, before.alerts ++ last.alerts, last.value⟩

/-- The volumes by storage class. -/
def classes (agent : Agent) (surroundings : Surroundings) :
    Answer (Std.ExtTreeMap String (List VolumeView)) :=
  (agent.sample surroundings).map agent.storage.classify

/-- The storage of every class. -/
def classTotals (agent : Agent) (surroundings : Surroundings) :
    Answer (Std.ExtTreeMap String StorageTotal) :=
  (agent.sample surroundings).map agent.storage.classTotals

/-- The bytes that the bound volumes of a namespace use. -/
def namespaceUsed (agent : Agent) (surroundings : Surroundings) (ns : String) : Answer UInt64 :=
  (agent.sample surroundings).map (agent.storage.namespaceUsed · ns)

/-- The pods of a namespace with the volumes that they mount. -/
def volumeChains (agent : Agent) (surroundings : Surroundings) (ns : String) :
    Answer (List VolumeChain) :=
  (agent.sample surroundings).map (agent.storage.volumeChains · ns)

/-- What the checks read, with the given usage sample. -/
def clusterState (agent : Agent) (surroundings : Surroundings) (sample : UsageSample) :
    ClusterState :=
  ⟨agent.stores, surroundings.metrics, agent.storage, sample⟩

/-- The alerts that a check yields. They are not raised by asking for them. -/
def check (agent : Agent) (surroundings : Surroundings) (thresholds : Thresholds) (check : Check) :
    Answer (List Alert) :=
  let reads := (agent.clusterState surroundings ∅).sampleReads check
  (agent.samples surroundings reads).map fun sample =>
    (agent.clusterState surroundings sample).alerts thresholds check

end Agent

end ClusterWatch
