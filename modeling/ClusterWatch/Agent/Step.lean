import ClusterWatch.Agent.Query
import ClusterWatch.Config.Attempts

/-!
# Steps of the agent

What the agent does with everything that happens to it. Cluster events go to every projection
that follows their kind. A monitor that is started on the way runs its first round of checks at
the end of the step.
-/

namespace ClusterWatch

/-- Something that happens to the agent. -/
inductive Happening where
  /-- A watch yields an event of a published kind. -/
  | observed (observation : Observation)
  /-- A watch yields an event that only the store of its kind is told of. -/
  | reflected (observation : Observation)
  /-- A cluster event is published directly. -/
  | published (event : ClusterEvent)
  /-- The bus is opened. -/
  | opened
  /-- The rules of a transport protocol are replaced. -/
  | transportReplaced (protocol : Protocol) (entries : List TransportEntry)
  /-- The cached usage sample is dropped. -/
  | sampleDropped
  /-- The monitor is started. -/
  | monitorStarted (thresholds : Thresholds)
  /-- The monitor is given new thresholds. -/
  | monitorReconfigured (thresholds : Thresholds)
  /-- The monitor is stopped. -/
  | monitorStopped
  /-- The time between two rounds of checks has passed. -/
  | intervalPassed

namespace Agent

/-- The monitor replaced, and its checks noted as running or not. -/
def setMonitor (agent : Agent) (monitor : Monitor) : Agent :=
  let metrics :=
    if monitor.isRunning = agent.monitor.isRunning then agent.metrics
    else Check.all.foldl
      (fun metrics check => metrics.setMonitorRunning check.name monitor.isRunning) agent.metrics
  { agent with monitor, metrics }

/-- The reconciler told of a cluster event: its writes are made, and those that fail are counted. -/
def reconcile (agent : Agent) (surroundings : Surroundings) (event : ClusterEvent) :
    Agent × Effects :=
  let run :=
    ReconcilerRun.ofEvent surroundings.accepts agent.stores agent.ownership agent.metrics event
  ({ agent with ownership := run.index, metrics := run.metrics },
    { Effects.none with writes := run.writes, failures := run.failures })

/-- One projection told of a cluster event. -/
def tell (agent : Agent) (surroundings : Surroundings) (event : ClusterEvent) :
    Projection → Agent × Effects
  | .reconciler => agent.reconcile surroundings event
  | .topology => ({ agent with topology := agent.topology.handle agent.stores event }, .none)
  | .storage =>
    ({ agent with
        storage := agent.storage.handle event
        cache :=
          if StorageIndex.outdatesSample event then agent.cache.invalidate
            else agent.cache }, .none)
  | .network => ({ agent with network := agent.network.handle event }, .none)
  | .monitor =>
    match event with
    | .configMaps delivery => (agent.setMonitor (agent.monitor.onConfigMap delivery), .none)
    | _ => (agent, .none)

/-- A cluster event told to a projection, if the projection follows its kind. -/
def offer (surroundings : Surroundings) (event : ClusterEvent) (before : Agent × Effects)
    (projection : Projection) : Agent × Effects :=
  if projection.interestedIn event.kind then
    let (agent, effects) := before.1.tell surroundings event projection
    ({ agent with metrics := agent.metrics.eventHandled projection.name event.kind.name },
      before.2 ++ effects)
  else before

/-- A cluster event that the bus has passed on. -/
def follow (surroundings : Surroundings) (before : Agent × Effects) (event : ClusterEvent) :
    Agent × Effects :=
  before.1.subscribed.foldl (offer surroundings event)
    (before.1, before.2 ++ { Effects.none with passed := [event] })

/-- The relay replaced, and what the bus has passed on told to the projections. -/
def relayed (agent : Agent) (surroundings : Surroundings) (outcome : Relay × List ClusterEvent) :
    Agent × Effects :=
  outcome.2.foldl (follow surroundings) ({ agent with relay := outcome.1 }, .none)

/-- One check run, and its alerts raised. -/
def runCheck (surroundings : Surroundings) (thresholds : Thresholds) (before : Agent × List Alert)
    (check : Check) : Agent × List Alert :=
  let answer := before.1.check surroundings thresholds check
  (answer.agent.countAlerts answer.value, before.2 ++ answer.alerts ++ answer.value)

/-- A round of all checks. -/
def round (agent : Agent) (surroundings : Surroundings) (thresholds : Thresholds) :
    Agent × List Alert :=
  Check.all.foldl (runCheck surroundings thresholds) (agent, [])

/-- A round of checks, if there are thresholds for it. -/
def roundWith (agent : Agent) (surroundings : Surroundings) (thresholds : Option Thresholds) :
    Agent × List Alert :=
  match thresholds with
  | some thresholds => agent.round surroundings thresholds
  | none => (agent, [])

/-- The first round of a monitor that has just been started. -/
def settle (agent : Agent) (surroundings : Surroundings) : Agent × List Alert :=
  let (monitor, thresholds) := agent.monitor.firstRound
  ({ agent with monitor }).roundWith surroundings thresholds

/-- What happens to the agent taken in, all but the first round of a monitor that it starts. -/
def takeIn (agent : Agent) (surroundings : Surroundings) : Happening → Agent × Effects
  | .observed observation => agent.relayed surroundings (agent.relay.observe observation)
  | .reflected observation => ({ agent with relay := agent.relay.reflect observation }, .none)
  | .published event => agent.relayed surroundings (agent.relay.publish event)
  | .opened => agent.relayed surroundings agent.relay.release
  | .transportReplaced protocol entries =>
    ({ agent with topology := agent.topology.replaceTransport protocol entries }, .none)
  | .sampleDropped => ({ agent with cache := agent.cache.invalidate }, .none)
  | .monitorStarted thresholds => (agent.setMonitor (agent.monitor.start thresholds), .none)
  | .monitorReconfigured thresholds =>
    (agent.setMonitor (agent.monitor.reconfigure thresholds), .none)
  | .monitorStopped => (agent.setMonitor agent.monitor.stop, .none)
  | .intervalPassed =>
    let (agent, alerts) := agent.roundWith surroundings agent.monitor.thresholds?
    (agent, .ofAlerts alerts)

/-- A step of the agent: what happens to it, and then the first round of a monitor that
it has started. -/
def step (agent : Agent) (surroundings : Surroundings) (happening : Happening) : Agent × Effects :=
  let (agent, effects) := agent.takeIn surroundings happening
  let (agent, alerts) := agent.settle surroundings
  (agent, effects ++ .ofAlerts alerts)

end Agent

end ClusterWatch
