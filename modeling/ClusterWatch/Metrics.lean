import Std.Data.ExtTreeMap
import ClusterWatch.Number.Shortest

/-!
# Metrics

What the agent counts of its own work, and the text form in which it shows that: families of samples
by name, each with a line of help and a line with its type, and the samples of a family by the
values of their labels. Families without samples are left out.
-/

namespace ClusterWatch

/-- How long calls took, by the number of calls up to each bound. -/
structure Histogram where
  /-- The number of calls that took at most as long as each of the bounds, in order
  of the bounds. -/
  counts : List Nat
  /-- The number of all calls. -/
  count : Nat
  /-- The time of all calls together in seconds. -/
  sum : Binary64
  deriving DecidableEq, Repr

namespace Histogram

/-- The bounds in seconds. -/
def bounds : List Binary64 :=
  [.ofDecimal false 5 (-3), .ofDecimal false 1 (-2), .ofDecimal false 5 (-2),
    .ofDecimal false 1 (-1), .ofDecimal false 5 (-1), .ofNat 1, .ofNat 2, .ofNat 5, .ofNat 10]

/-- A histogram without calls. -/
def empty : Histogram := ⟨bounds.map fun _ => 0, 0, .zero⟩

/-- The number of seconds that a number of milliseconds is. -/
def seconds (milliseconds : Nat) : Binary64 :=
  (Binary64.ofNat (milliseconds / 1000)).add
    ((Binary64.ofNat (milliseconds % 1000 * 1000000)).div (.ofNat 1000000000))

/-- A call added that took as many milliseconds. -/
def observe (histogram : Histogram) (milliseconds : Nat) : Histogram :=
  let time := seconds milliseconds
  ⟨(histogram.counts.zip bounds).map fun (n, bound) => if time.le bound then n + 1 else n,
    histogram.count + 1, histogram.sum.add time⟩

end Histogram

/-- Counts by the values of their labels. -/
abbrev Counts := Std.ExtTreeMap (List String) Nat

/-- What the agent counts. -/
structure Metrics where
  /-- The handled events, by kind of object and projection. -/
  eventsHandled : Counts
  /-- The failed writes, by component. -/
  reconcileErrors : Counts
  /-- The failed calls to node agents, by node. -/
  nodeAgentFailures : Counts
  /-- The alerts, by kind of object. -/
  alertsEmitted : Counts
  /-- Whether each check of the monitor runs, one for yes. -/
  monitorRunning : Counts
  /-- How often the mount point cache was refreshed. -/
  cacheRefreshes : Nat
  /-- The durations of calls to node agents, by question. -/
  nodeAgentRequests : Std.ExtTreeMap String Histogram

namespace Metrics

/-- Nothing counted yet. -/
def zero : Metrics := ⟨∅, ∅, ∅, ∅, ∅, 0, ∅⟩

/-- One more under the given labels. -/
def increment (counts : Counts) (labels : List String) : Counts :=
  counts.insert labels ((counts[labels]?.getD 0) + 1)

/-- Count an event that a projection has handled. -/
def eventHandled (metrics : Metrics) (projection kind : String) : Metrics :=
  { metrics with eventsHandled := increment metrics.eventsHandled [kind, projection] }

/-- Count a failed write of a component. -/
def reconcileError (metrics : Metrics) (component : String) : Metrics :=
  { metrics with reconcileErrors := increment metrics.reconcileErrors [component] }

/-- Count a failed call to the agent of a node. -/
def nodeAgentFailure (metrics : Metrics) (node : String) : Metrics :=
  { metrics with nodeAgentFailures := increment metrics.nodeAgentFailures [node] }

/-- Count an alert about an object of a kind. -/
def alertEmitted (metrics : Metrics) (kind : String) : Metrics :=
  { metrics with alertsEmitted := increment metrics.alertsEmitted [kind] }

/-- Count a refresh of the mount point cache. -/
def cacheRefresh (metrics : Metrics) : Metrics :=
  { metrics with cacheRefreshes := metrics.cacheRefreshes + 1 }

/-- Note whether a check of the monitor runs. -/
def setMonitorRunning (metrics : Metrics) (check : String) (running : Bool) : Metrics :=
  { metrics with monitorRunning :=
      metrics.monitorRunning.insert [check] (if running then 1 else 0) }

/-- Count a call to a node agent that took as many milliseconds. -/
def nodeAgentRequest (metrics : Metrics) (question : String) (milliseconds : Nat) : Metrics :=
  let before := metrics.nodeAgentRequests[question]?.getD .empty
  { metrics with nodeAgentRequests :=
      metrics.nodeAgentRequests.insert question (before.observe milliseconds) }

/-- The value of a label with backslashes, quotes and line ends escaped. -/
def escapeLabel (value : String) : String :=
  String.ofList (value.toList.flatMap fun c =>
    if c = '\\' then ['\\', '\\']
    else if c = '"' then ['\\', '"']
    else if c = '\n' then ['\\', 'n']
    else [c])

/-- The labels of a sample in braces; nothing for a sample without labels. -/
def labelText (labels : List (String × String)) : String :=
  if labels.isEmpty then ""
  else
    "\x7b" ++ String.intercalate "," (labels.map fun (name, value) =>
      name ++ "=\"" ++ escapeLabel value ++ "\"") ++ "\x7d"

/-- The line of a sample. -/
def sampleLine (name : String) (labels : List (String × String)) (value : String) : String :=
  name ++ labelText labels ++ " " ++ value

/-- The full name of a family. -/
def familyName (name : String) : String :=
  "cluster_agent_" ++ name

/-- The lines of a family; none if it has no samples. -/
def familyLines (name help type : String) (samples : List String) : List String :=
  if samples.isEmpty then []
  else
    ("# HELP " ++ familyName name ++ " " ++ help) ::
      ("# TYPE " ++ familyName name ++ " " ++ type) :: samples

/-- The lines of a family of counts with the given labels. -/
def countLines (name help type : String) (labels : List String) (counts : Counts) : List String :=
  familyLines name help type (counts.toList.map fun (values, n) =>
    sampleLine (familyName name) (labels.zip values) (toString n))

/-- The lines of a histogram: the counts up to each bound and of all calls, the sum,
and the count. -/
def histogramLines (name question : String) (histogram : Histogram) : List String :=
  let label := ("rpc", question)
  let bucket (bound : String) (n : Nat) :=
    sampleLine (familyName name ++ "_bucket") [label, ("le", bound)] (toString n)
  (Histogram.bounds.zip histogram.counts).map (fun (bound, n) => bucket bound.toText n) ++
    [bucket "+Inf" histogram.count,
      sampleLine (familyName name ++ "_sum") [label] histogram.sum.toText,
      sampleLine (familyName name ++ "_count") [label] (toString histogram.count)]

/-- The lines of all families. -/
def lines (metrics : Metrics) : List String :=
  countLines "alerts_emitted_total" "Total number of alerts emitted by scope" "counter" ["scope"]
      metrics.alertsEmitted ++
    countLines "events_handled_total"
      "Total number of cluster events handled by projection and kind" "counter"
      ["kind", "projection"] metrics.eventsHandled ++
    countLines "monitor_running" "Whether each threshold monitor loop is running"
      "gauge" ["monitor"]
      metrics.monitorRunning ++
    familyLines "mountpoint_cache_refreshes_total"
      "Total number of mount-point cache refreshes" "counter"
      [sampleLine (familyName "mountpoint_cache_refreshes_total") []
        (toString metrics.cacheRefreshes)] ++
    countLines "node_agent_failures_total" "Total number of failed node-agent calls by node"
      "counter" ["node"]
      metrics.nodeAgentFailures ++
    familyLines "node_agent_request_duration_seconds"
      "Duration of node-agent calls in seconds by rpc" "histogram"
      (metrics.nodeAgentRequests.toList.flatMap fun (question, histogram) =>
        histogramLines "node_agent_request_duration_seconds" question histogram) ++
    countLines "reconcile_errors_total" "Total number of reconcile errors by component"
      "counter" ["component"]
      metrics.reconcileErrors

end Metrics

end ClusterWatch
