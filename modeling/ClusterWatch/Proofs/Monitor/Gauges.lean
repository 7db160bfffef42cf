import Mathlib.Data.List.Basic
import ClusterWatch.Monitor.Checks
import ClusterWatch.Proofs.Monitor.Thresholds

/-!
# What the checks compare with the thresholds

What a check measures does not depend on the thresholds: it reads one gauge after another,
and alerts on those that exceed the threshold of their dimension. So thresholds can be
compared gauge by gauge.

* `Gauge`, `ClusterState.gauges` — what is measured of which object, and all that
  a check measures.
* `ClusterState.alerts_eq` — the alerts of a check are those of its gauges.
* `ClusterState.alerts_by_thresholds` — laxer thresholds alert on no more gauges and with the same
  ratios, thresholds of zero on none, and those of a hundred on none that is not used up.
-/

namespace ClusterWatch

/-! ### Gauges -/

/-- What of an object is measured. -/
inductive Aspect where
  /-- The object as a whole. -/
  | whole
  /-- The volumes of a storage class. -/
  | storageClass (name : String)
  /-- A volume that the object mounts by a claim. -/
  | chain (volume claim : String)
  deriving DecidableEq, Repr

/-- The text that names an aspect at the beginning of a message. -/
def Aspect.text : Aspect → String
  | .whole => ""
  | .storageClass name => s!"storage class {name}: "
  | .chain volume claim => s!"volume {volume} (claim {claim}): "

/-- How much of a dimension an object uses, and how much there is. -/
structure Gauge where
  /-- The kind of the object. -/
  kind : String
  /-- The namespace of the object, empty for a cluster-wide one. -/
  ns : String
  /-- The name of the object. -/
  name : String
  /-- What of the object is measured. -/
  aspect : Aspect
  /-- The dimension. -/
  dimension : Dimension
  /-- What is used. -/
  used : UInt64
  /-- What there is. -/
  total : UInt64
  deriving DecidableEq, Repr

namespace Gauge

/-- The breach of a gauge, if it exceeds the threshold of its dimension. -/
def breach? (gauge : Gauge) (thresholds : Thresholds) : Option Breach :=
  thresholds.check? gauge.dimension gauge.used gauge.total

/-- The alert that a breach of a gauge raises. -/
def alert (gauge : Gauge) (breach : Breach) : Alert :=
  breach.alert gauge.kind gauge.ns gauge.name gauge.aspect.text

/-- The alert on a gauge, if it exceeds the threshold of its dimension. -/
def alert? (gauge : Gauge) (thresholds : Thresholds) : Option Alert :=
  (gauge.breach? thresholds).map gauge.alert

/-- Where gauges raise their alerts about one object as a whole, the alerts on their breaches are
those on the gauges. -/
theorem map_breaches (gauges : List Gauge) {kind ns name : String}
    (h : ∀ gauge ∈ gauges, gauge.alert = (·.alert kind ns name "")) (thresholds : Thresholds) :
    ((gauges.map (·.breach? thresholds)).filterMap id).map (·.alert kind ns name "") =
      gauges.filterMap (·.alert? thresholds) := by
  rw [List.filterMap_map, List.map_filterMap]
  refine List.filterMap_congr fun gauge hgauge => ?_
  rw [alert?, h gauge hgauge]
  rfl

end Gauge

/-- The gauges of a sample of an object. -/
def Sample.gauges (sample : Sample) (kind name : String) : List Gauge :=
  [⟨kind, "", name, .whole, .cpu, sample.cpuUsed, sample.cpu⟩,
    ⟨kind, "", name, .whole, .memory, sample.memoryUsed, sample.memory⟩,
    ⟨kind, "", name, .whole, .podCount, sample.podsUsed, sample.pods⟩]

/-- The alerts on what a sample breaches are those on its gauges. -/
theorem Sample.map_breaches (sample : Sample) (thresholds : Thresholds) (kind name : String) :
    (sample.breaches thresholds).map (·.alert kind "" name "") =
      (sample.gauges kind name).filterMap (·.alert? thresholds) := by
  refine Gauge.map_breaches (sample.gauges kind name) (fun gauge hgauge => ?_) thresholds
  obtain rfl | rfl | rfl : gauge = _ ∨ gauge = _ ∨ gauge = _ := by simpa [gauges] using hgauge
  all_goals rfl

namespace ClusterState

/-- What the cluster check measures. -/
def clusterGauges (state : ClusterState) : List Gauge :=
  state.clusterSample.gauges "Cluster" "cluster" ++
    (state.storage.classTotals state.sample).toList.map fun (name, total) =>
      ⟨"Cluster", "", "cluster", .storageClass name, .storage, total.used, total.total⟩

/-- What the node check measures. -/
def nodeGauges (state : ClusterState) : List Gauge :=
  state.nodeSamples.toList.flatMap fun (name, sample) => sample.gauges "Node" name

/-- What the namespace check measures of a namespace itself, with the limits of its quotas or else
of the cluster. -/
def ownGauges (state : ClusterState) (ns : String) : List Gauge :=
  [⟨"Namespace", "", ns, .whole, .cpu, (state.namespaceUsage ns).cpuMillis,
      (state.quotaLimit? ns "limits.cpu" Quantity.cpuMillisOf).getD state.clusterSample.cpu⟩,
    ⟨"Namespace", "", ns, .whole, .memory, (state.namespaceUsage ns).memoryBytes,
      (state.quotaLimit? ns "limits.memory" Quantity.bytesOf).getD state.clusterSample.memory⟩,
    ⟨"Namespace", "", ns, .whole, .storage, state.storage.namespaceUsed state.sample ns,
      (state.quotaLimit? ns "requests.storage" Quantity.bytesOf).getD state.clusterStorage⟩]

/-- What the namespace check measures of a namespace and of the volumes that its pods mount. -/
def gaugesWithin (state : ClusterState) (ns : String) : List Gauge :=
  state.ownGauges ns ++ (state.storage.volumeChains state.sample ns).map fun chain =>
    ⟨"Pod", ns, chain.pod, .chain chain.volume chain.claim, .storage, chain.used, chain.total⟩

/-- What a check measures. -/
def gauges (state : ClusterState) : Check → List Gauge
  | .cluster => state.clusterGauges
  | .node => state.nodeGauges
  | .perNamespace =>
    (state.stores.namespaces.toList.map ClusterObject.name).flatMap state.gaugesWithin

/-- The alerts of the check of the cluster are those of its gauges. -/
theorem clusterAlerts_eq (state : ClusterState) (thresholds : Thresholds) :
    state.clusterAlerts thresholds = state.clusterGauges.filterMap (·.alert? thresholds) := by
  rw [clusterAlerts, clusterGauges, List.filterMap_append, Sample.map_breaches, List.filterMap_map]
  rfl

/-- So are those of the check of the nodes. -/
theorem nodeAlerts_eq (state : ClusterState) (thresholds : Thresholds) :
    state.nodeAlerts thresholds = state.nodeGauges.filterMap (·.alert? thresholds) := by
  rw [nodeAlerts, nodeGauges, List.filterMap_flatMap]
  simp only [Sample.map_breaches]

/-- The alerts on what a namespace itself breaches are those on its gauges. -/
theorem map_namespaceBreaches (state : ClusterState) (thresholds : Thresholds) (ns : String) :
    (state.namespaceBreaches thresholds ns).map (·.alert "Namespace" "" ns "") =
      (state.ownGauges ns).filterMap (·.alert? thresholds) := by
  refine Gauge.map_breaches (state.ownGauges ns) (fun gauge hgauge => ?_) thresholds
  obtain rfl | rfl | rfl : gauge = _ ∨ gauge = _ ∨ gauge = _ := by
    simpa [ownGauges] using hgauge
  all_goals rfl

/-- And so are those about a namespace. -/
theorem alertsWithin_eq (state : ClusterState) (thresholds : Thresholds) (ns : String) :
    state.alertsWithin thresholds ns =
      (state.gaugesWithin ns).filterMap (·.alert? thresholds) := by
  rw [alertsWithin, gaugesWithin, List.filterMap_append, map_namespaceBreaches, List.filterMap_map]
  rfl

/-- The alerts that a check yields are those on its gauges. -/
theorem alerts_eq (state : ClusterState) (thresholds : Thresholds) (check : Check) :
    state.alerts thresholds check = (state.gauges check).filterMap (·.alert? thresholds) := by
  cases check with
  | cluster => exact state.clusterAlerts_eq thresholds
  | node => exact state.nodeAlerts_eq thresholds
  | perNamespace =>
    rw [gauges, List.filterMap_flatMap]
    exact congrArg (List.flatMap · _) (funext (state.alertsWithin_eq thresholds))

end ClusterState

/-! ### Alerts by thresholds -/

namespace ClusterState

variable {state : ClusterState} {thresholds : Thresholds} {check : Check}

/-- The alerts of a check under all thresholds. -/
structure AlertsByThresholds (state : ClusterState) (check : Check) : Prop where
  /-- An alert is about the breach of a gauge, which does not depend on the thresholds. -/
  told : ∀ (thresholds : Thresholds) (alert : Alert), alert ∈ state.alerts thresholds check ↔
    ∃ gauge ∈ state.gauges check, ∃ breach, gauge.breach? thresholds = some breach ∧
      gauge.alert breach = alert
  /-- Where thresholds are laxer than others, a gauge that exceeds them exceeds the others as well,
  which alert on it with the same percentage. -/
  laxer : ∀ lax strict : Thresholds, lax.Laxer strict →
    ∀ gauge ∈ state.gauges check, ∀ breach,
    gauge.breach? lax = some breach → ∃ other, gauge.breach? strict = some other ∧
      other.dimension = breach.dimension ∧ other.ratio = breach.ratio ∧
      gauge.alert other ∈ state.alerts strict check
  /-- Where all thresholds are zero, nothing is alerted on. -/
  off : ∀ thresholds : Thresholds, (∀ dimension, thresholds.get dimension = 0) →
    state.alerts thresholds check = []
  /-- Where a threshold is a hundred or more, gauges of its dimension that are not used up are
  not alerted on. -/
  full : ∀ thresholds : Thresholds, ∀ gauge ∈ state.gauges check, 100 ≤
    thresholds.get gauge.dimension → gauge.used < gauge.total → gauge.breach? thresholds = none

/-- An alert is raised exactly if one of the gauges is in breach. -/
theorem mem_alerts_iff {alert : Alert} :
    alert ∈ state.alerts thresholds check ↔
      ∃ gauge ∈ state.gauges check, ∃ breach, gauge.breach? thresholds = some breach ∧
        gauge.alert breach = alert := by
  rw [alerts_eq, List.mem_filterMap]
  simp only [Gauge.alert?, Option.map_eq_some_iff]

/-- In every state, the alerts of a check follow the order of the thresholds: there are none if all
of them are zero, none on what is not used up from a hundred on, and with laxer thresholds none on
anything else and none with another percentage. -/
theorem alerts_by_thresholds (state : ClusterState) (check : Check) :
    state.AlertsByThresholds check where
  told thresholds alert := mem_alerts_iff
  laxer lax strict hlaxer gauge hgauge breach hbreach := by
    have hother := hlaxer.check? hbreach
    exact ⟨_, hother, rfl, rfl, mem_alerts_iff.mpr ⟨gauge, hgauge, _, hother, rfl⟩⟩
  off thresholds hoff := by
    rw [alerts_eq, List.filterMap_eq_nil_iff]
    intro gauge hgauge
    rw [Gauge.alert?, Gauge.breach?, Thresholds.check?_of_off (hoff gauge.dimension),
      Option.map_none]
  full thresholds gauge hgauge hhundred hfree := by
    refine Option.eq_none_iff_forall_ne_some.mpr fun breach hbreach => ?_
    obtain ⟨-, ratio, hratio, hexceeds, -⟩ := Thresholds.check?_eq_some_iff.mp hbreach
    -- the percentage would lie above a hundred and below it
    have hbelow := usageRatio?_lt_hundred hfree hratio
    exact UInt64.lt_irrefl _ (UInt64.lt_trans hbelow (UInt64.lt_of_le_of_lt hhundred hexceeds))

end ClusterState

end ClusterWatch
