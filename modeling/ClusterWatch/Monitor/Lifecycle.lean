import ClusterWatch.Monitor.Checks

/-!
# The threshold monitor

The monitor runs while its config map exists, with the thresholds that the config map sets. It runs
its checks once right after it is started and then once in every interval.
-/

namespace ClusterWatch

/-- The name of the config map that sets the thresholds. -/
def thresholdConfig : String := "threshold"

/-- A monitor that runs. -/
structure MonitorRun where
  /-- The thresholds that are in force. -/
  thresholds : Thresholds
  /-- Whether its first round of checks is still to come. -/
  fresh : Bool
  deriving DecidableEq, Repr

/-- The threshold monitor, which may be running. -/
structure Monitor where
  /-- The run, none while the monitor is stopped. -/
  run : Option MonitorRun
  deriving DecidableEq, Repr

namespace Monitor

/-- A monitor that is stopped. -/
def stopped : Monitor := ⟨none⟩

/-- Whether the monitor runs. -/
def isRunning (monitor : Monitor) : Bool :=
  monitor.run.isSome

/-- The thresholds that are in force. -/
def thresholds? (monitor : Monitor) : Option Thresholds :=
  monitor.run.map MonitorRun.thresholds

/-- Start the monitor; one that runs gets new thresholds. -/
def start (monitor : Monitor) (thresholds : Thresholds) : Monitor :=
  match monitor.run with
  | some run => ⟨some { run with thresholds }⟩
  | none => ⟨some ⟨thresholds, true⟩⟩

/-- Give the monitor new thresholds; one that is stopped is started. -/
def reconfigure (monitor : Monitor) (thresholds : Thresholds) : Monitor :=
  monitor.start thresholds

/-- Stop the monitor. -/
def stop (_ : Monitor) : Monitor := stopped

/-- Whether the monitor follows a kind of objects. -/
def interestedIn : ResourceKind → Bool
  | .configMaps => true
  | _ => false

/-- Whether a config map is the one that sets the thresholds. -/
def isThresholdConfig (config : ConfigMap) : Bool :=
  config.metadata.ns = some reservedNamespace && ClusterObject.name config = thresholdConfig

/-- Handle a delivery of a config map. -/
def onConfigMap (monitor : Monitor) (delivery : Delivery ConfigMap) : Monitor :=
  if isThresholdConfig delivery.object then
    match delivery with
    | .created config => monitor.start (.ofData config.data)
    | .updated _ config => monitor.reconfigure (.ofData config.data)
    | .deleted _ => monitor.stop
  else monitor

/-- The first round of checks of a fresh run: the monitor afterwards, and the
thresholds to check. -/
def firstRound (monitor : Monitor) : Monitor × Option Thresholds :=
  match monitor.run with
  | some ⟨thresholds, true⟩ => (⟨some ⟨thresholds, false⟩⟩, some thresholds)
  | _ => (monitor, none)

end Monitor

end ClusterWatch
