import ClusterWatch.Cluster.Resource
import ClusterWatch.Monitor.Threshold
import ClusterWatch.Monitor.Usage

/-!
# Samples

How much of its processor time, memory and room for pods a node or the whole cluster uses. Sums
are 64-bit sums.
-/

namespace ClusterWatch

/-- What there is and what is used. -/
structure Sample where
  /-- Processor time in thousandths of a core. -/
  cpu : UInt64
  /-- The processor time that is used. -/
  cpuUsed : UInt64
  /-- Memory in bytes. -/
  memory : UInt64
  /-- The memory that is used. -/
  memoryUsed : UInt64
  /-- The number of pods that there is room for. -/
  pods : UInt64
  /-- The number of pods that there are. -/
  podsUsed : UInt64
  deriving DecidableEq, Repr, Inhabited

namespace Sample

/-- Nothing at all. -/
def zero : Sample := ⟨0, 0, 0, 0, 0, 0⟩

/-- Two samples together. -/
def add (x y : Sample) : Sample :=
  ⟨x.cpu + y.cpu, x.cpuUsed + y.cpuUsed, x.memory + y.memory, x.memoryUsed + y.memoryUsed,
    x.pods + y.pods, x.podsUsed + y.podsUsed⟩

/-- A list of samples together. -/
def sum (samples : List Sample) : Sample :=
  samples.foldl add zero

/-- The breached dimensions of a sample. -/
def breaches (sample : Sample) (thresholds : Thresholds) : List Breach :=
  [thresholds.check? .cpu sample.cpuUsed sample.cpu,
    thresholds.check? .memory sample.memoryUsed sample.memory,
    thresholds.check? .podCount sample.podsUsed sample.pods].filterMap id

/-- The sample of a node with the given usage and number of running pods. -/
def ofNode (node : Node) (usage : Usage) (runningPods : UInt64) : Sample where
  cpu := Quantity.cpuMillisOf node.allocatable "cpu"
  cpuUsed := usage.cpuMillis
  memory := Quantity.bytesOf node.allocatable "memory"
  memoryUsed := usage.memoryBytes
  pods := Quantity.bytesOf node.allocatable "pods"
  podsUsed := runningPods

end Sample

end ClusterWatch
