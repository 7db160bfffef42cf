import ClusterWatch.Json.Basic
import ClusterWatch.Quantity

/-!
# Resource usage

What a node or a pod uses of processor time and memory, as the metrics interface reports it. A
missing or malformed amount counts as zero. Sums are 64-bit sums.
-/

namespace ClusterWatch

/-- Used processor time and memory. -/
structure Usage where
  /-- Processor time in thousandths of a core. -/
  cpuMillis : UInt64
  /-- Memory in bytes. -/
  memoryBytes : UInt64
  deriving DecidableEq, Repr, Inhabited

namespace Usage

/-- No usage at all. -/
def zero : Usage := ⟨0, 0⟩

/-- The usage of two things together. -/
def add (x y : Usage) : Usage :=
  ⟨x.cpuMillis + y.cpuMillis, x.memoryBytes + y.memoryBytes⟩

/-- The usage of a list of things together. -/
def sum (usages : List Usage) : Usage :=
  usages.foldl add zero

/-- An amount that a usage report gives under a key as a string. -/
def readAmount (report : Json) (key : String) (parse : String → Except QuantityError UInt64) :
    UInt64 :=
  match (report.member? key).bind Json.text? with
  | some raw => Quantity.valueOrZero (parse raw)
  | none => 0

/-- The usage that a report gives under `cpu` and `memory`. -/
def ofJson (report : Json) : Usage where
  cpuMillis := readAmount report "cpu" Quantity.parseCpuMillis
  memoryBytes := readAmount report "memory" Quantity.parseBytes

/-- The usage of a pod: what its containers use together. -/
def ofPodJson (report : Json) : Usage :=
  let containers := ((report.member? "containers").bind Json.items?).getD []
  sum ((containers.filterMap (·.member? "usage")).map ofJson)

end Usage

/-- The reported usage of one pod. -/
structure PodUsage where
  /-- The namespace of the pod. -/
  ns : String
  /-- The name of the pod. -/
  name : String
  /-- What the pod uses. -/
  usage : Usage
  deriving DecidableEq, Repr

end ClusterWatch
