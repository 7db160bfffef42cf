import Std.Data.ExtTreeMap
import ClusterWatch.Text.Blank
import ClusterWatch.Text.Numeral

/-!
# Thresholds

A threshold is a percentage of a total, one for each dimension of the monitor; zero switches the
dimension off. A dimension is breached when the whole percentage that is used exceeds its threshold.
-/

namespace ClusterWatch

/-- What the monitor watches. -/
inductive Dimension where
  /-- Processor time. -/
  | cpu
  /-- Memory. -/
  | memory
  /-- Storage. -/
  | storage
  /-- The number of pods. -/
  | podCount
  deriving DecidableEq, Repr

/-- The name of a dimension in messages. -/
def Dimension.displayName : Dimension → String
  | .cpu => "cpu"
  | .memory => "memory"
  | .storage => "storage"
  | .podCount => "pod count"

/-- The key of a dimension in the data of the threshold config. -/
def Dimension.key : Dimension → String
  | .cpu => "cpu"
  | .memory => "memory"
  | .storage => "storage"
  | .podCount => "podCount"

/-- Why a text is no threshold. -/
inductive ThresholdError where
  /-- The value under the key is not an unsigned integer of 64 bits. -/
  | notAnInteger (key value : String)
  deriving DecidableEq, Repr

/-- The text that reports an error. -/
def ThresholdError.message : ThresholdError → String
  | .notAnInteger key value => s!"threshold '{key}' has non-integer value '{value}'"

/-- The thresholds of the monitor in percent. -/
structure Thresholds where
  /-- The threshold for processor time. -/
  cpu : UInt64
  /-- The threshold for memory. -/
  memory : UInt64
  /-- The threshold for storage. -/
  storage : UInt64
  /-- The threshold for the number of pods. -/
  podCount : UInt64
  deriving DecidableEq, Repr, Inhabited

namespace Thresholds

/-- The value of a threshold, with blanks around it ignored. -/
def parse (key value : String) : Except ThresholdError UInt64 :=
  match Text.readUInt64? (Text.trim value) with
  | some threshold => .ok threshold
  | none => .error (.notAnInteger key value)

/-- The threshold that the data give under a key; zero where it is missing or malformed. -/
def read (data : Std.ExtTreeMap String String) (key : String) : UInt64 :=
  match data[key]? with
  | none => 0
  | some value =>
    match parse key value with
    | .ok threshold => threshold
    | .error _ => 0

/-- The thresholds that the data of the threshold config set. -/
def ofData (data : Std.ExtTreeMap String String) : Thresholds where
  cpu := read data Dimension.cpu.key
  memory := read data Dimension.memory.key
  storage := read data Dimension.storage.key
  podCount := read data Dimension.podCount.key

/-- The threshold of a dimension. -/
def get (thresholds : Thresholds) : Dimension → UInt64
  | .cpu => thresholds.cpu
  | .memory => thresholds.memory
  | .storage => thresholds.storage
  | .podCount => thresholds.podCount

end Thresholds

/-- The whole percentage of `total` that `used` is, at most the largest 64-bit number; none for
an empty total. -/
def usageRatio? (used total : UInt64) : Option UInt64 :=
  if total = 0 then none
  else some (UInt64.ofNat (min (UInt64.size - 1) (used.toNat * 100 / total.toNat)))

/-- A dimension whose usage exceeds its threshold. -/
structure Breach where
  /-- The dimension that is breached. -/
  dimension : Dimension
  /-- The percentage that is used. -/
  ratio : UInt64
  /-- The percentage that is exceeded. -/
  threshold : UInt64
  deriving DecidableEq, Repr

/-- The text that reports a breach. -/
def Breach.message (breach : Breach) : String :=
  s!"{breach.dimension.displayName} usage {breach.ratio}% exceeds threshold {breach.threshold}%"

/-- The breach of a dimension, if its threshold is set, there is a total, and the ratio exceeds the
threshold. -/
def Thresholds.check? (thresholds : Thresholds) (dimension : Dimension) (used total : UInt64) :
    Option Breach :=
  let threshold := thresholds.get dimension
  if threshold = 0 then none
  else
    match usageRatio? used total with
    | none => none
    | some ratio => if threshold < ratio then some ⟨dimension, ratio, threshold⟩ else none

end ClusterWatch
