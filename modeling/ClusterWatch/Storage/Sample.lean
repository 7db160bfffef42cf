import Std.Data.ExtTreeMap

/-!
# Usage samples

What the nodes report of their mount points: how much room each has and how much of it is used. A
volume is found in a sample by its name, which its mount point contains.
-/

namespace ClusterWatch

/-- The room of a mount point in bytes. -/
structure BlockUsage where
  /-- All of it. -/
  total : UInt64
  /-- What is used of it. -/
  used : UInt64
  deriving DecidableEq, Repr, Inhabited

/-- Whether the first text occurs in the second. -/
def occursIn (needle : List Char) : List Char → Bool
  | [] => needle.isEmpty
  | c :: rest => needle.isPrefixOf (c :: rest) || occursIn needle rest

/-- The reported room by mount point. -/
abbrev UsageSample := Std.ExtTreeMap String BlockUsage

namespace UsageSample

/-- The room of a volume: that of the first mount point that contains its name. -/
def volume? (sample : UsageSample) (volume : String) : Option BlockUsage :=
  (sample.toList.find? fun (mountpoint, _) => occursIn volume.toList mountpoint.toList).map (·.2)

/-- The used bytes of a volume, zero if it is not in the sample. -/
def usedOf (sample : UsageSample) (volume : String) : UInt64 :=
  ((sample.volume? volume).map BlockUsage.used).getD 0

/-- The reports of several nodes merged in order; of one mount point the last report counts. -/
def merge (reports : List UsageSample) : UsageSample :=
  reports.foldl (fun merged report =>
    report.toList.foldl
      (fun merged (mountpoint, usage) => merged.insert mountpoint usage) merged) ∅

end UsageSample

end ClusterWatch
