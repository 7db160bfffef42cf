import ClusterWatch.Storage.Sample

/-!
# The mount point cache

The last usage sample, kept for some time so that not every question asks all nodes again. Times are
in milliseconds.
-/

namespace ClusterWatch

/-- A cache for the last usage sample. -/
structure MountpointCache where
  /-- How long a sample is good. -/
  ttl : Nat
  /-- The last sample and the time at which it was taken. -/
  sample : Option (Nat × UsageSample)

namespace MountpointCache

/-- A cache without a sample. -/
def empty (ttl : Nat) : MountpointCache := ⟨ttl, none⟩

/-- The cached sample, if it is still good at the given time. -/
def fresh? (cache : MountpointCache) (now : Nat) : Option UsageSample :=
  match cache.sample with
  | some (taken, sample) => if now - taken < cache.ttl then some sample else none
  | none => none

/-- What a question to the cache comes to. -/
structure Reading where
  /-- The cache afterwards. -/
  cache : MountpointCache
  /-- The sample that is used. -/
  sample : UsageSample
  /-- Whether the sample had to be fetched. -/
  fetched : Bool

/-- Read the cache: the cached sample while it is good, and else the current one, which
is cached then. -/
def read (cache : MountpointCache) (now : Nat) (current : UsageSample) : Reading :=
  match cache.fresh? now with
  | some sample => ⟨cache, sample, false⟩
  | none => ⟨{ cache with sample := some (now, current) }, current, true⟩

/-- Drop the sample. -/
def invalidate (cache : MountpointCache) : MountpointCache :=
  { cache with sample := none }

end MountpointCache

end ClusterWatch
