import Std.Data.ExtTreeSet
import ClusterWatch.Watch.Event

/-!
# Tracking objects

A tracker turns the events of a watch into deliveries. It remembers the last state of every object
under its key, drops repeated states of the same version, and during a listing holds the
deliveries back: they follow at its end, and after them the deletions of the objects that the
listing has not named.
-/

namespace ClusterWatch

/-- A listing that is not complete yet. -/
structure Listing (α : Type) where
  /-- The keys that the listing has named. -/
  seen : Std.ExtTreeSet String
  /-- The deliveries that wait for its end, in order. -/
  held : List (Delivery α)

/-- What is known of the objects of one kind. -/
structure Tracker (α : Type) where
  /-- The last known state of every object, by its key. -/
  known : Std.ExtTreeMap String α
  /-- The listing in progress, if there is one. -/
  listing : Option (Listing α)

namespace Tracker

variable {α : Type} [ClusterObject α]

/-- A tracker that knows nothing. -/
def empty : Tracker α := ⟨∅, none⟩

/-- Whether two states of an object are the same version of it. -/
def sameVersion (old new : α) : Bool :=
  (ClusterObject.metadata old).resourceVersion.isSome &&
    (ClusterObject.metadata old).resourceVersion == (ClusterObject.metadata new).resourceVersion

/-- The delivery that a state of an object amounts to, given the last known one. -/
def change? (old? : Option α) (new : α) : Option (Delivery α) :=
  match old? with
  | none => some (.created new)
  | some old => if sameVersion old new then none else some (.updated old new)

/-- The deletions of the known objects whose keys a listing has not named, in key order. -/
def stale (known : Std.ExtTreeMap String α) (seen : Std.ExtTreeSet String) : List (Delivery α) :=
  (known.toList.filter fun (key, _) => !seen.contains key).map fun (_, object) => .deleted object

/-- The tracker after an event of the watch, and the deliveries that the event releases. -/
def observe (tracker : Tracker α) : WatchEvent α → Tracker α × List (Delivery α)
  | .init => ({ tracker with listing := some ⟨∅, []⟩ }, [])
  | .initApply object =>
    let key := ClusterObject.key object
    let change := (change? tracker.known[key]? object).toList
    let known := tracker.known.insert key object
    match tracker.listing with
    | some listing => (⟨known, some ⟨listing.seen.insert key, listing.held ++ change⟩⟩, [])
    | none => (⟨known, none⟩, change)
  | .initDone =>
    match tracker.listing with
    | some listing =>
      (⟨tracker.known.filter fun key _ => listing.seen.contains key, none⟩,
        listing.held ++ stale tracker.known listing.seen)
    | none => (tracker, [])
  | .apply object =>
    let key := ClusterObject.key object
    ({ tracker with known := tracker.known.insert key object },
      (change? tracker.known[key]? object).toList)
  | .delete object =>
    let key := ClusterObject.key object
    ({ tracker with known := tracker.known.erase key },
      [.deleted (tracker.known[key]?.getD object)])

end Tracker

end ClusterWatch
