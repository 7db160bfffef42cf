import ClusterWatch.Proofs.Watch.Replica

/-!
# Rebuilding what is watched

As long as a watch shows single changes and complete listings, whoever follows the deliveries of its
tracker rebuilds what the tracker knows.

* `Showing` — a single change or a complete listing; `Tracker.after`, `Tracker.told` and
  `Tracker.replicaAfter` are the tracker, the deliveries and the replica after a history of these.
* `Tracker.Follows` — the invariant: the tracker and the replica are in step, outside of listings.
* `Follows.change`, `Follows.listing` — every showing keeps the invariant;
  `Follows.version?_listing` says what a listing leaves.
* `Tracker.rebuilds_history` — what the replica is after any history, and how each
  delivery takes it.
-/

namespace ClusterWatch

/-- What a watch shows at a time: a change of a single object, or a complete listing. -/
inductive Showing (α : Type) where
  /-- A change of an object. -/
  | single (change : Change) (object : α)
  /-- A complete listing of objects. -/
  | listing (objects : List α)

/-- The events of the watch by which something is shown. -/
def Showing.events {α : Type} : Showing α → List (WatchEvent α)
  | .single change object => [change.event object]
  | .listing objects => .init :: objects.map .initApply ++ [.initDone]

namespace Tracker

open Replica (insertAll keys lastNamed?)

variable {α : Type} [ClusterObject α]

/-! ### Histories -/

/-- The tracker after a history of showings that begins with nothing known. -/
def after (history : List (Showing α)) : Tracker α :=
  (empty.observeAll (history.flatMap Showing.events)).1

/-- The deliveries that a history of showings has released. -/
def told (history : List (Showing α)) : List (Delivery α) :=
  (empty.observeAll (history.flatMap Showing.events)).2

/-- The replica of somebody who has followed the deliveries from the beginning. -/
def replicaAfter (history : List (Showing α)) : Replica α :=
  Replica.deliverAll ∅ (told history)

/-- The tracker after a further showing has observed its events. -/
theorem after_concat (history : List (Showing α)) (next : Showing α) :
    after (history ++ [next]) = ((after history).observeAll next.events).1 := by
  simp [after, observeAll_append]

/-- What a further showing tells comes after what the earlier ones have told. -/
theorem told_concat (history : List (Showing α)) (next : Showing α) :
    told (history ++ [next]) = told history ++ ((after history).observeAll next.events).2 := by
  simp [told, after, observeAll_append]

/-- A further showing is delivered to the replica of the earlier ones. -/
theorem replicaAfter_concat (history : List (Showing α)) (next : Showing α) :
    replicaAfter (history ++ [next]) =
      (replicaAfter history).deliverAll ((after history).observeAll next.events).2 := by
  rw [replicaAfter, told_concat, Replica.deliverAll_append]
  rfl

/-- A single change is one event. -/
theorem observeAll_single (tracker : Tracker α) (change : Change) (object : α) :
    tracker.observeAll (Showing.single change object).events =
      tracker.observe (change.event object) := by
  simp [Showing.events, observeAll]

/-! ### The invariant -/

/-- A tracker that is in step with a replica. -/
structure Follows (tracker : Tracker α) (replica : Replica α) : Prop where
  /-- Every object is known under its own key. -/
  keyed : Replica.Keyed tracker.known
  /-- The replica holds what is known. -/
  sameVersions : replica.SameVersions tracker.known

/-- At first neither the tracker nor the replica holds anything. -/
theorem follows_empty : (empty : Tracker α).Follows ∅ where
  keyed := by
    intro key object h
    simp [empty] at h
  sameVersions _ := rfl

variable {tracker : Tracker α} {replica : Replica α}

/-- The state in which an object is deleted has the key of the object. -/
theorem key_lastKnown {known : Replica α} (hkeyed : known.Keyed) (object : α) :
    ClusterObject.key (known[ClusterObject.key object]?.getD object) =
      ClusterObject.key object := by
  cases hknown : known[ClusterObject.key object]? with
  | none => rfl
  | some old => exact hkeyed _ _ hknown

/-- A change of a single object keeps tracker and replica in step. -/
theorem Follows.change (h : tracker.Follows replica) (change : Change) (object : α) :
    (tracker.observe (change.event object)).1.Follows
      (replica.deliverAll (tracker.observe (change.event object)).2) := by
  cases change with
  | applied =>
    exact ⟨h.keyed.insert object,
      fun key => version?_deliverAll_change (h.sameVersions key) object⟩
  | deleted =>
    refine ⟨h.keyed.erase (ClusterObject.key object), fun key => ?_⟩
    -- what is told to be gone has the key of what is deleted
    rw [Change.event, observe, Replica.deliverAll_cons, Replica.deliverAll_nil,
      Replica.version?_deliver, Delivery.object, key_lastKnown h.keyed, Replica.version?_erase,
      h.sameVersions key]
    rfl

/-- A replica in step with a tracker lacks the objects that are not known. -/
theorem Follows.getElem?_eq_none_iff (h : tracker.Follows replica) {key : String} :
    replica[key]? = none ↔ tracker.known[key]? = none :=
  h.sameVersions.getElem?_eq_none_iff

/-- The deliveries of a complete listing leave its objects in the versions listed last,
and no others. -/
theorem Follows.version?_listing (h : tracker.Follows replica) (objects : List α) (key : String) :
    (replica.deliverAll
        (tracker.observeAll (Showing.listing objects).events).2).version? key =
      (lastNamed? objects key).map ClusterObject.version := by
  rw [Showing.events, observeAll_listing]
  exact version?_deliverAll_listing h.keyed
    (fun _ => version?_deliverAll_changes (h.sameVersions key) objects) h.getElem?_eq_none_iff.mpr

/-- What is known after a complete listing: the objects listed last. -/
theorem getElem?_known_listing (tracker : Tracker α) (objects : List α) (key : String) :
    (tracker.observeAll (Showing.listing objects).events).1.known[key]? =
      lastNamed? objects key := by
  rw [Showing.events, observeAll_listing, Std.ExtTreeMap.getElem?_filter',
    Replica.getElem?_insertAll]
  have hseen : (keys objects).contains key = (lastNamed? objects key).isSome := by
    rw [Bool.eq_iff_iff, Std.ExtTreeSet.contains_iff_mem, Replica.mem_keys_iff_isSome]
  cases hlast : lastNamed? objects key with
  | some object => simp [hseen, hlast]
  | none => simp [hseen, hlast]

/-- After a listing the tracker knows the versions that have been listed last. -/
theorem version?_known_listing (tracker : Tracker α) (objects : List α) (key : String) :
    Replica.version? (tracker.observeAll (Showing.listing objects).events).1.known key =
      (lastNamed? objects key).map ClusterObject.version := by
  rw [Replica.version?, getElem?_known_listing]

/-- A complete listing keeps tracker and replica in step. -/
theorem Follows.listing (h : tracker.Follows replica) (objects : List α) :
    (tracker.observeAll (Showing.listing objects).events).1.Follows
      (replica.deliverAll (tracker.observeAll (Showing.listing objects).events).2) where
  keyed := by
    rw [Showing.events, observeAll_listing]
    exact (h.keyed.insertAll objects).filter _
  sameVersions key := by
    rw [h.version?_listing, version?_known_listing]

/-- After every history, tracker and replica are in step. -/
theorem follows_after (history : List (Showing α)) :
    (after history).Follows (replicaAfter history) := by
  induction history using List.reverseRecOn with
  | nil => exact follows_empty
  | append_singleton history next ih =>
    rw [after_concat, replicaAfter_concat]
    cases next with
    | single change object =>
      rw [observeAll_single]
      exact ih.change change object
    | listing objects => exact ih.listing objects

/-! ### How deliveries take the replica -/

/-- What is told of a single change fits the replica, except the deletion of an object that
is not there. -/
theorem Follows.fitsAll_single (h : tracker.Follows replica) (change : Change) (object : α) :
    replica.FitsAll (tracker.observe (change.event object)).2 ∨
      change = .deleted ∧ (tracker.observe (change.event object)).2 = [.deleted object] ∧
        replica[ClusterObject.key object]? = none := by
  cases change with
  | applied => exact Or.inl (fitsAll_change h.keyed h.sameVersions object)
  | deleted =>
    cases hknown : tracker.known[ClusterObject.key object]? with
    -- the deletion of what is not known is delivered all the same
    | none =>
      exact Or.inr ⟨rfl, by simp [Change.event, observe, hknown],
        h.getElem?_eq_none_iff.mpr hknown⟩
    | some old =>
      have hsame := h.sameVersions (ClusterObject.key object)
      rw [Replica.version?, Replica.version?, hknown] at hsame
      obtain ⟨present, hpresent, -⟩ := Option.map_eq_some_iff.mp hsame
      refine Or.inl ⟨⟨present, ?_⟩, trivial⟩
      rw [key_lastKnown h.keyed]
      exact hpresent

/-- What is told at the end of a listing fits the replica, delivery after delivery. -/
theorem Follows.fitsAll_listing (h : tracker.Follows replica) (objects : List α) :
    replica.FitsAll (changes tracker.known objects ++
      stale (insertAll tracker.known objects) (keys objects)) := by
  rw [Replica.fitsAll_append, stale_eq]
  refine ⟨fitsAll_changes h.keyed h.sameVersions objects,
    Replica.fitsAll_deleted (pairwise_unlisted (h.keyed.insertAll objects) _) ?_⟩
  intro object hobject
  obtain ⟨key, hknown, -⟩ := mem_unlisted.mp hobject
  -- by the end of the listing the replica holds all that is known
  have hsame := version?_deliverAll_changes (h.sameVersions key) objects
  rw [Replica.version?, Replica.version?, hknown] at hsame
  obtain ⟨present, hpresent, -⟩ := Option.map_eq_some_iff.mp hsame
  refine ⟨present, ?_⟩
  rw [h.keyed.insertAll objects key object hknown]
  exact hpresent

/-! ### Suppression -/

/-- The tracker in the middle of a listing that has begun and has named some objects, and what has
been released since its beginning. -/
def begun (tracker : Tracker α) (objects : List α) : Tracker α × List (Delivery α) :=
  tracker.observeAll (.init :: objects.map .initApply)

/-- The deliveries that a listing in progress holds back. -/
def held (tracker : Tracker α) : List (Delivery α) :=
  (tracker.listing.map Listing.held).getD []

/-- An event of which nothing is told, neither at once nor at the end of the listing in progress. -/
def Suppresses (tracker : Tracker α) (event : WatchEvent α) : Prop :=
  (tracker.observe event).2 ++ (tracker.observe event).1.held = tracker.held

/-- An object that carries a version which is the last known one of it. -/
def Repeats (tracker : Tracker α) (object : α) : Prop :=
  ∃ version, ClusterObject.version object = some version ∧
    Replica.version? tracker.known (ClusterObject.key object) = some (some version)

/-- A single object is suppressed exactly if it repeats a version. -/
theorem suppresses_apply_iff (tracker : Tracker α) (object : α) :
    tracker.Suppresses (.apply object) ↔ tracker.Repeats object := by
  rw [Repeats, ← change?_eq_none_iff]
  simp [Suppresses, observe, held]

/-- A listed object is suppressed exactly if it repeats a version. -/
theorem suppresses_initApply_iff (tracker : Tracker α) (object : α) :
    tracker.Suppresses (.initApply object) ↔ tracker.Repeats object := by
  rw [Repeats, ← change?_eq_none_iff]
  obtain ⟨known, listing⟩ := tracker
  cases listing <;> simp [Suppresses, observe, held]

/-! ### Any history -/

/-- What the deliveries of a tracker are to somebody who has followed them through a history. -/
structure Rebuilds (history : List (Showing α)) : Prop where
  /-- The replica holds the keys that the tracker knows, in the known versions. -/
  known : (replicaAfter history).SameVersions (after history).known
  /-- After a listing, the replica holds the keys listed, in the versions listed last. -/
  listed : ∀ objects key, (replicaAfter (history ++ [.listing objects])).version? key =
    (lastNamed? objects key).map ClusterObject.version
  /-- Before a listing is complete, nothing is delivered. -/
  silent : ∀ objects, ((after history).begun objects).2 = []
  /-- What is delivered for a single change takes the replica for what it is, except the deletion of
  an object that is not there. -/
  single : ∀ change object, ∃ deliveries,
    told (history ++ [.single change object]) = told history ++ deliveries ∧
      ((replicaAfter history).FitsAll deliveries ∨
        change = .deleted ∧ deliveries = [.deleted object] ∧
          (replicaAfter history)[ClusterObject.key object]? = none)
  /-- What is delivered at the end of a listing, first what has been held and then the deletions of
  objects that are not listed, takes the replica for what it is, one after another. -/
  listing : ∀ objects, ∃ unlisted : List α,
    told (history ++ [.listing objects]) =
        told history ++ (((after history).begun objects).1.held ++ unlisted.map .deleted) ∧
      (∀ delivery ∈ ((after history).begun objects).1.held,
        ∃ object ∈ objects, delivery.current? = some object) ∧
      (∀ object ∈ unlisted, ∀ other ∈ objects,
        ClusterObject.key other ≠ ClusterObject.key object) ∧
      (replicaAfter history).FitsAll
        (((after history).begun objects).1.held ++ unlisted.map .deleted)
  /-- An object is suppressed exactly if it carries a version that is the last known one of it. -/
  suppressed : ∀ object, (after history).Suppresses (.apply object) ↔
    (after history).Repeats object
  /-- The same holds of a listed object. -/
  suppressedListed : ∀ objects object,
    ((after history).begun objects).1.Suppresses (.initApply object) ↔
      ((after history).begun objects).1.Repeats object

/-- Whatever single changes and complete listings a watch has shown, whoever follows the deliveries
of its tracker holds what the tracker knows, and each delivery takes the replica for what it is. -/
theorem rebuilds_history (history : List (Showing α)) : Rebuilds history := by
  have h := follows_after history
  exact {
    known := h.sameVersions
    listed := fun objects key => by
      rw [replicaAfter_concat]
      exact h.version?_listing objects key
    silent := fun objects => by rw [begun, observeAll_begun]
    single := fun change object => by
      refine ⟨_, told_concat history _, ?_⟩
      rw [observeAll_single]
      exact h.fitsAll_single change object
    listing := fun objects => by
      have hheld : ((after history).begun objects).1.held =
          changes (after history).known objects := by
        rw [begun, observeAll_begun]
        rfl
      rw [hheld]
      refine ⟨unlisted (insertAll (after history).known objects) (keys objects), ?_, ?_, ?_, ?_⟩
      · rw [told_concat, Showing.events, observeAll_listing, stale_eq]
      · intro delivery hdelivery
        obtain ⟨object, hobject, -, hcurrent⟩ := exists_of_mem_changes hdelivery
        exact ⟨object, hobject, hcurrent⟩
      -- what is stale has a key that the listing does not have
      · intro object hobject other hother hkey
        obtain ⟨key, hknown, hunseen⟩ := mem_unlisted.mp hobject
        refine hunseen (Replica.mem_keys.mpr ⟨other, hother, ?_⟩)
        rw [hkey, h.keyed.insertAll objects key object hknown]
      · rw [← stale_eq]
        exact h.fitsAll_listing objects
    suppressed := suppresses_apply_iff _
    suppressedListed := fun objects => suppresses_initApply_iff _ }

end Tracker

end ClusterWatch
