import Mathlib.Data.List.Find
import ClusterWatch.Proofs.Config.Deliveries
import ClusterWatch.Proofs.Watch.Kinds
import ClusterWatch.Proofs.Watch.Rebuilding

/-!
# Stores and trackers agree

A store and a tracker follow the same watch differently: during a listing the store waits with the
objects and the tracker with the deliveries. At the end of each listing and after each single change
they have the same objects in the same versions, and a delivery is only released when the store
shows what it tells.

* `Store.Holds` — the versions of the objects that a store shows, by their keys; `Store.Confirms`
  — a store shows what a delivery tells.
* `DistinctKeys` — keys tell objects apart as well as identities do.
* `Coherent` — the invariant: a store and a tracker have the same of every object.
* `Coherent.single`, `coherent_listing` — whatever is shown keeps it; `coherent_after` — so does
  a whole history.
* `Coherent.confirms` — what is released for something shown is confirmed by the store then.
* `Relay.agrees_while_watching` — both for every published kind, in any history of watch
  events of all kinds.
-/

namespace ClusterWatch

open Replica (lastNamed?)

/-! ### What a store shows -/

namespace Store

variable {α : Type} [ClusterObject α]

/-- An object of that key and version is shown. -/
def Holds (store : Store α) (key : String) (version : Option String) : Prop :=
  ∃ object ∈ store.toList, ClusterObject.key object = key ∧
    ClusterObject.version object = version

/-- The store shows what a delivery tells: an object that is there can be looked up, and of an
object that is gone nothing is shown under its key. -/
def Confirms (store : Store α) : Delivery α → Prop
  | .created object => ∃ present, store.objects[ClusterObject.id object]? = some present
  | .updated _ new => ∃ present, store.objects[ClusterObject.id new]? = some present
  | .deleted object =>
    ∀ present ∈ store.toList, ClusterObject.key present ≠ ClusterObject.key object

omit [ClusterObject α] in
/-- The objects of a store are those that it holds under some identity. -/
theorem mem_toList_iff {store : Store α} {object : α} :
    object ∈ store.toList ↔ ∃ id : ObjectId, store.objects[id]? = some object := by
  simp [toList, Std.ExtTreeMap.mem_toList_iff_getElem?_eq_some]

/-- The last of several objects that has the given identity. -/
def lastIdentified? (objects : List α) (id : ObjectId) : Option α :=
  objects.findRev? (ClusterObject.id · = id)

/-- The last object of an identity is one of the objects, and has it. -/
theorem mem_of_lastIdentified? {objects : List α} {id : ObjectId} {object : α}
    (h : lastIdentified? objects id = some object) :
    object ∈ objects ∧ ClusterObject.id object = id :=
  of_findRev?_eq_some h

/-- While objects are listed, the last one of every identity waits for the end of the listing. -/
theorem getElem?_listed_observeAll (store : Store α) (objects : List α) (id : ObjectId) :
    (store.observeAll (objects.map .initApply)).listed[id]? =
      (lastIdentified? objects id).or store.listed[id]? := by
  induction objects generalizing store with
  | nil => rfl
  | cons object rest ih =>
    -- the objects are inserted in their order, so that the last one of an identity stays
    have hlast : lastIdentified? (object :: rest) id =
        (lastIdentified? rest id).or (if ClusterObject.id object = id then some object else none) :=
      findRev?_cons (ClusterObject.id · = id) object rest
    rw [List.map_cons, observeAll, List.foldl_cons, ← observeAll, ih, hlast,
      Option.or_assoc, observe, Std.ExtTreeMap.getElem?_insert]
    simp only [Std.LawfulEqCmp.compare_eq_iff_eq]
    split_ifs <;> rfl

/-- After a complete listing a store shows the objects listed last. -/
theorem getElem?_observeAll_listing (store : Store α) (objects : List α) (id : ObjectId) :
    (store.observeAll (Showing.listing objects).events).objects[id]? =
      lastIdentified? objects id := by
  have hlisted := getElem?_listed_observeAll (store.observe .init) objects id
  rw [Showing.events, List.cons_append, observeAll, List.foldl_cons, List.foldl_append]
  rw [observe, Std.ExtTreeMap.getElem?_empty, Option.or_none] at hlisted
  exact hlisted

end Store

/-! ### Keys and identities -/

section Keys

variable {α : Type} [ClusterObject α]

/-- The key of an object is made of its identity. -/
theorem ClusterObject.key_congr {one other : α} (h : id one = id other) : key one = key other := by
  simp only [id, ObjectId.mk.injEq] at h
  simp only [key, ns, name, Metadata.nsText, h]

/-- Objects that are the same one if they have the same key. -/
def DistinctKeys (objects : List α) : Prop :=
  ∀ one ∈ objects, ∀ other ∈ objects,
    ClusterObject.key one = ClusterObject.key other →
      ClusterObject.id one = ClusterObject.id other

/-- Among objects with distinct keys, identities are the same exactly if keys are. -/
theorem DistinctKeys.id_eq_iff {objects : List α} (h : DistinctKeys objects) {one other : α}
    (hone : one ∈ objects) (hother : other ∈ objects) :
    ClusterObject.id one = ClusterObject.id other ↔
      ClusterObject.key one = ClusterObject.key other :=
  ⟨ClusterObject.key_congr, h one hone other hother⟩

/-- Among objects with distinct keys, the last of an identity is the last of its key. -/
theorem DistinctKeys.lastIdentified?_eq {among : List α} (h : DistinctKeys among)
    {objects : List α} (hsub : objects ⊆ among) {object : α} (hobject : object ∈ among) :
    Store.lastIdentified? objects (ClusterObject.id object) =
      lastNamed? objects (ClusterObject.key object) := by
  rw [Store.lastIdentified?, lastNamed?, List.findRev?_eq_find?_reverse,
    List.findRev?_eq_find?_reverse]
  refine List.find?_congr fun other hother => ?_
  rw [decide_eq_decide]
  exact h.id_eq_iff (hsub (List.mem_reverse.mp hother)) hobject

end Keys

/-! ### The invariant -/

section Coherence

variable {α : Type} [ClusterObject α]

/-- The objects that something shown is about. -/
def Showing.objects : Showing α → List α
  | .single _ object => [object]
  | .listing objects => objects

/-- A store and a tracker that have the same of every object, if all objects are among
the given ones. -/
structure Coherent (among : List α) (store : Store α) (tracker : Tracker α) : Prop where
  /-- Every object is stored under its identity. -/
  stored : ∀ id object, store.objects[id]? = some object →
    object ∈ among ∧ ClusterObject.id object = id
  /-- Every object is known under its key. -/
  known : ∀ key object, tracker.known[key]? = some object →
    object ∈ among ∧ ClusterObject.key object = key
  /-- What is stored of an object is what is known of it. -/
  same : ∀ object ∈ among,
    store.objects[ClusterObject.id object]? = tracker.known[ClusterObject.key object]?

theorem coherent_empty (among : List α) : Coherent among .empty .empty where
  stored := by simp [Store.empty]
  known := by simp [Tracker.empty]
  same := by simp [Store.empty, Tracker.empty]

variable {among : List α} {store : Store α} {tracker : Tracker α}

/-- A change of a single object changes what is stored and what is known of the same object. -/
theorem Coherent.single (h : Coherent among store tracker) (hdistinct : DistinctKeys among)
    {object : α} (hobject : object ∈ among) (change : Change) :
    Coherent among (store.observe (change.event object))
      (tracker.observe (change.event object)).1 := by
  -- the store goes by identities and the tracker by keys, which tell the same objects apart
  cases change with
  | applied =>
    refine ⟨forall_getElem?_insert h.stored ⟨hobject, rfl⟩,
      forall_getElem?_insert h.known ⟨hobject, rfl⟩, fun other hother => ?_⟩
    simp only [Change.event, Store.observe, Tracker.observe, Std.ExtTreeMap.getElem?_insert,
      Std.LawfulEqCmp.compare_eq_iff_eq]
    exact if_congr (hdistinct.id_eq_iff hobject hother) rfl (h.same other hother)
  | deleted =>
    refine ⟨forall_getElem?_erase h.stored _, forall_getElem?_erase h.known _,
      fun other hother => ?_⟩
    simp only [Change.event, Store.observe, Tracker.observe, Std.ExtTreeMap.getElem?_erase,
      Std.LawfulEqCmp.compare_eq_iff_eq]
    exact if_congr (hdistinct.id_eq_iff hobject hother) rfl (h.same other hother)

/-- A complete listing makes store and tracker coherent, whatever they were before: both are left
with the objects listed last. -/
theorem coherent_listing (hdistinct : DistinctKeys among) {objects : List α}
    (hsub : objects ⊆ among) (store : Store α) (tracker : Tracker α) :
    Coherent among (store.observeAll (Showing.listing objects).events)
      (tracker.observeAll (Showing.listing objects).events).1 where
  stored id object hstored := by
    rw [Store.getElem?_observeAll_listing] at hstored
    obtain ⟨hlisted, hid⟩ := Store.mem_of_lastIdentified? hstored
    exact ⟨hsub hlisted, hid⟩
  known key object hknown := by
    rw [Tracker.getElem?_known_listing] at hknown
    obtain ⟨hlisted, hkey⟩ := Replica.mem_of_lastNamed? hknown
    exact ⟨hsub hlisted, hkey⟩
  -- of one identity and of one key, the same object is the last one
  same object hobject := by
    rw [Store.getElem?_observeAll_listing, Tracker.getElem?_known_listing]
    exact hdistinct.lastIdentified?_eq hsub hobject

/-- Whatever is shown leaves store and tracker coherent. -/
theorem Coherent.showing (h : Coherent among store tracker) (hdistinct : DistinctKeys among)
    {showing : Showing α} (hsub : showing.objects ⊆ among) :
    Coherent among (store.observeAll showing.events) (tracker.observeAll showing.events).1 := by
  cases showing with
  | single change object =>
    rw [Tracker.observeAll_single]
    exact h.single hdistinct (hsub List.mem_cons_self) change
  | listing objects => exact coherent_listing hdistinct hsub store tracker

/-- A store holds exactly the versions that a coherent tracker knows. -/
theorem Coherent.holds_iff (h : Coherent among store tracker) (key : String)
    (version : Option String) :
    store.Holds key version ↔ Replica.version? tracker.known key = some version := by
  rw [Replica.version?, Option.map_eq_some_iff]
  constructor
  · rintro ⟨object, hobject, hkey, hversion⟩
    obtain ⟨id, hstored⟩ := Store.mem_toList_iff.mp hobject
    -- the identity is that of the object, and tells its key
    obtain ⟨hmem, rfl⟩ := h.stored id object hstored
    refine ⟨object, ?_, hversion⟩
    rw [← hkey, ← h.same object hmem, hstored]
  · rintro ⟨object, hknown, hversion⟩
    obtain ⟨hmem, rfl⟩ := h.known key object hknown
    refine ⟨object, Store.mem_toList_iff.mpr ⟨ClusterObject.id object, ?_⟩, rfl, hversion⟩
    rw [h.same object hmem, hknown]

/-! ### Deliveries -/

/-- What is released for something shown tells what is known then: a created or updated object is
one of those shown and is known under its key, and a deleted object is not. -/
theorem Tracker.known_of_released (hkeyed : Replica.Keyed tracker.known) {showing : Showing α}
    {delivery : Delivery α} (h : delivery ∈ (tracker.observeAll showing.events).2) :
    (∃ object ∈ showing.objects, delivery.current? = some object ∧
      ∃ present, (tracker.observeAll showing.events).1.known[ClusterObject.key object]? =
        some present) ∨
    (∃ object, delivery = .deleted object ∧
      (tracker.observeAll showing.events).1.known[ClusterObject.key object]? = none) := by
  cases showing with
  | single change object =>
    rw [observeAll_single] at h ⊢
    cases change with
    | applied =>
      -- whether it is told as created or as updated, it is known afterwards
      left
      exact ⟨object, List.mem_cons_self, (current?_of_change? (Option.mem_toList.mp h)).2,
        object, Std.ExtTreeMap.getElem?_insert_self⟩
    | deleted =>
      right
      refine ⟨_, List.mem_singleton.mp h, ?_⟩
      rw [key_lastKnown hkeyed]
      exact Std.ExtTreeMap.getElem?_erase_self
  | listing objects =>
    simp only [getElem?_known_listing]
    rw [Showing.events, observeAll_listing, stale_eq] at h
    -- what is released is of an object listed, or of one known before that has not been listed
    rcases List.mem_append.mp h with hchange | hstale
    · left
      obtain ⟨object, hobject, -, hcurrent⟩ := exists_of_mem_changes hchange
      refine ⟨object, hobject, hcurrent, Option.isSome_iff_exists.mp ?_⟩
      exact Replica.mem_keys_iff_isSome.mp (Replica.mem_keys.mpr ⟨object, hobject, rfl⟩)
    · right
      obtain ⟨object, hobject, rfl⟩ := List.mem_map.mp hstale
      obtain ⟨key, hknown, hunseen⟩ := mem_unlisted.mp hobject
      refine ⟨object, rfl, Option.not_isSome_iff_eq_none.mp fun hlast => hunseen ?_⟩
      rw [← hkeyed.insertAll objects key object hknown]
      exact Replica.mem_keys_iff_isSome.mpr hlast

/-- The store confirms what a coherent tracker releases for something shown. -/
theorem Coherent.confirms (h : Coherent among store tracker) (hdistinct : DistinctKeys among)
    {showing : Showing α} (hsub : showing.objects ⊆ among) {delivery : Delivery α}
    (hdelivery : delivery ∈ (tracker.observeAll showing.events).2) :
    (store.observeAll showing.events).Confirms delivery := by
  have hnext := h.showing hdistinct hsub
  rcases Tracker.known_of_released (fun key object hknown => (h.known key object hknown).2)
    hdelivery with ⟨object, hobject, hcurrent, hpresent⟩ | ⟨object, rfl, hgone⟩
  · rw [← hnext.same object (hsub hobject)] at hpresent
    cases delivery with
    | created => exact Option.some.inj hcurrent ▸ hpresent
    | updated => exact Option.some.inj hcurrent ▸ hpresent
    | deleted => cases hcurrent
  · intro present hpresent hkey
    -- whatever is shown under the key would be known under it
    obtain ⟨id, hstored⟩ := Store.mem_toList_iff.mp hpresent
    obtain ⟨hmem, rfl⟩ := hnext.stored id present hstored
    rw [hnext.same present hmem, hkey, hgone] at hstored
    cases hstored

/-- In the middle of something shown nothing is released. -/
theorem Showing.eq_events_or_silent {showing : Showing α} {part : List (WatchEvent α)}
    (h : part <+: showing.events) (tracker : Tracker α) :
    part = showing.events ∨ (tracker.observeAll part).2 = [] := by
  cases showing with
  | single change object =>
    rcases List.prefix_cons_iff.mp h with rfl | ⟨rest, rfl, hrest⟩
    · right
      rfl
    · left
      rw [List.prefix_nil.mp hrest, events]
  | listing objects =>
    rcases List.prefix_concat_iff.mp h with rfl | hbegun
    · left
      rfl
    · right
      -- what a part of the listing released, the listing would have released
      obtain ⟨rest, hrest⟩ := hbegun
      have hsilent := congrArg Prod.snd (tracker.observeAll_begun objects)
      rw [← hrest, Tracker.observeAll_append] at hsilent
      exact (List.append_eq_nil_iff.mp hsilent).1

/-! ### Whole histories -/

/-- The store after a history of showings that begins with nothing stored. -/
def Store.after (history : List (Showing α)) : Store α :=
  empty.observeAll (history.flatMap Showing.events)

/-- A store after a further showing has observed its events. -/
theorem Store.after_concat (history : List (Showing α)) (next : Showing α) :
    after (history ++ [next]) = (after history).observeAll next.events := by
  simp [after, observeAll]

/-- After every history of objects with distinct keys, store and tracker are coherent. -/
theorem coherent_after (hdistinct : DistinctKeys among) {history : List (Showing α)}
    (hsub : history.flatMap Showing.objects ⊆ among) :
    Coherent among (Store.after history) (Tracker.after history) := by
  induction history using List.reverseRecOn with
  | nil => exact coherent_empty among
  | append_singleton history next ih =>
    rw [List.flatMap_append, List.append_subset] at hsub
    rw [Store.after_concat, Tracker.after_concat]
    refine (ih hsub.1).showing hdistinct ?_
    simpa using hsub.2

/-- Wherever a watch stands in a history of objects with distinct keys, the store confirms what the
next event releases. -/
theorem confirms_of_prefix {shown : List (Showing α)}
    (hdistinct : DistinctKeys (shown.flatMap Showing.objects)) {earlier : List (WatchEvent α)}
    {event : WatchEvent α} (hbeginning : earlier ++ [event] <+: shown.flatMap Showing.events)
    {delivery : Delivery α}
    (hdelivery : delivery ∈ ((Tracker.empty.observeAll earlier).1.observe event).2) :
    (Store.empty.observeAll (earlier ++ [event])).Confirms delivery := by
  obtain ⟨before, current, after, begun, rfl, rfl, hbegun⟩ :=
    exists_of_concat_prefix_flatMap hbeginning
  have hreleased : delivery ∈ ((Tracker.after before).observeAll (begun ++ [event])).2 := by
    rw [Tracker.observeAll_append, Tracker.after]
    rw [Tracker.observeAll_append] at hdelivery
    simpa [Tracker.observeAll] using Or.inr hdelivery
  -- only the last event of a showing releases something, and then store and tracker are coherent
  rcases Showing.eq_events_or_silent hbegun (Tracker.after before) with hwhole | hsilent
  · rw [hwhole] at hreleased
    rw [List.append_assoc, hwhole, Store.observeAll, List.foldl_append]
    have hcoherent : Coherent _ (Store.after before) (Tracker.after before) :=
      coherent_after hdistinct (by simp)
    exact hcoherent.confirms hdistinct (by simp) hreleased
  · rw [hsilent] at hreleased
    cases hreleased

end Coherence

/-! ### The relay -/

/-- Let the watch on a published kind show single changes and complete listings of objects with
distinct keys, while the relay also carries the events of other kinds. When something has been
shown, store and tracker of the kind hold the same keys in the same versions. What a watch event
releases is put on the bus one after another, when the stores have been written; and whenever a
delivery of the kind is released, the store confirms it, after the event and at every moment while
the released events are put on the bus. -/
theorem Relay.agrees_while_watching {α : Type} [ClusterObject α] (kind : PublishedKind α)
    (bus : Bus ClusterEvent) {shown : List (Showing α)}
    (hdistinct : DistinctKeys (shown.flatMap Showing.objects)) :
    (∀ history, kind.events history = shown.flatMap Showing.events → ∀ key version,
      (kind.store (after bus history).stores).Holds key version ↔
        Replica.version? (kind.tracker (after bus history).trackers).known key = some version) ∧
    (∀ history next, (after bus history).observe next =
      (after bus history).publishing next ((after bus history).published next)) ∧
    (∀ history next, kind.events (history ++ [next]) <+: shown.flatMap Showing.events →
      ∀ delivery, kind.wrap delivery ∈ (after bus history).published next →
        (kind.store ((after bus history).observe next).1.stores).Confirms delivery ∧
          ∀ earlier, earlier <+: (after bus history).published next →
            (kind.store ((after bus history).publishing next earlier).1.stores).Confirms
              delivery) := by
  refine ⟨?_, fun history next => observe_eq_publishing _ next, ?_⟩
  · intro history hshown key version
    rw [kind.store_after, kind.tracker_after, hshown]
    exact (coherent_after hdistinct (List.Subset.refl _)).holds_iff key version
  · intro history next hbeginning delivery hdelivery
    -- the stores are not written any more when the first event is put on the bus
    simp only [stores_publishing]
    suffices h : (kind.store ((after bus history).observe next).1.stores).Confirms delivery from
      ⟨h, fun _ _ => h⟩
    rw [← after_concat, kind.store_after]
    rw [kind.wrap_mem_published_iff] at hdelivery
    rw [kind.events_concat] at hbeginning ⊢
    cases hnext : kind.event? next with
    | none =>
      rw [hnext] at hdelivery
      cases hdelivery
    | some event =>
      rw [hnext] at hbeginning hdelivery
      refine confirms_of_prefix hdistinct hbeginning ?_
      simpa [Tracker.observeAll] using hdelivery

/-- Two config maps are listed, one of them changes, and a second listing names only this one in a
newer version, while secrets are listed as well. At its end the store shows the config map in that
version, the other one is told to be gone, and nothing is shown of it any more. -/
theorem Relay.agrees_after_second_listing :
    let shown : List (Showing ConfigMap) :=
      [.listing [.basic "a" "1" "", .basic "b" "1" ""], .single .applied (.basic "a" "2" ""),
        .listing [.basic "a" "3" ""]]
    let history : List Observation :=
      [.configMaps .init, .configMaps (.initApply (.basic "a" "1" "")), .secrets .init,
        .configMaps (.initApply (.basic "b" "1" "")), .configMaps .initDone,
        .configMaps (.apply (.basic "a" "2" "")), .configMaps .init, .secrets .initDone,
        .configMaps (.initApply (.basic "a" "3" ""))]
    let next : Observation := .configMaps .initDone
    DistinctKeys (shown.flatMap Showing.objects) ∧
      PublishedKind.configMaps.events (history ++ [next]) = shown.flatMap Showing.events ∧
      (after .gated (history ++ [next])).stores.configMaps.Holds "default/a" (some "3") ∧
      .configMaps (.deleted (.basic "b" "1" "")) ∈ (after .gated history).published next ∧
      ((after .gated history).observe next).1.stores.configMaps.Confirms
        (.deleted (.basic "b" "1" "")) := by
  intro shown history next
  have hdistinct : DistinctKeys (shown.flatMap Showing.objects) := by
    unfold DistinctKeys
    decide
  have hshown : PublishedKind.configMaps.events (history ++ [next]) =
      shown.flatMap Showing.events :=
    rfl
  -- the second listing ends without the second config map
  have hpublished : .configMaps (.deleted (.basic "b" "1" "")) ∈
      (after .gated history).published next := by
    refine (PublishedKind.configMaps.wrap_mem_published_iff _ _ _ _).mpr ?_
    decide +kernel
  obtain ⟨hagrees, -, hconfirms⟩ := agrees_while_watching .configMaps .gated hdistinct
  refine ⟨hdistinct, hshown, ?_, hpublished, ?_⟩
  · refine (hagrees (history ++ [next]) hshown "default/a" (some "3")).mpr ?_
    rw [PublishedKind.tracker_after]
    decide +kernel
  · exact (hconfirms history next (hshown ▸ List.prefix_rfl) _ hpublished).1

end ClusterWatch
