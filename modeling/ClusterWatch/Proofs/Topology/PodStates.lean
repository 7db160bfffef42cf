import ClusterWatch.Proofs.Topology.Feed

/-!
# The states of listed pods

A view can be assembled from a store that is ahead of the events that the topology has handled, and
older deliveries of the same pods patch it afterwards. The pending deliveries of a pod bring the
state that is shown of it to the one in the store, or take the pod from the view.

* `Delivery.stateAfter?` — the state that is shown of a pod after several deliveries.
* `Delivery.CatchesUp` — the invariant for one shown pod: it comes to be shown as
  the store holds it.
* `Feed.Faithful` — the invariant for all views; `Feed.Reachable.faithful` — it holds of
  every reachable feed.
* `Feed.shown_as_cached` — with nothing pending, every listed pod is cached and
  shown in its state.
-/

namespace ClusterWatch

namespace Delivery

/-! ### One pod -/

/-- The state that is shown of a pod after several deliveries of it, by the state that is shown
before; none if the pod is not shown any more. -/
def stateAfter? (deliveries : List (Delivery Pod)) (state : String) : Option String :=
  deliveries.foldlM (fun state delivery => delivery.nextState? state) state

/-- Two runs of deliveries change the state of a pod one after the other. -/
theorem stateAfter?_append (earlier later : List (Delivery Pod)) (state : String) :
    stateAfter? (earlier ++ later) state = (stateAfter? earlier state).bind (stateAfter? later) :=
  List.foldlM_append

/-- If a pod is still shown after some deliveries, it is shown as it is there then. -/
def CatchesUp (deliveries : List (Delivery Pod)) (after : Option Pod) (state : String) : Prop :=
  ∀ final, stateAfter? deliveries state = some final → after.map Pod.state = some final

variable {before after : Option Pod} {deliveries : List (Delivery Pod)}

/-- Shown as it was before a chain of deliveries, a pod catches up with them. -/
theorem catchesUp_of_before {pod : Pod} (h : Chained (some pod) deliveries after) :
    CatchesUp deliveries after pod.state := by
  induction deliveries generalizing pod with
  | nil =>
    intro final hfinal
    rw [← h]
    exact hfinal
  | cons delivery rest ih =>
    intro final hfinal
    obtain ⟨hcontinues, hrest⟩ := h
    rw [stateAfter?, List.foldlM_cons] at hfinal
    cases delivery with
    | created => cases hcontinues
    | updated old new =>
      obtain rfl := Option.some.inj hcontinues
      -- whether or not the state changes, the new one is shown
      have hnext : (updated pod new).nextState? pod.state = some new.state := by
        rw [nextState?]
        split_ifs with hstate
        · rw [hstate]
        · rfl
      rw [hnext] at hfinal
      exact ih hrest final hfinal
    | deleted => cases hfinal

/-- After a chain of deliveries a pod is shown as it is there then, or as it was shown before. -/
theorem stateAfter?_eq_of_chained (h : Chained before deliveries after) {state final : String}
    (hfinal : stateAfter? deliveries state = some final) :
    after.map Pod.state = some final ∨ final = state := by
  induction deliveries using List.reverseRecOn generalizing after final with
  | nil => exact .inr (Option.some.inj hfinal).symm
  | append_singleton earlier last ih =>
    obtain ⟨between, hearlier, hcontinues, rfl⟩ := h.exists_of_append
    rw [stateAfter?_append, Option.bind_eq_some_iff] at hfinal
    obtain ⟨middle, hmiddle, hlast⟩ := hfinal
    have hbetween := ih hearlier hmiddle
    rw [stateAfter?, List.foldlM_cons] at hlast
    cases last with
    | created object =>
      obtain rfl := Option.some.inj hlast
      obtain rfl : between = none := hcontinues
      exact .inr (hbetween.resolve_left nofun)
    -- an update that leaves the state of the pod is no change to the view
    | updated old new =>
      obtain rfl := Option.some.inj hlast
      obtain rfl : between = some old := hcontinues
      split_ifs with hstate
      · rcases hbetween with hold | hsame
        · exact .inl (by rw [← hold, current?, Option.map_some, Option.map_some, hstate])
        · exact .inr hsame
      · exact .inl rfl
    | deleted => cases hlast

/-- Shown as it is after a chain of deliveries already, a pod is not thrown back by them. -/
theorem catchesUp_of_after {pod : Pod} (h : Chained before deliveries (some pod)) :
    CatchesUp deliveries (some pod) pod.state := by
  intro final hfinal
  rcases stateAfter?_eq_of_chained h hfinal with hafter | rfl
  · exact hafter
  · rfl

/-- A pod that catches up with some deliveries catches up with what follows them. -/
theorem CatchesUp.append {state : String} (h : CatchesUp deliveries before state)
    {later : List (Delivery Pod)} (hlater : Chained before later after) :
    CatchesUp (deliveries ++ later) after state := by
  intro final hfinal
  rw [stateAfter?_append, Option.bind_eq_some_iff] at hfinal
  obtain ⟨middle, hmiddle, hrest⟩ := hfinal
  obtain ⟨pod, rfl, rfl⟩ := Option.map_eq_some_iff.mp (h middle hmiddle)
  exact catchesUp_of_before hlater final hrest

/-- What is shown after the first of the deliveries catches up with the others. -/
theorem catchesUp_of_append {first : Option (Delivery Pod)} {state next : String}
    (hnext : match first with
      | some delivery => delivery.nextState? state = some next
      | none => state = next)
    (h : CatchesUp (first.toList ++ deliveries) after state) : CatchesUp deliveries after next := by
  cases first with
  | none => exact hnext ▸ h
  | some delivery =>
    intro final hfinal
    refine h final ?_
    rw [Option.toList_some, stateAfter?_append, stateAfter?, List.foldlM_cons, hnext]
    exact hfinal

end Delivery

open Delivery (CatchesUp)

namespace Feed

/-! ### All views -/

/-- The deliveries of the pod of a name that the topology has still to handle. -/
abbrev pendingPod (feed : Feed) (ns name : String) : List (Delivery Pod) :=
  feed.pending .pods ns name

/-- The invariant of a feed: the views can be shown as they are, and what is pending brings
them up to date. -/
structure Faithful (feed : Feed) : Prop where
  /-- The pending deliveries of a pod lead to what the store holds of it. -/
  chained : ∀ ns name, ∃ before,
    Chained before (feed.pendingPod ns name) (feed.stores.pods.get? ns name)
  /-- No workload shows a pod twice. -/
  ordered : ∀ ns name view, feed.topology.view? ns name = some view → view.Ordered
  /-- What is shown of a pod catches up with the store. -/
  shown : ∀ ns name view, feed.topology.view? ns name = some view → ∀ pod, view.Shows pod →
    CatchesUp (feed.pendingPod ns pod.name) (feed.stores.pods.get? ns pod.name) pod.state

variable {feed next : Feed}

theorem faithful_start (bus : Bus ClusterEvent) (hbus : bus = .gated ∨ bus = .direct) :
    (start bus).Faithful where
  chained ns name :=
    ⟨none, by rw [pendingPod, pending_start .pods hbus]; exact (Store.get?_empty ns name).symm⟩
  ordered _ _ _ h := nomatch h
  shown _ _ _ h := nomatch h

theorem topology_of_handled (h : next.handled = feed.handled) : next.topology = feed.topology :=
  congrArg ServiceTopology.after h

/-- Showing changes to the stores makes the same changes pending. -/
theorem Faithful.shown_events (h : feed.Faithful) (hpods : feed.stores.pods.WellKept)
    {events : List ClusterEvent}
    (hadmits : feed.stores.Admits events) (hstores : next.stores = feed.stores.afterEvents events)
    (hhandled : next.handled = feed.handled)
    (hpending : ∀ ns name, next.pendingPod ns name =
      feed.pendingPod ns name ++ events.filterMap (PublishedKind.pods.at? ns name)) :
    next.Faithful := by
  -- the new deliveries lead on from the store to the next one
  have hchained := hadmits.chained hpods
  refine ⟨fun ns name => ?_, ?_, ?_⟩
  · obtain ⟨before, hbefore⟩ := h.chained ns name
    exact ⟨before, by rw [hpending, hstores]; exact hbefore.append (hchained ns name)⟩
  · exact topology_of_handled hhandled ▸ h.ordered
  · intro ns name view hview pod hpod
    rw [topology_of_handled hhandled] at hview
    rw [hpending, hstores]
    exact (h.shown ns name view hview pod hpod).append (hchained ns pod.name)

/-- When an event has been handled, the view of a service was assembled from the stores at that
moment, or was there before and has been patched. -/
theorem view?_consumed (hservices : feed.stores.services.WellKept) {event : ClusterEvent}
    (hhandled : next.handled = feed.handled ++ [⟨feed.stores, event⟩]) {ns name : String}
    {view : ServiceView} (h : next.topology.view? ns name = some view) :
    (∃ service,
      ClusterObject.ns service = ns ∧ ServiceView.assemble feed.stores service = view) ∨
      ∃ earlier, feed.topology.view? ns name = some earlier ∧
        event.patch ns earlier = view := by
  rw [topology, hhandled, ServiceTopology.after_concat, ServiceTopology.view?_handle hservices] at h
  -- either the event assembles the service, or it patches the view that was there
  split at h
  next service hservice =>
    exact .inl ⟨service, (ServiceTopology.names_of_assembled? hservices hservice).1,
      Option.some.inj h⟩
  next =>
    obtain ⟨-, hpatched⟩ := Option.ite_none_left_eq_some.mp h
    exact .inr (Option.map_eq_some_iff.mp hpatched)

/-- Handling an event keeps the views in step with what is pending behind it. -/
theorem Faithful.consumed (h : feed.Faithful) (hpods : feed.stores.pods.WellKept)
    (hservices : feed.stores.services.WellKept) {event : ClusterEvent}
    (hstores : next.stores = feed.stores)
    (hhandled : next.handled = feed.handled ++ [⟨feed.stores, event⟩])
    (hpending : ∀ ns name, feed.pendingPod ns name =
      (PublishedKind.pods.at? ns name event).toList ++ next.pendingPod ns name) :
        next.Faithful := by
  have hchained (ns name : String) : ∃ before,
      Chained before (next.pendingPod ns name) (feed.stores.pods.get? ns name) := by
    obtain ⟨before, hbefore⟩ := h.chained ns name
    rw [hpending] at hbefore
    obtain ⟨between, -, hrest⟩ := hbefore.exists_of_append
    exact ⟨between, hrest⟩
  refine ⟨hstores ▸ hchained, fun ns name view hview => ?_,
    fun ns name view hview pod hpod => ?_⟩
  · rcases view?_consumed hservices hhandled hview with
      ⟨service, -, rfl⟩ | ⟨earlier, hearlier, rfl⟩
    · exact ServiceView.ordered_assemble hpods.keyed service
    · exact ClusterEvent.ordered_patch (h.ordered ns name earlier hearlier)
  · rw [hstores]
    rcases view?_consumed hservices hhandled hview with
      ⟨service, rfl, rfl⟩ | ⟨earlier, hearlier, rfl⟩
    · -- the view is assembled from the store, which may be ahead of what is pending
      obtain ⟨cached, hcached, rfl⟩ := ServiceView.exists_of_shows_assemble hpod
      have hget := (Store.mem_within hpods).mp hcached
      obtain ⟨before, hbefore⟩ :=
        hchained (ClusterObject.ns service) (ClusterObject.name cached)
      rw [hget] at hbefore
      exact hget ▸ Delivery.catchesUp_of_after hbefore
    · obtain ⟨state, hbefore, hnext⟩ :=
        ClusterEvent.exists_of_shows_patch (h.ordered ns name earlier hearlier) hpod
      have hcatches := h.shown ns name earlier hearlier _ hbefore
      rw [hpending] at hcatches
      exact Delivery.catchesUp_of_append hnext hcatches

/-- Every move keeps the views faithful. -/
theorem Faithful.move (h : feed.Faithful) (hreachable : feed.Reachable) (hmove : feed.Moves next) :
    next.Faithful := by
  have hpods := hreachable.traced_pods.wellKept
  have hservices := hreachable.traced_services.wellKept
  cases hmove with
  | shown events hadmits hstores hhandled hpending =>
    exact h.shown_events hpods hadmits hstores hhandled (hpending .pods rfl)
  -- nothing is handled, so that the views and what is pending stay
  | passed hhandled hstores hpending =>
    have hsame : next.stores.pods = feed.stores.pods := hstores .pods
    have hpendingPod := hpending .pods rfl
    refine ⟨fun ns name => ?_, topology_of_handled hhandled ▸ h.ordered,
      fun ns name view hview pod hpod => ?_⟩
    · rw [hsame, pendingPod, hpendingPod]
      exact h.chained ns name
    · rw [topology_of_handled hhandled] at hview
      rw [hsame, pendingPod, hpendingPod]
      exact h.shown ns name view hview pod hpod
  | consumed event hstores hhandled hpending =>
    exact h.consumed hpods hservices hstores hhandled (hpending .pods)

/-- Every reachable feed is faithful. -/
theorem Reachable.faithful (h : feed.Reachable) : feed.Faithful :=
  h.induct Faithful faithful_start fun _ _ hreachable hfaithful => hfaithful.move hreachable

/-- When the topology has handled everything, every pod that a view lists is cached, and is shown
in its state. -/
theorem shown_as_cached (hreachable : feed.Reachable) (hquiet : feed.IsQuiet) {ns name : String}
    {view : ServiceView} (hview : feed.topology.view? ns name = some view) {shown : PodView}
    (hshown : view.Shows shown) :
    ∃ pod, feed.stores.pods.get? ns shown.name = some pod ∧ pod.state = shown.state := by
  have hcatches := hreachable.faithful.shown ns name view hview shown hshown
  rw [pendingPod, pending_of_isQuiet .pods hquiet] at hcatches
  exact Option.map_eq_some_iff.mp (hcatches shown.state rfl)

/-- The store of pods runs ahead to the third version of a pod while a service waits in the queue.
The service is assembled from the third version, the delivery of the second one throws the pod back,
and that of the third one brings it up to date again. -/
theorem shown_as_cached_after_replay :
    let view : ServiceView :=
      ⟨"db", "default", [⟨"db", "StatefulSet", [⟨"db-0", "Failed"⟩]⟩]⟩
    ∃ feed : Feed, feed.Reachable ∧ feed.IsQuiet ∧
      feed.topology.view? "default" "db" = some view ∧ view.Shows ⟨"db-0", "Failed"⟩ ∧
      ∃ pod, feed.stores.pods.get? "default" "db-0" = some pod ∧ pod.state = "Failed" := by
  intro view
  let pods :=
    [Pod.member "db-0" "2" "Pending", .member "db-0" "3" "Running", .member "db-0" "4" "Failed"]
  let turns : List Turn := [
    .observe .services [.services (.created (.selecting "db" "1"))], .publish .services,
    .observe .pods [.pods (.created pods[0]), .pods (.updated pods[0] pods[1]),
      .pods (.updated pods[1] pods[2])],
    .publish .pods, .publish .pods, .consume, .consume, .consume, .publish .pods, .consume]
  -- the third version is cached before the service is consumed
  let feed := ((start .direct).turns? turns).get (by decide)
  have hreachable : feed.Reachable :=
    (Reachable.start .direct (.inr rfl)).turns turns (Option.some_get _).symm
  have hquiet : feed.IsQuiet := fun kind => List.isEmpty_iff.mp (by cases kind <;> decide)
  have hview : feed.topology.view? "default" "db" = some view := by decide
  have hshown : view.Shows ⟨"db-0", "Failed"⟩ :=
    ⟨⟨"db", "StatefulSet", [⟨"db-0", "Failed"⟩]⟩, List.mem_cons_self, List.mem_cons_self⟩
  exact ⟨feed, hreachable, hquiet, hview, hshown,
    shown_as_cached hreachable hquiet hview hshown⟩

end Feed

end ClusterWatch
