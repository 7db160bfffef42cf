import ClusterWatch.Proofs.Topology.Joins
import ClusterWatch.Proofs.Watch.KindDeliveries

/-!
# How service views come about

A view of a service is assembled from the cached pods, and deliveries of pods patch it afterwards,
until it is assembled anew or the service goes.

* `ServiceView.Lists`, `ServiceView.Shows` — a view lists a pod under a workload, or
  shows it in a state.
* `ServiceView.Ordered` — the pods of every workload stand in the order of their names.
* `Delivery.patch`, `ClusterEvent.patch` — what a delivery of a pod does to the views of its
  namespace; `lists_patch`, `ordered_patch` and `exists_of_shows_patch` say what is left of a view.
* `ServiceTopology.assembled?` — the service that an event assembles under a name.
* `ServiceTopology.view?_handle` — the view of a service after an event.
-/

namespace ClusterWatch

open Reconciler (Handling)

/-- A selector that is not empty matches the pods of the namespace that carry all its labels. -/
theorem Stores.mem_podsMatching {stores : Stores} {ns : String} {selector : TextMap} {pod : Pod} :
    pod ∈ stores.podsMatching ns selector ↔
      selector.isEmpty = false ∧ pod ∈ stores.pods.within ns ∧
        isSelected selector pod = true := by
  rw [podsMatching]
  split
  next hempty => simp [hempty]
  next hselects => simp [hselects, List.mem_filter]

namespace ServiceView

/-! ### What a view says of a pod -/

/-- A view lists a pod under a workload. -/
def Lists (view : ServiceView) (owner : WorkloadRef) (pod : String) : Prop :=
  ∃ workload ∈ view.workloads, workload.kind = owner.kind ∧ workload.name = owner.name ∧
    pod ∈ workload.pods.map PodView.name

/-- The names in a view are those of the pods that it lists under some workload. -/
theorem mem_podNames {view : ServiceView} {pod : String} :
    pod ∈ view.podNames ↔ ∃ owner, view.Lists owner pod := by
  rw [podNames, List.mem_flatMap]
  constructor
  · rintro ⟨workload, hworkload, hlisted⟩
    exact ⟨⟨workload.kind, workload.name⟩, workload, hworkload, rfl, rfl, hlisted⟩
  · rintro ⟨_, workload, hworkload, -, -, hlisted⟩
    exact ⟨workload, hworkload, hlisted⟩

/-- A view shows a pod in a state. -/
def Shows (view : ServiceView) (pod : PodView) : Prop :=
  ∃ workload ∈ view.workloads, pod ∈ workload.pods

/-- The pods of every workload stand in the order of their names, so that none of them
stands there twice. -/
def Ordered (view : ServiceView) : Prop :=
  ∀ workload ∈ view.workloads, workload.pods.Pairwise (·.name < ·.name)

/-! ### Assembled views -/

/-- The pods of an owner are those listed with it. -/
theorem mem_podsOf {owned : List (WorkloadRef × PodView)} {owner : WorkloadRef} {pod : PodView} :
    pod ∈ podsOf owned owner ↔ (owner, pod) ∈ owned := by
  simp only [podsOf, mem_sortedBy, List.mem_map, List.mem_filter, decide_eq_true_eq]
  constructor
  · rintro ⟨⟨_, _⟩, ⟨howned, rfl⟩, rfl⟩
    exact howned
  · intro howned
    exact ⟨_, ⟨howned, rfl⟩, rfl⟩

/-- Pods of different names are sorted by them. -/
theorem pairwise_podsOf {owned : List (WorkloadRef × PodView)} {owner : WorkloadRef}
    (hdistinct : (owned.map fun entry => entry.2.name).Nodup) :
    (podsOf owned owner).Pairwise (·.name < ·.name) := by
  -- names are ordered totally, and strictly where they differ
  refine pairwise_sortedBy PodView.name ?_ ?_ ?_ ?_
  · intro one other
    simpa using String.le_total one.name other.name
  · intro one other third hle hnext
    simpa using String.le_trans (of_decide_eq_true hle) (of_decide_eq_true hnext)
  · intro one other hle hne
    exact String.not_le.mp fun hge => hne (String.le_antisymm (of_decide_eq_true hle) hge)
  · rw [List.map_map]
    exact hdistinct.sublist (List.filter_sublist.map _)

/-- The workloads of pods that are listed with their owners are the owners, each with its pods. -/
theorem mem_groupByOwner {owned : List (WorkloadRef × PodView)} {workload : WorkloadView} :
    workload ∈ groupByOwner owned ↔
      ∃ owner, (∃ pod, (owner, pod) ∈ owned) ∧
        ⟨owner.name, owner.kind, podsOf owned owner⟩ = workload := by
  simp only [groupByOwner, List.mem_map, Std.ExtTreeSet.mem_toList, Std.ExtTreeSet.mem_ofList,
    List.contains_iff_mem, Prod.exists, exists_and_right, exists_eq_right]

/-- Pods of one namespace that have an owner are listed by the owners, with what is
shown of them. -/
theorem mem_ownedPods {stores : Stores} {ns : String} {selector : TextMap} {owner : WorkloadRef}
    {view : PodView} :
    (owner, view) ∈ ownedPods stores ns selector ↔
      ∃ pod ∈ stores.podsMatching ns selector, pod.owner? (stores.replicaSets.get? ns) =
        some owner ∧ pod.view = view := by
  simp only [ownedPods, List.mem_filterMap, Option.map_eq_some_iff, Prod.mk.injEq]
  constructor
  · rintro ⟨pod, hpod, _, howner, rfl, rfl⟩
    exact ⟨pod, hpod, howner, rfl⟩
  · rintro ⟨pod, hpod, howner, rfl⟩
    exact ⟨pod, hpod, owner, howner, rfl, rfl⟩

/-- An assembled view lists the cached pods that the selector matches, under their owners. -/
theorem lists_assemble {stores : Stores} {service : Service} {owner : WorkloadRef} {name : String} :
    (assemble stores service).Lists owner name ↔
      ∃ pod ∈ stores.podsMatching (ClusterObject.ns service) service.selector,
        ClusterObject.name pod = name ∧
        pod.owner? (stores.replicaSets.get? (ClusterObject.ns service)) = some owner := by
  constructor
  · rintro ⟨workload, hworkload, hkind, hname, hlisted⟩
    -- the workload is that of an owner, which kind and name tell
    obtain ⟨own, -, rfl⟩ := mem_groupByOwner.mp hworkload
    obtain rfl : own = owner := by
      cases own
      cases owner
      simp_all
    obtain ⟨view, hview, rfl⟩ := List.mem_map.mp hlisted
    obtain ⟨pod, hpod, howner, rfl⟩ := mem_ownedPods.mp (mem_podsOf.mp hview)
    exact ⟨pod, hpod, rfl, howner⟩
  · rintro ⟨pod, hpod, rfl, howner⟩
    have howned := mem_ownedPods.mpr ⟨pod, hpod, howner, rfl⟩
    refine ⟨_, mem_groupByOwner.mpr ⟨owner, ⟨pod.view, howned⟩, rfl⟩, rfl, rfl, ?_⟩
    exact List.mem_map_of_mem (mem_podsOf.mpr howned)

/-- An assembled view shows cached pods of the namespace of the service, each in its state. -/
theorem exists_of_shows_assemble {stores : Stores} {service : Service} {shown : PodView}
    (h : (assemble stores service).Shows shown) :
    ∃ pod ∈ stores.pods.within (ClusterObject.ns service), pod.view = shown := by
  obtain ⟨workload, hworkload, hshown⟩ := h
  obtain ⟨owner, -, rfl⟩ := mem_groupByOwner.mp hworkload
  obtain ⟨pod, hpod, -, hpodView⟩ := mem_ownedPods.mp (mem_podsOf.mp hshown)
  exact ⟨pod, (Stores.mem_podsMatching.mp hpod).2.1, hpodView⟩

/-- The cached pods that a view is assembled from have different names. -/
theorem nodup_ownedPods {stores : Stores} (hkeyed : stores.pods.Keyed) (ns : String)
    (selector : TextMap) :
    ((ownedPods stores ns selector).map fun entry => entry.2.name).Nodup := by
  -- the listing of a store is in the order of the names
  have hmatching : (stores.podsMatching ns selector).Pairwise fun one other =>
      ClusterObject.name one < ClusterObject.name other := by
    rw [Stores.podsMatching]
    split
    next => exact List.Pairwise.nil
    next => exact (hkeyed.pairwise_within _).filter _
  rw [ownedPods, List.Nodup, List.pairwise_map, List.pairwise_filterMap]
  refine hmatching.imp fun hlt one hone other hother => ?_
  obtain ⟨_, -, rfl⟩ := Option.map_eq_some_iff.mp hone
  obtain ⟨_, -, rfl⟩ := Option.map_eq_some_iff.mp hother
  exact String.ne_of_lt hlt

/-- The pods of an assembled view stand in the order of their names. -/
theorem ordered_assemble {stores : Stores} (hkeyed : stores.pods.Keyed) (service : Service) :
    (assemble stores service).Ordered := by
  intro workload hworkload
  obtain ⟨owner, -, rfl⟩ := mem_groupByOwner.mp hworkload
  exact pairwise_podsOf (nodup_ownedPods hkeyed _ _)

/-! ### Patched views -/

/-- Replacing a state leaves the names of the pods. -/
theorem map_name_replaceState (name state : String) (pods : List PodView) :
    (replaceState name state pods).map PodView.name = pods.map PodView.name := by
  induction pods with
  | nil => rfl
  | cons pod rest ih =>
    rw [replaceState]
    split
    next => rfl
    next => rw [List.map_cons, List.map_cons, ih]

/-- After the state of a pod is replaced, the pod is in the new state, and every other one
is as it was. -/
theorem of_mem_replaceState {name state : String} {pods : List PodView}
    (hordered : pods.Pairwise (·.name < ·.name)) {pod : PodView}
    (h : pod ∈ replaceState name state pods) :
    if pod.name = name then pod.state = state else pod ∈ pods := by
  induction pods with
  | nil => cases h
  | cons first rest ih =>
    obtain ⟨hfirst, hrest⟩ := List.pairwise_cons.mp hordered
    rw [replaceState] at h
    split at h
    next hname =>
      rcases List.mem_cons.mp h with rfl | hmem
      · rw [if_pos hname]
      · -- no later pod has the name of the first one
        have hne : pod.name ≠ name :=
          fun heq => (String.ne_of_lt (hfirst pod hmem)) (hname.trans heq.symm)
        rw [if_neg hne]
        exact List.mem_cons_of_mem _ hmem
    next hname =>
      rcases List.mem_cons.mp h with rfl | hmem
      · rw [if_neg hname]
        exact List.mem_cons_self
      · have hpod := ih hrest hmem
        split_ifs at hpod ⊢
        · exact hpod
        · exact List.mem_cons_of_mem _ hpod

/-- The workloads stay when the state of a pod is replaced, each with the state replaced in it. -/
theorem mem_setPodState {view : ServiceView} {name state : String} {workload : WorkloadView} :
    workload ∈ (view.setPodState name state).workloads ↔
      ∃ before ∈ view.workloads,
        { before with pods := replaceState name state before.pods } = workload :=
  List.mem_map

/-- The workloads that stay when a pod is removed are those that have other pods. -/
theorem mem_removePod {view : ServiceView} {name : String} {workload : WorkloadView} :
    workload ∈ (view.removePod name).workloads ↔
      (∃ before ∈ view.workloads,
        { before with pods := before.pods.filter (·.name ≠ name) } = workload) ∧
        workload.pods ≠ [] := by
  rw [removePod, List.mem_filter, List.mem_map, Bool.not_eq_eq_eq_not, Bool.not_true,
    List.isEmpty_eq_false_iff]

/-- Replacing the state of a pod changes nothing about which pods are listed. -/
theorem lists_setPodState {view : ServiceView} {name state : String}
    {owner : WorkloadRef} {pod : String} :
    (view.setPodState name state).Lists owner pod ↔ view.Lists owner pod := by
  constructor
  · rintro ⟨_, hworkload, hkind, hname, hlisted⟩
    -- the workload has the names that it had before
    obtain ⟨before, hbefore, rfl⟩ := mem_setPodState.mp hworkload
    rw [map_name_replaceState] at hlisted
    exact ⟨before, hbefore, hkind, hname, hlisted⟩
  · rintro ⟨before, hbefore, hkind, hname, hlisted⟩
    rw [← map_name_replaceState name state] at hlisted
    exact ⟨_, mem_setPodState.mpr ⟨before, hbefore, rfl⟩, hkind, hname, hlisted⟩

/-- Removing a pod leaves all other pods listed. -/
theorem lists_removePod {view : ServiceView} {name : String} {owner : WorkloadRef} {pod : String} :
    (view.removePod name).Lists owner pod ↔ view.Lists owner pod ∧ pod ≠ name := by
  constructor
  · rintro ⟨_, hworkload, hkind, hname, hlisted⟩
    obtain ⟨⟨before, hbefore, rfl⟩, -⟩ := mem_removePod.mp hworkload
    obtain ⟨shown, hshown, rfl⟩ := List.mem_map.mp hlisted
    obtain ⟨hmem, hne⟩ := List.mem_filter.mp hshown
    exact ⟨⟨before, hbefore, hkind, hname, List.mem_map_of_mem hmem⟩, by simpa using hne⟩
  · -- the workload stays, as it has the pod that is listed
    rintro ⟨⟨before, hbefore, hkind, hname, hlisted⟩, hne⟩
    obtain ⟨shown, hshown, rfl⟩ := List.mem_map.mp hlisted
    have hstays : shown ∈ before.pods.filter (·.name ≠ name) :=
      List.mem_filter.mpr ⟨hshown, by simpa using hne⟩
    exact ⟨_,
      mem_removePod.mpr ⟨⟨before, hbefore, rfl⟩, List.ne_nil_of_mem hstays⟩, hkind, hname,
      List.mem_map_of_mem hstays⟩

/-- Replacing a state leaves the order of the pods. -/
theorem Ordered.setPodState {view : ServiceView} (h : view.Ordered) (name state : String) :
    (view.setPodState name state).Ordered := by
  intro workload hworkload
  obtain ⟨before, hbefore, rfl⟩ := mem_setPodState.mp hworkload
  have hnames := List.pairwise_map.mpr (h before hbefore)
  rw [← map_name_replaceState] at hnames
  exact List.pairwise_map.mp hnames

/-- Removing a pod leaves the order of the others. -/
theorem Ordered.removePod {view : ServiceView} (h : view.Ordered) (name : String) :
    (view.removePod name).Ordered := by
  intro workload hworkload
  obtain ⟨⟨before, hbefore, rfl⟩, -⟩ := mem_removePod.mp hworkload
  exact (h before hbefore).filter _

end ServiceView

/-! ### Deliveries of pods -/

namespace Delivery

/-- What a delivery of a pod does to the views of the namespace of the pod. -/
def patch (delivery : Delivery Pod) (view : ServiceView) : ServiceView :=
  match delivery with
  | .created _ => view
  | .updated old new =>
    if old.state = new.state then view else view.setPodState (ClusterObject.name new) new.state
  | .deleted pod => view.removePod (ClusterObject.name pod)

/-- The state that is shown of a pod after a delivery of it, by the state that was shown before;
none if the pod is not shown any more. -/
def nextState? (delivery : Delivery Pod) (state : String) : Option String :=
  match delivery with
  | .created _ => some state
  | .updated old new => some (if old.state = new.state then state else new.state)
  | .deleted _ => none

variable {delivery : Delivery Pod} {view : ServiceView}

/-- A deletion takes its pod from the views, and no delivery puts one there. -/
theorem lists_patch {owner : WorkloadRef} {pod : String} :
    (delivery.patch view).Lists owner pod ↔
      view.Lists owner pod ∧
        ¬ (delivery.current? = none ∧ ClusterObject.name delivery.object = pod) := by
  cases delivery with
  | created => simp [patch, current?]
  | updated old new =>
    rw [patch]
    split <;> simp [current?, ServiceView.lists_setPodState]
  | deleted gone => simp [patch, current?, object, ServiceView.lists_removePod, eq_comm]

/-- A patched view is as ordered as before. -/
theorem ordered_patch (h : view.Ordered) : (delivery.patch view).Ordered := by
  cases delivery with
  | created => exact h
  | updated old new =>
    rw [patch]
    split
    next => exact h
    next => exact h.setPodState _ _
  | deleted gone => exact h.removePod _

/-- What a patched view shows of a pod is what it showed before, or the next state if the delivery
is one of it. -/
theorem exists_of_shows_patch (h : view.Ordered) {shown : PodView}
    (hshown : (delivery.patch view).Shows shown) :
    ∃ state, view.Shows ⟨shown.name, state⟩ ∧
      if ClusterObject.name delivery.object = shown.name then
        delivery.nextState? state = some shown.state
      else state = shown.state := by
  have hsame (hstays : view.Shows shown)
      (hnext : delivery.nextState? shown.state = some shown.state) :
      ∃ state, view.Shows ⟨shown.name, state⟩ ∧
        if ClusterObject.name delivery.object = shown.name then
          delivery.nextState? state = some shown.state
        else state = shown.state :=
    ⟨shown.state, hstays, by split_ifs <;> [exact hnext; rfl]⟩
  cases delivery with
  | created => exact hsame hshown rfl
  | updated old new =>
    rw [patch] at hshown
    split at hshown
    next hstate => exact hsame hshown (by rw [nextState?, if_pos hstate])
    next hstate =>
      obtain ⟨_, hworkload, hmem⟩ := hshown
      obtain ⟨before, hbefore, rfl⟩ := ServiceView.mem_setPodState.mp hworkload
      have hreplaced := ServiceView.of_mem_replaceState (h before hbefore) hmem
      split_ifs at hreplaced with hname
      · -- the pod stood there before, in some state
        have hlisted := List.mem_map_of_mem (f := PodView.name) hmem
        rw [ServiceView.map_name_replaceState] at hlisted
        obtain ⟨earlier, hearlier, heq⟩ := List.mem_map.mp hlisted
        refine ⟨earlier.state, ⟨before, hbefore, heq ▸ hearlier⟩, ?_⟩
        rw [object, if_pos hname.symm, nextState?, if_neg hstate, hreplaced]
      · refine ⟨shown.state, ⟨before, hbefore, hreplaced⟩, ?_⟩
        rw [object, if_neg (Ne.symm hname)]
  | deleted gone =>
    obtain ⟨_, hworkload, hmem⟩ := hshown
    obtain ⟨⟨before, hbefore, rfl⟩, -⟩ := ServiceView.mem_removePod.mp hworkload
    obtain ⟨hstays, hne⟩ := List.mem_filter.mp hmem
    have hname : shown.name ≠ ClusterObject.name gone := by simpa using hne
    exact ⟨shown.state, ⟨before, hbefore, hstays⟩, by rw [object, if_neg hname.symm]⟩

end Delivery

namespace ClusterEvent

/-- What an event does to a view of a namespace that it does not assemble anew: a delivery of a pod
of the namespace patches it. -/
def patch (event : ClusterEvent) (ns : String) (view : ServiceView) : ServiceView :=
  match event with
  | .pods delivery => if ClusterObject.ns delivery.object = ns then delivery.patch view else view
  | _ => view

/-- The deletion of a pod. -/
def Deletes (event : ClusterEvent) (ns pod : String) : Prop :=
  ∃ delivery, PublishedKind.pods.at? ns pod event = some delivery ∧ delivery.current? = none

/-- An event that is no delivery of a pod does not delete it. -/
theorem not_deletes_of_at?_eq_none {event : ClusterEvent} {ns pod : String}
    (h : PublishedKind.pods.at? ns pod event = none) : ¬ event.Deletes ns pod := by
  rintro ⟨delivery, hdelivery, -⟩
  rw [h] at hdelivery
  cases hdelivery

/-- An event is a delivery of a pod of a namespace that patches its views, or leaves the views of
the namespace. -/
theorem patch_cases (event : ClusterEvent) (ns : String) :
    (∃ delivery, event = .pods delivery ∧ ClusterObject.ns delivery.object = ns ∧
      ∀ view, event.patch ns view = delivery.patch view) ∨
    ((∀ name, PublishedKind.pods.at? ns name event = none) ∧ ∀ view,
      event.patch ns view = view) := by
  cases event with
  | pods delivery =>
    by_cases hns : ClusterObject.ns delivery.object = ns
    · exact .inl ⟨delivery, rfl, hns, fun view => if_pos hns⟩
    · refine .inr ⟨fun name => ?_, fun view => if_neg hns⟩
      exact (PublishedKind.pods.at?_wrap delivery ns name).trans (if_neg fun hat => hns hat.1)
  | _ => exact .inr ⟨fun _ => rfl, fun _ => rfl⟩

variable {event : ClusterEvent} {ns : String} {view : ServiceView}

/-- After an event a view lists what it did before, but for a pod that the event deletes. -/
theorem lists_patch {owner : WorkloadRef} {pod : String} :
    (event.patch ns view).Lists owner pod ↔ view.Lists owner pod ∧ ¬ event.Deletes ns pod := by
  obtain ⟨delivery, rfl, hns, hpatch⟩ | ⟨hother, hpatch⟩ := event.patch_cases ns
  · have hat := PublishedKind.pods.at?_wrap delivery ns pod
    rw [hpatch, Delivery.lists_patch, Deletes]
    simp only [PublishedKind.wrap] at hat
    rw [hat]
    simp [hns, and_comm]
  · rw [hpatch, Deletes, hother]
    simp

/-- Events leave the pods of a view in the order of their names. -/
theorem ordered_patch (h : view.Ordered) : (event.patch ns view).Ordered := by
  obtain ⟨delivery, -, -, hpatch⟩ | ⟨-, hpatch⟩ := event.patch_cases ns
  · exact hpatch view ▸ Delivery.ordered_patch h
  · exact (hpatch view).symm ▸ h

/-- What is shown of a pod after an event that patches a view was shown before, or is
the next state. -/
theorem exists_of_shows_patch (h : view.Ordered) {shown : PodView}
    (hshown : (event.patch ns view).Shows shown) :
    ∃ state, view.Shows ⟨shown.name, state⟩ ∧
      match PublishedKind.pods.at? ns shown.name event with
      | some delivery => delivery.nextState? state = some shown.state
      | none => state = shown.state := by
  obtain ⟨delivery, rfl, hns, hpatch⟩ | ⟨hother, hpatch⟩ := event.patch_cases ns
  · rw [hpatch] at hshown
    obtain ⟨state, hbefore, hnext⟩ := Delivery.exists_of_shows_patch h hshown
    have hat := PublishedKind.pods.at?_wrap delivery ns shown.name
    simp only [PublishedKind.wrap, hns, true_and] at hat
    refine ⟨state, hbefore, ?_⟩
    rw [hat]
    split_ifs at hnext ⊢ <;> exact hnext
  · rw [hpatch] at hshown
    exact ⟨shown.state, hshown, by rw [hother]⟩

end ClusterEvent

namespace ServiceTopology

variable {topology : ServiceTopology}

/-! ### The view of a service after an event -/

/-- The view of a known service. -/
def view? (topology : ServiceTopology) (ns name : String) : Option ServiceView :=
  (topology.within ns).services[name]?.map ServiceEntry.view

/-- The service that an event assembles under a name: one that is delivered, or a known one whose
endpoints lead to a pod that its view does not show, as it is cached. -/
def assembled? (topology : ServiceTopology) (stores : Stores) (event : ClusterEvent)
    (ns name : String) :
    Option Service :=
  match event with
  | .services delivery =>
    if ClusterObject.ns delivery.object = ns ∧ ClusterObject.name delivery.object = name then
      delivery.current?
    else none
  | .endpoints delivery => do
    let endpoints ← delivery.current?
    let view ← topology.view? ns name
    if (ClusterObject.ns endpoints = ns ∧ ClusterObject.name endpoints = name) ∧
      hasNewPod endpoints view then
      stores.services.get? ns name
    else none
  | _ => none

/-- Inserting a service shows it as it is assembled, and no other one differently. -/
theorem view?_insertService (topology : ServiceTopology) (stores : Stores) (service : Service)
    (ns name : String) :
    (topology.insertService stores service).view? ns name =
      if ClusterObject.ns service = ns ∧ ClusterObject.name service = name then
        some (.assemble stores service)
      else topology.view? ns name := by
  -- a view is assembled under the names of its service
  have hview : (ServiceView.assemble stores service).ns = ClusterObject.ns service ∧
      (ServiceView.assemble stores service).name = ClusterObject.name service := ⟨rfl, rfl⟩
  rw [view?, insertService, within_modify, hview.1]
  by_cases hns : ClusterObject.ns service = ns
  · rw [if_pos hns, NamespaceTopology.insertService, Std.ExtTreeMap.getElem?_insert, hview.2]
    simp only [Std.LawfulEqCmp.compare_eq_iff_eq, hns, true_and]
    split <;> rfl
  · rw [if_neg hns, if_neg (fun h => hns h.1)]
    rfl

/-- Removing a service takes its view away, and no other one. -/
theorem view?_removeService (topology : ServiceTopology) (own gone ns name : String) :
    (topology.modify own (·.removeService gone)).view? ns name =
      if own = ns ∧ gone = name then none else topology.view? ns name := by
  rw [view?, within_modify]
  by_cases hns : own = ns
  · rw [if_pos hns, NamespaceTopology.removeService, Std.ExtTreeMap.getElem?_erase]
    simp only [Std.LawfulEqCmp.compare_eq_iff_eq, hns, true_and]
    split <;> rfl
  · rw [if_neg hns, if_neg (fun h => hns h.1)]
    rfl

/-- Changing the views of a namespace changes those of no other one. -/
theorem view?_mapViews (topology : ServiceTopology) (own : String) (f : ServiceView → ServiceView)
    (ns name : String) :
    (topology.modify own (·.mapViews f)).view? ns name =
      (topology.view? ns name).map fun view => if own = ns then f view else view := by
  rw [view?, within_modify]
  by_cases hns : own = ns
  · simp [hns, view?, NamespaceTopology.mapViews, Function.comp_def]
  · simp [hns, view?, Function.comp_def]

/-- A delivery of a pod patches the views of the namespace of the pod. -/
theorem view?_onPod (topology : ServiceTopology) (delivery : Delivery Pod) (ns name : String) :
    (topology.onPod delivery).view? ns name =
      (topology.view? ns name).map ((ClusterEvent.pods delivery).patch ns) := by
  have hsame (hpatch : ∀ view, delivery.patch view = view) :
      (ClusterEvent.pods delivery).patch ns = id :=
    funext fun view => by rw [ClusterEvent.patch, hpatch, ite_self, id]
  cases delivery with
  | created =>
    rw [hsame fun _ => rfl, Option.map_id]
    rfl
  -- a change that leaves the state of the pod is no change to a view
  | updated old new =>
    rw [onPod]
    split
    next hstate => rw [hsame fun _ => if_pos hstate, Option.map_id, id]
    next hstate =>
      rw [view?_mapViews]
      refine congrArg (Option.map · _) (funext fun view => ?_)
      rw [ClusterEvent.patch, Delivery.patch, if_neg hstate]
      rfl
  | deleted pod => exact view?_mapViews topology _ _ ns name

/-- Ingresses change no view. -/
theorem view?_refreshIngressSets {inner : NamespaceTopology} (name : String) :
    inner.refreshIngressSets.services[name]?.map ServiceEntry.view =
      inner.services[name]?.map ServiceEntry.view := by
  simp [NamespaceTopology.refreshIngressSets, Function.comp_def]

/-- Deliveries of ingresses leave the views of services. -/
theorem view?_onIngress (topology : ServiceTopology) (delivery : Delivery Ingress)
    (ns name : String) :
    (topology.onIngress delivery).view? ns name = topology.view? ns name := by
  rw [view?, within_onIngress]
  split
  next => exact view?_refreshIngressSets name
  next => rfl

/-- So do deliveries of config maps. -/
theorem view?_onConfigMap (topology : ServiceTopology) (delivery : Delivery ConfigMap)
    (ns name : String) :
    (topology.onConfigMap delivery).view? ns name = topology.view? ns name := by
  rw [view?, within_onConfigMap]
  cases delivery.transportProtocol? with
  | none => rfl
  | some protocol =>
    -- replacing the rules of a protocol refreshes ingress sets, and no view
    obtain ⟨replaced, -, hservices, hrefresh⟩ :=
      (topology.within ns).exists_replaceTransport_eq protocol
      ((TransportEntry.toIngresses (delivery.transportEntries protocol))[ns]?.getD ∅)
    simp only [hrefresh, view?_refreshIngressSets, hservices, view?]

/-- A delivery of a service assembles its view, or takes it away. -/
theorem view?_onService (topology : ServiceTopology) (stores : Stores) (delivery : Delivery Service)
    (ns name : String) :
    (topology.onService stores delivery).view? ns name =
      if ClusterObject.ns delivery.object = ns ∧ ClusterObject.name delivery.object = name then
        delivery.current?.map (.assemble stores)
      else topology.view? ns name := by
  rw [onService]
  cases hcurrent : delivery.current? with
  | some service =>
    exact Delivery.object_of_current? hcurrent ▸ view?_insertService topology stores
      service ns name
  | none => exact view?_removeService topology _ _ ns name

/-- Endpoints assemble a known service of their name whose view does not show all of their pods, if
it is cached. -/
theorem assembled?_endpoints_eq_some_iff {stores : Stores} {delivery : Delivery Endpoints}
    {ns name : String} {service : Service} :
    topology.assembled? stores (.endpoints delivery) ns name = some service ↔
      ∃ endpoints view, delivery.current? = some endpoints ∧
        topology.view? ns name = some view ∧
        (ClusterObject.ns endpoints = ns ∧ ClusterObject.name endpoints = name) ∧
        hasNewPod endpoints view ∧ stores.services.get? ns name = some service := by
  simp only [assembled?, Option.bind_eq_bind, Option.bind_eq_some_iff,
    Option.ite_none_right_eq_some, and_assoc, exists_and_left]

/-- Endpoints lead to no new pod exactly if the view lists all of their pods. -/
theorem hasNewPod_eq_false_iff {endpoints : Endpoints} {view : ServiceView} :
    hasNewPod endpoints view = false ↔
      ∀ pod ∈ endpoints.podNames, ∃ owner, view.Lists owner pod := by
  simp [hasNewPod, ← ServiceView.mem_podNames]

/-- What is assembled under a name is a service of that name. -/
theorem names_of_assembled? {stores : Stores} (hkept : stores.services.WellKept)
    {event : ClusterEvent} {ns name : String} {service : Service}
    (h : topology.assembled? stores event ns name = some service) :
    ClusterObject.ns service = ns ∧ ClusterObject.name service = name := by
  cases event with
  | services delivery =>
    obtain ⟨hat, hcurrent⟩ := Option.ite_none_right_eq_some.mp h
    exact Delivery.object_of_current? hcurrent ▸ hat
  | endpoints delivery =>
    -- endpoints name the service that is looked up
    obtain ⟨_, _, -, -, -, -, hservice⟩ := assembled?_endpoints_eq_some_iff.mp h
    exact (Store.isNamespaced_of_get? hkept hservice).2
  | _ => cases h

/-- Endpoints assemble the service of their name, or none. -/
theorem onEndpoints_eq (topology : ServiceTopology) (stores : Stores)
    (delivery : Delivery Endpoints) :
    topology.onEndpoints stores delivery =
      match topology.assembled? stores (.endpoints delivery) (ClusterObject.ns delivery.object)
          (ClusterObject.name delivery.object) with
      | some service => topology.insertService stores service
      | none => topology := by
  rw [onEndpoints, assembled?]
  cases hcurrent : delivery.current? with
  | none => rfl
  | some endpoints =>
    rw [Delivery.object_of_current? hcurrent]
    simp only [view?, Option.bind_eq_bind, Option.bind_some]
    cases
      (topology.within (ClusterObject.ns endpoints)).services[ClusterObject.name endpoints]? with
    | none => rfl
    | some entry =>
      simp only [Option.map_some, Option.bind_some, true_and, and_self]
      -- only a pod that is not listed yet leads to an assembly
      split <;> rfl

/-- Endpoints assemble the view of the service that they are about, and leave the others. -/
theorem view?_onEndpoints {stores : Stores} (hkept : stores.services.WellKept)
    (delivery : Delivery Endpoints) (ns name : String) :
    (topology.onEndpoints stores delivery).view? ns name =
      match topology.assembled? stores (.endpoints delivery) ns name with
      | some service => some (.assemble stores service)
      | none => topology.view? ns name := by
  rw [onEndpoints_eq]
  by_cases hat : ClusterObject.ns delivery.object = ns ∧ ClusterObject.name delivery.object = name
  · obtain ⟨rfl, rfl⟩ := hat
    split
    next service hservice => rw [view?_insertService, if_pos (names_of_assembled? hkept hservice)]
    next => rfl
  · -- the service that is assembled, if any, has the names of the endpoints
    have hnone : topology.assembled? stores (.endpoints delivery) ns name = none := by
      refine Option.eq_none_iff_forall_ne_some.mpr fun service hservice => hat ?_
      obtain ⟨_, _, hcurrent, -, hnames, -⟩ := assembled?_endpoints_eq_some_iff.mp hservice
      exact Delivery.object_of_current? hcurrent ▸ hnames
    rw [hnone]
    split
    next service hservice =>
      obtain ⟨hown, hother⟩ := names_of_assembled? hkept hservice
      rw [view?_insertService, hown, hother, if_neg hat]
    next => rfl

/-- After an event the view of a service is assembled, gone with the service, or patched. -/
theorem view?_handle {stores : Stores} (hkept : stores.services.WellKept) (event : ClusterEvent)
    (ns name : String) :
    (topology.handle stores event).view? ns name =
      match topology.assembled? stores event ns name with
      | some service => some (.assemble stores service)
      | none =>
        if (event.serviceAt? ns name).isSome then none
        else (topology.view? ns name).map (event.patch ns) := by
  cases event with
  | services delivery =>
    rw [handle, view?_onService, assembled?, ClusterEvent.serviceAt?]
    split
    next => cases delivery.current? <;> rfl
    next => exact Option.map_id'.symm
  | endpoints delivery =>
    rw [handle, view?_onEndpoints hkept]
    cases topology.assembled? stores (.endpoints delivery) ns name with
    | some service => rfl
    | none => exact Option.map_id'.symm
  -- no other kind of event is about a pod
  | pods delivery => exact view?_onPod topology delivery ns name
  | ingresses delivery =>
    rw [handle, view?_onIngress]
    exact Option.map_id'.symm
  | configMaps delivery =>
    rw [handle, view?_onConfigMap]
    exact Option.map_id'.symm
  | _ => exact Option.map_id'.symm

end ServiceTopology

end ClusterWatch
