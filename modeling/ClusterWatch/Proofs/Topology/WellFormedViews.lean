import ClusterWatch.Proofs.Cluster.Filing
import ClusterWatch.Proofs.Topology.Feed

/-!
# The form of service views

A view lists its workloads in the order of kind and name and their pods in the order of names, shows
no workload without pods, and shows no pod under two workloads. Views are assembled in this form
from any store in which pods are held under their own identity, and patching one keeps its form.

* `ServiceView.WellFormed` — the form.
* `ServiceView.Holds`, `Stores.Selects` — a view shows a pod under an owner, and the stores have
  it for a service.
* `ServiceView.wellFormed_assemble`, `ServiceView.holds_assemble` — an assembled view has the
  form, and shows exactly what the stores have.
* `ClusterEvent.wellFormed_patch` — a patched view has the form.
* `ServiceTopology.assembly?`, `ServiceTopology.handle_of_assembly?` — the service that an
  event assembles.
* `ServiceTopology.Formed`, `ServiceTopology.formed_after` — all views after any history.
-/

namespace ClusterWatch

open Reconciler (Handling)

/-! ### Pods that a service selects -/

namespace Stores

/-- Pods are held under their own identity, whatever the watches show. -/
theorem keyed_pods_watched (history : List Observation) : (watched history).pods.Keyed := by
  suffices h : (watched history).pods.Filed from h.objects
  induction history using List.reverseRecOn with
  | nil => exact Store.filed_empty
  | append_singleton history last ih =>
    rw [watched, List.foldl_concat]
    -- other kinds of objects are in other stores
    cases last with
    | pods event => exact ih.observe event
    | _ => exact ih

/-- A selector selects the pods that carry all its labels. -/
theorem isSelected_iff {selector : TextMap} {pod : Pod} :
    isSelected selector pod = true ↔
      ∀ key value : String, selector[key]? = some value →
        pod.metadata.labels[key]? = some value := by
  simp [isSelected, List.all_eq_true]

/-- The stores have a pod for a service under an owner: the pod is of the namespace of the service,
carries every label of its selector, which is not empty, and belongs to the owner. -/
def Selects (stores : Stores) (service : Service) (owner : WorkloadRef) (pod : Pod) : Prop :=
  pod ∈ stores.pods.toList ∧ pod.metadata.ns = some (ClusterObject.ns service) ∧
    service.selector.isEmpty = false ∧
    (∀ key value : String,
      service.selector[key]? = some value → pod.metadata.labels[key]? = some value) ∧
    pod.owner? (stores.replicaSets.get? (ClusterObject.ns service)) = some owner

/-- A service selects a pod for an owner exactly if the pod matches its selector and belongs
to that owner. -/
theorem selects_iff {stores : Stores} {service : Service} {owner : WorkloadRef} {pod : Pod} :
    stores.Selects service owner pod ↔
      pod ∈ stores.podsMatching (ClusterObject.ns service) service.selector ∧
        pod.owner? (stores.replicaSets.get? (ClusterObject.ns service)) = some owner := by
  rw [Selects, mem_podsMatching, isSelected_iff, Store.within, List.mem_filter, decide_eq_true_eq]
  tauto

/-- Under its name, the stores have no more than one pod for a service, and under one owner only. -/
theorem Selects.owner_unique {stores : Stores} (hkeyed : stores.pods.Keyed) {service : Service}
    {owner otherOwner : WorkloadRef} {pod other : Pod} (h : stores.Selects service owner pod)
    (hother : stores.Selects service otherOwner other)
    (hname : ClusterObject.name pod = ClusterObject.name other) : owner = otherOwner := by
  obtain ⟨hpod, howner⟩ := selects_iff.mp h
  obtain ⟨hotherPod, hotherOwner⟩ := selects_iff.mp hother
  have hheld := hkeyed.mem_within.mp (mem_podsMatching.mp hpod).2.1
  have hotherHeld := hkeyed.mem_within.mp (mem_podsMatching.mp hotherPod).2.1
  rw [hname, hotherHeld] at hheld
  obtain rfl := Option.some.inj hheld
  exact Option.some.inj (howner.symm.trans hotherOwner)

end Stores

/-! ### The form of a view -/

/-- The owner that a workload of a view stands for. -/
def WorkloadView.owner (workload : WorkloadView) : WorkloadRef :=
  ⟨workload.kind, workload.name⟩

/-- A workload stands before another one: by kind, and by name where both are of one kind. -/
def WorkloadView.Before (one other : WorkloadView) : Prop :=
  one.kind < other.kind ∨ (one.kind = other.kind ∧ one.name < other.name)

/-- Of two workloads in order, the owners differ. -/
theorem WorkloadView.Before.owner_ne {one other : WorkloadView} (h : one.Before other) :
    one.owner ≠ other.owner := by
  intro howner
  obtain ⟨hkind, hname⟩ := WorkloadRef.mk.inj howner
  rcases h with hlt | ⟨-, hlt⟩
  · exact String.ne_of_lt hlt hkind
  · exact String.ne_of_lt hlt hname

namespace ServiceView

/-- A view of a service as it should be. -/
structure WellFormed (view : ServiceView) : Prop where
  /-- The workloads stand in the order of kind and name, each once. -/
  workloads : view.workloads.Pairwise WorkloadView.Before
  /-- There is no workload without pods. -/
  nonempty : ∀ workload ∈ view.workloads, workload.pods ≠ []
  /-- The pods of each workload stand in the order of their names, each once. -/
  ordered : view.Ordered
  /-- No two workloads have a pod of one name. -/
  disjoint : view.workloads.Pairwise fun one other =>
    (one.pods.map PodView.name).Disjoint (other.pods.map PodView.name)

/-- A view shows a pod under an owner. -/
def Holds (view : ServiceView) (owner : WorkloadRef) (pod : PodView) : Prop :=
  ∃ workload ∈ view.workloads, workload.owner = owner ∧ pod ∈ workload.pods

/-! ### Assembled views -/

variable {stores : Stores} {service : Service} {view : ServiceView}

/-- The pods of a workload that is made by grouping are those listed with its owner. -/
theorem holds_groupByOwner {name ns : String} {owned : List (WorkloadRef × PodView)}
    {owner : WorkloadRef} {pod : PodView} :
    (⟨name, ns, groupByOwner owned⟩ : ServiceView).Holds owner pod ↔
      (owner, pod) ∈ owned := by
  constructor
  · rintro ⟨_, hworkload, rfl, hpod⟩
    obtain ⟨own, -, rfl⟩ := mem_groupByOwner.mp hworkload
    exact mem_podsOf.mp hpod
  · intro howned
    refine ⟨_, mem_groupByOwner.mpr ⟨owner, ⟨pod, howned⟩, rfl⟩, rfl, ?_⟩
    exact mem_podsOf.mpr howned

/-- An assembled view shows exactly the pods that the stores have for the service, each under its
owner and in its state. -/
theorem holds_assemble {owner : WorkloadRef} {shown : PodView} :
    (assemble stores service).Holds owner shown ↔
      ∃ pod, stores.Selects service owner pod ∧
        shown = ⟨ClusterObject.name pod, pod.state⟩ := by
  rw [assemble, holds_groupByOwner, mem_ownedPods]
  simp only [Stores.selects_iff, and_assoc, eq_comm (a := shown)]
  rfl

/-- Grouping lists the owners in order. -/
theorem pairwise_groupByOwner (owned : List (WorkloadRef × PodView)) :
    (groupByOwner owned).Pairwise WorkloadView.Before := by
  rw [groupByOwner, List.pairwise_map]
  refine List.Pairwise.imp ?_ (Std.ExtTreeSet.ordered_toList)
  intro one other hlt
  have hthen : (compare one.kind other.kind).then (compare one.name other.name) = .lt := hlt
  -- the order of owners is that of kind and name
  rcases Ordering.then_eq_lt.mp hthen with hkind | ⟨hkind, hname⟩
  · exact .inl (compareOfLessAndEq_eq_lt.mp hkind)
  · exact .inr ⟨Std.LawfulEqCmp.compare_eq_iff_eq.mp hkind, compareOfLessAndEq_eq_lt.mp hname⟩

/-- A view assembled from a store of keyed pods is well formed. -/
theorem wellFormed_assemble (hkeyed : stores.pods.Keyed) (service : Service) :
    (assemble stores service).WellFormed where
  workloads := pairwise_groupByOwner _
  nonempty workload hworkload := by
    obtain ⟨owner, ⟨pod, howned⟩, rfl⟩ := mem_groupByOwner.mp hworkload
    exact List.ne_nil_of_mem (mem_podsOf.mpr howned)
  ordered := ordered_assemble hkeyed service
  disjoint := by
    refine (pairwise_groupByOwner _).imp_of_mem fun {one other} hone hother hbefore => ?_
    intro name hnamed hotherNamed
    obtain ⟨shown, hshown, rfl⟩ := List.mem_map.mp hnamed
    obtain ⟨otherShown, hotherShown, hsame⟩ := List.mem_map.mp hotherNamed
    obtain ⟨pod, hpod, rfl⟩ := holds_assemble.mp ⟨one, hone, rfl, hshown⟩
    obtain ⟨otherPod, hotherPod, rfl⟩ := holds_assemble.mp ⟨other, hother, rfl, hotherShown⟩
    -- a pod belongs to one owner
    exact hbefore.owner_ne (hpod.owner_unique hkeyed hotherPod hsame.symm)

/-! ### Patched views -/

/-- Replacing a state keeps the form, for the names of the pods stay. -/
theorem WellFormed.setPodState (h : view.WellFormed) (pod state : String) :
    (view.setPodState pod state).WellFormed where
  workloads := List.pairwise_map.mpr h.workloads
  -- a workload has as many pods as before
  nonempty workload hworkload := by
    obtain ⟨before, hbefore, rfl⟩ := mem_setPodState.mp hworkload
    rw [Ne, ← List.map_eq_nil_iff, map_name_replaceState, List.map_eq_nil_iff]
    exact h.nonempty before hbefore
  ordered := Ordered.setPodState h.ordered pod state
  disjoint := by
    simp only [ServiceView.setPodState, List.pairwise_map, map_name_replaceState]
    exact h.disjoint

/-- Removing a pod keeps the form, for the workloads that have no other pod go with it. -/
theorem WellFormed.removePod (h : view.WellFormed) (pod : String) :
    (view.removePod pod).WellFormed where
  workloads := List.Pairwise.filter _ (List.pairwise_map.mpr h.workloads)
  nonempty _ hworkload := (mem_removePod.mp hworkload).2
  ordered := Ordered.removePod h.ordered pod
  disjoint := by
    refine List.Pairwise.filter _
      (List.pairwise_map.mpr (h.disjoint.imp fun {one other} hdisjoint => ?_))
    -- what is left of two workloads is part of what they had
    intro name hname hotherName
    exact hdisjoint ((List.filter_sublist.map _).subset hname)
      ((List.filter_sublist.map _).subset hotherName)

end ServiceView

/-- Deliveries of pods keep a view well formed. -/
theorem Delivery.wellFormed_patch {view : ServiceView} (h : view.WellFormed)
    (delivery : Delivery Pod) :
    (delivery.patch view).WellFormed := by
  cases delivery with
  | created => exact h
  | updated old new =>
    rw [patch]
    split
    next => exact h
    next => exact h.setPodState _ _
  | deleted gone => exact h.removePod _

/-- What an event does to a view without assembling it keeps the form. -/
theorem ClusterEvent.wellFormed_patch {view : ServiceView} (h : view.WellFormed)
    (event : ClusterEvent) (ns : String) :
    (event.patch ns view).WellFormed := by
  obtain ⟨delivery, -, -, hpatch⟩ | ⟨-, hpatch⟩ := event.patch_cases ns
  · exact hpatch view ▸ delivery.wellFormed_patch h
  · exact (hpatch view).symm ▸ h

namespace ServiceTopology

variable {topology : ServiceTopology}

/-! ### What an event assembles -/

/-- The service that an event assembles: one that is delivered, or a known one whose endpoints lead
to a pod that its view does not show. -/
def assembly? (topology : ServiceTopology) (stores : Stores) (event : ClusterEvent) :
    Option Service :=
  match event with
  | .services delivery => delivery.current?
  | .endpoints delivery =>
    topology.assembled? stores event (ClusterObject.ns delivery.object)
      (ClusterObject.name delivery.object)
  | _ => none

/-- An event that assembles a service inserts it. -/
theorem handle_of_assembly? {stores : Stores} {event : ClusterEvent} {service : Service}
    (h : topology.assembly? stores event = some service) :
    topology.handle stores event = topology.insertService stores service := by
  cases event with
  | services delivery =>
    have hcurrent : delivery.current? = some service := h
    rw [handle, onService, hcurrent]
  | endpoints delivery =>
    have hassembled :
        topology.assembled? stores (.endpoints delivery) (ClusterObject.ns delivery.object)
          (ClusterObject.name delivery.object) = some service := h
    rw [handle, onEndpoints_eq, hassembled]
  | _ => cases h

/-- An event that assembles no service patches the views that it leaves. -/
theorem exists_of_view?_handle {stores : Stores} {event : ClusterEvent}
    (hnone : topology.assembly? stores event = none) {ns name : String} {view : ServiceView}
    (h : (topology.handle stores event).view? ns name = some view) :
    ∃ before, topology.view? ns name = some before ∧ event.patch ns before = view := by
  cases event with
  | services delivery =>
    have hcurrent : delivery.current? = none := hnone
    rw [handle, onService, hcurrent, view?_removeService] at h
    exact ⟨view, (Option.ite_none_left_eq_some.mp h).2, rfl⟩
  | endpoints delivery =>
    have hassembled :
        topology.assembled? stores (.endpoints delivery) (ClusterObject.ns delivery.object)
          (ClusterObject.name delivery.object) = none := hnone
    rw [handle, onEndpoints_eq, hassembled] at h
    exact ⟨view, h, rfl⟩
  -- only a delivery of a pod has anything to patch
  | pods delivery =>
    rw [handle, view?_onPod] at h
    exact Option.map_eq_some_iff.mp h
  | ingresses delivery =>
    rw [handle, view?_onIngress] at h
    exact ⟨view, h, rfl⟩
  | configMaps delivery =>
    rw [handle, view?_onConfigMap] at h
    exact ⟨view, h, rfl⟩
  | _ => exact ⟨view, h, rfl⟩

/-! ### Any history -/

/-- Every view has the form that it should have. -/
def ViewsFormed (topology : ServiceTopology) : Prop :=
  ∀ ns name view, topology.view? ns name = some view → view.WellFormed

/-- Every event keeps all views in form. -/
theorem ViewsFormed.handle (h : topology.ViewsFormed) {stores : Stores} (hkeyed : stores.pods.Keyed)
    (event : ClusterEvent) : (topology.handle stores event).ViewsFormed := by
  intro ns name view hview
  -- a view is new only if it is that of the service that the event assembles
  cases hassembly : topology.assembly? stores event with
  | none =>
    obtain ⟨before, hbefore, rfl⟩ := exists_of_view?_handle hassembly hview
    exact event.wellFormed_patch (h ns name before hbefore) ns
  | some service =>
    rw [handle_of_assembly? hassembly, view?_insertService] at hview
    split at hview
    next =>
      obtain rfl := Option.some.inj hview
      exact ServiceView.wellFormed_assemble hkeyed service
    next => exact h ns name view hview

/-- All views are well formed after any history. -/
theorem viewsFormed_after {history : List Handling}
    (hkeyed : ∀ handling ∈ history, handling.stores.pods.Keyed) :
    (after history).ViewsFormed := by
  induction history using List.reverseRecOn with
  | nil =>
    intro ns name view hview
    simp [after, view?, within, empty, NamespaceTopology.empty] at hview
  | append_singleton history next ih =>
    -- the last event was handled with stores of its own moment
    rw [after_concat]
    have hearlier := ih fun handling hmem => hkeyed handling (List.mem_append_left _ hmem)
    exact hearlier.handle (hkeyed next (List.mem_append_right _ List.mem_cons_self)) next.event

/-- The views of services after a history. -/
structure Formed (history : List Handling) : Prop where
  /-- Every view is well formed. -/
  wellFormed : ∀ ns name view, (after history).view? ns name = some view → view.WellFormed
  /-- Directly after a service is assembled, its view shows exactly the pods that the stores have
  for it at that moment, each under its owner and in its state. -/
  assembled : ∀ earlier last service, history = earlier ++ [last] →
    (after earlier).assembly? last.stores last.event = some service →
    ∃ view, (after history).view? (ClusterObject.ns service)
      (ClusterObject.name service) = some view ∧ ∀ owner shown, view.Holds owner shown ↔
        ∃ pod, last.stores.Selects service owner pod ∧
          shown = ⟨ClusterObject.name pod, pod.state⟩

/-- If pods are held under their own identity at every moment, all views are well formed after
every history. -/
theorem formed_after {history : List Handling}
    (hkeyed : ∀ handling ∈ history, handling.stores.pods.Keyed) :
    Formed history where
  wellFormed := viewsFormed_after hkeyed
  assembled := by
    rintro earlier last service rfl hassembly
    refine ⟨.assemble last.stores service, ?_, fun owner shown => ServiceView.holds_assemble⟩
    rw [after_concat, handle_of_assembly? hassembly, view?_insertService, if_pos ⟨rfl, rfl⟩]

/-- A history in which a service comes that selects the pods of a stateful set and of a deployment,
and then a pod goes. -/
def mixedHistory : List Handling :=
  let web : Pod := { Pod.member "web-0" "3" "Pending" with
    metadata := { (Pod.member "web-0" "3" "Pending").metadata with
      owners := [⟨"ReplicaSet", "web-7", true⟩] } }
  let stores := Stores.watched [.pods (.apply (.member "db-1" "1" "Running")), .pods (.apply web),
    .pods (.apply (.member "db-0" "2" "Running")),
    .replicaSets
      (.apply
        ⟨{ Metadata.basic "web-7" "4" with owners := [⟨"Deployment", "web", true⟩] }⟩)]
  [⟨stores, .services (.created (.selecting "db" "5"))⟩, ⟨stores, .pods (.deleted web)⟩]

/-- The view comes with two workloads, and the deployment goes from it with its only pod. -/
theorem formed_mixedHistory :
    (after (mixedHistory.take 1)).view? "default" "db" =
        some ⟨"db", "default", [⟨"web", "Deployment", [⟨"web-0", "Pending"⟩]⟩,
          ⟨"db", "StatefulSet", [⟨"db-0", "Running"⟩, ⟨"db-1", "Running"⟩]⟩]⟩ ∧
      (after mixedHistory).view? "default" "db" =
        some ⟨"db", "default",
          [⟨"db", "StatefulSet", [⟨"db-0", "Running"⟩, ⟨"db-1", "Running"⟩]⟩]⟩ ∧
      (∀ handling ∈ mixedHistory, handling.stores.pods.Keyed) ∧ Formed mixedHistory := by
  have hkeyed : ∀ handling ∈ mixedHistory, handling.stores.pods.Keyed := by
    intro handling hmem
    simp only [mixedHistory, List.mem_cons, List.not_mem_nil, or_false] at hmem
    rcases hmem with rfl | rfl <;> exact Stores.keyed_pods_watched _
  exact ⟨by decide, by decide, hkeyed, formed_after hkeyed⟩

end ServiceTopology

end ClusterWatch
