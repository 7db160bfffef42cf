import ClusterWatch.Network
import ClusterWatch.Proofs.Watch.KindDeliveries

/-!
# Networks after a history

A delivery of a node or of a service replaces the entries of its object, or drops those for which
there is nothing to show any more. So every entry is a matter of the last delivery of one object,
whatever came before or in between.

* `PublishedKind.lastOf?`, `PublishedKind.versionOf?` — the last delivery of the object with a
  key, and the version that it leaves.
* `NetworkIndex.getElem?_of_putOrDrop` — a map that every delivery puts an entry into, or
  takes it out of.
* `NetworkIndex.Networks`, `NetworkIndex.networks_after` — the networks that are shown
  after any history.
-/

namespace ClusterWatch

namespace PublishedKind

variable {α κ : Type} [ClusterObject α] [DecidableEq κ] (kind : PublishedKind α)
  (key : α → κ)

/-- The last delivery of the object that has the wanted key. -/
def lastOf? (events : List ClusterEvent) (wanted : κ) : Option (Delivery α) :=
  events.findSomeRev? fun event => (kind.delivery? event).filter fun delivery =>
    key delivery.object = wanted

/-- The version of an object that its last delivery leaves, none if it was deleted or
never delivered. -/
def versionOf? (events : List ClusterEvent) (wanted : κ) : Option α :=
  (kind.lastOf? key events wanted).bind Delivery.current?

/-- One more event leaves another version of an object if it is a delivery of it. -/
theorem versionOf?_concat (events : List ClusterEvent) (event : ClusterEvent) (wanted : κ) :
    kind.versionOf? key (events ++ [event]) wanted =
      match kind.delivery? event with
      | some delivery =>
        if key delivery.object = wanted then delivery.current?
          else kind.versionOf? key events wanted
      | none => kind.versionOf? key events wanted := by
  rw [versionOf?, lastOf?, findSomeRev?_concat]
  cases kind.delivery? event with
  | none => rfl
  | some delivery =>
    rw [Option.filter_some]
    -- a delivery of another object is looked past
    by_cases hkey : key delivery.object = wanted
    · simp [hkey]
    · simp [hkey, versionOf?, lastOf?]

end PublishedKind

/-- Names in namespaces are ordered by the namespace, and within one namespace by the name. -/
theorem NsName.compare_eq_lt_iff {service other : NsName} :
    compare service other = .lt ↔
      service.ns < other.ns ∨ (service.ns = other.ns ∧ service.name < other.name) := by
  show (compare service.ns other.ns).then (compare service.name other.name) = .lt ↔ _
  rw [Ordering.then_eq_lt, Std.LawfulEqCmp.compare_eq_iff_eq]
  exact or_congr compareOfLessAndEq_eq_lt (and_congr_right fun _ => compareOfLessAndEq_eq_lt)

namespace NetworkIndex

/-- The index after the events. -/
def after (events : List ClusterEvent) : NetworkIndex :=
  events.foldl handle empty

theorem after_concat (events : List ClusterEvent) (event : ClusterEvent) :
    after (events ++ [event]) = (after events).handle event :=
  List.foldl_append

/-! ### Entries -/

section Entries

variable {κ : Type} [Ord κ] [Std.TransOrd κ] [Std.LawfulEqOrd κ] [DecidableEq κ]

/-- A key has the value that is put there, or none if there is none to put. -/
theorem getElem?_putOrDrop (map : Std.ExtTreeMap κ String) (key : κ)
    (value : Option String) (wanted : κ) :
    (putOrDrop map key value)[wanted]? = if key = wanted then value else map[wanted]? := by
  cases value with
  | none => simp [putOrDrop, Std.ExtTreeMap.getElem?_erase]
  | some value => simp [putOrDrop, Std.ExtTreeMap.getElem?_insert]

/-- Where deliveries of a kind put the entry of their object into a map, or drop it if there is
none, and other events leave the map alone, the map has of every object the entry of the version
that its last delivery leaves. -/
theorem getElem?_of_putOrDrop {α : Type} [ClusterObject α] (kind : PublishedKind α)
    (key : α → κ)
    (shown? : α → Option String) (map : NetworkIndex → Std.ExtTreeMap κ String)
    (hempty : map empty = ∅)
    (hhandle : ∀ index event, map (index.handle event) =
      match kind.delivery? event with
      | some delivery => putOrDrop (map index) (key delivery.object) (delivery.current?.bind shown?)
      | none => map index)
    (events : List ClusterEvent) (wanted : κ) :
    (map (after events))[wanted]? = (kind.versionOf? key events wanted).bind shown? := by
  -- from the end of the history, where the last event is about the object or is not
  induction events using List.reverseRecOn with
  | nil =>
    show (map empty)[wanted]? = none
    rw [hempty, Std.ExtTreeMap.getElem?_empty]
  | append_singleton events event ih =>
    rw [after_concat, hhandle, PublishedKind.versionOf?_concat]
    cases kind.delivery? event with
    | none => exact ih
    | some delivery =>
      simp only [getElem?_putOrDrop]
      split
      next => rfl
      next => exact ih

end Entries

/-- The address of a node is that of its last version. -/
theorem getElem?_nodes_after (events : List ClusterEvent) (name : String) :
    (after events).nodes[name]? =
      (PublishedKind.nodes.versionOf? ClusterObject.name events name).map fun node =>
        node.ip?.getD "" := by
  rw [Option.map_eq_bind]
  refine getElem?_of_putOrDrop .nodes ClusterObject.name _ nodes rfl
    (fun index event => ?_) events name
  cases event with
  | nodes delivery => exact congrArg (putOrDrop _ _) Option.map_eq_bind
  | _ => rfl

/-- So is the range of its pods. -/
theorem getElem?_pods_after (events : List ClusterEvent) (name : String) :
    (after events).pods[name]? =
      (PublishedKind.nodes.versionOf? ClusterObject.name events name).bind Node.podRange? := by
  refine getElem?_of_putOrDrop .nodes ClusterObject.name _ pods rfl
    (fun index event => ?_) events name
  cases event <;> rfl

/-- The address of a service is that of its last version. -/
theorem getElem?_services_after (events : List ClusterEvent) (service : NsName) :
    (after events).services[service]? =
      (PublishedKind.services.versionOf? ClusterObject.nsName events service).bind
        Service.address? := by
  refine getElem?_of_putOrDrop .services ClusterObject.nsName _ services rfl
    (fun index event => ?_) events service
  cases event <;> rfl

/-! ### What is shown -/

/-- The networks that an index shows are those of the objects that the events have left. -/
structure Networks (index : NetworkIndex) (events : List ClusterEvent) : Prop where
  /-- A node has a network if its last delivery is no deletion, with the address of the version that
  it delivers, or an empty one. -/
  nodes : ∀ name ip : String, (name, ip) ∈ index.nodes.toList ↔
    ∃ node, PublishedKind.nodes.versionOf? ClusterObject.name events name = some node ∧
      node.ip?.getD "" = ip
  /-- Its pods have one if the version has an address range that is not empty. -/
  pods : ∀ name range : String, (name, range) ∈ index.pods.toList ↔
    ∃ node, PublishedKind.nodes.versionOf? ClusterObject.name events name = some node ∧
      node.podCidr = some range ∧ range ≠ ""
  /-- A service has one if its last delivery is no deletion, and the version that it delivers
  has an address. -/
  services : ∀ (service : NsName) (ip : String), (service, ip) ∈ index.services.toList ↔
    ∃ version, PublishedKind.services.versionOf? ClusterObject.nsName events service =
      some version ∧ version.clusterIp = some ip ∧ ip ≠ "" ∧ ip ≠ "None"
  /-- The networks of the nodes stand in the order of the names, each of them once. -/
  ordered_nodes : index.nodes.toList.Pairwise (·.1 < ·.1)
  /-- So do those of their pods. -/
  ordered_pods : index.pods.toList.Pairwise (·.1 < ·.1)
  /-- Those of the services stand in the order of the namespaces, and within a namespace
  of the names. -/
  ordered_services : index.services.toList.Pairwise fun service other =>
    service.1.ns < other.1.ns ∨ (service.1.ns = other.1.ns ∧ service.1.name < other.1.name)
  /-- Any other history whose last deliveries leave the same versions leads to the same index. -/
  determined : ∀ other : List ClusterEvent,
    (∀ name : String, PublishedKind.nodes.versionOf? ClusterObject.name other name =
      PublishedKind.nodes.versionOf? ClusterObject.name events name) →
    (∀ service : NsName, PublishedKind.services.versionOf? ClusterObject.nsName other service =
      PublishedKind.services.versionOf? ClusterObject.nsName events service) →
    after other = index

/-- A map by names lists its entries in the order of the names. -/
theorem pairwise_toList (map : Std.ExtTreeMap String String) : map.toList.Pairwise (·.1 < ·.1) :=
  map.ordered_keys_toList.imp fun hlt => compareOfLessAndEq_eq_lt.mp hlt

/-- Histories whose last deliveries leave the same versions of nodes and services lead to
the same index. -/
theorem after_congr {events other : List ClusterEvent}
    (hnodes : ∀ name : String, PublishedKind.nodes.versionOf? ClusterObject.name other name =
      PublishedKind.nodes.versionOf? ClusterObject.name events name)
    (hservices : ∀ service : NsName,
      PublishedKind.services.versionOf? ClusterObject.nsName other service =
      PublishedKind.services.versionOf? ClusterObject.nsName events service) :
    after other = after events := by
  -- the three maps are functions of the last versions
  have hnode : (after other).nodes = (after events).nodes := by
    ext name : 1
    rw [getElem?_nodes_after, getElem?_nodes_after, hnodes]
  have hpod : (after other).pods = (after events).pods := by
    ext name : 1
    rw [getElem?_pods_after, getElem?_pods_after, hnodes]
  have hservice : (after other).services = (after events).services := by
    ext service : 1
    rw [getElem?_services_after, getElem?_services_after, hservices]
  calc after other
    _ = ⟨(after other).nodes, (after other).pods, (after other).services⟩ := rfl
    _ = after events := by rw [hnode, hpod, hservice]

/-- After any history of events, the networks of nodes, pods and services are those of the objects
that are there, as their last deliveries describe them. -/
theorem networks_after (events : List ClusterEvent) : (after events).Networks events where
  nodes name ip := by
    rw [Std.ExtTreeMap.mem_toList_iff_getElem?_eq_some, getElem?_nodes_after,
      Option.map_eq_some_iff]
  pods name range := by
    rw [Std.ExtTreeMap.mem_toList_iff_getElem?_eq_some, getElem?_pods_after,
      Option.bind_eq_some_iff]
    simp only [Node.podRange?, Option.filter_eq_some_iff, decide_eq_true_eq]
  services service ip := by
    rw [Std.ExtTreeMap.mem_toList_iff_getElem?_eq_some, getElem?_services_after,
      Option.bind_eq_some_iff]
    simp only [Service.address?, Option.filter_eq_some_iff, Bool.and_eq_true, decide_eq_true_eq]
  ordered_nodes := pairwise_toList _
  ordered_pods := pairwise_toList _
  ordered_services :=
    (after events).services.ordered_keys_toList.imp fun hlt => NsName.compare_eq_lt_iff.mp hlt
  determined _ hnodes hservices := after_congr hnodes hservices

end NetworkIndex

end ClusterWatch
