import ClusterWatch.Proofs.Collections
import ClusterWatch.Proofs.Config.Caching
import ClusterWatch.Proofs.Watch.Kinds

/-!
# Deliveries, kind by kind

Cluster events read as deliveries of one published kind: which of them are about the object of a
name, what a list of events leaves of that object, and what the store of the kind holds once it has
been shown the changes that the events tell of.

* `PublishedKind.at?` — the delivery of an object that an event is.
* `PublishedKind.last?`, `PublishedKind.current?` — the last delivery of an object, and the
  version of it that is there afterwards.
* `Delivery.left?` — what deliveries of one object leave of it.
* `PublishedKind.wellKept_afterEvents`, `PublishedKind.get?_afterEvents` — the store of a kind
  after a list of events.
-/

namespace ClusterWatch

/-- What deliveries of one object leave of it, by what was there before. -/
def Delivery.left? {α : Type} (before : Option α) (deliveries : List (Delivery α)) : Option α :=
  deliveries.foldl (fun _ delivery => delivery.current?) before

/-- What two runs of deliveries leave is what the second one leaves of what the first
one has left. -/
theorem Delivery.left?_append {α : Type} (before : Option α)
    (earlier later : List (Delivery α)) :
    left? before (earlier ++ later) = left? (left? before earlier) later :=
  List.foldl_append

/-- What deliveries have left already, they leave again. -/
theorem Delivery.left?_left? {α : Type} (before : Option α) (deliveries : List (Delivery α)) :
    left? (left? before deliveries) deliveries = left? before deliveries := by
  rcases List.eq_nil_or_concat deliveries with rfl | ⟨earlier, last, rfl⟩
  · rfl
  · rw [List.concat_eq_append, left?_append, left?_append]
    rfl

namespace PublishedKind

variable {α : Type} [ClusterObject α]

/-! ### Deliveries of a kind -/

/-- The kind among the kinds of resources. -/
def resourceKind : PublishedKind α → ResourceKind
  | namespaces => .namespaces
  | nodes => .nodes
  | pods => .pods
  | services => .services
  | endpoints => .endpoints
  | ingresses => .ingresses
  | configMaps => .configMaps
  | secrets => .secrets
  | deployments => .deployments
  | daemonSets => .daemonSets
  | statefulSets => .statefulSets
  | persistentVolumes => .persistentVolumes
  | persistentVolumeClaims => .persistentVolumeClaims

/-- The delivery that an event is, if it is one of this kind. -/
def delivery? : PublishedKind α → ClusterEvent → Option (Delivery α)
  | namespaces, .namespaces delivery => some delivery
  | nodes, .nodes delivery => some delivery
  | pods, .pods delivery => some delivery
  | services, .services delivery => some delivery
  | endpoints, .endpoints delivery => some delivery
  | ingresses, .ingresses delivery => some delivery
  | configMaps, .configMaps delivery => some delivery
  | secrets, .secrets delivery => some delivery
  | deployments, .deployments delivery => some delivery
  | daemonSets, .daemonSets delivery => some delivery
  | statefulSets, .statefulSets delivery => some delivery
  | persistentVolumes, .persistentVolumes delivery => some delivery
  | persistentVolumeClaims, .persistentVolumeClaims delivery => some delivery
  | _, _ => none

variable (kind : PublishedKind α)

/-- An event is a delivery of a kind exactly if it is that delivery, wrapped. -/
theorem delivery?_eq_some_iff {event : ClusterEvent} {delivery : Delivery α} :
    kind.delivery? event = some delivery ↔ event = kind.wrap delivery := by
  cases kind <;> cases event <;> simp [delivery?, wrap]

/-- A delivery that is wrapped is found again. -/
@[simp]
theorem delivery?_wrap (delivery : Delivery α) :
    kind.delivery? (kind.wrap delivery) = some delivery :=
  (delivery?_eq_some_iff kind).mpr rfl

/-- A delivery that is wrapped is of the kind that it is wrapped as. -/
@[simp]
theorem kind_wrap (delivery : Delivery α) : (kind.wrap delivery).kind = kind.resourceKind := by
  cases kind <;> rfl

/-- The store of a kind is shown the changes that deliveries of this kind tell of, and no others. -/
theorem store_observe_event (stores : Stores) (event : ClusterEvent) :
    kind.store (stores.observe event.observation) =
      match kind.delivery? event with
      | some delivery => (kind.store stores).observe delivery.watchEvent
      | none => kind.store stores := by
  cases kind <;> cases event <;> rfl

/-! ### Deliveries of an object -/

/-- The delivery that an event is, if it is one of the object of a name. -/
def at? (ns name : String) (event : ClusterEvent) : Option (Delivery α) :=
  (kind.delivery? event).filter fun delivery =>
    ClusterObject.ns delivery.object = ns ∧ ClusterObject.name delivery.object = name

variable {kind}

/-- An event is a delivery of an object exactly if it is one of its kind, and the object
has that place. -/
theorem at?_eq_some_iff {event : ClusterEvent} {ns name : String} {delivery : Delivery α} :
    kind.at? ns name event = some delivery ↔
      event = kind.wrap delivery ∧ ClusterObject.ns delivery.object = ns ∧
        ClusterObject.name delivery.object = name := by
  simp only [at?, Option.filter_eq_some_iff, delivery?_eq_some_iff, Bool.decide_and,
    Bool.and_eq_true, decide_eq_true_eq]

/-- An event that is no delivery of the kind is none of an object of it. -/
theorem at?_eq_none_of_ne {event : ClusterEvent} (h : ∀ delivery, event ≠ kind.wrap delivery)
    (ns name : String) :
    kind.at? ns name event = none := by
  refine Option.eq_none_iff_forall_ne_some.mpr fun delivery hdelivery => ?_
  exact h delivery (at?_eq_some_iff.mp hdelivery).1

/-- So is an event of another kind. -/
theorem at?_eq_none_of_kind_ne {event : ClusterEvent} (h : event.kind ≠ kind.resourceKind)
    (ns name : String) :
    kind.at? ns name event = none := by
  refine at?_eq_none_of_ne (fun delivery hdelivery => h ?_) ns name
  rw [hdelivery, kind_wrap]

variable (kind)

/-- A delivery is one of the object whose place it has. -/
theorem at?_wrap (delivery : Delivery α) (ns name : String) :
    kind.at? ns name (kind.wrap delivery) =
      if ClusterObject.ns delivery.object = ns ∧
        ClusterObject.name delivery.object = name then some delivery
      else none := by
  rw [at?, delivery?_wrap, Option.filter_some]
  simp only [decide_eq_true_eq]

/-- The last delivery of the object of a name. -/
def last? (events : List ClusterEvent) (ns name : String) : Option (Delivery α) :=
  events.findSomeRev? (kind.at? ns name)

/-- The version of an object that is there after the events, none if it was deleted last or
never delivered. -/
def current? (events : List ClusterEvent) (ns name : String) : Option α :=
  (kind.last? events ns name).bind Delivery.current?

/-- What is there after the events is what the deliveries of the object among them leave. -/
theorem current?_eq_left? (events : List ClusterEvent) (ns name : String) :
    kind.current? events ns name = Delivery.left? none (events.filterMap (kind.at? ns name)) := by
  induction events using List.reverseRecOn with
  | nil => rfl
  | append_singleton events event ih =>
    rw [List.filterMap_append, Delivery.left?_append, ← ih, current?, last?, findSomeRev?_concat,
      List.filterMap_cons, List.filterMap_nil]
    cases kind.at? ns name event <;> rfl

/-- Another delivery of a kind tells what is there of its object. -/
theorem current?_concat_wrap (events : List ClusterEvent) (delivery : Delivery α)
    (ns name : String) :
    kind.current? (events ++ [kind.wrap delivery]) ns name =
      if ClusterObject.ns delivery.object = ns ∧ ClusterObject.name delivery.object = name then
        delivery.current?
      else kind.current? events ns name := by
  rw [current?, last?, findSomeRev?_concat, at?_wrap]
  split <;> rfl

/-- What is no delivery of a kind tells nothing of its objects. -/
theorem current?_concat_of_ne {event : ClusterEvent}
    (h : ∀ delivery, event ≠ kind.wrap delivery) (events : List ClusterEvent)
    (ns name : String) :
    kind.current? (events ++ [event]) ns name = kind.current? events ns name := by
  rw [current?, last?, findSomeRev?_concat, at?_eq_none_of_ne h, Option.none_or]
  rfl

variable {kind} in
/-- The version of an object that is there was delivered, under the name of the object. -/
theorem exists_of_current? {events : List ClusterEvent} {ns name : String} {object : α}
    (h : kind.current? events ns name = some object) :
    ∃ delivery, kind.wrap delivery ∈ events ∧ delivery.current? = some object ∧
      ClusterObject.ns object = ns ∧ ClusterObject.name object = name := by
  obtain ⟨delivery, hlast, hcurrent⟩ := Option.bind_eq_some_iff.mp h
  obtain ⟨_, event, _, rfl, hevent, _⟩ := findSomeRev?_eq_some_iff.mp hlast
  obtain ⟨rfl, hnames⟩ := at?_eq_some_iff.mp hevent
  rw [Delivery.object_of_current? hcurrent] at hnames
  exact ⟨delivery, by simp, hcurrent, hnames⟩

/-! ### The store of a kind -/

variable {stores : Stores} {events : List ClusterEvent}

/-- Deliveries of namespaced objects keep the store of a kind well kept. -/
theorem wellKept_observe_event (h : (kind.store stores).WellKept) {event : ClusterEvent}
    (hnamed : ∀ delivery, event = kind.wrap delivery →
      ClusterObject.IsNamespaced delivery.object) :
    (kind.store (stores.observe event.observation)).WellKept := by
  rw [store_observe_event]
  cases hdelivery : kind.delivery? event with
  | some delivery =>
    exact h.observe delivery.change (hnamed delivery (kind.delivery?_eq_some_iff.mp hdelivery))
  | none => exact h

/-- A delivery of a namespaced object has left what the store of its kind finds of it. -/
theorem get?_observe_event (h : (kind.store stores).WellKept) {event : ClusterEvent}
    (hnamed : ∀ delivery, event = kind.wrap delivery →
      ClusterObject.IsNamespaced delivery.object)
    (ns name : String) :
    (kind.store (stores.observe event.observation)).get? ns name =
      match kind.at? ns name event with
      | some delivery => delivery.current?
      | none => (kind.store stores).get? ns name := by
  rw [store_observe_event, at?]
  cases hdelivery : kind.delivery? event with
  | some delivery =>
    have hobject := hnamed delivery (kind.delivery?_eq_some_iff.mp hdelivery)
    refine (Store.get?_observe h delivery.change hobject ns name).trans ?_
    rw [Option.filter_some, Delivery.state?_change]
    -- the delivery is about this very object, or about another one of the kind
    by_cases hat : ClusterObject.ns delivery.object = ns ∧
      ClusterObject.name delivery.object = name <;>
      simp [hat]
  | none => rfl

/-- Events that name the namespaces of their objects keep a store well kept. -/
theorem wellKept_afterEvents (h : (kind.store stores).WellKept)
    (hnamed : ∀ delivery, kind.wrap delivery ∈ events →
      ClusterObject.IsNamespaced delivery.object) :
    (kind.store (stores.afterEvents events)).WellKept := by
  induction events using List.reverseRecOn with
  | nil => exact h
  | append_singleton events event ih =>
    rw [Stores.afterEvents_concat]
    refine kind.wellKept_observe_event (ih fun delivery hdelivery => ?_)
      fun delivery hdelivery => ?_
    · exact hnamed delivery (List.mem_append_left _ hdelivery)
    · exact hnamed delivery (List.mem_append_right _ (List.mem_singleton.mpr hdelivery.symm))

/-- After a list of events the store of a kind finds of an object what the deliveries of
it have left. -/
theorem get?_afterEvents (h : (kind.store stores).WellKept)
    (hnamed : ∀ delivery, kind.wrap delivery ∈ events →
      ClusterObject.IsNamespaced delivery.object)
    (ns name : String) :
    (kind.store (stores.afterEvents events)).get? ns name =
      Delivery.left? ((kind.store stores).get? ns name) (events.filterMap (kind.at? ns name)) := by
  induction events using List.reverseRecOn with
  | nil => rfl
  | append_singleton events event ih =>
    have hbefore (delivery : Delivery α) (hdelivery : kind.wrap delivery ∈ events) :
        ClusterObject.IsNamespaced delivery.object :=
      hnamed delivery (List.mem_append_left _ hdelivery)
    have hlast (delivery : Delivery α) (hdelivery : event = kind.wrap delivery) :
        ClusterObject.IsNamespaced delivery.object :=
      hnamed delivery (List.mem_append_right _ (List.mem_singleton.mpr hdelivery.symm))
    -- the last event is added to what the earlier ones have left
    rw [Stores.afterEvents_concat,
      get?_observe_event kind (kind.wellKept_afterEvents h hbefore) hlast, ih hbefore,
      List.filterMap_append, Delivery.left?_append, List.filterMap_cons, List.filterMap_nil]
    cases kind.at? ns name event <;> rfl

end PublishedKind

end ClusterWatch
