import ClusterWatch.Proofs.Topology.Feed

/-!
# Which pods the views list

A view lists the pods that the cache held when its service was assembled last, without those that
were deleted since. Creations of pods assemble nothing, so a pod that is cached only after its
endpoints were handled stays out of the view.

* `ServiceTopology.LastAssembly` — an event of a history assembles a service, and no later
  one changes that.
* `ServiceTopology.exists_lastAssembly` — the view of a known service was assembled
  last at some moment.
* `Feed.CallsFor` — a known service and its endpoints call for a pod under an owner.
* `Feed.get?_of_lastAssembly` — when everything is handled, the service that was assembled last
  is the cached one.
* `Feed.exists_listing` — whether a view then lists a pod that is called for.
* `Feed.late_pod_not_listed` — it need not.
-/

namespace ClusterWatch

open Reconciler (Handling events)

namespace ServiceView

/-- A view of a namespace as events patch it one after another. -/
def patchedBy (view : ServiceView) (ns : String) (later : List Handling) : ServiceView :=
  later.foldl (fun view next => next.event.patch ns view) view

/-- Two runs of handlings patch a view one after the other. -/
theorem patchedBy_append (view : ServiceView) (ns : String) (earlier later : List Handling) :
    view.patchedBy ns (earlier ++ later) = (view.patchedBy ns earlier).patchedBy ns later :=
  List.foldl_append

/-- What events leave of the pods of a view that none of them assembles anew. -/
theorem lists_patchedBy {later : List Handling} {ns : String} {view : ServiceView}
    {owner : WorkloadRef} {pod : String} :
    (view.patchedBy ns later).Lists owner pod ↔
      view.Lists owner pod ∧ ∀ next ∈ later, ¬ next.event.Deletes ns pod := by
  rw [patchedBy]
  induction later generalizing view with
  | nil => simp
  | cons next rest ih =>
    rw [List.foldl_cons, ih, ClusterEvent.lists_patch, List.forall_mem_cons, and_assoc]

end ServiceView

namespace ServiceTopology

/-! ### The last assembly of a service -/

/-- After some earlier events, a moment of a history assembles a service under a name, and nothing
later assembles the service anew or is a delivery of it. -/
structure LastAssembly (ns name : String) (before : List Handling) (moment : Handling)
    (service : Service) (later : List Handling) : Prop where
  /-- The moment assembles the service. -/
  assembled : (after before).assembled? moment.stores moment.event ns name = some service
  /-- Nothing later assembles it anew, or is a delivery of it. -/
  last : ∀ between next rest, later = between ++ next :: rest →
    (after (before ++ moment :: between)).assembled? next.stores next.event ns name = none ∧
      next.event.serviceAt? ns name = none

variable {ns name : String}

theorem lastAssembly_now {before : List Handling} {moment : Handling} {service : Service}
    (h : (after before).assembled? moment.stores moment.event ns name = some service) :
    LastAssembly ns name before moment service [] where
  assembled := h
  last _ _ _ hnil := by simp at hnil

variable {before later : List Handling} {moment : Handling} {service : Service}

/-- What was assembled last at some moment was already so before some of what has followed. -/
theorem LastAssembly.of_append {earlier : List Handling}
    (h : LastAssembly ns name before moment service (earlier ++ later)) :
    LastAssembly ns name before moment service earlier where
  assembled := h.assembled
  last between own rest hsplit :=
    h.last between own (rest ++ later) (by rw [hsplit, List.append_assoc, List.cons_append])

/-- An assembly stays the last one until the service is assembled again or delivered. -/
theorem lastAssembly_concat_iff {next : Handling} :
    LastAssembly ns name before moment service (later ++ [next]) ↔
      LastAssembly ns name before moment service later ∧
        (after (before ++ moment :: later)).assembled? next.stores next.event ns name = none ∧
        next.event.serviceAt? ns name = none := by
  constructor
  · exact fun h => ⟨h.of_append, h.last later next [] rfl⟩
  · rintro ⟨h, hnext⟩
    refine ⟨h.assembled, fun between own rest hsplit => ?_⟩
    rcases concat_eq_append_cons hsplit with ⟨-, rfl, rfl⟩ | ⟨rest, -, hearlier⟩
    · exact hnext
    · exact h.last between own rest hearlier

/-- The view of a service is what its last assembly has made of it, patched by what follows. -/
theorem LastAssembly.view? (h : LastAssembly ns name before moment service later)
    (hkept : ∀ handling ∈ before ++ moment :: later, handling.stores.services.WellKept) :
    (after (before ++ moment :: later)).view? ns name =
      some ((ServiceView.assemble moment.stores service).patchedBy ns later) := by
  induction later using List.reverseRecOn with
  | nil =>
    rw [after_concat, view?_handle (hkept moment (by simp)), h.assembled]
    rfl
  | append_singleton later next ih =>
    obtain ⟨hearlier, hassembled, hservice⟩ := lastAssembly_concat_iff.mp h
    rw [← List.cons_append, ← List.append_assoc] at hkept ⊢
    have hview := ih hearlier fun handling hmem => hkept handling (List.mem_append_left _ hmem)
    -- the next event is no assembly and no delivery of the service, and so patches the view
    rw [after_concat, view?_handle (hkept next (List.mem_append_right _ List.mem_cons_self)),
      hassembled, hservice, hview, ServiceView.patchedBy_append]
    rfl

/-- A known service was assembled last at some moment. -/
theorem exists_lastAssembly {history : List Handling}
    (hkept : ∀ handling ∈ history, handling.stores.services.WellKept) {view : ServiceView}
    (hview : (after history).view? ns name = some view) :
    ∃ before moment service later, history = before ++ moment :: later ∧
      LastAssembly ns name before moment service later := by
  induction history using List.reverseRecOn generalizing view with
  | nil => cases hview
  | append_singleton history next ih =>
    rw [after_concat,
      view?_handle (hkept next (List.mem_append_right _ List.mem_cons_self))] at hview
    split at hview
    next service hservice => exact ⟨history, next, service, [], rfl, lastAssembly_now hservice⟩
    next hassembled =>
      -- the view was there before, and the event patches it
      obtain ⟨hservice, hpatched⟩ := Option.ite_none_left_eq_some.mp hview
      obtain ⟨earlier, hearlier, -⟩ := Option.map_eq_some_iff.mp hpatched
      obtain ⟨before, moment, service, later, rfl, hlast⟩ :=
        ih (fun handling hmem => hkept handling (List.mem_append_left _ hmem)) hearlier
      refine ⟨before, moment, service, later ++ [next], by simp, ?_⟩
      exact lastAssembly_concat_iff.mpr ⟨hlast, hassembled, by simpa using hservice⟩

end ServiceTopology

/-! ### Views when everything is handled -/

theorem ClusterEvent.serviceAt?_eq (event : ClusterEvent) (ns name : String) :
    event.serviceAt? ns name = PublishedKind.services.at? ns name event := by
  cases event with
  | services delivery => exact (PublishedKind.services.at?_wrap delivery ns name).symm
  | _ => rfl

/-- A pod that no replica set owns belongs to its owner. -/
theorem Pod.owner?_of_kind_ne {pod : Pod} {owner : OwnerReference}
    (howner : controllingOwner? pod.metadata.owners = some owner)
    (hkind : owner.kind ≠ "ReplicaSet") (replicaSet? : String → Option ReplicaSet) :
    pod.owner? replicaSet? = some owner.workload := by
  rw [Pod.owner?, howner]
  exact if_neg hkind

namespace Feed

open ServiceTopology (LastAssembly)

variable {feed : Feed} {ns name : String} {pod : Pod} {owner : OwnerReference}

/-- A known service and its endpoints call for a pod under an owner. -/
structure CallsFor (feed : Feed) (ns name : String) (pod : Pod) (owner : OwnerReference) :
    Prop where
  /-- The selector of the service matches the pod, which is cached. -/
  service : ∃ service, PublishedKind.services.current? (events feed.handled) ns name =
    some service ∧ pod ∈ feed.stores.podsMatching ns service.selector
  /-- The endpoints of the service lead to the pod. -/
  endpoints : ∃ endpoints, PublishedKind.endpoints.current? (events feed.handled) ns name =
    some endpoints ∧ ClusterObject.name pod ∈ endpoints.podNames
  /-- The pod has the owner. -/
  owned : controllingOwner? pod.metadata.owners = some owner
  /-- The owner is not a replica set, whose own owner would have to be looked up. -/
  kind_ne : owner.kind ≠ "ReplicaSet"

/-- A service that calls for a pod has a view. -/
theorem CallsFor.exists_view? (h : feed.CallsFor ns name pod owner) (hreachable : feed.Reachable) :
    ∃ view, feed.topology.view? ns name = some view := by
  obtain ⟨service, hservice, -⟩ := h.service
  have hlast : lastService? (events feed.handled) ns name =
      PublishedKind.services.last? (events feed.handled) ns name :=
    congrArg (List.findSomeRev? · (events feed.handled))
      (funext fun event => event.serviceAt?_eq ns name)
  -- a service whose last delivery left it there is known
  have hknown := (ServiceTopology.knows_after hreachable.traced_services.past ns name).mpr
    ⟨service, by rw [hlast]; exact hservice⟩
  obtain ⟨entry, hentry⟩ :=
    Option.isSome_iff_exists.mp (Std.ExtTreeMap.mem_iff_isSome_getElem?.mp hknown)
  exact ⟨entry.view, congrArg (Option.map ServiceEntry.view) hentry⟩

theorem deliveries_eq (kind : PublishedKind Service) (history : List Handling) (ns name : String) :
    deliveries kind history ns name = (events history).filterMap (kind.at? ns name) := by
  rw [deliveries, events, List.filterMap_map]
  rfl

/-- No delivery of a service follows its last assembly. -/
theorem deliveries_of_lastAssembly {before later : List Handling} {moment : Handling}
    {service : Service} (h : LastAssembly ns name before moment service later) :
    deliveries .services later ns name = [] := by
  refine List.filterMap_eq_nil_iff.mpr fun next hnext => ?_
  obtain ⟨between, rest, rfl⟩ := List.append_of_mem hnext
  rw [← ClusterEvent.serviceAt?_eq]
  exact (h.last between next rest rfl).2

/-- When everything is handled, the service that was assembled last under a name is
the cached one. -/
theorem get?_of_lastAssembly (hreachable : feed.Reachable) (hquiet : feed.IsQuiet)
    {before later : List Handling} {moment : Handling} {service : Service}
    (hsplit : feed.handled = before ++ moment :: later)
    (hlast : LastAssembly ns name before moment service later) :
    feed.stores.services.get? ns name = some service := by
  have htraced := hreachable.traced_services
  have hlater := deliveries_of_lastAssembly hlast
  have hassembled := hlast.assembled
  cases hevent : moment.event with
  | services delivery =>
    -- the delivery of the service is the last one, and tells of what the store holds by now
    rw [hevent] at hassembled
    obtain ⟨hat, hcurrent⟩ := Option.ite_none_right_eq_some.mp hassembled
    have hmoment : PublishedKind.services.at? ns name moment.event = some delivery :=
      PublishedKind.at?_eq_some_iff.mpr ⟨hevent, hat⟩
    have hwhole := htraced.whole ns name
    rw [pending_of_isQuiet .services hquiet, List.append_nil, hsplit, deliveries_append,
      deliveries_cons, hlater, hmoment, Delivery.left?_append] at hwhole
    exact hwhole.trans hcurrent
  | endpoints delivery =>
    rw [hevent] at hassembled
    obtain ⟨_, _, -, -, -, -, hservice⟩ :=
      ServiceTopology.assembled?_endpoints_eq_some_iff.mp hassembled
    have hsince := htraced.since before moment later hsplit ns name
    rw [pending_of_isQuiet .services hquiet, hlater] at hsince
    exact hsince.trans hservice
  | _ =>
    rw [hevent] at hassembled
    cases hassembled

variable {before later : List Handling} {moment : Handling} {service : Service}

/-- What a service called for is found when it is assembled last, unless a delivery of the pod is
handled later. -/
theorem CallsFor.lists_assemble (h : feed.CallsFor ns name pod owner) (hreachable : feed.Reachable)
    (hquiet : feed.IsQuiet) (hsplit : feed.handled = before ++ moment :: later)
    (hlast : LastAssembly ns name before moment service later)
    (hlater : ∀ next ∈ later,
      PublishedKind.pods.at? ns (ClusterObject.name pod) next.event = none) :
    (ServiceView.assemble moment.stores service).Lists owner.workload (ClusterObject.name pod) := by
  have hpods := hreachable.traced_pods
  have hservices := hreachable.traced_services
  have hmem : moment ∈ feed.handled := hsplit ▸ List.mem_append_right _ List.mem_cons_self
  -- the service is the known one, and the cache held the pod already as it does now
  have hcached := get?_of_lastAssembly hreachable hquiet hsplit hlast
  obtain ⟨hns, -⟩ := (Store.isNamespaced_of_get? hservices.wellKept hcached).2
  obtain ⟨known, hknown, hmatching⟩ := h.service
  have hwhole := hservices.whole ns name
  rw [pending_of_isQuiet .services hquiet, List.append_nil, deliveries_eq,
    ← PublishedKind.current?_eq_left?, hknown] at hwhole
  obtain rfl : service = known := Option.some.inj (hcached.symm.trans hwhole)
  obtain ⟨hselects, hwithin, hselected⟩ := Stores.mem_podsMatching.mp hmatching
  have hsince := hpods.since before moment later hsplit ns (ClusterObject.name pod)
  rw [pending_of_isQuiet .pods hquiet, List.append_nil, deliveries,
    List.filterMap_eq_nil_iff.mpr hlater] at hsince
  have hthen : pod ∈ moment.stores.pods.within ns :=
    (Store.mem_within (hpods.past moment hmem)).mpr
      (hsince.symm.trans ((Store.mem_within hpods.wellKept).mp hwithin))
  refine ServiceView.lists_assemble.mpr
    ⟨pod, ?_, rfl, Pod.owner?_of_kind_ne h.owned h.kind_ne _⟩
  rw [hns]
  exact Stores.mem_podsMatching.mpr ⟨hselects, hthen, hselected⟩

/-- A known service was assembled last at some moment, and its view is patched by what
has followed. -/
theorem exists_lastAssembly (hreachable : feed.Reachable) {view : ServiceView}
    (hview : feed.topology.view? ns name = some view) :
    ∃ before moment service later, feed.handled = before ++ moment :: later ∧
      LastAssembly ns name before moment service later ∧
      ∀ owner pod, view.Lists owner pod ↔
        (ServiceView.assemble moment.stores service).Lists owner pod ∧
        ∀ next ∈ later, ¬ next.event.Deletes ns pod := by
  have hpast := hreachable.traced_services.past
  obtain ⟨before, moment, service, later, hsplit, hlast⟩ :=
    ServiceTopology.exists_lastAssembly hpast hview
  refine ⟨before, moment, service, later, hsplit, hlast, fun owner pod => ?_⟩
  have hpatched := hlast.view? (hsplit ▸ hpast)
  rw [← hsplit] at hpatched
  rw [Option.some.inj (hview.symm.trans hpatched), ServiceView.lists_patchedBy]

/-- Endpoints that are handled without assembling a known service find all of their
pods in its view. -/
theorem lists_of_not_assembled (hreachable : feed.Reachable) (hquiet : feed.IsQuiet)
    {between : List Handling} {next : Handling}
    (hsplit : feed.handled = before ++ moment :: (between ++ next :: later))
    (hlast : LastAssembly ns name before moment service (between ++ next :: later))
    {delivery : Delivery Endpoints}
    (hat : PublishedKind.endpoints.at? ns name next.event = some delivery) {endpoints : Endpoints}
    (hcurrent : delivery.current? = some endpoints) {target : String}
    (htarget : target ∈ endpoints.podNames) :
    ∃ own,
      ((ServiceView.assemble moment.stores service).patchedBy ns between).Lists own target := by
  have hservices := hreachable.traced_services
  have hsplitNext : feed.handled = (before ++ moment :: between) ++ next :: later := by
    rw [hsplit, List.append_assoc, List.cons_append]
  -- the endpoints find the view as it was patched so far, and the service in the cache
  have hbetween : LastAssembly ns name before moment service between := hlast.of_append
  have hview := hbetween.view? fun handling hmem =>
    hservices.past handling (hsplitNext ▸ List.mem_append_left _ hmem)
  have hcached : next.stores.services.get? ns name = some service := by
    have hnone := deliveries_of_lastAssembly hlast
    rw [deliveries_append, deliveries_cons, List.append_eq_nil_iff, List.append_eq_nil_iff] at hnone
    have hsince := hservices.since _ next later hsplitNext ns name
    rw [pending_of_isQuiet .services hquiet, hnone.2.2] at hsince
    exact hsince.symm.trans (get?_of_lastAssembly hreachable hquiet hsplit hlast)
  obtain ⟨hevent, hnames⟩ := PublishedKind.at?_eq_some_iff.mp hat
  obtain ⟨hnot, -⟩ := hlast.last between next later rfl
  have hall : ServiceTopology.hasNewPod endpoints
      ((ServiceView.assemble moment.stores service).patchedBy ns between) = false := by
    refine Bool.eq_false_iff.mpr fun hnew => ?_
    have hassembled := ServiceTopology.assembled?_endpoints_eq_some_iff.mpr
      ⟨endpoints, _, hcurrent, hview, Delivery.object_of_current? hcurrent ▸ hnames,
        hnew, hcached⟩
    rw [hevent] at hnot
    exact absurd (hnot.symm.trans hassembled) nofun
  exact ServiceTopology.hasNewPod_eq_false_iff.mp hall target htarget

/-- Endpoints that lead to a pod bring it into the view of their service, unless a delivery of the
pod is handled later. -/
theorem CallsFor.exists_lists (h : feed.CallsFor ns name pod owner) (hreachable : feed.Reachable)
    (hquiet : feed.IsQuiet) {view : ServiceView} (hview : feed.topology.view? ns name = some view)
    {earlier rest : List Handling} {next : Handling}
    (hnext : feed.handled = earlier ++ next :: rest)
    {delivery : Delivery Endpoints}
    (hat : PublishedKind.endpoints.at? ns name next.event = some delivery)
    {endpoints : Endpoints} (hcurrent : delivery.current? = some endpoints)
    (hleads : ClusterObject.name pod ∈ endpoints.podNames)
    (hrest : ∀ later ∈ rest,
      PublishedKind.pods.at? ns (ClusterObject.name pod) later.event = none) :
    ∃ own, view.Lists own (ClusterObject.name pod) := by
  obtain ⟨before, moment, service, later, hsplit, hlast, hlists⟩ :=
    exists_lastAssembly hreachable hview
  rcases append_cons_cases (hsplit.symm.trans hnext) with ⟨between, rfl⟩ | hlater
  · -- the endpoints were handled after the last assembly, so the view listed the pod already
    obtain ⟨own, hown⟩ :=
      lists_of_not_assembled hreachable hquiet hsplit hlast hat hcurrent hleads
    obtain ⟨hfound, hstays⟩ := ServiceView.lists_patchedBy.mp hown
    refine ⟨own, (hlists _ _).mpr ⟨hfound, ?_⟩⟩
    rw [List.forall_mem_append, List.forall_mem_cons]
    refine ⟨hstays, ClusterEvent.not_deletes_of_at?_eq_none ?_, fun later hmem => ?_⟩
    · rw [(PublishedKind.at?_eq_some_iff.mp hat).1]
      rfl
    · exact ClusterEvent.not_deletes_of_at?_eq_none (hrest later hmem)
  · have hnone := fun later hmem => hrest later (hlater later hmem)
    refine ⟨owner.workload, (hlists _ _).mpr ⟨?_, fun later hmem => ?_⟩⟩
    · exact h.lists_assemble hreachable hquiet hsplit hlast hnone
    · exact ClusterEvent.not_deletes_of_at?_eq_none (hnone later hmem)

/-- When a view lists a pod under an owner, by the last assembly of its service and what was
handled later. -/
structure Listing (feed : Feed) (ns name pod : String) (owner : WorkloadRef) (view : ServiceView)
    (moment : Handling) (service : Service) (later : List Handling) : Prop where
  /-- It does exactly if the last assembly found the pod in the cache, in a version that the
  selector matched and that belonged to the owner, and no deletion of the pod was handled later. -/
  lists_iff : view.Lists owner pod ↔
    (∃ found ∈ moment.stores.podsMatching ns service.selector,
      ClusterObject.name found = pod ∧
      found.owner? (moment.stores.replicaSets.get? ns) = some owner) ∧
    ∀ next ∈ later, ¬ next.event.Deletes ns pod
  /-- It does if no delivery of the pod was handled later. -/
  of_assembly : (∀ next ∈ later, PublishedKind.pods.at? ns pod next.event = none) →
    view.Lists owner pod
  /-- It lists the pod under some owner if no delivery of the pod was handled after endpoints
  that lead to it. -/
  of_endpoints : ∀ earlier next rest, feed.handled = earlier ++ next :: rest →
    ∀ delivery endpoints, PublishedKind.endpoints.at? ns name next.event = some delivery →
      delivery.current? = some endpoints → pod ∈ endpoints.podNames →
      (∀ later ∈ rest, PublishedKind.pods.at? ns pod later.event = none) →
        ∃ own, view.Lists own pod

/-- When the topology has handled everything, a service that calls for a pod has a view, and whether
the view lists the pod is decided by what the cache held when the service was assembled last, and by
the deletions since. -/
theorem exists_listing (hreachable : feed.Reachable) (hquiet : feed.IsQuiet)
    (h : feed.CallsFor ns name pod owner) :
    ∃ view before moment service later, feed.topology.view? ns name = some view ∧
      feed.handled = before ++ moment :: later ∧
      LastAssembly ns name before moment service later ∧
      feed.Listing ns name (ClusterObject.name pod) owner.workload view moment service later := by
  obtain ⟨view, hview⟩ := h.exists_view? hreachable
  obtain ⟨before, moment, service, later, hsplit, hlast, hlists⟩ :=
    exists_lastAssembly hreachable hview
  have hcached := get?_of_lastAssembly hreachable hquiet hsplit hlast
  obtain ⟨hns, -⟩ := (Store.isNamespaced_of_get? hreachable.traced_services.wellKept hcached).2
  refine ⟨view, before, moment, service, later, hview, hsplit, hlast, ?_, fun hlater => ?_, ?_⟩
  · -- the view lists what the assembly has found and no later event has deleted
    rw [hlists, ServiceView.lists_assemble, hns]
  · refine (hlists _ _).mpr
      ⟨h.lists_assemble hreachable hquiet hsplit hlast hlater, fun next hnext => ?_⟩
    exact ClusterEvent.not_deletes_of_at?_eq_none (hlater next hnext)
  · intro earlier next rest hnext delivery endpoints hat hcurrent hleads hrest
    exact h.exists_lists hreachable hquiet hview hnext hat hcurrent hleads hrest

/-- A service is assembled without pods, and its pod is cached and delivered before the endpoints
lead to it. The view lists the pod. -/
theorem exists_listing_of_early_pod :
    let pod := Pod.member "db-0" "2" "Running"
    let owner : OwnerReference := ⟨"StatefulSet", "db", true⟩
    ∃ feed : Feed, feed.Reachable ∧ feed.IsQuiet ∧ feed.CallsFor "default" "db" pod owner ∧
      ∃ view own, feed.topology.view? "default" "db" = some view ∧ view.Lists own "db-0" := by
  intro pod owner
  let endpoints := Endpoints.leadingTo "db-0" "db" "3"
  let turns : List Turn := [
    .observe .services [.services (.created (.selecting "db" "1"))], .publish .services, .consume,
    .observe .pods [.pods (.created pod)], .publish .pods, .consume,
    .observe .endpoints [.endpoints (.created endpoints)], .publish .endpoints, .consume]
  let feed := ((start .direct).turns? turns).get (by decide)
  have hreachable : feed.Reachable :=
    (Reachable.start .direct (.inr rfl)).turns turns (Option.some_get _).symm
  have hquiet : feed.IsQuiet := fun kind => List.isEmpty_iff.mp (by cases kind <;> decide)
  have hcalls : feed.CallsFor "default" "db" pod owner :=
    ⟨⟨.selecting "db" "1", by decide, by decide⟩, ⟨endpoints, by decide, by decide⟩,
      rfl, by decide⟩
  obtain ⟨view, _, _, _, _, hview, -, -, hlisting⟩ := exists_listing hreachable hquiet hcalls
  -- the endpoints were handled last
  have hendpoints :
      feed.handled.getLast?.bind (PublishedKind.endpoints.at? "default" "db" ·.event) =
      some (.created endpoints) := by decide
  obtain ⟨last, hlast, hat⟩ := Option.bind_eq_some_iff.mp hendpoints
  obtain ⟨earlier, hsplit⟩ := List.getLast?_eq_some_iff.mp hlast
  obtain ⟨own, hown⟩ :=
    hlisting.of_endpoints earlier last [] hsplit _ endpoints hat rfl (by decide)
    fun _ hnone => absurd hnone List.not_mem_nil
  exact ⟨feed, hreachable, hquiet, hcalls, view, own, hview, hown⟩

/-- The bus is opened. A service and endpoints that lead to a pod are handled before the pod is
cached, and when everything is handled the view of the service does not list the pod. -/
theorem late_pod_not_listed :
    let pod := Pod.member "db-0" "3" "Running"
    let owner : OwnerReference := ⟨"StatefulSet", "db", true⟩
    ∃ feed : Feed, feed.Reachable ∧ feed.IsQuiet ∧ feed.CallsFor "default" "db" pod owner ∧
      ∃ view, feed.topology.view? "default" "db" = some view ∧
        ¬ view.Lists owner.workload "db-0" := by
  intro pod owner
  -- the pod is observed after the endpoints that lead to it have been consumed
  let turns : List Turn := [
    .openBus,
    .observe .services [.services (.created (.selecting "db" "1"))], .publish .services, .consume,
    .observe .endpoints [.endpoints (.created (.leadingTo "db-0" "db" "2"))],
    .publish .endpoints, .consume, .observe .pods [.pods (.created pod)], .publish .pods, .consume]
  let feed := ((start .gated).turns? turns).get (by decide)
  have hreachable : feed.Reachable :=
    (Reachable.start .gated (.inl rfl)).turns turns (Option.some_get _).symm
  have hcalls : feed.CallsFor "default" "db" pod owner :=
    ⟨⟨.selecting "db" "1", by decide, by decide⟩,
      ⟨.leadingTo "db-0" "db" "2", by decide, by decide⟩, rfl, by decide⟩
  refine ⟨feed, hreachable, fun kind => List.isEmpty_iff.mp (by cases kind <;> decide), hcalls,
    ⟨"db", "default", []⟩, by decide, ?_⟩
  -- the view has no workloads at all
  rintro ⟨workload, hworkload, -⟩
  cases hworkload

end Feed

end ClusterWatch
