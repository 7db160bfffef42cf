import Mathlib.Data.List.Forall2
import ClusterWatch.Proofs.Topology.Joins

/-!
# The views of the topology

What is shown of a namespace reads the join of its services with its ingress records: inner services
are those to which no path of a record leads, and every rule of a record with a path to a known
service is shown once.

* `NamespaceTopology.getElem?_servicesOf` — the services that the paths of a rule lead to.
* `NamespaceTopology.Shows` — an outer service view shows a rule.
* `Joined.mem_innerServices`, `Joined.outerServices` — the two views of a
  namespace that is joined.
* `ServiceTopology.views_after` — the views after any history.
-/

namespace ClusterWatch

open Reconciler (Handling events)

namespace NamespaceTopology

variable {topology : NamespaceTopology} {ns : String}

/-! ### Inner services -/

/-- No ingress is kept with a known service exactly if no path of a record leads to it. -/
theorem Joined.isEmpty_ingresses_iff (h : topology.Joined ns) {service : String}
    {entry : ServiceEntry} (hentry : topology.services[service]? = some entry) :
    entry.ingresses.isEmpty = true ↔
      ∀ (name : String) (record : IngressRecord), topology.ingresses[name]? = some record →
        ¬ record.LeadsTo service := by
  rw [Std.ExtTreeSet.isEmpty_iff, Std.ExtTreeSet.eq_empty_iff_forall_not_mem]
  simp only [h.mem_ingresses_iff hentry, not_exists, not_and]

/-- The inner services are the known ones to which no ingress record leads. -/
theorem Joined.mem_innerServices (h : topology.Joined ns) {view : ServiceView} :
    view ∈ topology.innerServices ↔
      ∃ entry, topology.services[view.name]? = some entry ∧ entry.view = view ∧
        ∀ (name : String) (record : IngressRecord), topology.ingresses[name]? = some record →
          ¬ record.LeadsTo view.name := by
  simp only [innerServices, List.mem_map, List.mem_filter, Prod.exists,
    Std.ExtTreeMap.mem_toList_iff_getElem?_eq_some]
  constructor
  · rintro ⟨name, entry, ⟨hentry, hunreached⟩, rfl⟩
    -- the key that the entry stands under is the name of its view
    obtain ⟨hname, -⟩ := h.named name entry hentry
    rw [hname]
    exact ⟨entry, hentry, rfl, (h.isEmpty_ingresses_iff hentry).mp hunreached⟩
  · rintro ⟨entry, hentry, rfl, hunreached⟩
    exact ⟨entry.view.name, entry,
      ⟨hentry, (h.isEmpty_ingresses_iff hentry).mpr hunreached⟩, rfl⟩

/-- Inner services are shown in the order of their names. -/
theorem Joined.pairwise_innerServices (h : topology.Joined ns) :
    topology.innerServices.Pairwise (·.name < ·.name) := by
  rw [innerServices, List.pairwise_map]
  refine List.Pairwise.imp_of_mem ?_ (topology.services.ordered_keys_toList.filter _)
  rintro ⟨one, entry⟩ ⟨other, otherEntry⟩ hone hother hlt
  -- the keys are in order, and each of them is the name of its view
  have hentry := Std.ExtTreeMap.mem_toList_iff_getElem?_eq_some.mp (List.mem_filter.mp hone).1
  have hotherEntry :=
    Std.ExtTreeMap.mem_toList_iff_getElem?_eq_some.mp (List.mem_filter.mp hother).1
  rw [(h.named one entry hentry).1, (h.named other otherEntry hotherEntry).1]
  exact compareOfLessAndEq_eq_lt.mp hlt

/-! ### Outer services -/

/-- The services that the paths of a rule lead to: under each path the view of the known service
that the last such path leads to. -/
theorem getElem?_servicesOf (topology : NamespaceTopology) (rule : IngressRule) (text : String) :
    (topology.servicesOf rule)[text]? = rule.paths.findSomeRev? fun path =>
      if path.path = text then topology.services[path.serviceName]?.map ServiceEntry.view
        else none := by
  rw [servicesOf]
  induction rule.paths using List.reverseRecOn with
  | nil => rfl
  | append_singleton paths path ih =>
    rw [List.foldl_append, List.foldl_cons, List.foldl_nil, findSomeRev?_concat, ← ih]
    -- a path to an unknown service does not hide the ones before it
    cases topology.services[path.serviceName]? with
    | none => simp
    | some entry =>
      by_cases htext : path.path = text
      · simp [htext]
      · simp [htext, Std.ExtTreeMap.getElem?_insert]

/-- An outer service view shows a rule of the ingress of that name. -/
structure Shows (topology : NamespaceTopology) (name : String) (rule : IngressRule)
    (shown : OuterServiceView) : Prop where
  /-- It carries the name of the ingress. -/
  name_eq : shown.name = name
  /-- It carries the protocol of the rule. -/
  protocol : shown.protocol = rule.protocol
  /-- For HTTP, traffic enters at the host name. -/
  http : rule.protocol = .http → shown.entryPoint = "http://" ++ rule.host
  /-- For the transport protocols, traffic enters at the port. -/
  transport : rule.protocol ≠ .http →
    shown.entryPoint = rule.protocol.name ++ ":" ++ toString rule.port.toNat
  /-- Under each path of the rule stands the view of the known service that it leads to; of equal
  paths that lead to known services the last one counts. -/
  services : ∀ text, shown.services[text]? = rule.paths.findSomeRev? fun path =>
    if path.path = text then topology.services[path.serviceName]?.map ServiceEntry.view else none

theorem shows_outerView (topology : NamespaceTopology) (name : String) (rule : IngressRule) :
    topology.Shows name rule
      ⟨name, rule.entryPoint, rule.protocol, topology.servicesOf rule⟩ where
  name_eq := rfl
  protocol := rfl
  http hprotocol := by simp [IngressRule.entryPoint, hprotocol]
  transport hprotocol := by
    unfold IngressRule.entryPoint
    split
    next hhttp => exact absurd hhttp hprotocol
    next => rfl
  services := topology.getElem?_servicesOf rule

/-- The records of the ingresses that have a path to a known service, by name. -/
def reachingRecords (topology : NamespaceTopology) : List IngressRecord :=
  topology.reachingIngresses.toList.filterMap (topology.ingresses[·]?)

/-- The reaching ingresses are those in the set of some known service. -/
theorem mem_reachingIngresses {name : String} :
    name ∈ topology.reachingIngresses ↔
      ∃ (service : String) (entry : ServiceEntry), topology.services[service]? = some entry ∧
        name ∈ entry.ingresses := by
  rw [reachingIngresses, Std.ExtTreeSet.mem_ofList, List.contains_iff_mem]
  simp only [List.mem_flatMap, Prod.exists, Std.ExtTreeMap.mem_toList_iff_getElem?_eq_some,
    Std.ExtTreeSet.mem_toList]

/-- The reaching records are those with a path to a known service. -/
theorem Joined.mem_reachingRecords (h : topology.Joined ns) {record : IngressRecord} :
    record ∈ topology.reachingRecords ↔
      topology.ingresses[record.name]? = some record ∧
        ∃ service ∈ topology.services, record.LeadsTo service := by
  simp only [reachingRecords, List.mem_filterMap, Std.ExtTreeSet.mem_toList, mem_reachingIngresses]
  constructor
  · rintro ⟨name, ⟨service, entry, hentry, hname⟩, hrecord⟩
    -- the name in the set of a service is that of a record that leads to it
    obtain ⟨leading, hleading, hleads⟩ := (h.mem_ingresses_iff hentry).mp hname
    obtain rfl : record = leading := Option.some.inj (hrecord.symm.trans hleading)
    rw [(h.tidy name record hrecord).1]
    exact ⟨hrecord, service,
      Std.ExtTreeMap.mem_iff_isSome_getElem?.mpr (Option.isSome_of_eq_some hentry), hleads⟩
  · rintro ⟨hrecord, service, hservice, hleads⟩
    obtain ⟨entry, hentry⟩ :=
      Option.isSome_iff_exists.mp (Std.ExtTreeMap.mem_iff_isSome_getElem?.mp hservice)
    have hname : record.name ∈ entry.ingresses :=
      (h.mem_ingresses_iff hentry).mpr ⟨record, hrecord, hleads⟩
    exact ⟨record.name, ⟨service, entry, hentry, hname⟩, hrecord⟩

theorem Joined.pairwise_reachingRecords (h : topology.Joined ns) :
    topology.reachingRecords.Pairwise (·.name < ·.name) := by
  refine List.pairwise_filterMap.mpr (topology.reachingIngresses.ordered_toList.imp ?_)
  intro one other hlt record hrecord otherRecord hotherRecord
  rw [(h.tidy one record hrecord).1, (h.tidy other otherRecord hotherRecord).1]
  exact compareOfLessAndEq_eq_lt.mp hlt

/-- Every rule of the records is shown, record after record and rule after rule. -/
theorem forall₂_shows_outerServices (topology : NamespaceTopology) :
    List.Forall₂ (fun rule shown => topology.Shows rule.1 rule.2 shown)
      (topology.reachingRecords.flatMap fun record => record.rules.map fun rule =>
        (record.name, rule))
      topology.outerServices := by
  -- what is shown is a map over the rules, and each image shows its rule
  have houter : topology.outerServices =
      (topology.reachingRecords.flatMap fun record => record.rules.map fun rule =>
        (record.name, rule)).map
        fun rule =>
          ⟨rule.1, rule.2.entryPoint, rule.2.protocol, topology.servicesOf rule.2⟩ := by
    rw [List.map_flatMap]
    simp only [List.map_map]
    rfl
  rw [houter, List.forall₂_map_right_iff, List.forall₂_same]
  exact fun rule _ => topology.shows_outerView rule.1 rule.2

end NamespaceTopology

namespace ServiceTopology

/-! ### Any history -/

/-- What is kept and shown of a namespace after a history, as the join of its known services with
its ingress records has it. -/
structure Views (history : List Handling) (ns : String) : Prop where
  /-- If the stores of services are well kept, as services live in namespaces, the known services
  are those whose last delivery was not a deletion. -/
  known : (∀ handling ∈ history, handling.stores.services.WellKept) → ∀ name,
    name ∈ ((after history).within ns).services ↔
      ∃ service, (lastService? (events history) ns name).bind Delivery.current? = some service
  /-- Every service is kept under its own name. -/
  serviceNames : ∀ (name : String) (entry : ServiceEntry),
    ((after history).within ns).services[name]? = some entry →
      entry.view.name = name ∧ entry.view.ns = ns
  /-- Every ingress record is kept under its own name. -/
  recordNames : ∀ (name : String) (record : IngressRecord),
    ((after history).within ns).ingresses[name]? = some record → record.name = name
  /-- With every known service are kept the names of the records with a path to it. -/
  ingressSets : ∀ (service : String) (entry : ServiceEntry),
    ((after history).within ns).services[service]? = some entry →
      ∀ name, name ∈ entry.ingresses ↔
      ∃ record, ((after history).within ns).ingresses[name]? = some record ∧
        record.LeadsTo service
  /-- The inner services are the known services to which no path of a record leads. -/
  inner : ∀ view, view ∈ (after history).innerServices ns ↔
    ∃ entry, ((after history).within ns).services[view.name]? = some entry ∧
      entry.view = view ∧ ∀ (name : String) (record : IngressRecord),
        ((after history).within ns).ingresses[name]? = some record → ¬ record.LeadsTo view.name
  /-- They are shown in the order of their names. -/
  innerOrder : ((after history).innerServices ns).Pairwise (·.name < ·.name)
  /-- The outer services show, in the order of their names, the records with a path to a known
  service, each of them once, with one entry for each rule in the order of the rules. -/
  outer : ∃ records : List IngressRecord,
    records.Pairwise (·.name < ·.name) ∧
    (∀ record, record ∈ records ↔
      ((after history).within ns).ingresses[record.name]? = some record ∧
        ∃ service ∈ ((after history).within ns).services, record.LeadsTo service) ∧
    List.Forall₂ (fun rule shown => ((after history).within ns).Shows rule.1 rule.2 shown)
      (records.flatMap fun record => record.rules.map fun rule => (record.name, rule))
      ((after history).outerServices ns)

/-- After any history of events, the views of every namespace are what the join of its services with
its ingress records makes them. -/
theorem views_after (history : List Handling) (ns : String) : Views history ns := by
  have h := joined_after history ns
  exact {
    known := fun hkept name => knows_after hkept ns name
    serviceNames := h.named
    recordNames := fun name record hrecord => (h.tidy name record hrecord).1
    ingressSets := fun service entry hentry name => h.mem_ingresses_iff hentry
    inner := fun view => h.mem_innerServices
    innerOrder := h.pairwise_innerServices
    outer := ⟨_, h.pairwise_reachingRecords, fun record => h.mem_reachingRecords,
      ((after history).within ns).forall₂_shows_outerServices⟩ }

/-- A service that is cached, delivered and assembled anew for a pod of its endpoints is known. -/
theorem known_after_endpoints :
    let web : Service := ⟨.basic "web" "1", ∅, none⟩
    let stores := Stores.empty.observe (.services (.apply web))
    let endpoints : Endpoints :=
      ⟨.basic "web" "2", [⟨[⟨some "Pod", some "web-0"⟩], []⟩]⟩
    let history : List Handling :=
      [⟨stores, .services (.created web)⟩, ⟨stores, .endpoints (.created endpoints)⟩]
    (∀ handling ∈ history, handling.stores.services.WellKept) ∧
      "web" ∈ ((after history).within "default").services := by
  intro web stores endpoints history
  have hstore : stores.services.WellKept := Store.wellKept_empty.observe .applied (by decide)
  have hkept : ∀ handling ∈ history, handling.stores.services.WellKept := by
    simpa [history] using hstore
  exact ⟨hkept, ((views_after history "default").known hkept "web").mpr ⟨web, rfl⟩⟩

end ServiceTopology

end ClusterWatch
