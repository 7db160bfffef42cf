import ClusterWatch.Proofs.Cluster.WellKept
import ClusterWatch.Proofs.Config.Deliveries
import ClusterWatch.Proofs.Topology.Records

/-!
# Services joined with ingresses

With every known service, the topology keeps the names of the ingresses that have a path to it.
Every event that changes services or ingress records keeps these sets right.

* `IngressRecord.LeadsTo` — a path of a record leads to a service.
* `NamespaceTopology.Joined` — the invariant: tidy records, views under their own names, and
  right ingress sets.
* `ServiceTopology.onEndpoints_cases`, `onPod_cases`, `within_onIngress`, `within_onConfigMap` —
  what each kind of event does to a namespace.
* `ServiceTopology.joined_after` — the invariant holds of every namespace after any history.
* `ServiceTopology.knows_after` — the known services are those whose last delivery
  was not a deletion.
-/

namespace ClusterWatch

open Reconciler (Handling events)

/-- A path of the record leads to a service. -/
def IngressRecord.LeadsTo (record : IngressRecord) (service : String) : Prop :=
  ∃ rule ∈ record.rules, ∃ path ∈ rule.paths, path.serviceName = service

/-- A record is computed to target a service exactly if one of its rules leads there. -/
theorem IngressRecord.targets_iff {record : IngressRecord} {service : String} :
    record.targets service = true ↔ record.LeadsTo service := by
  simp [targets, IngressRule.targets, LeadsTo]

namespace NamespaceTopology

/-! ### The join of a namespace -/

/-- Every view stands under the name of its service, and in its namespace. -/
def Named (topology : NamespaceTopology) (ns : String) : Prop :=
  ∀ (name : String) (entry : ServiceEntry), topology.services[name]? = some entry →
    entry.view.name = name ∧ entry.view.ns = ns

/-- The topology of a namespace in which services and ingress records are joined. -/
structure Joined (topology : NamespaceTopology) (ns : String) : Prop where
  /-- Every record stands under its own name, and has rules. -/
  tidy : topology.Tidy
  /-- Every view stands under its own name. -/
  named : topology.Named ns
  /-- With every service stand the names of the ingresses that have a path to it. -/
  ingressSets : ∀ (name : String) (entry : ServiceEntry), topology.services[name]? =
    some entry → entry.ingresses = topology.ingressesTargeting name

variable {topology : NamespaceTopology} {ns : String}

/-- The ingresses that have a path to a service, by their records. -/
theorem Tidy.mem_ingressesTargeting (h : topology.Tidy) {service name : String} :
    name ∈ topology.ingressesTargeting service ↔
      ∃ record, topology.ingresses[name]? = some record ∧ record.LeadsTo service := by
  rw [ingressesTargeting, Std.ExtTreeSet.mem_ofList, List.contains_iff_mem]
  simp only [List.mem_map, List.mem_filter, Prod.exists,
    Std.ExtTreeMap.mem_toList_iff_getElem?_eq_some, IngressRecord.targets_iff]
  constructor
  · rintro ⟨key, record, ⟨hrecord, hleads⟩, rfl⟩
    -- a record stands under its own name
    obtain rfl := (h key record hrecord).1
    exact ⟨record, hrecord, hleads⟩
  · rintro ⟨record, hrecord, hleads⟩
    exact ⟨name, record, ⟨hrecord, hleads⟩, (h name record hrecord).1⟩

/-- The ingresses kept with a known service are those whose records have a path to it. -/
theorem Joined.mem_ingresses_iff (h : topology.Joined ns) {service : String} {entry : ServiceEntry}
    (hentry : topology.services[service]? = some entry) {name : String} :
    name ∈ entry.ingresses ↔
      ∃ record, topology.ingresses[name]? = some record ∧ record.LeadsTo service := by
  rw [h.ingressSets service entry hentry, h.tidy.mem_ingressesTargeting]

/-- Where nothing is known, there is nothing to be joined. -/
theorem joined_empty (ns : String) : empty.Joined ns where
  tidy := tidy_empty
  named name entry hentry := by simp [empty] at hentry
  ingressSets name entry hentry := by simp [empty] at hentry

/-- However the ingress sets were before, they are right when they are determined anew. -/
theorem joined_refreshIngressSets (htidy : topology.Tidy) (hnamed : topology.Named ns) :
    topology.refreshIngressSets.Joined ns where
  tidy := htidy.congr rfl
  named name entry hentry := by
    rw [refreshIngressSets, Std.ExtTreeMap.getElem?_map] at hentry
    obtain ⟨before, hbefore, rfl⟩ := Option.map_eq_some_iff.mp hentry
    exact hnamed name before hbefore
  -- each set is what the records say at this moment
  ingressSets name entry hentry := by
    rw [refreshIngressSets, Std.ExtTreeMap.getElem?_map] at hentry
    obtain ⟨before, -, rfl⟩ := Option.map_eq_some_iff.mp hentry
    rfl

/-- A service that is inserted comes with the ingresses that lead to it. -/
theorem Joined.insertService (h : topology.Joined ns) {view : ServiceView} (hns : view.ns = ns) :
    (topology.insertService view).Joined ns where
  tidy := h.tidy.congr rfl
  named name entry hentry := by
    rw [NamespaceTopology.insertService, Std.ExtTreeMap.getElem?_insert] at hentry
    split at hentry
    -- the entry is the one inserted, or one that was there
    next hname =>
      obtain rfl := Option.some.inj hentry
      exact ⟨Std.LawfulEqCmp.compare_eq_iff_eq.mp hname, hns⟩
    next => exact h.named name entry hentry
  ingressSets name entry hentry := by
    rw [NamespaceTopology.insertService, Std.ExtTreeMap.getElem?_insert] at hentry
    split at hentry
    next hname =>
      obtain rfl := Option.some.inj hentry
      rw [Std.LawfulEqCmp.compare_eq_iff_eq.mp hname]
      rfl
    next => exact h.ingressSets name entry hentry

/-- Removing a service leaves the others joined. -/
theorem Joined.removeService (h : topology.Joined ns) (own : String) :
    (topology.removeService own).Joined ns := by
  -- what is left was there before
  have hstays (name : String) (entry : ServiceEntry)
      (hentry : (topology.removeService own).services[name]? = some entry) :
      topology.services[name]? = some entry := by
    rw [NamespaceTopology.removeService, Std.ExtTreeMap.getElem?_erase] at hentry
    split at hentry
    next => cases hentry
    next => exact hentry
  exact ⟨h.tidy.congr rfl, fun name entry hentry => h.named name entry (hstays name entry hentry),
    fun name entry hentry => h.ingressSets name entry (hstays name entry hentry)⟩

/-- Changing views leaves the services joined, as long as the views keep their names. -/
theorem Joined.mapViews (h : topology.Joined ns) {f : ServiceView → ServiceView}
    (hf : ∀ view, (f view).name = view.name ∧ (f view).ns = view.ns) :
    (topology.mapViews f).Joined ns := by
  have hbefore (name : String) (entry : ServiceEntry)
      (hentry : (topology.mapViews f).services[name]? = some entry) :
      ∃ before, topology.services[name]? = some before ∧
        { before with view := f before.view } = entry := by
    rw [NamespaceTopology.mapViews, Std.ExtTreeMap.getElem?_map] at hentry
    exact Option.map_eq_some_iff.mp hentry
  -- every view comes from one that was joined
  refine ⟨h.tidy.congr rfl, fun name entry hentry => ?_, fun name entry hentry => ?_⟩
  · obtain ⟨before, hservice, rfl⟩ := hbefore name entry hentry
    rw [(hf before.view).1, (hf before.view).2]
    exact h.named name before hservice
  · obtain ⟨before, hservice, rfl⟩ := hbefore name entry hentry
    exact h.ingressSets name before hservice

/-- Replacing the rules of an ingress, and refreshing the services after that, keeps them joined. -/
theorem Joined.replaceRules (h : topology.Joined ns) (name : String) (protocol : Protocol)
    (rules : List IngressRule) :
    (topology.replaceRules name protocol rules).refreshIngressSets.Joined ns :=
  joined_refreshIngressSets (h.tidy.replaceRules name protocol rules) h.named

/-- So does replacing all records of a transport protocol. -/
theorem Joined.replaceTransport (h : topology.Joined ns) (protocol : Protocol)
    (records : Std.ExtTreeMap String IngressRecord) :
    (topology.replaceTransport protocol records).Joined ns := by
  obtain ⟨replaced, htidy, hservices, hrefresh⟩ :=
    topology.exists_replaceTransport_eq protocol records
  rw [hrefresh]
  refine joined_refreshIngressSets (htidy h.tidy) fun name entry hentry => h.named name entry ?_
  rw [← hservices]
  exact hentry

end NamespaceTopology

/-! ### What deliveries leave -/

namespace Delivery

/-- The rules that a delivery of an ingress object leaves, none if the object is gone. -/
def httpRules (delivery : Delivery Ingress) : List IngressRule :=
  (delivery.current?.map Ingress.httpRules).getD []

/-- The transport protocol whose config a delivery is about. -/
def transportProtocol? (delivery : Delivery ConfigMap) : Option Protocol :=
  if delivery.object.metadata.ns = some reservedNamespace then
    Protocol.ofConfigName? (ClusterObject.name delivery.object)
  else none

/-- The entries that a delivery of the config of a transport protocol leaves, none if the
config is gone. -/
def transportEntries (delivery : Delivery ConfigMap) (protocol : Protocol) : List TransportEntry :=
  (delivery.current?.map fun config => TransportEntry.parseAll protocol config.data).getD []

/-- The entries of a config map are of the protocol that it is read for. -/
theorem protocol_of_mem_transportEntries {delivery : Delivery ConfigMap} {protocol : Protocol}
    {entry : TransportEntry} (h : entry ∈ delivery.transportEntries protocol) :
    entry.protocol = protocol := by
  rw [transportEntries] at h
  cases hcurrent : delivery.current? with
  | none => simp [hcurrent] at h
  | some config =>
    rw [hcurrent] at h
    exact TransportEntry.protocol_of_mem_parseAll h

end Delivery

/-- The delivery that an event is, if it is one of the service of a name. -/
def ClusterEvent.serviceAt? (ns name : String) : ClusterEvent → Option (Delivery Service)
  | .services delivery =>
    if ClusterObject.ns delivery.object = ns ∧
      ClusterObject.name delivery.object = name then some delivery
    else none
  | _ => none

/-- The last delivery of the service of a name. -/
def lastService? (events : List ClusterEvent) (ns name : String) : Option (Delivery Service) :=
  events.findSomeRev? (·.serviceAt? ns name)

namespace ServiceTopology

variable {topology : ServiceTopology}

/-! ### What events do to a namespace -/

/-- Endpoints change nothing, or a known service of their name is assembled anew from the cache. -/
theorem onEndpoints_cases (topology : ServiceTopology) (stores : Stores)
    (delivery : Delivery Endpoints) :
    topology.onEndpoints stores delivery = topology ∨
      ∃ ns name entry service, (topology.within ns).services[name]? = some entry ∧
        stores.services.get? ns name = some service ∧
        topology.onEndpoints stores delivery = topology.insertService stores service := by
  cases hcurrent : delivery.current? with
  | none =>
    rw [onEndpoints, hcurrent]
    exact Or.inl rfl
  | some endpoints =>
    simp only [onEndpoints, hcurrent]
    -- the endpoints have a service of their name, with a pod that its view does not list
    split
    next => exact Or.inl rfl
    next entry hentry =>
      split
      · split
        next service hservice => exact Or.inr ⟨_, _, entry, service, hentry, hservice, rfl⟩
        next => exact Or.inl rfl
      · exact Or.inl rfl

/-- A pod changes nothing, or the views of its namespace, which keep their names. -/
theorem onPod_cases (topology : ServiceTopology) (delivery : Delivery Pod) :
    topology.onPod delivery = topology ∨
      ∃ ns f, (∀ view : ServiceView, (f view).name = view.name ∧ (f view).ns = view.ns) ∧
        topology.onPod delivery = topology.modify ns (·.mapViews f) := by
  cases delivery with
  | created => exact Or.inl rfl
  | updated old new =>
    rw [onPod]
    -- an update that leaves the state changes nothing
    split
    · exact Or.inl rfl
    · exact Or.inr ⟨_, (·.setPodState (ClusterObject.name new) new.state),
        fun _ => ⟨rfl, rfl⟩, rfl⟩
  | deleted pod =>
    exact Or.inr ⟨_, (·.removePod (ClusterObject.name pod)), fun _ => ⟨rfl, rfl⟩, rfl⟩

/-- A delivery of an ingress replaces its rules in its own namespace. -/
theorem within_onIngress (delivery : Delivery Ingress) (ns : String) :
    (topology.onIngress delivery).within ns =
      if ClusterObject.ns delivery.object = ns then
        ((topology.within ns).replaceRules (ClusterObject.name delivery.object) .http
          delivery.httpRules).refreshIngressSets
      else topology.within ns := by
  rw [onIngress, within_modify]
  split_ifs with hns
  · rw [hns]
    rfl
  · rfl

/-- A delivery of a config map replaces the records of the protocol that it stands
for, if it does. -/
theorem onConfigMap_eq (delivery : Delivery ConfigMap) :
    topology.onConfigMap delivery =
      match delivery.transportProtocol? with
      | some protocol => topology.replaceTransport protocol (delivery.transportEntries protocol)
      | none => topology := by
  rw [onConfigMap, Delivery.transportProtocol?]
  split_ifs <;> rfl

/-- The config of a transport protocol replaces the rules of the protocol in every namespace, and no
other config map changes anything. -/
theorem within_onConfigMap (delivery : Delivery ConfigMap) (ns : String) :
    (topology.onConfigMap delivery).within ns =
      match delivery.transportProtocol? with
      | some protocol => (topology.within ns).replaceTransport protocol
          ((TransportEntry.toIngresses (delivery.transportEntries protocol))[ns]?.getD ∅)
      | none => topology.within ns := by
  rw [onConfigMap_eq]
  cases delivery.transportProtocol? with
  | none => rfl
  | some protocol =>
    -- all entries of the config are for its protocol
    have hentries : (delivery.transportEntries protocol).filter (·.protocol = protocol) =
        delivery.transportEntries protocol :=
      List.filter_eq_self.mpr fun entry hentry => by
        simpa using Delivery.protocol_of_mem_transportEntries hentry
    simp only [within_replaceTransport, hentries]

/-! ### The join after a history -/

/-- A change to one namespace keeps all of them joined if it keeps that one joined. -/
theorem joined_modify (h : ∀ ns, (topology.within ns).Joined ns) {ns : String}
    {f : NamespaceTopology → NamespaceTopology} (hf : (f (topology.within ns)).Joined ns)
    (other : String) : ((topology.modify ns f).within other).Joined other := by
  rw [within_modify]
  split_ifs with hns
  · rw [← hns]
    exact hf
  · exact h other

/-- A service assembled from the cache keeps all namespaces joined. -/
theorem joined_insertService (h : ∀ ns, (topology.within ns).Joined ns) (stores : Stores)
    (service : Service) (ns : String) :
    ((topology.insertService stores service).within ns).Joined ns :=
  joined_modify h ((h (ServiceView.assemble stores service).ns).insertService rfl) ns

/-- Every event keeps services and ingress records joined. -/
theorem joined_handle (h : ∀ ns, (topology.within ns).Joined ns) (stores : Stores)
    (event : ClusterEvent) (ns : String) :
    ((topology.handle stores event).within ns).Joined ns := by
  cases event with
  | services delivery =>
    rw [handle, onService]
    split
    · exact joined_insertService h stores _ ns
    · exact joined_modify h ((h _).removeService _) ns
  | endpoints delivery =>
    rw [handle]
    -- endpoints assemble a service or change nothing
    obtain hsame | ⟨_, _, _, service, -, -, hinsert⟩ :=
      onEndpoints_cases topology stores delivery
    · rw [hsame]
      exact h ns
    · rw [hinsert]
      exact joined_insertService h stores service ns
  | pods delivery =>
    rw [handle]
    obtain hsame | ⟨own, f, hf, hmap⟩ := onPod_cases topology delivery
    · rw [hsame]
      exact h ns
    · rw [hmap]
      exact joined_modify h ((h own).mapViews hf) ns
  | ingresses delivery => exact joined_modify h ((h _).replaceRules _ .http _) ns
  | configMaps delivery =>
    rw [handle, within_onConfigMap]
    cases delivery.transportProtocol? with
    | some protocol => exact (h ns).replaceTransport protocol _
    | none => exact h ns
  | _ => exact h ns

/-- The topology after a history that begins with nothing known. -/
def after (history : List Handling) : ServiceTopology :=
  history.foldl (fun topology handling => topology.handle handling.stores handling.event) empty

theorem after_concat (history : List Handling) (next : Handling) :
    after (history ++ [next]) = (after history).handle next.stores next.event := by
  simp [after]

/-- After any history, services and ingress records are joined. -/
theorem joined_after (history : List Handling) (ns : String) :
    ((after history).within ns).Joined ns := by
  induction history using List.reverseRecOn generalizing ns with
  | nil => exact NamespaceTopology.joined_empty ns
  | append_singleton history next ih =>
    rw [after_concat]
    exact joined_handle ih next.stores next.event ns

/-! ### Known services -/

/-- A service is known in a namespace. -/
def Knows (topology : ServiceTopology) (ns name : String) : Prop :=
  name ∈ (topology.within ns).services

/-- A service that is inserted is known, besides those known before. -/
theorem knows_insertService (stores : Stores) (service : Service) (ns name : String) :
    (topology.insertService stores service).Knows ns name ↔
      (ClusterObject.ns service = ns ∧ ClusterObject.name service = name) ∨
        topology.Knows ns name := by
  rw [Knows, Knows, insertService, within_modify]
  have hview : (ServiceView.assemble stores service).ns = ClusterObject.ns service ∧
      (ServiceView.assemble stores service).name = ClusterObject.name service := ⟨rfl, rfl⟩
  rw [hview.1]
  by_cases hns : ClusterObject.ns service = ns
  · simp [hns, NamespaceTopology.insertService, hview.2]
  · simp [hns]

/-- A service that is removed is not known any more. -/
theorem knows_removeService (own gone ns name : String) :
    (topology.modify own (·.removeService gone)).Knows ns name ↔
      ¬(own = ns ∧ gone = name) ∧ topology.Knows ns name := by
  rw [Knows, Knows, within_modify]
  by_cases hns : own = ns
  · simp [hns, NamespaceTopology.removeService]
  · simp [hns]

/-- A delivery of a service decides whether this one is known. -/
theorem knows_onService (stores : Stores) (delivery : Delivery Service) (ns name : String) :
    (topology.onService stores delivery).Knows ns name ↔
      if ClusterObject.ns delivery.object = ns ∧ ClusterObject.name delivery.object = name then
        ∃ service, delivery.current? = some service
      else topology.Knows ns name := by
  rw [onService]
  cases hcurrent : delivery.current? with
  | some service =>
    rw [Delivery.object_of_current? hcurrent]
    refine (knows_insertService stores service ns name).trans ?_
    split_ifs with hat <;> simp [hat]
  | none =>
    refine (knows_removeService _ _ ns name).trans ?_
    split_ifs with hat <;> simp [hat]

/-- From a well-kept store, endpoints can only bring a service that is known already. -/
theorem knows_onEndpoints {stores : Stores} (hkept : stores.services.WellKept)
    (delivery : Delivery Endpoints) (ns name : String) :
    (topology.onEndpoints stores delivery).Knows ns name ↔ topology.Knows ns name := by
  obtain hsame | ⟨own, named, entry, service, hentry, hservice, hinsert⟩ :=
    onEndpoints_cases topology stores delivery
  · rw [hsame]
  · -- what the store holds under the name is the service of that name, and no other one
    obtain ⟨-, rfl, rfl⟩ := Store.isNamespaced_of_get? hkept hservice
    rw [hinsert, knows_insertService, or_iff_right_iff_imp]
    rintro ⟨rfl, rfl⟩
    exact Std.ExtTreeMap.mem_iff_isSome_getElem?.mpr (Option.isSome_of_eq_some hentry)

/-- Deliveries of pods neither add services nor remove them. -/
theorem knows_onPod (delivery : Delivery Pod) (ns name : String) :
    (topology.onPod delivery).Knows ns name ↔ topology.Knows ns name := by
  obtain hsame | ⟨own, f, -, hmap⟩ := onPod_cases topology delivery
  · rw [hsame]
  · rw [hmap, Knows, Knows, within_modify]
    split_ifs with hns
    · rw [hns, NamespaceTopology.mapViews, Std.ExtTreeMap.mem_map]
    · rfl

/-- Neither do deliveries of ingresses. -/
theorem knows_onIngress (delivery : Delivery Ingress) (ns name : String) :
    (topology.onIngress delivery).Knows ns name ↔ topology.Knows ns name := by
  rw [Knows, Knows, within_onIngress]
  split_ifs
  · exact Std.ExtTreeMap.mem_map
  · rfl

/-- Neither do deliveries of config maps. -/
theorem knows_onConfigMap (delivery : Delivery ConfigMap) (ns name : String) :
    (topology.onConfigMap delivery).Knows ns name ↔ topology.Knows ns name := by
  rw [Knows, Knows, within_onConfigMap]
  cases delivery.transportProtocol? with
  | none => rfl
  | some protocol =>
    obtain ⟨replaced, -, hservices, hrefresh⟩ :=
      (topology.within ns).exists_replaceTransport_eq protocol
      ((TransportEntry.toIngresses (delivery.transportEntries protocol))[ns]?.getD ∅)
    simp only [hrefresh, ← hservices]
    exact Std.ExtTreeMap.mem_map

/-- An event on a service decides whether the service is known, and no other event does. -/
theorem knows_handle {stores : Stores} (hkept : stores.services.WellKept) (event : ClusterEvent)
    (ns name : String) :
    (topology.handle stores event).Knows ns name ↔
      match event.serviceAt? ns name with
      | some delivery => ∃ service, delivery.current? = some service
      | none => topology.Knows ns name := by
  cases event with
  | services delivery =>
    rw [handle, knows_onService, ClusterEvent.serviceAt?]
    split_ifs <;> rfl
  | endpoints delivery => exact knows_onEndpoints hkept delivery ns name
  | pods delivery => exact knows_onPod delivery ns name
  | ingresses delivery => exact knows_onIngress delivery ns name
  | configMaps delivery => exact knows_onConfigMap delivery ns name
  | _ => rfl

/-- With well-kept stores, the known services are those whose last delivery was not a deletion. -/
theorem knows_after {history : List Handling}
    (hkept : ∀ handling ∈ history, handling.stores.services.WellKept) (ns name : String) :
    (after history).Knows ns name ↔
      ∃ service, (lastService? (events history) ns name).bind Delivery.current? =
        some service := by
  induction history using List.reverseRecOn with
  | nil => simp [after, empty, Knows, within, NamespaceTopology.empty, lastService?, events]
  | append_singleton history next ih =>
    have hearlier := ih fun handling hhandling => hkept handling (List.mem_append_left _ hhandling)
    have hnext := hkept next (List.mem_append_right _ List.mem_cons_self)
    -- the last event decides if it is about the service
    rw [after_concat, knows_handle hnext, Reconciler.events_concat, lastService?,
      findSomeRev?_concat]
    cases next.event.serviceAt? ns name with
    | some delivery => rfl
    | none => exact hearlier

end ServiceTopology

end ClusterWatch
