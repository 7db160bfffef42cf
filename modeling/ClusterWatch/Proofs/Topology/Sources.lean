import ClusterWatch.Proofs.Topology.Joins

/-!
# The sources of ingress records

An ingress record is made of three sources: the ingress object of its name, and the configs of the
two transport protocols. After any history of events, the rules of each protocol are those that the
last delivery of their source gives, whatever the other sources have brought in between.

* `lastIngress?`, `lastTransportConfig?` — the last deliveries of the sources, and `sourceRules`
  the rules that they give for an ingress name.
* `ClusterEvent.rules?` — the rules that an event brings, if it comes from a source.
* `ServiceTopology.filter_rulesOf_handle` — an event replaces the rules that it
  brings and no others.
* `ServiceTopology.sourced_after` — what the record of each name is after any history.
-/

namespace ClusterWatch

open Reconciler (Handling events)

/-! ### Sources -/

/-- The name of the config that holds the entries of a transport protocol. -/
def Protocol.configName? : Protocol → Option String
  | .http => none
  | .tcp => some "tcp-services"
  | .udp => some "udp-services"

/-- A config has the name of a protocol exactly if the protocol is configured under that name. -/
theorem Protocol.ofConfigName?_eq_some_iff {name : String} {protocol : Protocol} :
    ofConfigName? name = some protocol ↔ protocol.configName? = some name := by
  unfold ofConfigName? configName?
  cases protocol <;> grind

/-- A delivery configures a protocol exactly if its config map has the name for it, in the
reserved namespace. -/
theorem Delivery.transportProtocol?_eq_some_iff {delivery : Delivery ConfigMap}
    {protocol : Protocol} :
    delivery.transportProtocol? = some protocol ↔
      delivery.object.metadata.ns = some reservedNamespace ∧
        protocol.configName? = some (ClusterObject.name delivery.object) := by
  rw [transportProtocol?, Option.ite_none_right_eq_some, Protocol.ofConfigName?_eq_some_iff]

/-- The rules of an ingress are all for HTTP. -/
theorem Delivery.protocol_of_mem_httpRules {delivery : Delivery Ingress} {rule : IngressRule}
    (h : rule ∈ delivery.httpRules) : rule.protocol = .http := by
  rw [httpRules] at h
  cases hcurrent : delivery.current? with
  | none => simp [hcurrent] at h
  | some ingress =>
    rw [hcurrent, Option.map_some, Option.getD_some, Ingress.httpRules] at h
    obtain ⟨host, -, rfl⟩ := List.mem_map.mp h
    rfl

namespace ClusterEvent

/-- The delivery that an event is, if it is one of the ingress object of a name. -/
def ingressAt? (ns name : String) : ClusterEvent → Option (Delivery Ingress)
  | .ingresses delivery =>
    if ClusterObject.ns delivery.object = ns ∧
      ClusterObject.name delivery.object = name then some delivery
    else none
  | _ => none

/-- The delivery that an event is, if it is one of the config of a transport protocol. -/
def transportConfig? (protocol : Protocol) : ClusterEvent → Option (Delivery ConfigMap)
  | .configMaps delivery =>
    if delivery.object.metadata.ns = some reservedNamespace ∧
        protocol.configName? = some (ClusterObject.name delivery.object) then some delivery
    else none
  | _ => none

/-- The rules of a protocol that an event brings for an ingress name, if it comes from
their source. -/
def rules? (event : ClusterEvent) (ns name : String) (protocol : Protocol) :
    Option (List IngressRule) :=
  match protocol with
  | .http => (event.ingressAt? ns name).map Delivery.httpRules
  | protocol => (event.transportConfig? protocol).map fun delivery =>
      TransportEntry.rulesFor (delivery.transportEntries protocol) ns name

end ClusterEvent

/-- The last delivery of the ingress object of a name. -/
def lastIngress? (events : List ClusterEvent) (ns name : String) : Option (Delivery Ingress) :=
  events.findSomeRev? (·.ingressAt? ns name)

/-- The last delivery of the config of a transport protocol. -/
def lastTransportConfig? (events : List ClusterEvent) (protocol : Protocol) :
    Option (Delivery ConfigMap) :=
  events.findSomeRev? (·.transportConfig? protocol)

/-- The rules of a protocol that the last delivery of their source gives for an ingress name; none
if the last delivery was a deletion, or there was none. -/
def sourceRules (events : List ClusterEvent) (ns name : String) (protocol : Protocol) :
    List IngressRule :=
  match protocol with
  | .http => ((lastIngress? events ns name).map Delivery.httpRules).getD []
  | protocol =>
    ((lastTransportConfig? events protocol).map fun delivery =>
      TransportEntry.rulesFor (delivery.transportEntries protocol) ns name).getD []

/-- Another event replaces the rules that it brings. -/
theorem sourceRules_concat (events : List ClusterEvent) (event : ClusterEvent) (ns name : String)
    (protocol : Protocol) :
    sourceRules (events ++ [event]) ns name protocol =
      (event.rules? ns name protocol).getD (sourceRules events ns name protocol) := by
  -- each protocol has a source of its own, of which the last delivery counts
  cases protocol with
  | http =>
    rw [sourceRules, ClusterEvent.rules?, lastIngress?, findSomeRev?_concat]
    cases event.ingressAt? ns name <;> rfl
  | tcp =>
    simp only [sourceRules, ClusterEvent.rules?, lastTransportConfig?, findSomeRev?_concat]
    cases event.transportConfig? .tcp <;> rfl
  | udp =>
    simp only [sourceRules, ClusterEvent.rules?, lastTransportConfig?, findSomeRev?_concat]
    cases event.transportConfig? .udp <;> rfl

namespace ClusterEvent

/-- An ingress has rules for HTTP, under its own name. -/
theorem rules?_ingresses (delivery : Delivery Ingress) (ns name : String) (protocol : Protocol) :
    (ingresses delivery).rules? ns name protocol =
      if .http = protocol ∧ ClusterObject.ns delivery.object = ns ∧
          ClusterObject.name delivery.object = name then some delivery.httpRules
      else none := by
  cases protocol with
  | http =>
    simp only [rules?, ingressAt?, true_and]
    split_ifs <;> rfl
  | tcp => rfl
  | udp => rfl

/-- A config map has rules for the protocol that it configures, under every name. -/
theorem rules?_configMaps (delivery : Delivery ConfigMap) (ns name : String) (protocol : Protocol) :
    (configMaps delivery).rules? ns name protocol =
      if delivery.transportProtocol? = some protocol then
        some (TransportEntry.rulesFor (delivery.transportEntries protocol) ns name)
      else none := by
  simp only [Delivery.transportProtocol?_eq_some_iff]
  cases protocol with
  | http => simp [rules?, ingressAt?, Protocol.configName?]
  | tcp =>
    simp only [rules?, transportConfig?]
    split_ifs <;> rfl
  | udp =>
    simp only [rules?, transportConfig?]
    split_ifs <;> rfl

end ClusterEvent

namespace ServiceTopology

variable {topology : ServiceTopology}

/-! ### One event -/

/-- A change that leaves the ingress records in a namespace leaves them everywhere. -/
theorem ingresses_modify (topology : ServiceTopology) (ns : String)
    (f : NamespaceTopology → NamespaceTopology)
    (hf : ∀ inner, (f inner).ingresses = inner.ingresses) (other : String) :
    ((topology.modify ns f).within other).ingresses = (topology.within other).ingresses := by
  rw [within_modify]
  split_ifs with hns
  · rw [hf, hns]
  · rfl

/-- To insert a service leaves the ingress records. -/
theorem ingresses_insertService (stores : Stores) (service : Service) (ns : String) :
    ((topology.insertService stores service).within ns).ingresses =
      (topology.within ns).ingresses :=
  ingresses_modify topology _ (·.insertService _) (fun _ => rfl) ns

/-- Deliveries of services, endpoints and pods leave all ingress records alone. -/
theorem ingresses_handle (stores : Stores) {event : ClusterEvent}
    (hingress : ∀ delivery, event ≠ .ingresses delivery)
    (hconfig : ∀ delivery, event ≠ .configMaps delivery) (ns : String) :
    ((topology.handle stores event).within ns).ingresses = (topology.within ns).ingresses := by
  cases event with
  -- services, endpoints and pods change the views of services, and nothing else
  | services delivery =>
    rw [handle, onService]
    split
    · exact ingresses_insertService stores _ ns
    · exact ingresses_modify topology _ (·.removeService _) (fun _ => rfl) ns
  | endpoints delivery =>
    rw [handle]
    obtain hsame | ⟨_, _, _, service, -, -, hinsert⟩ :=
      onEndpoints_cases topology stores delivery
    · rw [hsame]
    · rw [hinsert]
      exact ingresses_insertService stores service ns
  | pods delivery =>
    rw [handle]
    obtain hsame | ⟨own, f, -, hmap⟩ := onPod_cases topology delivery
    · rw [hsame]
    · rw [hmap]
      exact ingresses_modify topology own (·.mapViews f) (fun _ => rfl) ns
  | ingresses delivery => exact absurd rfl (hingress delivery)
  | configMaps delivery => exact absurd rfl (hconfig delivery)
  | _ => rfl

/-- An ingress object replaces the rules for HTTP under its name. -/
theorem filter_rulesOf_onIngress (delivery : Delivery Ingress) (ns name : String)
    (protocol : Protocol) :
    (((topology.onIngress delivery).within ns).rulesOf name).filter (·.protocol = protocol) =
      if .http = protocol ∧ ClusterObject.ns delivery.object = ns ∧
          ClusterObject.name delivery.object = name then delivery.httpRules
      else ((topology.within ns).rulesOf name).filter (·.protocol = protocol) := by
  rw [within_onIngress]
  by_cases hns : ClusterObject.ns delivery.object = ns
  · rw [if_pos hns, NamespaceTopology.rulesOf_refreshIngressSets,
      NamespaceTopology.rulesOf_replaceRules]
    -- in the namespace, only the rules under its own name are replaced
    by_cases hname : ClusterObject.name delivery.object = name
    · rw [if_pos hname, hname,
        IngressRule.filter_replaced _ fun rule hrule => Delivery.protocol_of_mem_httpRules hrule]
      simp only [hns, and_true]
    · simp [hname]
  · simp [hns]

/-- The config of a transport protocol replaces the rules of the protocol under every name. -/
theorem filter_rulesOf_onConfigMap {ns : String} (htidy : (topology.within ns).Tidy)
    (delivery : Delivery ConfigMap) (name : String) (protocol : Protocol) :
    (((topology.onConfigMap delivery).within ns).rulesOf name).filter (·.protocol = protocol) =
      if delivery.transportProtocol? = some protocol then
        TransportEntry.rulesFor (delivery.transportEntries protocol) ns name
      else ((topology.within ns).rulesOf name).filter (·.protocol = protocol) := by
  rw [within_onConfigMap]
  cases delivery.transportProtocol? with
  | none => rfl
  | some own =>
    have hafter : ∀ rule ∈ TransportEntry.rulesFor (delivery.transportEntries own) ns name,
        rule.protocol = own := fun rule hrule => TransportEntry.protocol_of_mem_rulesFor
      (fun entry hentry => Delivery.protocol_of_mem_transportEntries hentry) hrule
    -- the rules of the own protocol are replaced, and those of the others stay
    simp only [htidy.rulesOf_replaceTransport]
    refine (IngressRule.filter_replaced _ hafter protocol).trans ?_
    by_cases hprotocol : own = protocol
    · rw [hprotocol, if_pos rfl, if_pos rfl]
    · rw [if_neg hprotocol, if_neg (hprotocol ∘ Option.some.inj)]

/-- An event replaces the rules that it brings under every name, and no others. -/
theorem filter_rulesOf_handle {ns : String} (htidy : (topology.within ns).Tidy) (stores : Stores)
    (event : ClusterEvent) (name : String) (protocol : Protocol) :
    (((topology.handle stores event).within ns).rulesOf name).filter (·.protocol = protocol) =
      (event.rules? ns name protocol).getD
        (((topology.within ns).rulesOf name).filter (·.protocol = protocol)) := by
  cases event with
  | ingresses delivery =>
    rw [handle, filter_rulesOf_onIngress, ClusterEvent.rules?_ingresses]
    split_ifs <;> rfl
  | configMaps delivery =>
    rw [handle, filter_rulesOf_onConfigMap htidy, ClusterEvent.rules?_configMaps]
    split_ifs <;> rfl
  | _ =>
    -- other events leave the records
    rw [NamespaceTopology.rulesOf_congr (ingresses_handle stores (by simp) (by simp) ns)]
    cases protocol <;> rfl

/-! ### Any history -/

/-- After any history, the rules of each protocol under a name are those of their source. -/
theorem filter_rulesOf_after (history : List Handling) (ns name : String) (protocol : Protocol) :
    (((after history).within ns).rulesOf name).filter (·.protocol = protocol) =
      sourceRules (events history) ns name protocol := by
  induction history using List.reverseRecOn with
  | nil => cases protocol <;> rfl
  | append_singleton history next ih =>
    rw [after_concat, filter_rulesOf_handle (joined_after history ns).tidy, ih,
      Reconciler.events_concat, sourceRules_concat]

/-- The ingress record of a name as its sources make it. -/
structure Sourced (history : List Handling) (ns name : String) : Prop where
  /-- The rules of each protocol are those that the last delivery of their source gives. -/
  rules : ∀ protocol, (((after history).within ns).rulesOf name).filter (·.protocol = protocol) =
    sourceRules (events history) ns name protocol
  /-- There is a record exactly if one of the sources gives rules. -/
  exists_iff : (∃ record, ((after history).within ns).ingresses[name]? = some record) ↔
    ∃ protocol, sourceRules (events history) ns name protocol ≠ []
  /-- The record stands under its own name. -/
  name_eq : ∀ record, ((after history).within ns).ingresses[name]? = some record →
    record.name = name

/-- After any history of events, the ingress records of every namespace are what their
sources make them. -/
theorem sourced_after (history : List Handling) (ns name : String) : Sourced history ns name where
  rules := filter_rulesOf_after history ns name
  exists_iff := by
    rw [(joined_after history ns).tidy.exists_record_iff]
    simp only [← filter_rulesOf_after history ns name]
    constructor
    · intro hrules
      -- a rule is for some protocol
      obtain ⟨rule, hrule⟩ := List.exists_mem_of_ne_nil _ hrules
      exact ⟨rule.protocol, List.ne_nil_of_mem (List.mem_filter.mpr ⟨hrule, by simp⟩)⟩
    · rintro ⟨protocol, hfiltered⟩ hnone
      rw [hnone] at hfiltered
      exact hfiltered rfl
  name_eq record hrecord := ((joined_after history ns).tidy name record hrecord).1

end ServiceTopology

end ClusterWatch
