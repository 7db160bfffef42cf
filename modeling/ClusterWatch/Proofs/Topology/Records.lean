import Mathlib.Data.List.Induction
import ClusterWatch.Topology.Projection

/-!
# Rules under an ingress name

What becomes of the rules under an ingress name when those of one protocol are replaced, under one
name or for a transport protocol under all names at once.

* `TransportEntry.rulesFor` — the rules that transport entries make for an ingress name;
  `rulesFor_eq` reads them off the entries.
* `NamespaceTopology.rulesOf` — the rules that a topology keeps under an ingress name.
* `NamespaceTopology.Tidy` — every record stands under its own name and has rules; replacing
  rules keeps it so.
* `rulesOf_replaceRules`, `rulesOf_replaceTransport` — what replacing leaves under each name.
* `ServiceTopology.within_replaceTransport` — replacing in all namespaces is replacing
  in each of them.
-/

namespace ClusterWatch

namespace TransportEntry

/-! ### Rules from transport entries -/

/-- An entry that is read has the protocol that it is read for. -/
theorem protocol_of_parse {protocol : Protocol} {listen target : String} {entry : TransportEntry}
    (h : parse protocol listen target = .ok entry) : entry.protocol = protocol := by
  rw [parse] at h
  -- of all ways through, one ends with an entry
  repeat' split at h
  all_goals cases h
  rfl

/-- A result gives an entry exactly if it is that entry. -/
theorem toOption_eq_some_iff {result : Except TransportEntryError TransportEntry}
    {entry : TransportEntry} :
    result.toOption = some entry ↔ result = .ok entry := by
  cases result <;> simp [Except.toOption]

/-- The entries of a config are those that its keys and values make. -/
theorem mem_parseAll {protocol : Protocol} {data : TextMap} {entry : TransportEntry} :
    entry ∈ parseAll protocol data ↔
      ∃ listen target, data[listen]? = some target ∧
        parse protocol listen target = .ok entry := by
  simp only [parseAll, List.mem_filterMap, Prod.exists,
    Std.ExtTreeMap.mem_toList_iff_getElem?_eq_some, toOption_eq_some_iff]

/-- The entries of a config are of the protocol that it is read for. -/
theorem protocol_of_mem_parseAll {protocol : Protocol} {data : TextMap} {entry : TransportEntry}
    (h : entry ∈ parseAll protocol data) : entry.protocol = protocol := by
  obtain ⟨listen, target, -, hparse⟩ := mem_parseAll.mp h
  exact protocol_of_parse hparse

/-- The rules that entries make for an ingress name of a namespace. -/
def rulesFor (entries : List TransportEntry) (ns name : String) : List IngressRule :=
  (((toIngresses entries)[ns]?.getD ∅)[name]?.map IngressRecord.rules).getD []

/-- A further entry adds its rule to those of its service, in the records of its namespace. -/
theorem recordsWithin_concat (entries : List TransportEntry)
    (entry : TransportEntry) (ns : String) :
    recordsWithin (entries ++ [entry]) ns =
      if entry.ns = ns then
        (recordsWithin entries ns).insert entry.service
          ⟨entry.service,
            (((recordsWithin entries ns)[entry.service]?.map IngressRecord.rules).getD []) ++
              [entry.rule]⟩
      else recordsWithin entries ns := by
  rw [recordsWithin, List.foldl_append]
  rfl

/-- The record of a service has one rule for each entry that leads to the service. -/
theorem rules_recordsWithin (entries : List TransportEntry) (ns name : String) :
    ((recordsWithin entries ns)[name]?.map IngressRecord.rules).getD [] =
      (entries.filter fun entry => entry.ns = ns ∧ entry.service = name).map rule := by
  induction entries using List.reverseRecOn with
  | nil => simp [recordsWithin]
  | append_singleton entries entry ih =>
    rw [recordsWithin_concat, List.filter_append, List.map_append, ← ih]
    -- the entry adds its rule to one record of one namespace
    by_cases hns : entry.ns = ns
    · by_cases hservice : entry.service = name
      · simp [hns, hservice]
      · simp [hns, hservice, Std.ExtTreeMap.getElem?_insert]
    · simp [hns]

/-- Values set for the namespaces of entries are there for the namespaces that an entry has. -/
theorem getElem?_foldl_insert {β : Type} (value : String → β) (entries : List TransportEntry)
    (initial : Std.ExtTreeMap String β) (ns : String) :
    (entries.foldl (fun values entry => values.insert entry.ns (value entry.ns)) initial)[ns]? =
      if ∃ entry ∈ entries, entry.ns = ns then some (value ns) else initial[ns]? := by
  induction entries using List.reverseRecOn with
  | nil => simp
  | append_singleton entries entry ih =>
    rw [List.foldl_append, List.foldl_cons, List.foldl_nil, Std.ExtTreeMap.getElem?_insert, ih]
    by_cases hns : entry.ns = ns
    · simp [hns]
    · simp [hns, or_and_right, exists_or]

/-- The rules for an ingress name, one for each entry that leads to the service of that name. -/
theorem rulesFor_eq (entries : List TransportEntry) (ns name : String) :
    rulesFor entries ns name =
      (entries.filter fun entry => entry.ns = ns ∧ entry.service = name).map rule := by
  rw [rulesFor, toIngresses, getElem?_foldl_insert]
  split_ifs with hentry
  · exact rules_recordsWithin entries ns name
  -- no entry names the namespace, so that no rule is looked for there
  · have hother : ∀ entry ∈ entries, entry.ns ≠ ns := by simpa using hentry
    have hnone : (entries.filter fun entry => entry.ns = ns ∧ entry.service = name) = [] :=
      List.filter_eq_nil_iff.mpr fun entry hmem => by simp [hother entry hmem]
    rw [hnone]
    simp

/-- The rules that entries of one protocol make are of that protocol. -/
theorem protocol_of_mem_rulesFor {entries : List TransportEntry} {protocol : Protocol}
    (hentries : ∀ entry ∈ entries, entry.protocol = protocol) {ns name : String}
    {rule : IngressRule} (h : rule ∈ rulesFor entries ns name) : rule.protocol = protocol := by
  rw [rulesFor_eq] at h
  obtain ⟨entry, hentry, rfl⟩ := List.mem_map.mp h
  exact hentries entry (List.mem_filter.mp hentry).1

end TransportEntry

/-- When the rules of a protocol are replaced, those of the other protocols stay. -/
theorem IngressRule.filter_replaced (before : List IngressRule) {after : List IngressRule}
    {protocol : Protocol} (hafter : ∀ rule ∈ after, rule.protocol = protocol)
    (other : Protocol) :
    (before.filter (·.protocol ≠ protocol) ++ after).filter (·.protocol = other) =
      if protocol = other then after else before.filter (·.protocol = other) := by
  rw [List.filter_append, List.filter_filter]
  split_ifs with hother
  · -- of the protocol itself nothing is left of the earlier rules
    subst hother
    have hnone :
        (before.filter fun rule => rule.protocol = protocol && rule.protocol ≠ protocol) =
          [] := by
      simp
    have hall : after.filter (·.protocol = protocol) = after :=
      List.filter_eq_self.mpr fun rule hrule => by simp [hafter rule hrule]
    rw [hnone, hall, List.nil_append]
  · have hnone : after.filter (·.protocol = other) = [] :=
      List.filter_eq_nil_iff.mpr fun rule hrule => by simpa [hafter rule hrule] using hother
    rw [hnone, List.append_nil]
    refine List.filter_congr fun rule _ => ?_
    by_cases hrule : rule.protocol = other <;> simp [hrule, Ne.symm hother]

namespace NamespaceTopology

/-! ### Rules under a name -/

/-- The rules that are kept under an ingress name. -/
def rulesOf (topology : NamespaceTopology) (name : String) : List IngressRule :=
  (topology.ingresses[name]?.map IngressRecord.rules).getD []

/-- Every record stands under its own name, and has rules. -/
def Tidy (topology : NamespaceTopology) : Prop :=
  ∀ (name : String) (record : IngressRecord), topology.ingresses[name]? = some record →
    record.name = name ∧ record.rules ≠ []

variable {topology : NamespaceTopology}

/-- The rules of a service depend on the ingresses only. -/
theorem rulesOf_congr {other : NamespaceTopology}
    (h : topology.ingresses = other.ingresses) (name : String) :
    topology.rulesOf name = other.rulesOf name := by
  rw [rulesOf, rulesOf, h]

/-- Refreshing the ingress sets leaves the rules. -/
@[simp]
theorem rulesOf_refreshIngressSets (topology : NamespaceTopology) (name : String) :
    topology.refreshIngressSets.rulesOf name = topology.rulesOf name :=
  rfl

/-- Tidiness depends on the ingresses only. -/
theorem Tidy.congr {other : NamespaceTopology} (htidy : topology.Tidy)
    (h : other.ingresses = topology.ingresses) : other.Tidy := by
  intro name record hrecord
  rw [h] at hrecord
  exact htidy name record hrecord

/-- An empty topology is tidy. -/
theorem tidy_empty : empty.Tidy := by
  intro name record hrecord
  simp [empty] at hrecord

/-- In a tidy topology there is a record where there are rules. -/
theorem Tidy.exists_record_iff (h : topology.Tidy) {name : String} :
    (∃ record, topology.ingresses[name]? = some record) ↔ topology.rulesOf name ≠ [] := by
  rw [rulesOf]
  cases hrecord : topology.ingresses[name]? with
  | none => simp
  | some record => simpa using (h name record hrecord).2

/-- The rules of a protocol are replaced under the name, and nothing else changes. -/
theorem rulesOf_replaceRules (topology : NamespaceTopology) (name : String) (protocol : Protocol)
    (rules : List IngressRule) (other : String) :
    (topology.replaceRules name protocol rules).rulesOf other =
      if name = other then (topology.rulesOf name).filter (·.protocol ≠ protocol) ++ rules
      else topology.rulesOf other := by
  simp only [rulesOf, replaceRules]
  -- if no rules remain, the record is dropped, and then there are none to be read either
  split_ifs with hempty hname hname
  · subst hname
    rw [List.isEmpty_iff.mp hempty]
    simp
  · simp [Std.ExtTreeMap.getElem?_erase, hname]
  · subst hname
    simp
  · simp [Std.ExtTreeMap.getElem?_insert, hname]

/-- Replacing rules keeps a topology tidy: a record is dropped with its last rule. -/
theorem Tidy.replaceRules (h : topology.Tidy) (name : String) (protocol : Protocol)
    (rules : List IngressRule) : (topology.replaceRules name protocol rules).Tidy := by
  intro other record hrecord
  simp only [NamespaceTopology.replaceRules] at hrecord
  split_ifs at hrecord with hempty
  · -- no rules are left, and the record goes
    rw [Std.ExtTreeMap.getElem?_erase] at hrecord
    split at hrecord
    next => cases hrecord
    next => exact h other record hrecord
  · -- some are, and the record has the name that it is kept under
    rw [Std.ExtTreeMap.getElem?_insert] at hrecord
    split at hrecord
    next hname =>
      obtain rfl := Option.some.inj hrecord
      exact ⟨Std.LawfulEqCmp.compare_eq_iff_eq.mp hname,
        fun hnil => hempty (List.isEmpty_iff.mpr hnil)⟩
    next => exact h other record hrecord

/-! ### All rules of a transport protocol -/

/-- Under some names, the rules of a protocol are removed. -/
theorem rulesOf_foldl_remove (topology : NamespaceTopology) (protocol : Protocol)
    (names : List String) (other : String) :
    (names.foldl (fun topology name => topology.replaceRules name protocol []) topology).rulesOf
      other =
      if other ∈ names then (topology.rulesOf other).filter (·.protocol ≠ protocol)
      else topology.rulesOf other := by
  induction names generalizing topology with
  | nil => simp
  | cons name rest ih =>
    rw [List.foldl_cons, ih, rulesOf_replaceRules]
    -- a name may occur again, but what has been removed stays away
    by_cases hname : name = other
    · subst hname
      simp
    · simp [hname, Ne.symm hname]

/-- Where no record is given, the rules stay. -/
theorem rulesOf_foldl_replace_of_forall_ne (topology : NamespaceTopology) (protocol : Protocol)
    {records : List (String × IngressRecord)} {other : String}
    (h : ∀ record ∈ records, record.1 ≠ other) :
    (records.foldl (fun topology (name, record) => topology.replaceRules name protocol record.rules)
        topology).rulesOf other = topology.rulesOf other := by
  induction records generalizing topology with
  | nil => rfl
  | cons record rest ih =>
    rw [List.foldl_cons, ih _ fun later hlater => h later (List.mem_cons_of_mem _ hlater),
      rulesOf_replaceRules, if_neg (h record List.mem_cons_self)]

/-- Where a record is given, its rules replace those of the protocol. -/
theorem rulesOf_foldl_replace_of_mem (topology : NamespaceTopology) (protocol : Protocol)
    {records : List (String × IngressRecord)}
    (hdistinct : records.Pairwise fun one other => one.1 ≠ other.1) {name : String}
    {record : IngressRecord} (h : (name, record) ∈ records) :
    (records.foldl (fun topology (name, record) => topology.replaceRules name protocol record.rules)
        topology).rulesOf name =
      (topology.rulesOf name).filter (·.protocol ≠ protocol) ++ record.rules := by
  induction records generalizing topology with
  | nil => cases h
  | cons first rest ih =>
    obtain ⟨hne, hrest⟩ := List.pairwise_cons.mp hdistinct
    rw [List.foldl_cons]
    -- the record is the first one, which no later one replaces, or comes later
    rcases List.mem_cons.mp h with hfirst | hlater
    · subst hfirst
      rw [rulesOf_foldl_replace_of_forall_ne _ _ fun later hlater => (hne later hlater).symm,
        rulesOf_replaceRules, if_pos rfl]
    · rw [ih _ hrest hlater, rulesOf_replaceRules, if_neg (hne (name, record) hlater)]

/-- The stale names are those with rules of the protocol that no record is given for. -/
theorem Tidy.mem_staleNames (h : topology.Tidy) {protocol : Protocol}
    {records : Std.ExtTreeMap String IngressRecord} {name : String} :
    name ∈ topology.staleNames protocol records ↔
      (∃ rule ∈ topology.rulesOf name, rule.protocol = protocol) ∧ records[name]? = none := by
  simp only [staleNames, List.mem_map, List.mem_filter, Prod.exists,
    Std.ExtTreeMap.mem_toList_iff_getElem?_eq_some, Std.ExtTreeMap.contains_eq_isSome_getElem?,
    Bool.and_eq_true, List.any_eq_true, decide_eq_true_eq, Bool.not_eq_true',
    Option.isSome_eq_false_iff, Option.isNone_iff_eq_none]
  constructor
  · -- the record has the name that it is kept under
    rintro ⟨key, record, ⟨hrecord, hrules, hnone⟩, rfl⟩
    obtain rfl := (h key record hrecord).1
    rw [rulesOf, hrecord]
    exact ⟨hrules, hnone⟩
  · rintro ⟨⟨rule, hrule, hprotocol⟩, hnone⟩
    cases hrecord : topology.ingresses[name]? with
    | none => simp [rulesOf, hrecord] at hrule
    | some record =>
      obtain rfl := (h name record hrecord).1
      rw [rulesOf, hrecord] at hrule
      exact ⟨record.name, record, ⟨hrecord, ⟨rule, hrule, hprotocol⟩, hnone⟩, rfl⟩

/-- The rules of a transport protocol are replaced under every name by those of the record
given for it. -/
theorem Tidy.rulesOf_replaceTransport (h : topology.Tidy) (protocol : Protocol)
    (records : Std.ExtTreeMap String IngressRecord) (name : String) :
    (topology.replaceTransport protocol records).rulesOf name =
      (topology.rulesOf name).filter (·.protocol ≠ protocol) ++
        (records[name]?.map IngressRecord.rules).getD [] := by
  rw [NamespaceTopology.replaceTransport, rulesOf_refreshIngressSets]
  cases hrecord : records[name]? with
  | some record =>
    -- what is replaced has not been cleared
    rw [rulesOf_foldl_replace_of_mem _ _ (records.distinct_keys_toList.imp (by simp))
        (Std.ExtTreeMap.mem_toList_iff_getElem?_eq_some.mpr hrecord), rulesOf_foldl_remove,
      if_neg (by simp [h.mem_staleNames, hrecord])]
    rfl
  | none =>
    have hnone : ∀ record ∈ records.toList, record.1 ≠ name := by
      rintro ⟨key, record⟩ hmem rfl
      rw [Std.ExtTreeMap.mem_toList_iff_getElem?_eq_some, hrecord] at hmem
      cases hmem
    rw [rulesOf_foldl_replace_of_forall_ne _ _ hnone, rulesOf_foldl_remove, Option.map_none,
      Option.getD_none, List.append_nil]
    split_ifs with hstale
    · rfl
    · -- what is not stale has no rules of the protocol
      rw [h.mem_staleNames] at hstale
      refine (List.filter_eq_self.mpr fun rule hrule => ?_).symm
      simpa [hrecord] using fun hprotocol => hstale ⟨⟨rule, hrule, hprotocol⟩, hrecord⟩

/-- Replacing rules under one name after another keeps tidy records tidy and the
services as they are. -/
theorem tidy_and_services_foldl_replaceRules {β : Type} (topology : NamespaceTopology)
    (protocol : Protocol) (items : List β) (name : β → String)
    (rules : β → List IngressRule) :
    (topology.Tidy → (items.foldl
        (fun topology item => topology.replaceRules (name item) protocol (rules item))
          topology).Tidy) ∧
      (items.foldl (fun topology item => topology.replaceRules (name item) protocol (rules item))
        topology).services = topology.services := by
  induction items generalizing topology with
  | nil => exact ⟨id, rfl⟩
  | cons item rest ih =>
    obtain ⟨htidy, hservices⟩ := ih (topology.replaceRules (name item) protocol (rules item))
    exact ⟨fun h => htidy (h.replaceRules (name item) protocol (rules item)), hservices⟩

/-- Replacing a transport protocol keeps tidy records tidy and the services as they are, and then
determines the ingress sets of the services anew. -/
theorem exists_replaceTransport_eq (topology : NamespaceTopology) (protocol : Protocol)
    (records : Std.ExtTreeMap String IngressRecord) :
    ∃ replaced : NamespaceTopology, (topology.Tidy → replaced.Tidy) ∧
      replaced.services = topology.services ∧
      topology.replaceTransport protocol records = replaced.refreshIngressSets := by
  obtain ⟨hcleared, hclearedServices⟩ := topology.tidy_and_services_foldl_replaceRules protocol
    (topology.staleNames protocol records) id fun _ => []
  obtain ⟨hreplaced, hreplacedServices⟩ := tidy_and_services_foldl_replaceRules _ protocol
    records.toList (·.1) (·.2.rules)
  exact ⟨_, hreplaced ∘ hcleared, hreplacedServices.trans hclearedServices, rfl⟩

end NamespaceTopology

namespace ServiceTopology

/-! ### Namespaces -/

/-- A namespace that is modified has a topology from then on, and the others keep theirs. -/
theorem getElem?_modify (topology : ServiceTopology) (ns : String)
    (f : NamespaceTopology → NamespaceTopology) (other : String) :
    (topology.modify ns f).namespaces[other]? =
      if ns = other then some (f (topology.within ns)) else topology.namespaces[other]? := by
  simp only [modify, Std.ExtTreeMap.getElem?_insert, Std.LawfulEqCmp.compare_eq_iff_eq]

/-- A namespace that is modified has the topology that the change makes of it. -/
theorem within_modify (topology : ServiceTopology) (ns : String)
    (f : NamespaceTopology → NamespaceTopology) (other : String) :
    (topology.modify ns f).within other =
      if ns = other then f (topology.within ns) else topology.within other := by
  rw [within, getElem?_modify]
  split_ifs <;> rfl

/-- Namespaces that are looked at have a topology afterwards, which is what it was. -/
theorem getElem?_foldl_modify_id {β : Type} (topology : ServiceTopology)
    (namespaces : List (String × β)) (ns : String) :
    (namespaces.foldl (fun (topology : ServiceTopology) (ns, _) => topology.modify ns id)
        topology).namespaces[ns]? =
      if ns ∈ namespaces.map (·.1) then some (topology.within ns)
        else topology.namespaces[ns]? := by
  induction namespaces generalizing topology with
  | nil => simp
  | cons first rest ih =>
    -- to look at a namespace changes nothing in any
    have hwithin : (topology.modify first.1 id).within ns = topology.within ns := by
      rw [within_modify, id_eq]
      split_ifs with hns
      · rw [hns]
      · rfl
    rw [List.foldl_cons, ih, hwithin, getElem?_modify]
    by_cases hns : first.1 = ns
    · simp [hns]
    · simp only [if_neg hns, List.map_cons, List.mem_cons, Ne.symm hns, false_or]

/-- Where nothing is known, removing the rules of a protocol changes nothing. -/
theorem replaceTransport_empty (protocol : Protocol) :
    NamespaceTopology.empty.replaceTransport protocol ∅ = .empty :=
  rfl

/-- Replacing a transport protocol in all namespaces replaces it in each of them. -/
theorem within_replaceTransport (topology : ServiceTopology) (protocol : Protocol)
    (entries : List TransportEntry) (ns : String) :
    (topology.replaceTransport protocol entries).within ns =
      (topology.within ns).replaceTransport protocol
        ((TransportEntry.toIngresses (entries.filter (·.protocol = protocol)))[ns]?.getD ∅) := by
  rw [replaceTransport, within, Std.ExtTreeMap.getElem?_map, getElem?_foldl_modify_id]
  split_ifs with hns
  · rfl
  · -- no entry leads to the namespace, which may not even be there
    rw [Std.ExtTreeMap.map_fst_toList_eq_keys, Std.ExtTreeMap.mem_keys] at hns
    rw [Std.ExtTreeMap.getElem?_eq_none hns, within]
    cases topology.namespaces[ns]? with
    | some inner => rfl
    | none => exact (replaceTransport_empty protocol).symm

end ServiceTopology

end ClusterWatch
