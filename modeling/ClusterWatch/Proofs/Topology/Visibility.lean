import ClusterWatch.Proofs.Topology.Views

/-!
# Visibility of services

A service that no ingress leads to is visible among the inner services, and only there. A service
that an ingress leads to is no inner service; outside it is visible under the path that leads to it,
unless a later path of the same rule has the same text and leads to another known service, which
then stands in its place.

* `NamespaceTopology.IsTarget`, `NamespaceTopology.IsLastTarget` — a path leads to a service, and
  one that no later path of its rule replaces.
* `NamespaceTopology.ListedOutside` — a view is shown among the outer services.
* `Joined.listedOutside_iff` — the views shown there are those of the services that
  are last targets.
* `ServiceTopology.visibleOnce_iff` — after any history, a known service is visible in exactly one
  view unless every path to it is replaced.
* `ServiceTopology.hidden_by_equal_path` — of two services behind paths of one text, the first is
  visible nowhere.
-/

namespace ClusterWatch

open Reconciler (Handling)

namespace NamespaceTopology

/-- A path of an ingress record leads to a service. -/
def IsTarget (topology : NamespaceTopology) (service : String) : Prop :=
  ∃ (name : String) (record : IngressRecord), topology.ingresses[name]? = some record ∧
    record.LeadsTo service

/-- A path of a rule leads to a service, and no later path of the rule that has the same text leads
to a known service. -/
def IsLastTargetOf (topology : NamespaceTopology) (service : String) (rule : IngressRule) : Prop :=
  ∃ before path after, rule.paths = before ++ path :: after ∧ path.serviceName = service ∧
    ∀ later ∈ after, later.path = path.path → later.serviceName ∉ topology.services

/-- In some rule of an ingress record, a service is led to by a path that no later one replaces. -/
def IsLastTarget (topology : NamespaceTopology) (service : String) : Prop :=
  ∃ (name : String) (record : IngressRecord), topology.ingresses[name]? = some record ∧
    ∃ rule ∈ record.rules, topology.IsLastTargetOf service rule

/-- A view is shown under a path of an outer service view. -/
def ListedOutside (topology : NamespaceTopology) (view : ServiceView) : Prop :=
  ∃ shown ∈ topology.outerServices, ∃ text : String, shown.services[text]? = some view

/-- A service with that view is visible in exactly one of the two views of its namespace, according
to whether a path leads to it. -/
structure VisibleOnce (topology : NamespaceTopology) (service : String) (view : ServiceView) :
    Prop where
  /-- A service to which no path leads is listed among the inner services, and no view of its
  name outside. -/
  inner : ¬ topology.IsTarget service →
    view ∈ topology.innerServices ∧ ∀ other, topology.ListedOutside other →
      other.name ≠ service
  /-- A service to which a path leads is listed outside, and no view of its name among the
  inner services. -/
  outer : topology.IsTarget service →
    (∀ other ∈ topology.innerServices, other.name ≠ service) ∧ topology.ListedOutside view

variable {topology : NamespaceTopology} {ns : String}

theorem IsLastTarget.isTarget {service : String} (h : topology.IsLastTarget service) :
    topology.IsTarget service := by
  obtain ⟨name, record, hrecord, rule, hrule, before, path, after, hpaths, hservice, -⟩ := h
  have hpath : path ∈ rule.paths := by
    rw [hpaths]
    exact List.mem_append_right _ List.mem_cons_self
  exact ⟨name, record, hrecord, rule, hrule, path, hpath, hservice⟩

/-- The views under the paths of a rule are those of the known services that no later
path replaces. -/
theorem exists_getElem?_servicesOf_iff (topology : NamespaceTopology) (rule : IngressRule)
    (view : ServiceView) :
    (∃ text : String, (topology.servicesOf rule)[text]? = some view) ↔
      ∃ (service : String) (entry : ServiceEntry), topology.services[service]? = some entry ∧
        entry.view = view ∧ topology.IsLastTargetOf service rule := by
  constructor
  · rintro ⟨text, hview⟩
    rw [getElem?_servicesOf, findSomeRev?_eq_some_iff] at hview
    obtain ⟨before, path, after, hpaths, hhit, hlater⟩ := hview
    rw [Option.ite_none_right_eq_some, Option.map_eq_some_iff] at hhit
    obtain ⟨htext, entry, hentry, hview⟩ := hhit
    refine ⟨path.serviceName, entry, hentry, hview, before, path, after, hpaths, rfl, ?_⟩
    intro later hmem hequal hknown
    -- a later path of the same text to a known service would have been the last hit
    have hnone := hlater later hmem
    rw [if_pos (hequal.trans htext), Option.map_eq_none_iff] at hnone
    rw [Std.ExtTreeMap.mem_iff_isSome_getElem?, hnone] at hknown
    cases hknown
  · rintro ⟨service, entry, hentry, hview, before, path, after, hpaths, hservice, hlater⟩
    refine ⟨path.path, ?_⟩
    rw [getElem?_servicesOf, findSomeRev?_eq_some_iff]
    refine ⟨before, path, after, hpaths, ?_, fun later hmem => ?_⟩
    · rw [if_pos rfl, hservice, hentry, Option.map_some, hview]
    · rw [ite_eq_right_iff, Option.map_eq_none_iff]
      intro hequal
      exact Std.ExtTreeMap.getElem?_eq_none (hlater later hmem hequal)

/-- The outer service views are those of the rules of the reaching records. -/
theorem mem_outerServices {shown : OuterServiceView} :
    shown ∈ topology.outerServices ↔
      ∃ record ∈ topology.reachingRecords, ∃ rule ∈ record.rules,
        ⟨record.name, rule.entryPoint, rule.protocol, topology.servicesOf rule⟩ = shown := by
  rw [outerServices, List.mem_flatMap]
  simp only [outerViews, List.mem_map]
  rfl

/-- The views shown outside are those of the known services that are last targets. -/
theorem Joined.listedOutside_iff (h : topology.Joined ns) {view : ServiceView} :
    topology.ListedOutside view ↔
      ∃ (service : String) (entry : ServiceEntry), topology.services[service]? = some entry ∧
        entry.view = view ∧ topology.IsLastTarget service := by
  constructor
  · rintro ⟨shown, hshown, htext⟩
    obtain ⟨record, hrecord, rule, hrule, rfl⟩ := mem_outerServices.mp hshown
    obtain ⟨service, entry, hentry, hview, hlast⟩ :=
      (topology.exists_getElem?_servicesOf_iff rule view).mp htext
    obtain ⟨hkept, -⟩ := h.mem_reachingRecords.mp hrecord
    exact ⟨service, entry, hentry, hview, record.name, record, hkept, rule, hrule, hlast⟩
  · rintro ⟨service, entry, hentry, hview, hlast⟩
    obtain ⟨name, record, hrecord, rule, hrule, hlastOf⟩ := hlast
    have hshown := (topology.exists_getElem?_servicesOf_iff rule view).mpr
      ⟨service, entry, hentry, hview, hlastOf⟩
    -- the record has a path to a known service, namely to this one
    have hreaching : record ∈ topology.reachingRecords := by
      obtain ⟨before, path, after, hpaths, hservice, -⟩ := hlastOf
      rw [h.mem_reachingRecords, (h.tidy name record hrecord).1]
      refine ⟨hrecord, service, ?_, rule, hrule, path, ?_, hservice⟩
      · exact Std.ExtTreeMap.mem_iff_isSome_getElem?.mpr (Option.isSome_of_eq_some hentry)
      · rw [hpaths]
        exact List.mem_append_right _ List.mem_cons_self
    exact ⟨_, mem_outerServices.mpr ⟨record, hreaching, rule, hrule, rfl⟩, hshown⟩

/-- A known service is shown outside exactly if it is a last target. -/
theorem Joined.listedOutside_iff_isLastTarget (h : topology.Joined ns) {service : String}
    {entry : ServiceEntry} (hentry : topology.services[service]? = some entry) :
    topology.ListedOutside entry.view ↔ topology.IsLastTarget service := by
  rw [h.listedOutside_iff]
  constructor
  · rintro ⟨other, otherEntry, hother, hview, hlast⟩
    -- the name in a view tells whose view it is
    have hsame : other = service := by
      rw [← (h.named other otherEntry hother).1, hview, (h.named service entry hentry).1]
    rwa [← hsame]
  · exact fun hlast => ⟨service, entry, hentry, rfl, hlast⟩

/-- A known service is listed among the inner services if no path leads to it. -/
theorem Joined.mem_innerServices_of_not_isTarget (h : topology.Joined ns) {service : String}
    {entry : ServiceEntry} (hentry : topology.services[service]? = some entry)
    (hno : ¬ topology.IsTarget service) : entry.view ∈ topology.innerServices := by
  have hname := (h.named service entry hentry).1
  rw [h.mem_innerServices, hname]
  exact ⟨entry, hentry, rfl,
    fun name record hrecord hleads => hno ⟨name, record, hrecord, hleads⟩⟩

/-- No view of a service to which a path leads is listed among the inner services. -/
theorem Joined.name_ne_of_mem_innerServices (h : topology.Joined ns) {service : String}
    (htarget : topology.IsTarget service) {view : ServiceView}
    (hview : view ∈ topology.innerServices) :
    view.name ≠ service := by
  obtain ⟨entry, -, -, hno⟩ := h.mem_innerServices.mp hview
  obtain ⟨name, record, hrecord, hleads⟩ := htarget
  rintro rfl
  exact hno name record hrecord hleads

/-- No view of a service to which no path leads is shown outside. -/
theorem Joined.name_ne_of_listedOutside (h : topology.Joined ns) {service : String}
    (hno : ¬ topology.IsTarget service) {view : ServiceView}
    (hview : topology.ListedOutside view) :
    view.name ≠ service := by
  obtain ⟨own, entry, hentry, rfl, hlast⟩ := h.listedOutside_iff.mp hview
  rw [(h.named own entry hentry).1]
  rintro rfl
  exact hno hlast.isTarget

end NamespaceTopology

namespace ServiceTopology

/-- After any history of events, a known service is visible in exactly one of the two views,
provided that, if a path leads to it at all, it is led to by one that no later path of the same text
in its rule replaces. -/
theorem visibleOnce_iff (history : List Handling) (ns : String) {service : String}
    {entry : ServiceEntry} (hentry : ((after history).within ns).services[service]? = some entry) :
    ((after history).within ns).VisibleOnce service entry.view ↔
      (((after history).within ns).IsTarget service →
        ((after history).within ns).IsLastTarget service) := by
  have h := joined_after history ns
  constructor
  · intro hvisible htarget
    exact (h.listedOutside_iff_isLastTarget hentry).mp (hvisible.outer htarget).2
  · intro hlast
    constructor
    · -- a service that no path leads to is shown inside
      intro hno
      exact ⟨h.mem_innerServices_of_not_isTarget hentry hno,
        fun _ hother => h.name_ne_of_listedOutside hno hother⟩
    · intro htarget
      exact ⟨fun _ hother => h.name_ne_of_mem_innerServices htarget hother,
        (h.listedOutside_iff_isLastTarget hentry).mpr (hlast htarget)⟩

/-- A history in which two services come, and then an ingress with two paths of one text, the
second of which takes it by default. The first path leads to the first service, and the second path
to the second. -/
def equalPathHistory : List Handling :=
  [⟨.empty, .services (.created ⟨.basic "first" "1", ∅, none⟩)⟩,
    ⟨.empty, .services (.created ⟨.basic "second" "2", ∅, none⟩)⟩,
    ⟨.empty, .ingresses (.created ⟨.basic "gate" "3", [⟨some "example.org",
      [⟨some "/", some ⟨"first", none⟩⟩, ⟨none, some ⟨"second", none⟩⟩]⟩]⟩)⟩]

/-- The second service is visible once, for no path after the one to it has its text. -/
theorem visibleOnce_of_last_path :
    ((after equalPathHistory).within "default").services["second"]? =
        some ⟨⟨"second", "default", []⟩, .ofList ["gate"]⟩ ∧
      ((after equalPathHistory).within "default").VisibleOnce "second"
        ⟨"second", "default", []⟩ := by
  have hentry : ((after equalPathHistory).within "default").services["second"]? =
      some ⟨⟨"second", "default", []⟩, .ofList ["gate"]⟩ := by decide
  -- the rule of the record has the path to the second service behind the equal one
  have hrecord : ((after equalPathHistory).within "default").ingresses["gate"]? =
      some ⟨"gate",
        [⟨"example.org", httpPort, .http,
          [⟨"/", "first", ""⟩, ⟨"/", "second", ""⟩]⟩]⟩ := by decide
  refine ⟨hentry, (visibleOnce_iff equalPathHistory "default" hentry).mpr fun _ => ?_⟩
  exact ⟨"gate", _, hrecord, _, List.mem_singleton_self _, [⟨"/", "first", ""⟩],
    ⟨"/", "second", ""⟩, [], rfl, rfl, by simp⟩

/-- The first service is visible nowhere, though the path to it stands in the ingress. -/
theorem hidden_by_equal_path :
    ((after equalPathHistory).within "default").services["first"]? =
        some ⟨⟨"first", "default", []⟩, .ofList ["gate"]⟩ ∧
      ¬ ((after equalPathHistory).within "default").VisibleOnce "first"
        ⟨"first", "default", []⟩ := by
  have hrecord : ((after equalPathHistory).within "default").ingresses["gate"]? =
      some ⟨"gate",
        [⟨"example.org", httpPort, .http,
          [⟨"/", "first", ""⟩, ⟨"/", "second", ""⟩]⟩]⟩ := by decide
  have houter : ((after equalPathHistory).within "default").outerServices =
      [⟨"gate", "http://example.org", .http,
        (∅ : Std.ExtTreeMap String ServiceView).insert "/"
          ⟨"second", "default", []⟩⟩] := by decide
  refine ⟨by decide, fun hvisible => ?_⟩
  have htarget : ((after equalPathHistory).within "default").IsTarget "first" :=
    ⟨"gate", _, hrecord, _, List.mem_singleton_self _, ⟨"/", "first", ""⟩,
      List.mem_cons_self, rfl⟩
  obtain ⟨-, shown, hshown, text, htext⟩ := hvisible.outer htarget
  rw [houter, List.mem_singleton] at hshown
  -- under the one path there stands the second service
  rw [hshown, Std.ExtTreeMap.getElem?_insert, Std.ExtTreeMap.getElem?_empty,
    Option.ite_none_right_eq_some] at htext
  simp at htext

end ServiceTopology

end ClusterWatch
