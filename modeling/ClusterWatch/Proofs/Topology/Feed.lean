import Mathlib.Logic.Function.Basic
import ClusterWatch.Proofs.Config.Interleaving
import ClusterWatch.Proofs.Topology.Assembly

/-!
# Informers and the topology by turns

Every kind of objects has an informer of its own, which shows changes to its store first and
publishes the events afterwards, one by one. The informers take turns with the bus and the topology
in any order, so the stores can be ahead of the events that the topology has handled. What has been
shown and not been handled yet is pending.

* `Delivery.Continues`, `Chained` — the deliveries of one object go on from each other.
* `Stores.Admits` — events that stores can be shown: pods and services live in namespaces, and the
  deliveries of every pod go on from what the store holds of it.
* `Feed`, `Feed.turn?` — the state between two turns, and what a turn does to it.
* `Feed.Moves`, `Feed.moves_of_turn?` — all that a turn can come to for what is handled,
  held and pending.
* `Feed.Reachable.induct` — what every move preserves holds of every reachable feed.
* `Feed.Traced` — the store of a kind is ahead of what has been handled by what is pending;
  `Reachable.traced_pods` and `Reachable.traced_services` say so of every reachable feed.
-/

namespace ClusterWatch

open Reconciler (Handling)

/-! ### Chains of deliveries -/

/-- A delivery goes on from what is there of its object: nothing is created twice, and an update
carries the version before it. -/
def Delivery.Continues {α : Type} (held : Option α) : Delivery α → Prop
  | .created _ => held = none
  | .updated old _ => held = some old
  | .deleted _ => True

instance {α : Type} [DecidableEq α] (held : Option α) (delivery : Delivery α) :
    Decidable (delivery.Continues held) :=
  match delivery with
  | .created _ => inferInstanceAs (Decidable (_ = _))
  | .updated _ _ => inferInstanceAs (Decidable (_ = _))
  | .deleted _ => .isTrue trivial

/-- Deliveries of one object go on from each other, from one state of it to another. -/
def Chained {α : Type} : Option α → List (Delivery α) → Option α → Prop
  | before, [], after => before = after
  | before, delivery :: rest, after =>
    delivery.Continues before ∧ Chained delivery.current? rest after

/-- Deliveries that lead on from where earlier ones have led form one chain with them. -/
theorem Chained.append {α : Type} {before between after : Option α}
    {earlier later : List (Delivery α)} (hearlier : Chained before earlier between)
    (hlater : Chained between later after) :
    Chained before (earlier ++ later) after := by
  induction earlier generalizing before with
  | nil => exact hearlier ▸ hlater
  | cons delivery rest ih => exact ⟨hearlier.1, ih hearlier.2⟩

/-- A chain of deliveries can be parted anywhere: what the first part leads to, the second
one starts from. -/
theorem Chained.exists_of_append {α : Type} {before after : Option α}
    {earlier later : List (Delivery α)} (h : Chained before (earlier ++ later) after) :
    ∃ between, Chained before earlier between ∧ Chained between later after := by
  induction earlier generalizing before with
  | nil => exact ⟨before, rfl, h⟩
  | cons delivery rest ih =>
    obtain ⟨between, hrest, hlater⟩ := ih h.2
    exact ⟨between, ⟨h.1, hrest⟩, hlater⟩

/-! ### Events that stores can be shown -/

/-- Pods and services live in namespaces, and a delivery of a pod goes on from what the stores
hold of the pod. -/
def ClusterEvent.Continues (stores : Stores) : ClusterEvent → Prop
  | .pods delivery => ClusterObject.IsNamespaced delivery.object ∧
      delivery.Continues
        (stores.pods.get? (ClusterObject.ns delivery.object) (ClusterObject.name delivery.object))
  | .services delivery => ClusterObject.IsNamespaced delivery.object
  | _ => True

instance (stores : Stores) : (event : ClusterEvent) → Decidable (event.Continues stores)
  | .pods _ => inferInstanceAs (Decidable (_ ∧ _))
  | .services delivery => inferInstanceAs (Decidable (ClusterObject.IsNamespaced delivery.object))
  | .namespaces _ | .nodes _ | .endpoints _ | .ingresses _ | .configMaps _ | .secrets _
    | .deployments _
  | .daemonSets _ | .statefulSets _ | .persistentVolumes _ | .persistentVolumeClaims _ =>
    .isTrue trivial

namespace Stores

/-- Events that can be shown to the stores one after another. -/
def Admits (stores : Stores) : List ClusterEvent → Prop
  | [] => True
  | event :: rest => event.Continues stores ∧ (stores.observe event.observation).Admits rest

instance decidableAdmits :
    (stores : Stores) → (events : List ClusterEvent) → Decidable (stores.Admits events)
  | _, [] => .isTrue trivial
  | stores, event :: rest =>
    have := decidableAdmits (stores.observe event.observation) rest
    inferInstanceAs (Decidable (_ ∧ _))

variable {stores : Stores} {events : List ClusterEvent}

/-- Every event of an admissible sequence continues the stores of some moment. -/
theorem Admits.exists_continues (h : stores.Admits events) {event : ClusterEvent}
    (hevent : event ∈ events) :
    ∃ between, event.Continues between := by
  induction events generalizing stores with
  | nil => cases hevent
  | cons first rest ih =>
    rcases List.mem_cons.mp hevent with rfl | hrest
    · exact ⟨stores, h.1⟩
    · exact ih h.2 hrest

/-- The pods of an admissible sequence are in namespaces. -/
theorem Admits.isNamespaced_pod (h : stores.Admits events) {delivery : Delivery Pod}
    (hdelivery : .pods delivery ∈ events) : ClusterObject.IsNamespaced delivery.object :=
  (h.exists_continues hdelivery).elim fun _ hcontinues => hcontinues.1

/-- The services of an admissible sequence are in namespaces. -/
theorem Admits.isNamespaced_service (h : stores.Admits events) {delivery : Delivery Service}
    (hdelivery : .services delivery ∈ events) : ClusterObject.IsNamespaced delivery.object :=
  (h.exists_continues hdelivery).elim fun _ hcontinues => hcontinues

/-- Among events that stores can be shown, the deliveries of every pod are a chain from what the
stores held of it to what they hold afterwards. -/
theorem Admits.chained (h : stores.Admits events) (hkept : stores.pods.WellKept)
    (ns name : String) :
    Chained (stores.pods.get? ns name) (events.filterMap (PublishedKind.pods.at? ns name))
      ((stores.afterEvents events).pods.get? ns name) := by
  induction events generalizing stores with
  | nil => rfl
  | cons event rest ih =>
    have hnamed (delivery : Delivery Pod) (hdelivery : event = .pods delivery) :
        ClusterObject.IsNamespaced delivery.object :=
      h.isNamespaced_pod (hdelivery ▸ List.mem_cons_self)
    have hget := PublishedKind.pods.get?_observe_event hkept hnamed ns name
    have hrest := ih h.2 (PublishedKind.pods.wellKept_observe_event hkept hnamed)
    have hstore : (stores.observe event.observation).pods.get? ns name = _ := hget
    rw [hstore] at hrest
    rw [List.filterMap_cons]
    -- only a delivery of this very pod changes what the stores hold of it
    cases hat : PublishedKind.pods.at? ns name event with
    | none =>
      rw [hat] at hrest
      exact hrest
    | some delivery =>
      rw [hat] at hrest
      obtain ⟨rfl, rfl, rfl⟩ := PublishedKind.at?_eq_some_iff.mp hat
      exact ⟨h.1.2, hrest⟩

end Stores

/-! ### Turns -/

/-- The informers, the bus and the topology between two turns. -/
structure Feed where
  /-- The caches of all kinds. -/
  stores : Stores
  /-- What the informer of each kind has shown to its store and has still to publish. -/
  outbox : ResourceKind → List ClusterEvent
  /-- The bus. -/
  bus : Bus ClusterEvent
  /-- What the topology has still to handle, in order. -/
  queue : List ClusterEvent
  /-- What the topology has handled, each event with the stores as they were at that moment. -/
  handled : List Handling

namespace Feed

/-- What can be done in one turn. -/
inductive Turn where
  /-- The informer of a kind shows changes to its store: a single one, or those of a
  whole listing. -/
  | observe (kind : ResourceKind) (events : List ClusterEvent)
  /-- The store of replica sets, which nobody is told of, takes an event of its watch. -/
  | cache (event : WatchEvent ReplicaSet)
  /-- The informer of a kind publishes the next event. -/
  | publish (kind : ResourceKind)
  /-- The bus is opened. -/
  | openBus
  /-- The topology handles the next event. -/
  | consume

/-- The feed before the first turn. -/
def start (bus : Bus ClusterEvent) : Feed :=
  ⟨.empty, fun _ => [], bus, [], []⟩

/-- The feed with the bus as given, and with what it has passed on queued for the topology, as far
as this follows the kind. -/
def pass (feed : Feed) (bus : Bus ClusterEvent) (passed : List ClusterEvent) : Feed :=
  { feed with
    bus
    queue := feed.queue ++ passed.filter fun event => ServiceTopology.interestedIn event.kind }

/-- The feed after a turn, if the turn can be taken. An informer shows further changes only when it
has published what it has shown before. -/
def turn? (feed : Feed) : Turn → Option Feed
  | .observe kind events =>
    if (feed.outbox kind).isEmpty ∧ (∀ event ∈ events, event.kind = kind) ∧
      feed.stores.Admits events then
      some { feed with
        stores := feed.stores.afterEvents events
        outbox := Function.update feed.outbox kind events }
    else none
  | .cache event => some { feed with stores := feed.stores.observe (.replicaSets event) }
  | .publish kind =>
    match feed.outbox kind with
    | [] => none
    | event :: rest =>
      let (bus, passed) := feed.bus.publish event
      some ({ feed with outbox := Function.update feed.outbox kind rest }.pass bus passed)
  | .openBus =>
    let (bus, passed) := feed.bus.release
    some (feed.pass bus passed)
  | .consume =>
    match feed.queue with
    | [] => none
    | event :: rest =>
      some { feed with queue := rest, handled := feed.handled ++ [⟨feed.stores, event⟩] }

/-- The feed after several turns, if they can be taken. -/
def turns? (feed : Feed) (turns : List Turn) : Option Feed :=
  turns.foldlM turn? feed

/-- A feed that some turns lead to, from nothing and with a bus that is gated or not. -/
inductive Reachable : Feed → Prop
  /-- Nothing has happened yet. -/
  | start (bus : Bus ClusterEvent) (hbus : bus = .gated ∨ bus = .direct) : Reachable (start bus)
  /-- One more turn is taken. -/
  | turn {feed next : Feed} (hfeed : Reachable feed) (turn : Turn)
    (hturn : feed.turn? turn = some next) :
      Reachable next

/-- Any number of turns lead from one reachable feed to another. -/
theorem Reachable.turns {feed next : Feed} (hfeed : feed.Reachable) (turns : List Turn)
    (hturns : feed.turns? turns = some next) : next.Reachable :=
  of_foldlM_eq_some Reachable (fun turn _ _ hbefore hturn => hbefore.turn turn hturn) hturns hfeed

/-- The topology as what has been handled has made it. -/
def topology (feed : Feed) : ServiceTopology :=
  .after feed.handled

/-- What is on the way from the informer of a kind to the topology, in order: what is queued, what
the bus holds and what is to be published. -/
def ahead (feed : Feed) (kind : ResourceKind) : List ClusterEvent :=
  feed.queue ++ feed.bus.held.getD [] ++ feed.outbox kind

/-- Everything that has been shown to the stores has been handled. -/
def IsQuiet (feed : Feed) : Prop :=
  ∀ kind, feed.ahead kind = []

/-! ### What is pending -/

section Pending

variable {α : Type} [ClusterObject α] (kind : PublishedKind α)

/-- The deliveries of an object that the topology has still to handle. -/
def pending (feed : Feed) (ns name : String) : List (Delivery α) :=
  (feed.ahead kind.resourceKind).filterMap (kind.at? ns name)

/-- Nothing is pending in a quiet feed. -/
theorem pending_of_isQuiet {feed : Feed} (h : feed.IsQuiet) (ns name : String) :
    feed.pending kind ns name = [] := by
  rw [pending, h, List.filterMap_nil]

/-- Nothing is pending at the start. -/
theorem pending_start {bus : Bus ClusterEvent} (hbus : bus = .gated ∨ bus = .direct)
    (ns name : String) :
    (start bus).pending kind ns name = [] := by
  rcases hbus with rfl | rfl <;> simp [pending, ahead, start, Bus.gated, Bus.direct]

variable {kind}

/-- Deliveries of a kind that the topology follows are all queued for it. -/
theorem filterMap_at?_followed (hfollowed : ServiceTopology.interestedIn kind.resourceKind = true)
    (events : List ClusterEvent) (ns name : String) :
    (events.filter fun event => ServiceTopology.interestedIn event.kind).filterMap
      (kind.at? ns name) =
      events.filterMap (kind.at? ns name) := by
  rw [List.filterMap_filter]
  refine congrArg (List.filterMap · events) (funext fun event => ?_)
  split
  next => rfl
  next hunfollowed =>
    refine (PublishedKind.at?_eq_none_of_kind_ne (fun hkind => hunfollowed ?_) ns name).symm
    rw [hkind, hfollowed]

/-- Events of another kind are no deliveries of a kind. -/
theorem filterMap_at?_of_kind_ne {events : List ClusterEvent}
    (h : ∀ event ∈ events, event.kind ≠ kind.resourceKind) (ns name : String) :
    events.filterMap (kind.at? ns name) = [] :=
  List.filterMap_eq_nil_iff.mpr fun event hevent =>
    PublishedKind.at?_eq_none_of_kind_ne (h event hevent) ns name

/-- What the bus passes on is still ahead of what it holds then. -/
theorem pending_pass (hfollowed : ServiceTopology.interestedIn kind.resourceKind = true)
    (feed : Feed) (bus : Bus ClusterEvent) (passed : List ClusterEvent) (ns name : String) :
    (feed.pass bus passed).pending kind ns name =
      (feed.queue ++ (passed ++ bus.held.getD []) ++ feed.outbox kind.resourceKind).filterMap
        (kind.at? ns name) := by
  simp only [pending, ahead, pass, List.filterMap_append, filterMap_at?_followed hfollowed,
    List.append_assoc]

end Pending

/-! ### Moves -/

/-- All that a turn can come to, for what is handled, what the stores of the published kinds hold
and what is pending of the kinds that the topology follows. -/
inductive Moves (feed next : Feed) : Prop
  /-- The stores are shown events, which are pending from then on. -/
  | shown (events : List ClusterEvent) (admits : feed.stores.Admits events)
      (stores : next.stores = feed.stores.afterEvents events)
        (handled : next.handled = feed.handled)
      (pending : ∀ {α : Type} [ClusterObject α] (kind : PublishedKind α),
        ServiceTopology.interestedIn kind.resourceKind = true → ∀ ns name,
          next.pending kind ns name =
            feed.pending kind ns name ++ events.filterMap (kind.at? ns name))
  /-- Events get closer to the topology, or a store changes that nobody is told of. -/
  | passed (handled : next.handled = feed.handled)
      (stores : ∀ {α : Type} [ClusterObject α] (kind : PublishedKind α),
        kind.store next.stores = kind.store feed.stores)
      (pending : ∀ {α : Type} [ClusterObject α] (kind : PublishedKind α),
        ServiceTopology.interestedIn kind.resourceKind = true → ∀ ns name,
          next.pending kind ns name = feed.pending kind ns name)
  /-- The topology handles the first of the events that are pending. -/
  | consumed (event : ClusterEvent) (stores : next.stores = feed.stores)
      (handled : next.handled = feed.handled ++ [⟨feed.stores, event⟩])
      (pending : ∀ {α : Type} [ClusterObject α] (kind : PublishedKind α) (ns name : String),
        feed.pending kind ns name = (kind.at? ns name event).toList ++ next.pending kind ns name)

/-- Informers have only events of their own kinds to publish. -/
def Sorted (feed : Feed) : Prop :=
  ∀ kind, ∀ event ∈ feed.outbox kind, event.kind = kind

variable {feed next : Feed}

/-- A turn leaves every outbox with events of its own kind. -/
theorem Sorted.turn (h : feed.Sorted) {turn : Turn} (hturn : feed.turn? turn = some next) :
    next.Sorted := by
  cases turn with
  | observe kind events =>
    simp only [turn?, Option.ite_none_right_eq_some, Option.some.injEq] at hturn
    -- the watcher of a kind hands out events of that kind only
    obtain ⟨⟨-, hevents, -⟩, rfl⟩ := hturn
    exact Pipeline.kind_of_mem_update h hevents
  | cache event =>
    obtain rfl := Option.some.inj hturn
    exact h
  | publish kind =>
    cases houtbox : feed.outbox kind with
    | nil => simp [turn?, houtbox] at hturn
    | cons event rest =>
      obtain rfl := Option.some.inj (by simpa only [turn?, houtbox] using hturn)
      exact Pipeline.kind_of_mem_update h fun other hother =>
        h kind other (houtbox ▸ List.mem_cons_of_mem _ hother)
  | openBus =>
    obtain rfl := Option.some.inj hturn
    exact h
  | consume =>
    cases hqueue : feed.queue with
    | nil => simp [turn?, hqueue] at hturn
    | cons event rest =>
      obtain rfl := Option.some.inj (by simpa only [turn?, hqueue] using hturn)
      exact h

/-- Showing changes to a store puts them behind everything that is pending. -/
theorem Moves.observe {kind : ResourceKind} {events : List ClusterEvent}
    (hturn : feed.turn? (.observe kind events) = some next) : feed.Moves next := by
  simp only [turn?, Option.ite_none_right_eq_some, List.isEmpty_iff, Option.some.injEq] at hturn
  obtain ⟨⟨hidle, hevents, hadmits⟩, rfl⟩ := hturn
  refine .shown events hadmits rfl rfl fun published _ ns name => ?_
  -- only the outbox of this kind grows
  by_cases hkind : published.resourceKind = kind
  · subst hkind
    simp only [pending, ahead, Function.update_self, hidle, List.append_nil, List.filterMap_append]
  · have hnone : events.filterMap (published.at? ns name) = [] :=
      filterMap_at?_of_kind_ne
        (fun event hevent heq => hkind (heq.symm.trans (hevents event hevent))) ns name
    rw [hnone, List.append_nil]
    simp only [pending, ahead, Function.update_of_ne hkind]

/-- Publishing an event moves it on, behind everything that has been published before. -/
theorem Moves.publish (h : feed.Sorted) {kind : ResourceKind}
    (hturn : feed.turn? (.publish kind) = some next) :
    feed.Moves next := by
  cases houtbox : feed.outbox kind with
  | nil => simp [turn?, houtbox] at hturn
  | cons event rest =>
    obtain rfl := Option.some.inj (by simpa only [turn?, houtbox] using hturn)
    refine .passed rfl (fun _ => rfl) fun published hfollowed ns name => ?_
    rw [pending_pass hfollowed, Bus.publish_snd_append, pending, ahead]
    by_cases hkind : published.resourceKind = kind
    · subst hkind
      simp [houtbox]
    · -- an event of another kind can be anywhere
      have hevent : event.kind = kind := h kind event (houtbox ▸ List.mem_cons_self)
      have hnone : published.at? ns name event = none :=
        PublishedKind.at?_eq_none_of_kind_ne (fun heq => hkind (heq.symm.trans hevent)) ns name
      simp [Function.update_of_ne hkind, hnone]

/-- A turn comes to one of the moves. -/
theorem moves_of_turn? (h : feed.Sorted) {turn : Turn} (hturn : feed.turn? turn = some next) :
    feed.Moves next := by
  cases turn with
  | observe kind events => exact .observe hturn
  | cache event =>
    obtain rfl := Option.some.inj hturn
    exact .passed rfl (fun kind => by cases kind <;> rfl) fun _ _ _ _ => rfl
  | publish kind => exact .publish h hturn
  | openBus =>
    obtain rfl : feed.pass feed.bus.release.1 feed.bus.release.2 = next := Option.some.inj hturn
    -- opening puts what the bus has held back in front of what comes later
    refine .passed rfl (fun _ => rfl) fun published hfollowed ns name => ?_
    rw [pending_pass hfollowed, Bus.release_snd_append, pending, ahead]
  | consume =>
    cases hqueue : feed.queue with
    | nil => simp [turn?, hqueue] at hturn
    | cons event rest =>
      obtain rfl := Option.some.inj (by simpa only [turn?, hqueue] using hturn)
      -- the event leaves the head of the queue and is what has been handled last
      refine .consumed event rfl rfl fun published ns name => ?_
      simp only [pending, ahead, hqueue, List.cons_append, List.filterMap_cons]
      cases published.at? ns name event <;> rfl

/-- In every reachable feed, the outboxes hold events of their own kinds. -/
theorem Reachable.sorted (h : feed.Reachable) : feed.Sorted := by
  induction h with
  | start bus hbus =>
    intro kind event hevent
    cases hevent
  | turn hfeed turn hturn ih => exact ih.turn hturn

/-- What holds before the first turn and is preserved by every move holds of every
reachable feed. -/
theorem Reachable.induct (holds : Feed → Prop)
    (hstart : ∀ bus, bus = .gated ∨ bus = .direct → holds (.start bus))
    (hmove : ∀ feed next : Feed, feed.Reachable → holds feed → feed.Moves next → holds next)
    (h : feed.Reachable) : holds feed := by
  induction h with
  | start bus hbus => exact hstart bus hbus
  | turn hfeed turn hturn ih => exact hmove _ _ hfeed ih (moves_of_turn? hfeed.sorted hturn)

/-! ### The stores and what is pending -/

section Traced

variable {α : Type} [ClusterObject α]

/-- The deliveries of an object in a history. -/
def deliveries (kind : PublishedKind α) (history : List Handling) (ns name : String) :
    List (Delivery α) :=
  history.filterMap fun handling => kind.at? ns name handling.event

/-- What is delivered of an object in two runs of handlings is what is in the first and then what is
in the second. -/
theorem deliveries_append (kind : PublishedKind α) (earlier later : List Handling)
    (ns name : String) :
    deliveries kind (earlier ++ later) ns name =
      deliveries kind earlier ns name ++ deliveries kind later ns name :=
  List.filterMap_append

/-- A handling is a delivery of the object if its event is one. -/
theorem deliveries_cons (kind : PublishedKind α) (moment : Handling) (later : List Handling)
    (ns name : String) :
    deliveries kind (moment :: later) ns name =
      (kind.at? ns name moment.event).toList ++ deliveries kind later ns name := by
  rw [deliveries, List.filterMap_cons]
  cases kind.at? ns name moment.event <;> rfl

/-- The store of a kind is well kept, and ahead of what has been handled by what is pending. -/
structure Traced (feed : Feed) (kind : PublishedKind α) : Prop where
  /-- The store is well kept. -/
  wellKept : (kind.store feed.stores).WellKept
  /-- It was well kept whenever an event was handled. -/
  past : ∀ moment ∈ feed.handled, (kind.store moment.stores).WellKept
  /-- It holds what all deliveries, handled and pending, have left. -/
  whole : ∀ ns name, (kind.store feed.stores).get? ns name =
    Delivery.left? none (deliveries kind feed.handled ns name ++ feed.pending kind ns name)
  /-- It holds what the deliveries since some moment have left, where something was held then. -/
  since : ∀ before moment later, feed.handled = before ++ moment :: later → ∀ ns name,
    (kind.store feed.stores).get? ns name =
      Delivery.left? ((kind.store moment.stores).get? ns name)
        (deliveries kind later ns name ++ feed.pending kind ns name)

variable {kind : PublishedKind α}

/-- At the start nothing is stored, handled or pending. -/
theorem traced_start (bus : Bus ClusterEvent) (hbus : bus = .gated ∨ bus = .direct) :
    (start bus).Traced kind := by
  have hempty : kind.store (start bus).stores = .empty := by cases kind <;> rfl
  have hnothing : (start bus).handled = [] := rfl
  refine ⟨hempty ▸ Store.wellKept_empty, fun moment hmoment => ?_, fun ns name => ?_,
    fun before moment later hhandled => ?_⟩
  · cases hnothing ▸ hmoment
  · rw [hempty, Store.get?_empty, pending_start kind hbus]
    rfl
  · exact absurd (hnothing.symm.trans hhandled) (by simp)

/-- Showing changes to the stores makes the deliveries of them pending. -/
theorem Traced.shown (h : feed.Traced kind) {events : List ClusterEvent}
    (hnamed : ∀ delivery, kind.wrap delivery ∈ events →
      ClusterObject.IsNamespaced delivery.object)
    (hstores : next.stores = feed.stores.afterEvents events)
    (hhandled : next.handled = feed.handled)
    (hpending : ∀ ns name,
      next.pending kind ns name = feed.pending kind ns name ++ events.filterMap
        (kind.at? ns name)) :
    next.Traced kind := by
  have hget := kind.get?_afterEvents h.wellKept hnamed
  refine ⟨hstores ▸ kind.wellKept_afterEvents h.wellKept hnamed, hhandled ▸ h.past,
    fun ns name => ?_, fun before moment later hsplit ns name => ?_⟩
  · rw [hstores, hhandled, hpending, ← List.append_assoc, Delivery.left?_append,
      ← h.whole, hget]
  · -- the same deliveries are added behind those since any earlier moment
    rw [hhandled] at hsplit
    rw [hstores, hpending, ← List.append_assoc, Delivery.left?_append,
      ← h.since before moment later hsplit, hget]

/-- What is handled is pending no more. -/
theorem deliveries_append_pending {event : ClusterEvent}
    (hpending : ∀ ns name,
      feed.pending kind ns name = (kind.at? ns name event).toList ++ next.pending kind ns name)
    (stores : Stores) (earlier : List Handling) (ns name : String) :
    deliveries kind (earlier ++ [⟨stores, event⟩]) ns name ++ next.pending kind ns name =
      deliveries kind earlier ns name ++ feed.pending kind ns name := by
  rw [deliveries_append, hpending, List.append_assoc]
  rfl

/-- Handling an event leaves the store ahead by what is pending behind it. -/
theorem Traced.consumed (h : feed.Traced kind) {event : ClusterEvent}
    (hstores : next.stores = feed.stores)
    (hhandled : next.handled = feed.handled ++ [⟨feed.stores, event⟩])
    (hpending : ∀ ns name,
      feed.pending kind ns name = (kind.at? ns name event).toList ++ next.pending kind ns name) :
    next.Traced kind := by
  have hmoved := deliveries_append_pending hpending feed.stores
  refine ⟨hstores ▸ h.wellKept, fun moment hmoment => ?_, fun ns name => ?_,
    fun before moment later hsplit ns name => ?_⟩
  · rw [hhandled] at hmoment
    rcases List.mem_append.mp hmoment with hbefore | hlast
    · exact h.past moment hbefore
    · obtain rfl := List.mem_singleton.mp hlast
      exact h.wellKept
  · rw [hstores, hhandled, hmoved]
    exact h.whole ns name
  · rw [hhandled] at hsplit
    rw [hstores]
    rcases concat_eq_append_cons hsplit with ⟨rfl, -, rfl⟩ | ⟨rest, rfl, hearlier⟩
    · -- at the moment that has just passed, the store held already what was pending
      have hwhole := h.whole ns name
      rw [← hmoved, Delivery.left?_append] at hwhole
      rw [deliveries, List.filterMap_nil, List.nil_append]
      exact (hwhole.trans (Delivery.left?_left? _ _).symm).trans
        (congrArg (Delivery.left? · _) hwhole.symm)
    · rw [hmoved]
      exact h.since before moment rest hearlier ns name

/-- Every move keeps the store and what is pending in step. -/
theorem Traced.move (h : feed.Traced kind)
    (hfollowed : ServiceTopology.interestedIn kind.resourceKind = true)
    (hnamed : ∀ {stores : Stores} {events : List ClusterEvent}, stores.Admits events →
      ∀ delivery, kind.wrap delivery ∈ events → ClusterObject.IsNamespaced delivery.object)
    (hmove : feed.Moves next) : next.Traced kind := by
  cases hmove with
  | shown events hadmits hstores hhandled hpending =>
    exact h.shown (hnamed hadmits) hstores hhandled (hpending kind hfollowed)
  -- neither the store nor what is handled changes, and what is pending only moves on
  | passed hhandled hstores hpending =>
    refine ⟨hstores kind ▸ h.wellKept, hhandled ▸ h.past, fun ns name => ?_,
      fun before moment later hsplit ns name => ?_⟩
    · rw [hstores kind, hhandled, hpending kind hfollowed]
      exact h.whole ns name
    · rw [hstores kind, hpending kind hfollowed]
      exact h.since before moment later (hhandled ▸ hsplit) ns name
  | consumed event hstores hhandled hpending => exact h.consumed hstores hhandled (hpending kind)

end Traced

/-- The store of pods is ahead of what has been handled by what is pending. -/
theorem Reachable.traced_pods (h : feed.Reachable) : feed.Traced .pods :=
  h.induct (Traced · .pods) traced_start fun _ _ _ htraced =>
    htraced.move rfl fun hadmits _ => hadmits.isNamespaced_pod

/-- The store of services is ahead of what has been handled by what is pending. -/
theorem Reachable.traced_services (h : feed.Reachable) : feed.Traced .services :=
  h.induct (Traced · .services) traced_start fun _ _ _ htraced =>
    htraced.move rfl fun hadmits _ => hadmits.isNamespaced_service

end Feed

/-! ### Objects to make runs of -/

/-- A pod in some version and phase that a stateful set owns, with the label by which the services
below select. -/
def Pod.member (name version phase : String) : Pod where
  metadata := { Metadata.basic name version with
    labels := (∅ : TextMap).insert "app" "db"
    owners := [⟨"StatefulSet", "db", true⟩] }
  nodeName := none
  claimNames := []
  phase := some phase

/-- A service in some version that selects pods by a label. -/
def Service.selecting (name version : String) : Service :=
  ⟨.basic name version, (∅ : TextMap).insert "app" "db", none⟩

/-- Endpoints in some version that lead to one pod. -/
def Endpoints.leadingTo (pod name version : String) : Endpoints :=
  ⟨.basic name version, [⟨[⟨some "Pod", some pod⟩], []⟩]⟩

end ClusterWatch
