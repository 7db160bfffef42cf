import Mathlib.Data.List.Induction
import ClusterWatch.Proofs.Cluster.WellKept
import ClusterWatch.Watch.Tracker

/-!
# Replicas

Whoever follows the deliveries of a tracker, and sets and erases objects as they say, holds a
replica of what is watched. What a tracker tells of single objects and of listings keeps a replica
in step with what it knows.

* `Replica.deliverAll` — the replica after some deliveries; `Replica.FitsAll` — each of them
  takes the replica for what it is at that point.
* `Tracker.changes` — the deliveries that objects amount to one after another, as a
  listing holds them.
* `version?_deliverAll_changes` — these keep a replica in step with what is known, key by key.
* `Tracker.observeAll_begun`, `Tracker.observeAll_listing` — what a tracker makes of a listing,
  whatever came before it.
-/

namespace ClusterWatch

/-- The version that the API server gave a state of an object. -/
def ClusterObject.version {α : Type} [ClusterObject α] (object : α) : Option String :=
  (metadata object).resourceVersion

/-- Objects by their keys, as somebody holds them who follows the deliveries. -/
abbrev Replica (α : Type) := Std.ExtTreeMap String α

namespace Replica

variable {α : Type} [ClusterObject α]

/-! ### Deliveries -/

/-- The replica after a delivery. -/
def deliver (replica : Replica α) : Delivery α → Replica α
  | .created object => replica.insert (ClusterObject.key object) object
  | .updated _ new => replica.insert (ClusterObject.key new) new
  | .deleted object => replica.erase (ClusterObject.key object)

/-- The replica after several deliveries. -/
def deliverAll (replica : Replica α) (deliveries : List (Delivery α)) : Replica α :=
  deliveries.foldl deliver replica

/-- The version that is there of the object of a key, if it is there at all; the inner value is none
for an object that carries no version. -/
def version? (objects : Replica α) (key : String) : Option (Option String) :=
  objects[key]?.map ClusterObject.version

/-- The same objects in the same versions. -/
def SameVersions (one other : Replica α) : Prop :=
  ∀ key, one.version? key = other.version? key

/-- A delivery that takes the replica for what it is: a created object is new to it, an updated one
is there in the old version, and a deleted one is there. -/
def Fits (replica : Replica α) : Delivery α → Prop
  | .created object => replica[ClusterObject.key object]? = none
  | .updated old new => ClusterObject.key old = ClusterObject.key new ∧
      replica.version? (ClusterObject.key old) = some (ClusterObject.version old)
  | .deleted object => ∃ present, replica[ClusterObject.key object]? = some present

/-- Deliveries that fit one after another. -/
def FitsAll (replica : Replica α) : List (Delivery α) → Prop
  | [] => True
  | delivery :: rest => replica.Fits delivery ∧ (replica.deliver delivery).FitsAll rest

/-- Replicas that hold the same objects in the same versions lack the same objects. -/
theorem SameVersions.getElem?_eq_none_iff {one other : Replica α} (h : one.SameVersions other)
    {key : String} : one[key]? = none ↔ other[key]? = none := by
  have hsame := h key
  rw [version?, version?] at hsame
  rw [← Option.map_eq_none_iff, hsame, Option.map_eq_none_iff]

/-- A delivery decides about the object that it is about, and about no other. -/
theorem getElem?_deliver (replica : Replica α) (delivery : Delivery α) (key : String) :
    (replica.deliver delivery)[key]? =
      if ClusterObject.key delivery.object = key then delivery.current? else replica[key]? := by
  cases delivery <;>
    simp only [deliver, Std.ExtTreeMap.getElem?_insert, Std.ExtTreeMap.getElem?_erase,
      Std.LawfulEqCmp.compare_eq_iff_eq] <;> rfl

/-- A delivery leaves the version of the object that it is about, and keeps those of the others. -/
theorem version?_deliver (replica : Replica α) (delivery : Delivery α) (key : String) :
    (replica.deliver delivery).version? key =
      if ClusterObject.key delivery.object = key then delivery.current?.map ClusterObject.version
      else replica.version? key := by
  rw [version?, getElem?_deliver, apply_ite (Option.map _)]
  rfl

/-- An object that is set is there in its own version. -/
theorem version?_insert (objects : Replica α) (object : α) (key : String) :
    version? (objects.insert (ClusterObject.key object) object) key =
      if ClusterObject.key object = key then some (ClusterObject.version object)
      else objects.version? key := by
  rw [version?, Std.ExtTreeMap.getElem?_insert, apply_ite (Option.map _)]
  simp only [Std.LawfulEqCmp.compare_eq_iff_eq]
  rfl

/-- An object that is erased is there in no version. -/
theorem version?_erase (objects : Replica α) (own key : String) :
    version? (objects.erase own) key = if own = key then none else objects.version? key := by
  rw [version?, Std.ExtTreeMap.getElem?_erase, apply_ite (Option.map _)]
  simp only [Std.LawfulEqCmp.compare_eq_iff_eq]
  rfl

@[simp]
theorem deliverAll_nil (replica : Replica α) : replica.deliverAll [] = replica :=
  rfl

@[simp]
theorem deliverAll_cons (replica : Replica α) (delivery : Delivery α)
    (rest : List (Delivery α)) :
    replica.deliverAll (delivery :: rest) = (replica.deliver delivery).deliverAll rest :=
  rfl

/-- Deliveries can be taken one part after the other. -/
theorem deliverAll_append (replica : Replica α) (earlier later : List (Delivery α)) :
    replica.deliverAll (earlier ++ later) = (replica.deliverAll earlier).deliverAll later :=
  List.foldl_append

/-- Deliveries fit if the first part does, and the second one fits what it leaves. -/
theorem fitsAll_append (replica : Replica α) (earlier later : List (Delivery α)) :
    replica.FitsAll (earlier ++ later) ↔
      replica.FitsAll earlier ∧ (replica.deliverAll earlier).FitsAll later := by
  induction earlier generalizing replica with
  | nil => simp [FitsAll]
  | cons delivery rest ih => simp [FitsAll, ih, and_assoc]

/-- What no delivery is about stays. -/
theorem getElem?_deliverAll_of_forall_ne {replica : Replica α} {deliveries : List (Delivery α)}
    {key : String} (h : ∀ delivery ∈ deliveries, ClusterObject.key delivery.object ≠ key) :
    (replica.deliverAll deliveries)[key]? = replica[key]? := by
  induction deliveries generalizing replica with
  | nil => rfl
  | cons delivery rest ih =>
    rw [deliverAll_cons, ih fun other hother => h other (List.mem_cons_of_mem _ hother),
      getElem?_deliver, if_neg (h delivery List.mem_cons_self)]

/-! ### Deletions -/

/-- Deletions erase what they are about. -/
theorem getElem?_deliverAll_deleted (replica : Replica α) (objects : List α) (key : String) :
    (replica.deliverAll (objects.map .deleted))[key]? =
      if ∃ object ∈ objects, ClusterObject.key object = key then none else replica[key]? := by
  induction objects generalizing replica with
  | nil => simp
  | cons object rest ih =>
    rw [List.map_cons, deliverAll_cons, ih, getElem?_deliver]
    simp only [Delivery.object, Delivery.current?]
    split_ifs <;> simp_all

/-- Deletions of different objects that are there fit one after another. -/
theorem fitsAll_deleted {replica : Replica α} {objects : List α}
    (hdistinct : objects.Pairwise fun one other =>
      ClusterObject.key one ≠ ClusterObject.key other)
    (hpresent : ∀ object ∈ objects, ∃ present,
      replica[ClusterObject.key object]? = some present) :
    replica.FitsAll (objects.map .deleted) := by
  induction objects generalizing replica with
  | nil => trivial
  | cons object rest ih =>
    obtain ⟨hne, hrest⟩ := List.pairwise_cons.mp hdistinct
    refine ⟨hpresent object List.mem_cons_self, ih hrest fun other hother => ?_⟩
    -- the deletions before leave it there
    rw [getElem?_deliver, Delivery.object, if_neg (hne other hother)]
    exact hpresent other (List.mem_cons_of_mem _ hother)

/-! ### Objects named one after another -/

/-- The objects with further ones set under their keys, one after another. -/
def insertAll (known : Replica α) (objects : List α) : Replica α :=
  objects.foldl (fun known object => known.insert (ClusterObject.key object) object) known

/-- The last of several objects that has the given key. -/
def lastNamed? (objects : List α) (key : String) : Option α :=
  objects.findRev? (ClusterObject.key · = key)

/-- The keys of several objects. -/
def keys (objects : List α) : Std.ExtTreeSet String :=
  .ofList (objects.map ClusterObject.key)

theorem insertAll_cons (known : Replica α) (object : α) (rest : List α) :
    insertAll known (object :: rest) =
      insertAll (known.insert (ClusterObject.key object) object) rest :=
  rfl

/-- The last object of a key is one of the later ones, or else the first. -/
theorem lastNamed?_cons (object : α) (rest : List α) (key : String) :
    lastNamed? (object :: rest) key =
      (lastNamed? rest key).or (if ClusterObject.key object = key then some object else none) :=
  findRev?_cons (ClusterObject.key · = key) object rest

/-- There is no last object of a key exactly if no object has the key. -/
theorem lastNamed?_eq_none_iff {objects : List α} {key : String} :
    lastNamed? objects key = none ↔ ∀ object ∈ objects, ClusterObject.key object ≠ key := by
  simp [lastNamed?]

/-- The last object of a key is one of the objects and has the key. -/
theorem mem_of_lastNamed? {objects : List α} {key : String} {object : α}
    (h : lastNamed? objects key = some object) :
    object ∈ objects ∧ ClusterObject.key object = key :=
  of_findRev?_eq_some h

/-- Setting objects one after another leaves the last one of each key. -/
theorem getElem?_insertAll (known : Replica α) (objects : List α) (key : String) :
    (insertAll known objects)[key]? = (lastNamed? objects key).or known[key]? := by
  induction objects generalizing known with
  | nil => rfl
  | cons object rest ih =>
    rw [insertAll_cons, ih, lastNamed?_cons, Option.or_assoc, Std.ExtTreeMap.getElem?_insert]
    simp only [Std.LawfulEqCmp.compare_eq_iff_eq]
    split_ifs <;> rfl

/-- The keys of several objects are those that one of them has. -/
theorem mem_keys {objects : List α} {key : String} :
    key ∈ keys objects ↔ ∃ object ∈ objects, ClusterObject.key object = key := by
  simp [keys]

/-- The keys of several objects are those that one of them, and so a last one, has. -/
theorem mem_keys_iff_isSome {objects : List α} {key : String} :
    key ∈ keys objects ↔ (lastNamed? objects key).isSome = true := by
  rw [mem_keys, Option.isSome_iff_ne_none, ne_eq, lastNamed?_eq_none_iff]
  simp

/-- Objects that are all held under their own keys. -/
def Keyed (objects : Replica α) : Prop :=
  ∀ key object, objects[key]? = some object → ClusterObject.key object = key

theorem Keyed.insert {known : Replica α} (h : known.Keyed) (object : α) :
    Keyed (known.insert (ClusterObject.key object) object) :=
  forall_getElem?_insert h rfl

theorem Keyed.erase {known : Replica α} (h : known.Keyed) (own : String) :
    Keyed (known.erase own) :=
  forall_getElem?_erase h own

/-- Dropping objects leaves the others under their own keys. -/
theorem Keyed.filter {known : Replica α} (h : known.Keyed) (keeps : String → α → Bool) :
    Keyed (known.filter keeps) := by
  intro key found hfound
  rw [Std.ExtTreeMap.getElem?_filter'] at hfound
  exact h key found (Option.eq_some_of_filter_eq_some hfound)

/-- Objects that are set stand under their own keys as well. -/
theorem Keyed.insertAll {known : Replica α} (h : known.Keyed) (objects : List α) :
    (insertAll known objects).Keyed := by
  induction objects generalizing known with
  | nil => exact h
  | cons object rest ih => exact ih (h.insert object)

end Replica

namespace Tracker

open Replica (insertAll keys lastNamed?)

variable {α : Type} [ClusterObject α]

/-! ### One object -/

/-- Two states are the same version if both carry a version and it is the same one. -/
theorem sameVersion_iff {old new : α} :
    sameVersion old new = true ↔
      ∃ version, ClusterObject.version old = some version ∧
        ClusterObject.version new = some version := by
  simp only [sameVersion, Bool.and_eq_true, beq_iff_eq, Option.isSome_iff_exists]
  constructor
  · rintro ⟨⟨version, hversion⟩, hsame⟩
    exact ⟨version, hversion, hsame.symm.trans hversion⟩
  · rintro ⟨version, hold, hnew⟩
    exact ⟨⟨version, hold⟩, hold.trans hnew.symm⟩

/-- States of the same version have the same version as any other state. -/
theorem sameVersion_congr {old again : α} (h : sameVersion old again = true) (other : α) :
    sameVersion again other = sameVersion old other := by
  obtain ⟨version, hold, hagain⟩ := sameVersion_iff.mp h
  rw [Bool.eq_iff_iff, sameVersion_iff, sameVersion_iff, hold, hagain]

/-- A state of an object is not told exactly if it carries a version and this is the
last known one. -/
theorem change?_eq_none_iff {known : Replica α} {object : α} :
    change? known[ClusterObject.key object]? object = none ↔
      ∃ version, ClusterObject.version object = some version ∧
        known.version? (ClusterObject.key object) = some (some version) := by
  rw [Replica.version?]
  cases known[ClusterObject.key object]? with
  | none => simp [change?]
  | some old =>
    simp only [change?, ite_eq_left_iff, reduceCtorEq, imp_false, not_not, sameVersion_iff,
      Option.map_some, Option.some.injEq]
    exact exists_congr fun version => and_comm

/-- What is told of a state of an object leaves that state. -/
theorem current?_of_change? {old? : Option α} {new : α} {delivery : Delivery α}
    (h : change? old? new = some delivery) :
    delivery.object = new ∧ delivery.current? = some new := by
  cases old? with
  | none =>
    obtain rfl := Option.some.inj h
    exact ⟨rfl, rfl⟩
  | some old =>
    -- what is told of a known object is an update to its new version
    simp only [change?, Option.ite_none_left_eq_some, Option.some.injEq] at h
    obtain ⟨-, rfl⟩ := h
    exact ⟨rfl, rfl⟩

/-- If a state of an object is told, the replica holds its version afterwards. -/
theorem version?_deliver_change {old? : Option α} {object : α} {delivery : Delivery α}
    (h : change? old? object = some delivery) (replica : Replica α) (key : String) :
    (replica.deliver delivery).version? key =
      if ClusterObject.key object = key then some (ClusterObject.version object)
      else replica.version? key := by
  obtain ⟨hobject, hcurrent⟩ := current?_of_change? h
  rw [Replica.version?_deliver, hobject, hcurrent]
  rfl

/-- Telling a state of an object keeps a replica in step with what is known. -/
theorem version?_deliverAll_change {replica known : Replica α} {key : String}
    (h : replica.version? key = known.version? key) (object : α) :
    (replica.deliverAll (change? known[ClusterObject.key object]? object).toList).version? key =
      Replica.version? (known.insert (ClusterObject.key object) object) key := by
  rw [Replica.version?_insert]
  cases hchange : change? known[ClusterObject.key object]? object with
  | some delivery =>
    rw [Option.toList_some, Replica.deliverAll_cons, Replica.deliverAll_nil,
      version?_deliver_change hchange, h]
  | none =>
    -- what is not told repeats the version that is known
    obtain ⟨version, hversion, hknown⟩ := change?_eq_none_iff.mp hchange
    rw [Option.toList_none, Replica.deliverAll_nil, h]
    split_ifs with hkey
    · rw [← hkey, hknown, hversion]
    · rfl

/-- A state of an object is told as what it is to a replica in step with what is known. -/
theorem fitsAll_change {replica known : Replica α} (hkeyed : known.Keyed)
    (h : replica.SameVersions known) (object : α) :
    replica.FitsAll (change? known[ClusterObject.key object]? object).toList := by
  have hsame := h (ClusterObject.key object)
  -- an object that is not known is told as created, a known one as updated or not at all
  cases hknown : known[ClusterObject.key object]? with
  | none =>
    rw [Replica.version?, Replica.version?, hknown] at hsame
    exact ⟨Option.map_eq_none_iff.mp hsame, trivial⟩
  | some old =>
    rw [change?]
    split_ifs
    · trivial
    · have hkey := hkeyed _ _ hknown
      refine ⟨⟨hkey, ?_⟩, trivial⟩
      rw [hkey, hsame, Replica.version?, hknown]
      rfl

/-! ### Objects one after another -/

/-- The deliveries that states of objects amount to, one after another, when each is remembered. -/
def changes (known : Replica α) : List α → List (Delivery α)
  | [] => []
  | object :: rest =>
    (change? known[ClusterObject.key object]? object).toList ++
      changes (known.insert (ClusterObject.key object) object) rest

/-- What is told leaves one of the objects. -/
theorem exists_of_mem_changes {known : Replica α} {objects : List α} {delivery : Delivery α}
    (h : delivery ∈ changes known objects) :
    ∃ object ∈ objects, delivery.object = object ∧ delivery.current? = some object := by
  induction objects generalizing known with
  | nil => cases h
  | cons object rest ih =>
    rcases List.mem_append.mp h with hchange | hrest
    · exact ⟨object, List.mem_cons_self, current?_of_change? (Option.mem_toList.mp hchange)⟩
    · obtain ⟨other, hother, htold⟩ := ih hrest
      exact ⟨other, List.mem_cons_of_mem _ hother, htold⟩

/-- Telling objects keeps a replica in step with what is known, key by key. -/
theorem version?_deliverAll_changes {replica known : Replica α} {key : String}
    (h : replica.version? key = known.version? key) (objects : List α) :
    (replica.deliverAll (changes known objects)).version? key =
      (insertAll known objects).version? key := by
  induction objects generalizing replica known with
  | nil => exact h
  | cons object rest ih =>
    rw [changes, Replica.deliverAll_append]
    exact ih (version?_deliverAll_change h object)

/-- What is told of objects one after another fits a replica in step with what is known. -/
theorem fitsAll_changes {replica known : Replica α} (hkeyed : known.Keyed)
    (h : replica.SameVersions known) (objects : List α) :
    replica.FitsAll (changes known objects) := by
  induction objects generalizing replica known with
  | nil => trivial
  | cons object rest ih =>
    rw [changes, Replica.fitsAll_append]
    exact ⟨fitsAll_change hkeyed h object,
      ih (hkeyed.insert object) fun key => version?_deliverAll_change (h key) object⟩

/-! ### Listings -/

/-- The tracker after several events of the watch, and the deliveries that they release. -/
def observeAll (tracker : Tracker α) : List (WatchEvent α) → Tracker α × List (Delivery α)
  | [] => (tracker, [])
  | event :: rest =>
    let (next, released) := tracker.observe event
    let (last, later) := next.observeAll rest
    (last, released ++ later)

/-- A tracker can take in events one part after the other. -/
theorem observeAll_append (tracker : Tracker α) (earlier later : List (WatchEvent α)) :
    tracker.observeAll (earlier ++ later) =
      (((tracker.observeAll earlier).1.observeAll later).1,
        (tracker.observeAll earlier).2 ++ ((tracker.observeAll earlier).1.observeAll later).2) := by
  induction earlier generalizing tracker with
  | nil => rfl
  | cons event rest ih => simp [observeAll, ih]

/-- While objects are listed, they are remembered at once and their deliveries are held back. -/
theorem observeAll_initApply (known : Replica α) (seen : Std.ExtTreeSet String)
    (held : List (Delivery α)) (objects : List α) :
    (⟨known, some ⟨seen, held⟩⟩ : Tracker α).observeAll (objects.map .initApply) =
      (⟨insertAll known objects,
        some ⟨seen.insertMany (objects.map ClusterObject.key),
          held ++ changes known objects⟩⟩,
        []) := by
  induction objects generalizing known seen held with
  | nil => simp [observeAll, insertAll, changes]
  | cons object rest ih =>
    rw [List.map_cons, observeAll]
    simp only [observe, ih, changes, List.map_cons, Std.ExtTreeSet.insertMany_cons,
      List.append_assoc, List.nil_append]
    rfl

/-- A listing that has begun and is not complete releases nothing. Whatever listing was in progress
before is forgotten, with the deliveries that it held. -/
theorem observeAll_begun (tracker : Tracker α) (objects : List α) :
    tracker.observeAll (.init :: objects.map .initApply) =
      (⟨insertAll tracker.known objects,
        some ⟨keys objects, changes tracker.known objects⟩⟩, []) := by
  rw [observeAll]
  simp only [observe, observeAll_initApply, List.nil_append, keys,
    Std.ExtTreeSet.ofList_eq_insertMany_empty]

/-- A complete listing releases what its objects amount to, and then the deletions of all others. -/
theorem observeAll_listing (tracker : Tracker α) (objects : List α) :
    tracker.observeAll (.init :: objects.map .initApply ++ [.initDone]) =
      (⟨(insertAll tracker.known objects).filter fun key _ =>
        (keys objects).contains key, none⟩,
        changes tracker.known objects ++
          stale (insertAll tracker.known objects) (keys objects)) := by
  rw [observeAll_append, observeAll_begun]
  simp [observeAll, observe]

/-- The known objects whose keys a listing has not named. -/
def unlisted (known : Replica α) (seen : Std.ExtTreeSet String) : List α :=
  (known.toList.filter fun (key, _) => !seen.contains key).map (·.2)

omit [ClusterObject α] in
/-- At the end of a listing the deletions of the objects are told that it has not named. -/
theorem stale_eq (known : Replica α) (seen : Std.ExtTreeSet String) :
    stale known seen = (unlisted known seen).map .deleted := by
  rw [unlisted, List.map_map]
  rfl

omit [ClusterObject α] in
/-- The objects that a listing has not named are those known under other keys. -/
theorem mem_unlisted {known : Replica α} {seen : Std.ExtTreeSet String} {object : α} :
    object ∈ unlisted known seen ↔ ∃ key, known[key]? = some object ∧ key ∉ seen := by
  simp [unlisted, Std.ExtTreeMap.mem_toList_iff_getElem?_eq_some,
    ← Std.ExtTreeSet.contains_iff_mem]

/-- What a listing has not named is known under different keys. -/
theorem pairwise_unlisted {known : Replica α} (hkeyed : known.Keyed)
    (seen : Std.ExtTreeSet String) :
    (unlisted known seen).Pairwise fun one other =>
      ClusterObject.key one ≠ ClusterObject.key other := by
  rw [unlisted, List.pairwise_map]
  refine List.Pairwise.imp_of_mem ?_ (known.distinct_keys_toList.filter _)
  intro one other hone hother hne
  -- the keys of the map are different, and each is the key of its object
  have hkey {entry : String × α} (h : entry ∈ known.toList.filter fun (key, _) =>
      !seen.contains key) : ClusterObject.key entry.2 = entry.1 :=
    hkeyed _ _ (Std.ExtTreeMap.mem_toList_iff_getElem?_eq_some.mp (List.mem_filter.mp h).1)
  rw [hkey hone, hkey hother]
  simpa using hne

/-- The deletions at the end of a listing erase what it has not named. -/
theorem getElem?_deliverAll_stale {known : Replica α} (hkeyed : known.Keyed) (replica : Replica α)
    (seen : Std.ExtTreeSet String) (key : String) :
    (replica.deliverAll (stale known seen))[key]? =
      if key ∈ known ∧ key ∉ seen then none else replica[key]? := by
  rw [stale_eq, Replica.getElem?_deliverAll_deleted]
  refine if_congr ?_ rfl rfl
  -- keyed objects are found under the keys that they are deleted by
  constructor
  · rintro ⟨object, hobject, rfl⟩
    obtain ⟨key, hknown, hseen⟩ := mem_unlisted.mp hobject
    rw [hkeyed _ _ hknown]
    exact ⟨Std.ExtTreeMap.mem_iff_isSome_getElem?.mpr (by simp [hknown]), hseen⟩
  · rintro ⟨hmem, hseen⟩
    obtain ⟨object, hknown⟩ :=
      Option.isSome_iff_exists.mp (Std.ExtTreeMap.mem_iff_isSome_getElem?.mp hmem)
    exact ⟨object, mem_unlisted.mpr ⟨key, hknown, hseen⟩, hkeyed _ _ hknown⟩

/-- What a complete listing names is not deleted at its end. -/
theorem getElem?_deliverAll_stale_of_named {known : Replica α} (hkeyed : known.Keyed)
    (replica : Replica α) {objects : List α} {key : String}
    (hnamed : key ∈ keys objects) :
    (replica.deliverAll (stale known (keys objects)))[key]? = replica[key]? := by
  rw [getElem?_deliverAll_stale hkeyed, if_neg fun hstale => hstale.2 hnamed]

/-- The deliveries of a complete listing leave its objects in the versions listed last, and no
others, provided they bring the replica in step for what is listed, and the replica holds nothing
that is not known. -/
theorem version?_deliverAll_listing {replica known : Replica α} (hkeyed : known.Keyed)
    {objects : List α} {key : String}
    (hnamed : key ∈ keys objects → (replica.deliverAll (changes known objects)).version? key =
      (insertAll known objects).version? key)
    (hunknown : known[key]? = none → replica[key]? = none) :
    (replica.deliverAll (changes known objects ++
        stale (insertAll known objects) (keys objects))).version? key =
      (lastNamed? objects key).map ClusterObject.version := by
  have hinserted := Replica.getElem?_insertAll known objects key
  rw [Replica.deliverAll_append, Replica.version?]
  -- what is named is left by the changes, what is not is up to the deletions at the end
  cases hlast : lastNamed? objects key with
  | some object =>
    have hmem : key ∈ keys objects := Replica.mem_keys_iff_isSome.mpr (by rw [hlast]; rfl)
    have hversion := hnamed hmem
    rw [Replica.version?, Replica.version?, hinserted, hlast] at hversion
    rw [getElem?_deliverAll_stale_of_named (hkeyed.insertAll objects) _ hmem, hversion]
    rfl
  | none =>
    have hunnamed : key ∉ keys objects := fun hmem => by
      simpa [hlast] using Replica.mem_keys_iff_isSome.mp hmem
    rw [hlast, Option.none_or] at hinserted
    rw [getElem?_deliverAll_stale (hkeyed.insertAll objects)]
    -- what is not named is erased if it was known, and was not there otherwise
    split_ifs with hstale
    · rfl
    · have hnone : known[key]? = none := by
        rw [← hinserted]
        exact Std.ExtTreeMap.getElem?_eq_none fun hmem => hstale ⟨hmem, hunnamed⟩
      rw [Replica.getElem?_deliverAll_of_forall_ne, hunknown hnone]
      intro delivery hdelivery hkey
      obtain ⟨object, hobject, hdelivered, -⟩ := exists_of_mem_changes hdelivery
      rw [hdelivered] at hkey
      exact hunnamed (Replica.mem_keys.mpr ⟨object, hobject, hkey⟩)

end Tracker

end ClusterWatch
