import ClusterWatch.Proofs.Config.Deliveries
import ClusterWatch.Proofs.Watch.Rebuilding

/-!
# Aborted listings

A listing can fail before it is complete; the watch then begins another one. What the first has
named is remembered, but the deliveries that it has held are forgotten with it. An object that the
second listing names in the very version is not told any more.

* `Tracker.Recovers` — after an aborted listing and a complete one, the replica holds what the
  complete one lists, and was told how it came there.
* `Tracker.recovers_iff` — this holds exactly if every object that both listings name was in the
  replica before, in the version that the aborted listing named last, unless the complete listing
  goes on to another one.
* `Tracker.lost_by_aborted_listing` — an object that only came to be seen in the aborted listing
  stays unknown to the replica.
-/

namespace ClusterWatch

namespace Tracker

open Replica (insertAll keys lastNamed?)

variable {α : Type} [ClusterObject α]

/-! ### Objects that are known already -/

/-- No object that is known is told as a new one. -/
theorem not_created_of_known {known : Replica α} {objects : List α} {object : α}
    (hknown : ∃ old, known[ClusterObject.key object]? = some old) :
    .created object ∉ changes known objects := by
  induction objects generalizing known with
  | nil => exact List.not_mem_nil
  | cons other rest ih =>
    obtain ⟨old, hold⟩ := hknown
    rw [changes, List.mem_append, not_or]
    constructor
    -- an object that is known changes, if at all, by an update
    · intro hmem
      have hchange := Option.mem_toList.mp hmem
      obtain ⟨rfl, -⟩ := current?_of_change? hchange
      simp only [Delivery.object] at hchange
      rw [hold, change?] at hchange
      split at hchange <;> cases hchange
    · refine ih ?_
      rw [Std.ExtTreeMap.getElem?_insert]
      split
      · exact ⟨other, rfl⟩
      · exact ⟨old, hold⟩

/-- An object that is not known is told as a new one where it is named first. -/
theorem exists_created {known : Replica α} {objects : List α} {key : String}
    (hunknown : known[key]? = none)
    (hnamed : ∃ object ∈ objects, ClusterObject.key object = key) :
    ∃ object ∈ objects, ClusterObject.key object = key ∧
      .created object ∈ changes known objects := by
  induction objects generalizing known with
  | nil => simp at hnamed
  | cons object rest ih =>
    -- the first object of the key is the new one
    by_cases hkey : ClusterObject.key object = key
    · refine ⟨object, List.mem_cons_self, hkey, List.mem_append_left _ ?_⟩
      rw [hkey, hunknown]
      exact List.mem_singleton.mpr rfl
    · have hrest : ∃ object ∈ rest, ClusterObject.key object = key := by
        simpa [hkey] using hnamed
      have hstill : (known.insert (ClusterObject.key object) object)[key]? = none := by
        simpa [Std.ExtTreeMap.getElem?_insert, hkey] using hunknown
      obtain ⟨new, hnew, hnewKey, hcreated⟩ := ih hstill hrest
      exact ⟨new, List.mem_cons_of_mem _ hnew, hnewKey, List.mem_append_right _ hcreated⟩

/-- If an object is only named in its known version, nothing is told of it. -/
theorem forall_ne_of_repeated {known : Replica α} {objects : List α} {key : String} {old : α}
    (hknown : known[key]? = some old)
    (hrepeated : ∀ object ∈ objects, ClusterObject.key object = key →
      sameVersion old object = true) :
    ∀ delivery ∈ changes known objects, ClusterObject.key delivery.object ≠ key := by
  induction objects generalizing known old with
  | nil => simp [changes]
  | cons object rest ih =>
    have hrest (other : α) (hother : other ∈ rest) :=
      hrepeated other (List.mem_cons_of_mem _ hother)
    intro delivery hdelivery
    by_cases hkey : ClusterObject.key object = key
    · -- the object repeats the known version, and so do the later ones repeat its own
      have hsame := hrepeated object List.mem_cons_self hkey
      rw [changes, hkey, hknown, change?, if_pos hsame] at hdelivery
      have hstill (other : α) (hother : other ∈ rest)
          (hotherKey : ClusterObject.key other = key) :
          sameVersion object other = true := by
        rw [sameVersion_congr hsame]
        exact hrest other hother hotherKey
      exact ih Std.ExtTreeMap.getElem?_insert_self hstill delivery hdelivery
    · rcases List.mem_append.mp hdelivery with hchange | hlater
      · rw [(current?_of_change? (Option.mem_toList.mp hchange)).1]
        exact hkey
      · refine ih ?_ hrest delivery hlater
        rw [Std.ExtTreeMap.getElem?_insert, if_neg (by simpa using hkey)]
        exact hknown

/-- If an object is also named in a version other than the known one, the replica holds its last
version afterwards, whatever it has held before. -/
theorem version?_of_changed {replica known : Replica α} {objects : List α}
    {key : String} {old : α}
    (hknown : known[key]? = some old)
    (hchanged : ∃ object ∈ objects, ClusterObject.key object = key ∧
      sameVersion old object = false) :
    (replica.deliverAll (changes known objects)).version? key =
      (insertAll known objects).version? key := by
  induction objects generalizing replica known old with
  | nil => simp at hchanged
  | cons object rest ih =>
    rw [changes, Replica.deliverAll_append, Replica.insertAll_cons]
    by_cases hkey : ClusterObject.key object = key
    · by_cases hsame : sameVersion old object = true
      · -- the object repeats the known version, so the other version is named later on
        obtain ⟨other, hother, hotherKey, hdiffers⟩ := hchanged
        have hne : other ≠ object := by
          rintro rfl
          rw [hsame] at hdiffers
          cases hdiffers
        have hnow : (known.insert (ClusterObject.key object) object)[key]? = some object := by
          rw [hkey, Std.ExtTreeMap.getElem?_insert_self]
        refine ih hnow ⟨other, List.mem_of_ne_of_mem hne hother, hotherKey, ?_⟩
        rw [sameVersion_congr hsame]
        exact hdiffers
      · -- the object is told, which brings the replica in step
        refine version?_deliverAll_changes ?_ rest
        have hchange : change? known[ClusterObject.key object]? object =
            some (.updated old object) := by
          rw [hkey, hknown, change?, if_neg hsame]
        rw [hchange, Option.toList_some, Replica.deliverAll_cons, Replica.deliverAll_nil,
          version?_deliver_change hchange, Replica.version?_insert, if_pos hkey, if_pos hkey]
    · have hrest : ∃ object ∈ rest, ClusterObject.key object = key ∧
          sameVersion old object = false := by
        simpa [hkey] using hchanged
      refine ih ?_ hrest
      rw [Std.ExtTreeMap.getElem?_insert, if_neg (by simpa using hkey)]
      exact hknown

/-! ### An aborted listing and a complete one -/

/-- What is delivered when a listing has been aborted after it has named some objects, and another
listing has been completed. -/
def toldAfterAborted (history : List (Showing α)) (aborted listed : List α) :
    List (Delivery α) :=
  ((after history).observeAll
    (.init :: aborted.map .initApply ++ (Showing.listing listed).events)).2

/-- After a listing has been aborted and another one completed, somebody who has followed all
deliveries holds what the complete listing names: objects that are new to the replica have been told
as created, and those that are listed in another version as updated. -/
structure Recovers (history : List (Showing α)) (aborted listed : List α) : Prop where
  /-- The replica holds the keys listed, in the versions listed last. -/
  replica : ∀ key,
    ((replicaAfter history).deliverAll (toldAfterAborted history aborted listed)).version? key =
      (lastNamed? listed key).map ClusterObject.version
  /-- What was not in the replica is told as created. -/
  created : ∀ object ∈ listed, (replicaAfter history)[ClusterObject.key object]? = none →
    ∃ new ∈ listed, ClusterObject.key new = ClusterObject.key object ∧
      .created new ∈ toldAfterAborted history aborted listed
  /-- What was there in another version is told as updated. -/
  updated : ∀ key old new, (replicaAfter history)[key]? = some old →
    lastNamed? listed key = some new → ClusterObject.version old ≠ ClusterObject.version new →
    ∃ known, ∃ update ∈ listed, ClusterObject.key update = key ∧
      .updated known update ∈ toldAfterAborted history aborted listed

/-- When the complete listing begins, the objects named by the aborted one are known already. -/
theorem toldAfterAborted_eq (history : List (Showing α)) (aborted listed : List α) :
    toldAfterAborted history aborted listed =
      changes (insertAll (after history).known aborted) listed ++
        stale (insertAll (insertAll (after history).known aborted) listed) (keys listed) := by
  rw [toldAfterAborted, Showing.events, observeAll_append, observeAll_begun, observeAll_listing,
    List.nil_append]

/-- What was in the replica or has been named by the aborted listing is known afterwards. -/
theorem getElem?_insertAll_eq_none_iff {history : List (Showing α)}
    {aborted : List α} {key : String} :
    (insertAll (after history).known aborted)[key]? = none ↔
      lastNamed? aborted key = none ∧ (replicaAfter history)[key]? = none := by
  rw [Replica.getElem?_insertAll, Option.or_eq_none_iff,
    (follows_after history).getElem?_eq_none_iff]

variable {history : List (Showing α)} {aborted listed : List α} {key : String} {last old : α}

/-- What the complete listing names and nothing is told of stays in the replica as it was. -/
theorem version?_deliverAll_of_untold
    (hnamed : ∃ object ∈ listed, ClusterObject.key object = key)
    (huntold : ∀ delivery ∈ changes (insertAll (after history).known aborted) listed,
      ClusterObject.key delivery.object ≠ key) :
    ((replicaAfter history).deliverAll (toldAfterAborted history aborted listed)).version? key =
      (replicaAfter history).version? key := by
  rw [toldAfterAborted_eq, Replica.deliverAll_append, Replica.version?,
    getElem?_deliverAll_stale_of_named
      (((follows_after history).keyed.insertAll aborted).insertAll listed) _
      (Replica.mem_keys.mpr hnamed),
    Replica.getElem?_deliverAll_of_forall_ne huntold]
  rfl

/-- If nothing is lost, what both listings name was in the replica before. -/
theorem Recovers.exists_held (h : Recovers history aborted listed)
    (hlast : lastNamed? aborted key = some last)
    (hnamed : ∃ object ∈ listed, ClusterObject.key object = key) :
    ∃ old, (replicaAfter history)[key]? = some old := by
  obtain ⟨object, hobject, rfl⟩ := hnamed
  refine Option.ne_none_iff_exists'.mp fun hnone => ?_
  obtain ⟨new, -, hnew, hcreated⟩ := h.created object hobject hnone
  -- it is known from the aborted listing, so it is not told as created
  have hknown : (insertAll (after history).known aborted)[ClusterObject.key new]? = some last := by
    rw [Replica.getElem?_insertAll, hnew, hlast, Option.some_or]
  rw [toldAfterAborted_eq, List.mem_append, stale_eq] at hcreated
  rcases hcreated with hchange | hdeleted
  · exact not_created_of_known ⟨last, hknown⟩ hchange
  · simp at hdeleted

/-- If nothing is lost, what both listings name was there in the version of the aborted one, unless
the complete one goes on to another version. -/
theorem Recovers.version_eq_or_changed (h : Recovers history aborted listed)
    (hlast : lastNamed? aborted key = some last)
    (hnamed : ∃ object ∈ listed, ClusterObject.key object = key)
    (hold : (replicaAfter history)[key]? = some old) :
    ClusterObject.version old = ClusterObject.version last ∨
      ∃ object ∈ listed, ClusterObject.key object = key ∧
        sameVersion last object = false := by
  refine or_iff_not_imp_right.mpr fun hunchanged => ?_
  have hrepeated : ∀ object ∈ listed, ClusterObject.key object = key →
      sameVersion last object = true := by
    simpa using hunchanged
  have hknown : (insertAll (after history).known aborted)[key]? = some last := by
    rw [Replica.getElem?_insertAll, hlast, Option.some_or]
  -- nothing is told of it, so the replica still holds the old state
  have hheld := h.replica key
  rw [version?_deliverAll_of_untold hnamed (forall_ne_of_repeated hknown hrepeated),
    Replica.version?, hold] at hheld
  obtain ⟨new, hnew, hversion⟩ := Option.map_eq_some_iff.mp hheld.symm
  obtain ⟨hmem, hkey⟩ := Replica.mem_of_lastNamed? hnew
  obtain ⟨version, hlastVersion, hnewVersion⟩ := sameVersion_iff.mp (hrepeated new hmem hkey)
  rw [← hversion, hnewVersion, hlastVersion]

/-- What both listings name and is told in time leaves the replica as the complete
listing has it. -/
theorem version?_deliverAll_toldAfterAborted
    (hheld : ∀ last, lastNamed? aborted key = some last →
      (∃ object ∈ listed, ClusterObject.key object = key) →
      ∃ old, (replicaAfter history)[key]? = some old ∧
        (ClusterObject.version old = ClusterObject.version last ∨
          ∃ object ∈ listed, ClusterObject.key object = key ∧
            sameVersion last object = false)) :
    ((replicaAfter history).deliverAll (toldAfterAborted history aborted listed)).version? key =
      (lastNamed? listed key).map ClusterObject.version := by
  have hfollows := follows_after history
  have hknown := Replica.getElem?_insertAll (after history).known aborted key
  rw [toldAfterAborted_eq]
  refine version?_deliverAll_listing (hfollows.keyed.insertAll aborted) (fun hmem => ?_)
    fun hnone => (getElem?_insertAll_eq_none_iff.mp hnone).2
  -- where the aborted listing does not name the object, the tracker knows what the replica has
  cases hlast : lastNamed? aborted key with
  | none =>
    refine version?_deliverAll_changes ?_ listed
    rw [hfollows.sameVersions key, Replica.version?, Replica.version?, hknown, hlast,
      Option.none_or]
  | some last =>
    rw [hlast, Option.some_or] at hknown
    obtain ⟨old, hold, hsame | hchanged⟩ := hheld last hlast (Replica.mem_keys.mp hmem)
    · refine version?_deliverAll_changes ?_ listed
      rw [Replica.version?, Replica.version?, hold, hknown, Option.map_some, Option.map_some, hsame]
    · exact version?_of_changed hknown hchanged

/-- What is told of an object that was in the replica, if anything is told of it, is an update. -/
theorem exists_updated (hold : (replicaAfter history)[key]? = some old)
    {delivery : Delivery α}
    (hdelivery : delivery ∈ changes (insertAll (after history).known aborted) listed)
    (hkey : ClusterObject.key delivery.object = key) :
    ∃ known, ∃ update ∈ listed, ClusterObject.key update = key ∧
      .updated known update ∈ changes (insertAll (after history).known aborted) listed := by
  obtain ⟨object, hobject, hdelivered, hcurrent⟩ := exists_of_mem_changes hdelivery
  -- the tracker knows the object, from before or from the aborted listing
  have hnotNone : (insertAll (after history).known aborted)[key]? ≠ none := fun hnone => by
    rw [(getElem?_insertAll_eq_none_iff.mp hnone).2] at hold
    cases hold
  cases delivery with
  | created new =>
    obtain rfl : new = object := hdelivered
    rw [← hkey] at hnotNone
    exact absurd hdelivery (not_created_of_known (Option.ne_none_iff_exists'.mp hnotNone))
  | updated known new =>
    obtain rfl : new = object := hdelivered
    exact ⟨known, new, hobject, hkey, hdelivery⟩
  | deleted => cases hcurrent

/-- Nothing is lost by an aborted listing exactly if every object that it and the complete listing
after it name was in the replica before, either in the version that the aborted listing named last,
or the complete listing also names it in another version than that. -/
theorem recovers_iff (history : List (Showing α)) (aborted listed : List α) :
    Recovers history aborted listed ↔
      ∀ key last, lastNamed? aborted key = some last →
        (∃ object ∈ listed, ClusterObject.key object = key) →
        ∃ old, (replicaAfter history)[key]? = some old ∧
          (ClusterObject.version old = ClusterObject.version last ∨
            ∃ object ∈ listed, ClusterObject.key object = key ∧
              sameVersion last object = false) := by
  constructor
  · intro h key last hlast hnamed
    obtain ⟨old, hold⟩ := h.exists_held hlast hnamed
    exact ⟨old, hold, h.version_eq_or_changed hlast hnamed hold⟩
  · intro hheld
    have hreplica (key : String) := version?_deliverAll_toldAfterAborted (hheld key)
    refine ⟨hreplica, ?_, ?_⟩
    · intro object hobject hnone
      have hunnamed : lastNamed? aborted (ClusterObject.key object) = none := by
        by_contra hnamed
        obtain ⟨last, hlast⟩ := Option.ne_none_iff_exists'.mp hnamed
        obtain ⟨old, hold, -⟩ := hheld _ last hlast ⟨object, hobject, rfl⟩
        rw [hnone] at hold
        cases hold
      obtain ⟨new, hnew, hkey, hcreated⟩ := exists_created
        (getElem?_insertAll_eq_none_iff.mpr ⟨hunnamed, hnone⟩) ⟨object, hobject, rfl⟩
      rw [toldAfterAborted_eq]
      exact ⟨new, hnew, hkey, List.mem_append_left _ hcreated⟩
    · intro key old new hold hnew hdiffers
      have htold : ∃ delivery ∈ changes (insertAll (after history).known aborted) listed,
          ClusterObject.key delivery.object = key := by
        by_contra! huntold
        -- otherwise the replica would still hold the old state
        have hversion := hreplica key
        rw [version?_deliverAll_of_untold ⟨new, Replica.mem_of_lastNamed? hnew⟩ huntold,
          Replica.version?, hold, hnew] at hversion
        exact hdiffers (Option.some.inj hversion)
      obtain ⟨delivery, hdelivery, hkey⟩ := htold
      obtain ⟨known, update, hupdate, hupdateKey, hupdated⟩ :=
        exists_updated hold hdelivery hkey
      rw [toldAfterAborted_eq]
      exact ⟨known, update, hupdate, hupdateKey, List.mem_append_left _ hupdated⟩

/-- A first listing names a config map and is aborted, and the second one names it again and is
completed. Then nothing at all has been delivered. -/
theorem lost_by_aborted_listing :
    ¬ Recovers [] [ConfigMap.basic "a" "1" ""] [ConfigMap.basic "a" "1" ""] := by
  intro h
  have hlast : lastNamed? [ConfigMap.basic "a" "1" ""]
      (ClusterObject.key (ConfigMap.basic "a" "1" "")) = some (ConfigMap.basic "a" "1" "") := by
    simp [Replica.lastNamed?]
  -- to recover, the replica would have to hold the config map from before
  obtain ⟨old, hold⟩ := h.exists_held hlast ⟨_, List.mem_cons_self, rfl⟩
  have hempty : replicaAfter ([] : List (Showing ConfigMap)) = ∅ := rfl
  rw [hempty, Std.ExtTreeMap.getElem?_empty] at hold
  cases hold

end Tracker

end ClusterWatch
